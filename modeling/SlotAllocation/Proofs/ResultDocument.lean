import Mathlib.Data.List.TakeWhile
import SlotAllocation.Word
import SlotAllocation.Proofs.Table
import SlotAllocation.Proofs.JsonRoundTrip
import SlotAllocation.Assignment.Document

/-!
# Reading a written result back

A result document, as `Result.members` lays it out and `Json.render` prints it, reads back
under `resultShape` as a result with the same pairs and forced pairs
(`Result.document_reads_back`), also when members that name no field follow it.

1. Integer literals: `Number.ofInt i` is read as `i` by the number reader (`Number.toInt?_ofInt`),
   as a whole number (`wholeLiteral?_ofInt`) and, as text, as a map key
   (`decimalKey?_toString`), for every 64-bit `i`.
2. Binding steps: one equation for each kind of part a result document holds, and the lists,
   maps and records whose parts each bind to themselves (`bindItems_self`, `bindEntries_self`,
   `bindFields_filled`).
3. The result document: the members of a writable result bind to themselves
   (`Result.members_bindBack`), so its document binds with no mismatch
   (`Result.bindJson_document`), and the bound value gives back the pairs and forced pairs
   (`Result.ofBound_document`). A result is writable (`Result.Writable`) when its counts are
   64-bit words, its histogram has one entry per rank, and its mean rank prints as a finite
   number; the last is a fact about the printing of doubles that the model cannot open.
-/

namespace SlotAllocation

/-! ## 1. Integer literals -/

theorem isWord_iff {x : Int} :
    isWord x = true ↔ -9223372036854775808 ≤ x ∧ x < 9223372036854775808 := by
  simp only [isWord, Bool.and_eq_true, decide_eq_true_eq]
  unfold minWord maxWord
  omega

theorem toDigits_isDigit (n : Nat) : ∀ c ∈ Nat.toDigits 10 n, c.isDigit = true :=
  fun _ listed => Nat.isDigit_of_mem_toDigits (by decide) (by decide) listed

theorem Number.literalDigits_toDigits (n : Nat) :
    Number.literalDigits (Nat.toDigits 10 n) = n := by
  unfold Number.literalDigits
  have same : (fun acc c => acc * 10 + (c.toNat - '0'.toNat)) =
      (fun acc (c : Char) => 10 * acc + (c.toNat - '0'.toNat)) := by
    funext acc c
    rw [Nat.mul_comm]
  rw [same, ← Nat.ofDigitChars_eq_foldl, Nat.ofDigitChars_ten_toDigits]

/-- The literal of an integer: a minus sign for a negative one, then the digits of its
magnitude. -/
theorem Number.ofInt_toList (i : Int) :
    (Number.ofInt i).literal.toList = (if i < 0 then ['-'] else []) ++ Nat.toDigits 10 i.natAbs := by
  simp only [Number.ofInt, Int.toString_eq_repr, Int.repr_eq_if]
  by_cases negative : i < 0
  · rw [if_neg (by omega), if_pos negative, String.toList_append, Nat.toList_repr]
    have same : (-i).toNat = i.natAbs := by omega
    rw [same]
    rfl
  · rw [if_pos (by omega), if_neg negative, Nat.toList_repr]
    have same : i.toNat = i.natAbs := by omega
    rw [same]
    rfl

/-- An optional minus sign and a run of digits read as their signed value, with no
exponent. -/
theorem Number.decimal?_digits {n : Number} (neg : Bool) {ds : List Char}
    (digits : ∀ c ∈ ds, c.isDigit = true) (nonempty : ds ≠ [])
    (literal : n.literal.toList = (if neg then ['-'] else []) ++ ds) :
    n.decimal? =
      some (if neg then -(Number.literalDigits ds : Int) else Number.literalDigits ds, 0) := by
  have whole : ds.takeWhile Char.isDigit = ds := List.takeWhile_eq_self_iff.mpr digits
  have gone : ds.dropWhile Char.isDigit = [] := List.dropWhile_eq_nil_iff.mpr digits
  have full : ds.isEmpty = false := by simpa using nonempty
  unfold Number.decimal?
  rw [literal]
  cases neg with
  | true => simp [whole, gone, full]
  | false =>
    obtain ⟨c, cs, rfl⟩ := List.exists_cons_of_ne_nil nonempty
    simp only [Bool.false_eq_true, if_false, List.nil_append]
    -- the sign test: a leading digit is no minus sign
    split
    · rename_i rest same
      simp only [List.cons.injEq] at same
      obtain ⟨rfl, -⟩ := same
      simp at digits
    · simp [whole, gone, full]

theorem Number.decimal?_ofInt (i : Int) : (Number.ofInt i).decimal? = some (i, 0) := by
  have digits := toDigits_isDigit i.natAbs
  by_cases negative : i < 0
  · rw [Number.decimal?_digits true digits Nat.toDigits_ne_nil
      (by rw [Number.ofInt_toList, if_pos negative]; rfl), Number.literalDigits_toDigits]
    simp only [if_true, Option.some.injEq, Prod.mk.injEq, and_true]
    omega
  · rw [Number.decimal?_digits false digits Nat.toDigits_ne_nil
      (by rw [Number.ofInt_toList, if_neg negative]; rfl), Number.literalDigits_toDigits]
    simp only [Bool.false_eq_true, if_false, Option.some.injEq, Prod.mk.injEq, and_true]
    omega

theorem Number.toInt?_ofInt (i : Int) : (Number.ofInt i).toInt? = some i := by
  unfold Number.toInt?
  rw [Number.decimal?_ofInt]
  dsimp only
  rw [if_pos (Int.le_refl 0)]
  exact congrArg some (Int.mul_one i)

/-- A 64-bit integer's literal is read as a whole number, as itself. -/
theorem wholeLiteral?_ofInt {i : Int} (word : isWord i = true) :
    wholeLiteral? (Number.ofInt i) = some i := by
  have digits := toDigits_isDigit i.natAbs
  have nonempty : Nat.toDigits 10 i.natAbs ≠ [] := Nat.toDigits_ne_nil
  have full : (Nat.toDigits 10 i.natAbs).isEmpty = false := by simp
  have all : (Nat.toDigits 10 i.natAbs).all Char.isDigit = true := List.all_eq_true.mpr digits
  -- the bound of `wholeLiteral?` is written with `Int.pow`; read it as a numeral
  have power : Int.pow 2 63 = 9223372036854775808 := rfl
  have small : -9223372036854775808 ≤ i ∧ i < 9223372036854775808 := by
    rw [isWord_iff] at word
    omega
  unfold wholeLiteral?
  rw [Number.toInt?_ofInt, Number.ofInt_toList, power]
  by_cases negative : i < 0
  · simp [negative, full, all, small]
  · obtain ⟨c, cs, front⟩ := List.exists_cons_of_ne_nil nonempty
    simp only [negative, if_false, List.nil_append, front]
    split
    · rename_i rest same
      simp only [List.cons.injEq] at same
      obtain ⟨rfl, -⟩ := same
      simp [front] at digits
    · rw [← front]
      simp [full, all, small]

/-- The key reader's integer fold over digits is the natural fold, cast. -/
theorem foldl_int_digits (ds : List Char) (digits : ∀ c ∈ ds, c.isDigit = true) (m : Nat) :
    ds.foldl (fun (v : Int) d => v * 10 + ((d.toNat : Int) - ('0'.toNat : Int))) (m : Int) =
      ((ds.foldl (fun acc c => acc * 10 + (c.toNat - '0'.toNat)) m : Nat) : Int) := by
  induction ds generalizing m with
  | nil => rfl
  | cons c cs ih =>
    have above : 48 ≤ c.toNat := by
      simpa using (Char.isDigit_iff_toNat.mp (digits c (by simp))).1
    rw [List.foldl_cons, List.foldl_cons, ← ih (fun d listed => digits d (by simp [listed]))]
    congr 1
    simp only [Char.reduceToNat]
    omega

/-- A 64-bit integer's text is read as a map key, as itself. -/
theorem decimalKey?_toString {i : Int} (word : isWord i = true) :
    decimalKey? (toString i) = some i := by
  have digits := toDigits_isDigit i.natAbs
  have nonempty : Nat.toDigits 10 i.natAbs ≠ [] := Nat.toDigits_ne_nil
  have full : (Nat.toDigits 10 i.natAbs).isEmpty = false := by simp
  have all : (Nat.toDigits 10 i.natAbs).all Char.isDigit = true := List.all_eq_true.mpr digits
  have value : (Nat.toDigits 10 i.natAbs).foldl
      (fun (v : Int) d => v * 10 + ((d.toNat : Int) - ('0'.toNat : Int))) 0 = i.natAbs := by
    have read := foldl_int_digits _ digits 0
    rw [Int.natCast_zero] at read
    rw [read]
    exact congrArg _ (Number.literalDigits_toDigits _)
  rw [isWord_iff] at word
  have written : (toString i).toList = (Number.ofInt i).literal.toList := rfl
  unfold decimalKey?
  rw [written, Number.ofInt_toList]
  by_cases negative : i < 0
  · simp only [negative, if_true, List.singleton_append, full, all, Bool.false_or, Bool.not_true,
      Bool.false_eq_true, if_false, value]
    rw [if_pos (by simp only [Bool.and_eq_true, decide_eq_true_eq]; omega)]
    simp only [Option.some.injEq]
    omega
  · simp only [negative, if_false, List.nil_append]
    -- the sign test: a leading digit is neither sign
    split
    · rename_i rest same
      simpa using digits '-' (by simp [same])
    · rename_i rest same
      simpa using digits '+' (by simp [same])
    · simp only [full, all, Bool.false_or, Bool.not_true, Bool.false_eq_true, if_false, value]
      rw [if_pos (by simp only [Bool.and_eq_true, decide_eq_true_eq]; omega)]
      simp only [Option.some.injEq]
      omega

/-! ## 2. Binding steps -/

section Binding

variable (place : Place)

theorem bindInto_whole_int (f : Nat) (n : String) (cur : Json) {i : Int}
    (word : isWord i = true) : bindInto (f + 1) place (.whole n) cur (.int i) = pure (.int i) := by
  rw [Json.int, bindInto, wholeLiteral?_ofInt word]

theorem bindInto_real_num (f : Nat) (cur : Json) {lit : Number} (ok : realLiteralOk lit = true) :
    bindInto (f + 1) place .real cur (.num lit) = pure (.num lit) := by
  rw [bindInto]
  simp [ok]

theorem bindInto_optional (f : Nat) (inner : Shape) (d : Json) (present : d ≠ .null) :
    bindInto (f + 1) place (.optional inner) .null d = bindInto f place inner inner.empty d := by
  rw [bindInto]
  exact present

/-- A null binds as null into a part whose empty value is null. -/
theorem bindInto_null (f : Nat) (s : Shape) (empty : s.empty = .null) :
    bindInto (f + 1) place s .null .null = pure .null := by
  cases s <;> simp [Shape.empty] at empty <;> rw [bindInto]

theorem bindInto_list_arr (f : Nat) (n : String) (item : Shape) (items : List Json) :
    bindInto (f + 1) place (.list n item) .null (.arr items) =
      (do let vs ← bindItems f place item items; pure (.arr vs)) := by
  rw [bindInto]

theorem bindInto_dict_obj (f : Nat) (n : String) (item : Shape) (members : List (String × Json)) :
    bindInto (f + 1) place (.dict n item) .null (.obj members) =
      (do let ms ← bindEntries f place item .verbatim [] members; pure (.obj ms)) := by
  rw [bindInto]
  simp

theorem bindInto_wholeKeyed_obj (f : Nat) (n keyName : String) (item : Shape)
    (members : List (String × Json)) :
    bindInto (f + 1) place (.wholeKeyed n keyName item) .null (.obj members) =
      (do let ms ← bindEntries f place item (.whole keyName) [] members; pure (.obj ms)) := by
  rw [bindInto]
  simp

theorem bindInto_record_obj (f : Nat) (name : String) (fields : List (String × Shape))
    (start members : List (String × Json)) :
    bindInto (f + 1) place (.record name fields) (.obj start) (.obj members) =
      (do let ms ← bindFields f place name fields start members; pure (.obj ms)) := by
  rw [bindInto]

theorem bindItems_cons (f : Nat) (item : Shape) (d : Json) (rest : List Json) {v : Json}
    (bound : bindInto f place item item.empty d = pure v) :
    bindItems f place item (d :: rest) =
      (do let vs ← bindItems f place item rest; pure (v :: vs)) := by
  rw [bindItems, bound]
  rfl

theorem bindEntries_cons (f : Nat) (item : Shape) (keys : KeyReading)
    (acc : List (String × Json)) (k : String) (d : Json) (rest : List (String × Json))
    {key : String} (read : keys.read k = some key) {v : Json}
    (bound : bindInto f place item item.empty d = pure v) :
    bindEntries f place item keys acc ((k, d) :: rest) =
      bindEntries f place item keys (setMember acc key v) rest := by
  rw [bindEntries, bound, read]
  rfl

theorem bindFields_skip (f : Nat) (record : String) (fields : List (String × Shape))
    (acc : List (String × Json)) (k : String) (d : Json) (rest : List (String × Json))
    (unknown : matchField fields k = none) :
    bindFields f place record fields acc ((k, d) :: rest) =
      bindFields f place record fields acc rest := by
  rw [bindFields, unknown]

theorem bindFields_cons (f : Nat) (record : String) (fields : List (String × Shape))
    (acc : List (String × Json)) (k : String) (d : Json) (rest : List (String × Json))
    {s : Shape} (named : matchField fields k = some (k, s)) {v : Json}
    (bound : bindInto f (place.enter record k) s
      (((acc.find? (fun p => p.1 == k)).map Prod.snd).getD s.empty) d = pure v) :
    bindFields f place record fields acc ((k, d) :: rest) =
      bindFields f place record fields (setMember acc k v) rest := by
  rw [bindFields, named]
  simp only [bound]
  rfl

theorem find?_key_eq_none {ms : List (String × Json)} {k : String} (fresh : k ∉ ms.map Prod.fst) :
    ms.find? (fun m => m.1 == k) = none := by
  rw [List.find?_eq_none]
  intro m listed same
  exact fresh (List.mem_map.mpr ⟨m, listed, by simpa using same⟩)

theorem setMember_fresh {acc : List (String × Json)} {k : String} (fresh : k ∉ acc.map Prod.fst)
    (v : Json) : setMember acc k v = acc ++ [(k, v)] := by
  have absent : acc.any (fun p => p.1 == k) = false := by
    simpa using fun p listed same => fresh (List.mem_map.mpr ⟨p, listed, same⟩)
  rw [setMember, absent]
  rfl

/-- Items that each bind to themselves bind as the list itself. -/
theorem bindItems_self (f : Nat) (item : Shape) {items : List Json}
    (each : ∀ d ∈ items, bindInto f place item item.empty d = pure d) :
    bindItems f place item items = pure items := by
  induction items with
  | nil => rw [bindItems]
  | cons d rest ih =>
    rw [bindItems_cons place f item d rest (each d (by simp)),
      ih (fun d' listed => each d' (by simp [listed]))]
    rfl

/-- Entries with distinct keys, each read as its own key and binding to itself, are set in
order after the entries already there. -/
theorem bindEntries_self (f : Nat) (item : Shape) (keys : KeyReading)
    {entries : List (String × Json)}
    (each : ∀ e ∈ entries,
      keys.read e.1 = some e.1 ∧ bindInto f place item item.empty e.2 = pure e.2) :
    ∀ acc : List (String × Json), (acc.map Prod.fst ++ entries.map Prod.fst).Nodup →
      bindEntries f place item keys acc entries = pure (acc ++ entries) := by
  induction entries with
  | nil =>
    intro acc _
    rw [bindEntries, List.append_nil]
  | cons e rest ih =>
    intro acc distinct
    obtain ⟨k, d⟩ := e
    obtain ⟨read, bound⟩ := each (k, d) (by simp)
    have fresh : k ∉ acc.map Prod.fst := by
      intro listed
      simp only [List.map_cons] at distinct
      exact (List.nodup_append.mp distinct).2.2 k listed k (by simp) rfl
    rw [bindEntries_cons place f item keys acc k d rest read bound, setMember_fresh fresh,
      ih (fun e listed => each e (by simp [listed])) _ (by simpa using distinct)]
    simp

/-- The fields of a record once `members` are bound into it: each field holds the value of the
first member named after it, or its empty value. -/
def filledFields (fields : List (String × Shape)) (members : List (String × Json)) :
    List (String × Json) :=
  fields.map fun f => (f.1, ((members.find? (fun m => m.1 == f.1)).map Prod.snd).getD f.2.empty)

theorem emptyFields_eq_filled (fields : List (String × Shape)) :
    Shape.emptyFields fields = filledFields fields [] := by
  induction fields with
  | nil => rfl
  | cons f rest ih =>
    rw [Shape.emptyFields, ih]
    rfl

theorem matchField_of_find? {fields : List (String × Shape)} {k : String} {s : Shape}
    (named : fields.find? (fun g => g.1 == k) = some (k, s)) :
    matchField fields k = some (k, s) := by
  simp [matchField, named]

/-- A key that matches no field differs from every field's name. -/
theorem matchField_none_ne {fields : List (String × Shape)} {k : String}
    (unknown : matchField fields k = none) : ∀ g ∈ fields, g.1 ≠ k := by
  cases found : fields.find? (fun g => g.1 == k) with
  | none =>
    intro g listed same
    simpa [same] using List.find?_eq_none.mp found g listed
  | some g => simp [matchField, found] at unknown

/-- Before a member named after a field is bound, the field holds its empty value, when no
earlier member named it. -/
theorem filledFields_current {fields : List (String × Shape)} {k : String} {s : Shape}
    (named : fields.find? (fun g => g.1 == k) = some (k, s)) {pre : List (String × Json)}
    (fresh : k ∉ pre.map Prod.fst) :
    (((filledFields fields pre).find? (fun p => p.1 == k)).map Prod.snd).getD s.empty =
      s.empty := by
  unfold filledFields
  rw [List.find?_map]
  simp only [Function.comp_def]
  simp [named, find?_key_eq_none fresh]

theorem setMember_filled {fields : List (String × Shape)} {k : String} {s : Shape}
    (named : fields.find? (fun g => g.1 == k) = some (k, s)) {pre : List (String × Json)}
    (fresh : k ∉ pre.map Prod.fst) (v : Json) :
    setMember (filledFields fields pre) k v = filledFields fields (pre ++ [(k, v)]) := by
  have present : (filledFields fields pre).any (fun p => p.1 == k) = true := by
    unfold filledFields
    rw [List.any_map]
    exact List.any_eq_true.mpr ⟨(k, s), List.mem_of_find?_eq_some named, by simp⟩
  rw [setMember, if_pos present]
  unfold filledFields
  rw [List.map_map]
  apply List.map_congr_left
  intro g _
  by_cases same : g.1 = k
  · simp [same, List.find?_append, find?_key_eq_none fresh]
  · simp [same, Ne.symm same, List.find?_append]

theorem filledFields_unknown {fields : List (String × Shape)} {k : String}
    (unknown : matchField fields k = none) (pre : List (String × Json)) (d : Json) :
    filledFields fields (pre ++ [(k, d)]) = filledFields fields pre := by
  unfold filledFields
  apply List.map_congr_left
  intro g listed
  simp [List.find?_append, Ne.symm (matchField_none_ne unknown g listed)]

/-- A member binds cleanly into a record: it names no field, or names one exactly and binds to
itself from that field's empty value. -/
def MemberBindsBack (fields : List (String × Shape)) (f : Nat) (place : Place) (record : String)
    (m : String × Json) : Prop :=
  matchField fields m.1 = none ∨ ∃ s, fields.find? (fun g => g.1 == m.1) = some (m.1, s) ∧
    bindInto f (place.enter record m.1) s s.empty m.2 = pure m.2

/-- Members with distinct names that each bind cleanly fill the record's fields with their
values. -/
theorem bindFields_filled (f : Nat) (record : String) (fields : List (String × Shape)) :
    ∀ members pre : List (String × Json), ((pre ++ members).map Prod.fst).Nodup →
      (∀ m ∈ members, MemberBindsBack fields f place record m) →
      bindFields f place record fields (filledFields fields pre) members =
        pure (filledFields fields (pre ++ members)) := by
  intro members
  induction members with
  | nil =>
    intro pre _ _
    rw [bindFields, List.append_nil]
  | cons m rest ih =>
    intro pre distinct each
    obtain ⟨k, d⟩ := m
    have distinct' : ((pre ++ [(k, d)]) ++ rest).map Prod.fst |>.Nodup := by simpa using distinct
    have fresh : k ∉ pre.map Prod.fst := by
      intro listed
      simp only [List.map_append, List.map_cons] at distinct
      exact (List.nodup_append.mp distinct).2.2 k listed k (by simp) rfl
    have each' := fun m' listed => each m' (List.mem_cons_of_mem _ listed)
    rcases each (k, d) (by simp) with unknown | ⟨s, named, bound⟩
    · rw [bindFields_skip place f record fields _ k d rest unknown,
        ← filledFields_unknown unknown pre d, ih _ distinct' each']
      simp
    · rw [bindFields_cons place f record fields _ k d rest (matchField_of_find? named)
        (by rw [filledFields_current named fresh]; exact bound), setMember_filled named fresh,
        ih _ distinct' each']
      simp

end Binding

/-! ## 3. The result document -/

/-- The fields a record shape declares. -/
def Shape.fields : Shape → List (String × Shape)
  | .record _ fs => fs
  | _ => []

/-- The printed text of a double is a number the reader takes whole, and within range. -/
def Float.Printable (x : Float) : Prop :=
  (Number.ofFloat x).Token ∧ realLiteralOk (Number.ofFloat x) = true

/-- What a result needs for its document to read back: its counts are 64-bit words, its
histogram has one entry per rank, and its mean rank prints as a finite number. -/
structure Result.Writable (r : Result) : Prop where
  total : isWord r.total = true
  assignedCount : isWord r.assignedCount = true
  histogram : ∀ p ∈ r.rankDistribution, isWord p.1 = true ∧ isWord p.2 = true
  distinct : (r.rankDistribution.map Prod.fst).Nodup
  mean : ∀ x, r.averageRank = some x → Float.Printable x

section Members

variable (f : Nat) (place : Place)

theorem Pairing.toJson_bindsBack (m : Pairing) (n t : String) :
    bindInto (f + 2) place (.dict n (.text t)) .null m.toJson = pure m.toJson := by
  have each : ∀ e ∈ m.entries.map (fun p => (p.1, Json.str p.2)),
      KeyReading.verbatim.read e.1 = some e.1 ∧
        bindInto (f + 1) place (.text t) (Shape.text t).empty e.2 = pure e.2 := by
    intro e listed
    obtain ⟨p, -, rfl⟩ := List.mem_map.mp listed
    exact ⟨rfl, bindInto_text_str place f t _ p.2⟩
  have distinct : (([] : List (String × Json)).map Prod.fst ++
      (m.entries.map (fun p => (p.1, Json.str p.2))).map Prod.fst).Nodup := by
    simpa [List.map_map, Function.comp_def, Table.keys] using Table.keys_nodup m
  rw [Pairing.toJson, bindInto_dict_obj, bindEntries_self place (f + 1) _ _ each [] distinct]
  rfl

theorem strs_bindsBack (xs : List String) (n t : String) :
    bindInto (f + 2) place (.list n (.text t)) .null (Json.strs xs) = pure (Json.strs xs) := by
  have each : ∀ d ∈ xs.map Json.str,
      bindInto (f + 1) place (.text t) (Shape.text t).empty d = pure d := by
    intro d listed
    obtain ⟨x, -, rfl⟩ := List.mem_map.mp listed
    exact bindInto_text_str place f t _ x
  rw [Json.strs, bindInto_list_arr, bindItems_self place (f + 1) _ each]
  rfl

theorem floatOrNull_bindsBack {x? : Option Float}
    (printable : ∀ x, x? = some x → Float.Printable x) :
    bindInto (f + 2) place (.optional .real) .null (Json.floatOrNull x?) =
      pure (Json.floatOrNull x?) := by
  cases x? with
  | none => exact bindInto_null place (f + 1) _ rfl
  | some x =>
    rw [Json.floatOrNull, Json.float, bindInto_optional place (f + 1) _ _ (by simp)]
    exact bindInto_real_num place f _ (printable x rfl).2

theorem rankHistogramJson_bindsBack {h : List (Int × Int)}
    (words : ∀ p ∈ h, isWord p.1 = true ∧ isWord p.2 = true) (distinct : (h.map Prod.fst).Nodup)
    (n k w : String) :
    bindInto (f + 2) place (.wholeKeyed n k (.whole w)) .null (rankHistogramJson h) =
      pure (rankHistogramJson h) := by
  -- distinct ranks are written as distinct keys, since each key reads back as its rank
  have injective : ∀ a ∈ h.map Prod.fst, ∀ b ∈ h.map Prod.fst, toString a = toString b → a = b := by
    intro a ha b hb same
    obtain ⟨p, hp, rfl⟩ := List.mem_map.mp ha
    obtain ⟨q, hq, rfl⟩ := List.mem_map.mp hb
    have read := congrArg decimalKey? same
    rw [decimalKey?_toString (words p hp).1, decimalKey?_toString (words q hq).1] at read
    exact Option.some.inj read
  have keys : (([] : List (String × Json)).map Prod.fst ++
      ((h.map fun p => (toString p.1, Json.int p.2)).mergeSort
        (fun a b => decide (a.1 ≤ b.1))).map Prod.fst).Nodup := by
    have written : (h.map fun p => (toString p.1, Json.int p.2)).map Prod.fst =
        (h.map Prod.fst).map toString := by
      simp [List.map_map, Function.comp_def]
    rw [List.map_nil, List.nil_append, ((List.mergeSort_perm _ _).map Prod.fst).nodup_iff, written]
    exact distinct.map_on injective
  have each : ∀ e ∈ (h.map fun p => (toString p.1, Json.int p.2)).mergeSort
      (fun a b => decide (a.1 ≤ b.1)), (KeyReading.whole k).read e.1 = some e.1 ∧
        bindInto (f + 1) place (.whole w) (Shape.whole w).empty e.2 = pure e.2 := by
    intro e listed
    obtain ⟨p, hp, rfl⟩ := List.mem_map.mp (List.mem_mergeSort.mp listed)
    refine ⟨?_, bindInto_whole_int place f w _ (words p hp).2⟩
    rw [KeyReading.read, decimalKey?_toString (words p hp).1]
    rfl
  rw [rankHistogramJson, bindInto_wholeKeyed_obj, bindEntries_self place (f + 1) _ _ each [] keys]
  rfl

/-- Every member of a writable result's document names its field exactly and binds to
itself. -/
theorem Result.members_bindBack {r : Result} (w : r.Writable) :
    ∀ m ∈ r.members, MemberBindsBack resultShape.fields (f + 2) place "assignment.Result" m := by
  simp only [Result.members, List.forall_mem_append, List.forall_mem_cons, List.not_mem_nil,
    IsEmpty.forall_iff, implies_true, and_true]
  -- the members left out when empty bind back whenever they are written
  have optional : ∀ {c : Prop} [Decidable c] {y : String × Json},
      MemberBindsBack resultShape.fields (f + 2) place "assignment.Result" y →
      ∀ x ∈ (if c then [] else [y]),
        MemberBindsBack resultShape.fields (f + 2) place "assignment.Result" x := by
    intro c _ y back x listed
    split_ifs at listed
    · cases listed
    · rw [List.mem_singleton.mp listed]
      exact back
  refine ⟨⟨⟨.inr ⟨_, rfl, ?assignments⟩, optional (.inr ⟨_, rfl, ?forced⟩)⟩,
    .inr ⟨_, rfl, ?unassigned⟩, .inr ⟨_, rfl, ?total⟩, .inr ⟨_, rfl, ?count⟩,
    .inr ⟨_, rfl, ?mean⟩⟩, optional (.inr ⟨_, rfl, ?ranks⟩)⟩
  case assignments =>
    cases r.assignments with
    | none => exact bindInto_null _ _ _ rfl
    | some m => exact Pairing.toJson_bindsBack _ _ m _ _
  case forced => exact Pairing.toJson_bindsBack _ _ r.forced _ _
  case unassigned =>
    cases r.unassigned with
    | none => exact bindInto_null _ _ _ rfl
    | some xs => exact strs_bindsBack _ _ xs _ _
  case total => exact bindInto_whole_int _ (f + 1) _ _ w.total
  case count => exact bindInto_whole_int _ (f + 1) _ _ w.assignedCount
  case mean => exact floatOrNull_bindsBack _ _ w.mean
  case ranks => exact rankHistogramJson_bindsBack _ _ w.histogram w.distinct _ _ _

end Members

/-- A writable result's document, with extra members that name no field, binds under
`resultShape` without a mismatch, each field taking the member named after it. -/
theorem Result.bindJson_document {r : Result} (w : r.Writable) {extras : List (String × Json)}
    (unknown : ∀ e ∈ extras, matchField resultShape.fields e.1 = none)
    (distinct : ((r.members ++ extras).map Prod.fst).Nodup) :
    bindJson resultShape (.obj (r.members ++ extras)) =
      .ok (.obj (filledFields resultShape.fields (r.members ++ extras))) := by
  generalize fuel : 3 * (Json.obj (r.members ++ extras)).depth + 5 = F
  have each : ∀ m ∈ r.members ++ extras,
      MemberBindsBack resultShape.fields (F + 2) none "assignment.Result" m := by
    intro m listed
    rcases List.mem_append.mp listed with own | extra
    · exact Result.members_bindBack _ none w m own
    · exact .inl (unknown m extra)
  have start : resultShape.empty = .obj (filledFields resultShape.fields []) := by
    rw [← emptyFields_eq_filled]
    rfl
  have record : bindInto (F + 2 + 1) none resultShape (.obj (filledFields resultShape.fields []))
      (.obj (r.members ++ extras)) = _ :=
    bindInto_record_obj none (F + 2) "assignment.Result" resultShape.fields _ _
  have filled := bindFields_filled none (F + 2) "assignment.Result" resultShape.fields
    (r.members ++ extras) [] (by simpa using distinct) each
  unfold bindJson
  rw [show 3 * (Json.obj (r.members ++ extras)).depth + 8 = F + 2 + 1 by omega, start, record,
    filled]
  rfl

theorem Table.ofList_entries {ν : Type} (t : Table ν) : Table.ofList t.entries = t := by
  have perm := Table.entries_foldl_insert_perm t.entries Table.empty t.keys_nodup
    (by simp [Table.keys, Table.empty])
  exact Table.ext_of_perm (by simpa [Table.ofList, Table.empty] using perm)

theorem readTextTable_toJson (m : Pairing) : readTextTable m.toJson = some m := by
  simp [readTextTable, Pairing.toJson, Json.members?, List.map_map, Function.comp_def, Json.text,
    Table.ofList_entries]

theorem get_filled_resultShape (members : List (String × Json)) :
    (Json.obj (filledFields resultShape.fields members)).get "assignments" =
        ((members.find? (fun m => m.1 == "assignments")).map Prod.snd).getD .null ∧
      (Json.obj (filledFields resultShape.fields members)).get "forced" =
        ((members.find? (fun m => m.1 == "forced")).map Prod.snd).getD .null := by
  simp [filledFields, Shape.fields, resultShape, Json.get, Json.field?, Shape.empty]

/-- Read from its bound document, a result has its own pairs and forced pairs; an empty forced
table, left out of the document, reads back as empty. -/
theorem Result.ofBound_document (r : Result) {extras : List (String × Json)}
    (unknown : ∀ e ∈ extras, matchField resultShape.fields e.1 = none) :
    (Result.ofBound (.obj (filledFields resultShape.fields (r.members ++ extras)))).assignments =
        r.assignments ∧
      (Result.ofBound (.obj (filledFields resultShape.fields (r.members ++ extras)))).forced =
        r.forced := by
  have notForced : ∀ e ∈ extras, e.1 ≠ "forced" := fun e listed =>
    (matchField_none_ne (unknown e listed)
      ("forced", .dict "map[assignment.ApplicantID]assignment.SlotID" (.text "assignment.SlotID"))
      (by simp [Shape.fields, resultShape])).symm
  obtain ⟨assignments, forced⟩ := get_filled_resultShape (r.members ++ extras)
  refine ⟨?_, ?_⟩
  · rw [Result.ofBound, assignments]
    cases placed : r.assignments with
    | none => simp [Result.members, placed, readTextTable, Json.members?]
    | some m => simp [Result.members, placed, readTextTable_toJson]
  · rw [Result.ofBound, forced]
    by_cases empty : r.forced.size = 0
    · have absent : (r.members ++ extras).find? (fun m => m.1 == "forced") = none := by
        simp [Result.members, empty]
        exact fun a b listed => notForced (a, b) listed
      rw [absent]
      simp [readTextTable, Json.members?]
      exact (Table.ext_of_perm (by rw [List.eq_nil_of_length_eq_zero empty]; rfl)).symm
    · simp [Result.members, empty, readTextTable_toJson]

theorem Json.depthMembers_le {ms : List (String × Json)} {n : Nat}
    (each : ∀ m ∈ ms, m.2.depth ≤ n) : Json.depthMembers ms ≤ n := by
  induction ms with
  | nil => simp [Json.depthMembers]
  | cons m rest ih =>
    obtain ⟨k, v⟩ := m
    rw [Json.depthMembers]
    exact Nat.max_le.mpr ⟨each (k, v) (by simp), ih (fun m' listed => each m' (by simp [listed]))⟩

theorem Json.depthItems_le {items : List Json} {n : Nat} (each : ∀ j ∈ items, j.depth ≤ n) :
    Json.depthItems items ≤ n := by
  induction items with
  | nil => simp [Json.depthItems]
  | cons j rest ih =>
    rw [Json.depthItems]
    exact Nat.max_le.mpr ⟨each j (by simp), ih (fun j' listed => each j' (by simp [listed]))⟩

/-- An object of strings and integers is readable and one level deep. -/
theorem Json.flat_object {ms : List (String × Json)}
    (each : ∀ m ∈ ms, (∃ s, m.2 = .str s) ∨ ∃ i, m.2 = .int i) :
    (Json.obj ms).Readable ∧ (Json.obj ms).depth ≤ 1 := by
  have scalar : ∀ m ∈ ms, m.2.Readable ∧ m.2.depth = 0 := by
    intro m listed
    rcases each m listed with ⟨s, same⟩ | ⟨i, same⟩
    · rw [same]
      exact ⟨.str s, rfl⟩
    · rw [same]
      exact ⟨.num (Number.ofInt_token i), rfl⟩
  refine ⟨.obj fun m listed => (scalar m listed).1, ?_⟩
  have flat : Json.depthMembers ms ≤ 0 :=
    Json.depthMembers_le fun m listed => (scalar m listed).2.le
  simp only [Json.depth]
  omega

/-- Every member of a writable result's document is readable and at most one level deep. -/
theorem Result.members_readable {r : Result} (w : r.Writable) :
    ∀ m ∈ r.members, m.2.Readable ∧ m.2.depth ≤ 1 := by
  have pairing : ∀ p : Pairing, p.toJson.Readable ∧ p.toJson.depth ≤ 1 := by
    intro p
    refine Json.flat_object fun m listed => .inl ?_
    obtain ⟨q, -, rfl⟩ := List.mem_map.mp listed
    exact ⟨q.2, rfl⟩
  have optional : ∀ {c : Prop} [Decidable c] {y : String × Json}, y.2.Readable ∧ y.2.depth ≤ 1 →
      ∀ x ∈ (if c then [] else [y]), x.2.Readable ∧ x.2.depth ≤ 1 := by
    intro c _ y back x listed
    split_ifs at listed
    · cases listed
    · rw [List.mem_singleton.mp listed]
      exact back
  simp only [Result.members, List.forall_mem_append, List.forall_mem_cons, List.not_mem_nil,
    IsEmpty.forall_iff, implies_true, and_true]
  refine ⟨⟨⟨?assignments, optional (pairing r.forced)⟩, ?unassigned, ?total, ?count, ?mean⟩,
    optional ?ranks⟩
  case assignments =>
    cases r.assignments with
    | none => exact ⟨.null, by simp [Json.depth]⟩
    | some m => exact pairing m
  case unassigned =>
    cases r.unassigned with
    | none => exact ⟨.null, by simp [Json.depth]⟩
    | some xs =>
      have strings : ∀ j ∈ xs.map Json.str, j.Readable ∧ j.depth = 0 := by
        intro j listed
        obtain ⟨x, -, rfl⟩ := List.mem_map.mp listed
        exact ⟨.str x, rfl⟩
      have flat : Json.depthItems (xs.map Json.str) ≤ 0 :=
        Json.depthItems_le fun j listed => (strings j listed).2.le
      refine ⟨.arr fun j listed => (strings j listed).1, ?_⟩
      simp only [Json.strs, Json.depth]
      omega
  case total => exact ⟨.num (Number.ofInt_token _), by simp [Json.int, Json.depth]⟩
  case count => exact ⟨.num (Number.ofInt_token _), by simp [Json.int, Json.depth]⟩
  case mean =>
    cases mean : r.averageRank with
    | none => exact ⟨.null, by simp [Json.floatOrNull, Json.depth]⟩
    | some x => exact ⟨.num (w.mean x mean).1, by simp [Json.floatOrNull, Json.float, Json.depth]⟩
  case ranks =>
    refine Json.flat_object fun m listed => .inr ?_
    obtain ⟨p, -, rfl⟩ := List.mem_map.mp (List.mem_mergeSort.mp listed)
    exact ⟨p.2, rfl⟩

/-- A writable result's document, printed with indentation and a final line break and
followed by extra members that name no field of `resultShape`, reads back as a result with
the same pairs and forced pairs. -/
theorem Result.document_reads_back {r : Result} (w : r.Writable) {extras : List (String × Json)}
    (unknown : ∀ e ∈ extras, matchField resultShape.fields e.1 = none)
    (flat : ∀ e ∈ extras, e.2.Readable ∧ e.2.depth ≤ 1)
    (distinct : ((r.members ++ extras).map Prod.fst).Nodup) :
    ∃ j, bindText resultShape ((Json.obj (r.members ++ extras)).render Layout.pretty ++ "\n") =
        .ok j ∧
      (Result.ofBound j).assignments = r.assignments ∧ (Result.ofBound j).forced = r.forced := by
  have each : ∀ m ∈ r.members ++ extras, m.2.Readable ∧ m.2.depth ≤ 1 := by
    intro m listed
    rcases List.mem_append.mp listed with own | extra
    · exact Result.members_readable w m own
    · exact flat m extra
  have shallow : (Json.obj (r.members ++ extras)).depth ≤ maxNesting := by
    have members : Json.depthMembers (r.members ++ extras) ≤ 1 :=
      Json.depthMembers_le fun m listed => (each m listed).2
    simp only [Json.depth, maxNesting]
    omega
  have parsed : Json.parse ((Json.obj (r.members ++ extras)).render Layout.pretty ++ "\n") =
      .ok (Json.obj (r.members ++ extras)) :=
    Json.parse_render Layout.blank_pretty (.obj fun m listed => (each m listed).1) shallow
      (by simp [isJsonBlank])
  refine ⟨_, ?_, Result.ofBound_document r unknown⟩
  rw [bindText, parsed]
  exact Result.bindJson_document w unknown distinct

end SlotAllocation
