import SlotAllocation.Json.Bind
import SlotAllocation.Json.Print
import Mathlib.Tactic.SplitIfs

/-!
# Reading what is written

A document written by `Json.render` reads back, through `Json.parse`, as the document itself
(`Json.parse_render`), for every layout whose indentation is blanks (`Layout.Blank`), when every
number in it is a token the reader takes whole (`Number.Token`, `Json.Readable`) and its nesting
stays within the reader's limit.

1. Hexadecimal escapes read back as the code they write (`hex4?_hex4`).
2. Every character reads back from its escaped form, surrogate pairs included
   (`readStringBody_escapeJsonChar`), so every string does (`readStringBody_escaped`).
3. Integers are written as number tokens (`Number.ofInt_token`).
4. Blanks: line breaks, indentation and the blank after a colon are skipped.
5. A written value reads back before any delimiter, from a budget that covers its weight
   (`Json.Readable.readsBack`), by induction on the document with one lemma for the items of an
   array and one for the members of an object.
6. The reader's budget, twice the text's length, covers the weight (`Json.Readable.weight_le`).
-/

namespace SlotAllocation

/-! ## 1. Hexadecimal escapes -/

theorem hexDigit?_digitChar {d : Nat} (small : d < 16) : hexDigit? (Nat.digitChar d) = some d := by
  revert d
  decide

/-- The four digits `hex4` writes for a number below `0x10000`, most significant first. -/
theorem hex4_toList {n : Nat} (small : n < 0x10000) :
    (hex4 n).toList = [Nat.digitChar (n / 4096), Nat.digitChar (n / 256 % 16),
      Nat.digitChar (n / 16 % 16), Nat.digitChar (n % 16)] := by
  simp only [hex4, String.toList_ofList]
  by_cases one : n < 16
  · rw [Nat.toDigits_of_lt_base one]
    have : n / 4096 = 0 ∧ n / 256 % 16 = 0 ∧ n / 16 % 16 = 0 ∧ n % 16 = n := by omega
    simp [this]
  have base : 1 < 16 := by decide
  by_cases two : n < 256
  · rw [Nat.toDigits_of_base_le base (by omega), Nat.toDigits_of_lt_base (by omega)]
    have : n / 4096 = 0 ∧ n / 256 % 16 = 0 ∧ n / 16 % 16 = n / 16 := by omega
    simp [this]
  by_cases three : n < 4096
  · rw [Nat.toDigits_of_base_le base (by omega), Nat.toDigits_of_base_le base (by omega),
      Nat.toDigits_of_lt_base (by omega)]
    have : n / 4096 = 0 ∧ n / 16 / 16 = n / 256 % 16 ∧ n / 256 % 16 = n / 256 := by omega
    simp [this]
  · rw [Nat.toDigits_of_base_le base (by omega), Nat.toDigits_of_base_le base (by omega),
      Nat.toDigits_of_base_le base (by omega), Nat.toDigits_of_lt_base (by omega)]
    have : n / 16 / 16 / 16 = n / 4096 ∧ n / 16 / 16 % 16 = n / 256 % 16 := by omega
    simp [this]

theorem hex4?_hex4 {n : Nat} (small : n < 0x10000) :
    hex4? (Nat.digitChar (n / 4096)) (Nat.digitChar (n / 256 % 16)) (Nat.digitChar (n / 16 % 16))
      (Nat.digitChar (n % 16)) = .ok n := by
  rw [hex4?, hexDigit?_digitChar (by omega), hexDigit?_digitChar (by omega),
    hexDigit?_digitChar (by omega), hexDigit?_digitChar (by omega)]
  dsimp only
  congr 1
  omega

/-! ## 2. Strings -/

theorem Char.toNat_valid (c : Char) :
    c.toNat < 0xD800 ∨ (0xDFFF < c.toNat ∧ c.toNat < 0x110000) :=
  c.valid

/-- A printable character other than a quote or a backslash stands for itself. -/
theorem readStringBody_plain {c : Char} (quote : c ≠ '"') (backslash : c ≠ '\\')
    (printable : 0x20 ≤ c.toNat) (acc more : List Char) :
    readStringBody acc (c :: more) = readStringBody (c :: acc) more := by
  rw [readStringBody, if_neg (by omega)] <;> intros <;> simp_all

/-- A four-digit escape of a character below the surrogates' range or above it reads back as
that character. -/
theorem readStringBody_hex4 {c : Char} (bmp : c.toNat < 0x10000) (acc more : List Char) :
    readStringBody acc ('\\' :: 'u' :: ((hex4 c.toNat).toList ++ more)) =
      readStringBody (c :: acc) more := by
  rw [hex4_toList bmp]
  simp only [List.cons_append, List.nil_append]
  have valid := Char.toNat_valid c
  rw [readStringBody, hex4?_hex4 bmp]
  dsimp only
  rw [if_neg (by simp; omega), loneEscape, if_neg (by simp; omega), Char.ofNat_toNat]

/-- A character above the Basic Multilingual Plane, written as a pair of surrogate escapes,
reads back as itself. -/
theorem readStringBody_unicodeEscape {c : Char} (astral : 0x10000 ≤ c.toNat)
    (acc more : List Char) :
    readStringBody acc ((unicodeEscape c).toList ++ more) = readStringBody (c :: acc) more := by
  have valid := Char.toNat_valid c
  have high : 0xD800 + (c.toNat - 0x10000) / 0x400 < 0x10000 := by omega
  have low : 0xDC00 + (c.toNat - 0x10000) % 0x400 < 0x10000 := by omega
  rw [unicodeEscape, if_neg (by omega)]
  simp only [String.toList_append, String.reduceToList, hex4_toList high, hex4_toList low,
    List.cons_append, List.nil_append]
  rw [readStringBody, hex4?_hex4 high]
  dsimp only
  rw [if_pos (by simp; omega)]
  simp only [hex4?_hex4 low]
  rw [if_pos (by simp; omega)]
  have joined : 0x10000 + (0xD800 + (c.toNat - 0x10000) / 0x400 - 0xD800) * 0x400 +
      (0xDC00 + (c.toNat - 0x10000) % 0x400 - 0xDC00) = c.toNat := by omega
  rw [joined, Char.ofNat_toNat]

/-- Each character reads back from its escaped form, whatever follows. -/
theorem readStringBody_escapeJsonChar (markup ascii : Bool) (c : Char) (acc more : List Char) :
    readStringBody acc ((escapeJsonChar markup ascii c).toList ++ more) =
      readStringBody (c :: acc) more := by
  unfold escapeJsonChar
  split
  any_goals
    simp only [String.reduceToList, List.cons_append, List.nil_append]
    rw [readStringBody]
  rename_i notQuote notBackslash _ _ _
  split_ifs with backspace formFeed control separator markupChar wide
  · simp only [String.reduceToList, List.cons_append, List.nil_append]
    rw [readStringBody, ← backspace, Char.ofNat_toNat]
  · simp only [String.reduceToList, List.cons_append, List.nil_append]
    rw [readStringBody, ← formFeed, Char.ofNat_toNat]
  · simp only [String.toList_append, String.reduceToList, List.cons_append, List.nil_append]
    exact readStringBody_hex4 (by omega) acc more
  · simp only [String.toList_append, String.reduceToList, List.cons_append, List.nil_append]
    exact readStringBody_hex4 (by simp at separator; omega) acc more
  · have small : c.toNat < 0x10000 := by
      simp only [Bool.and_eq_true, Bool.or_eq_true, decide_eq_true_eq] at markupChar
      rcases markupChar.2 with (rfl | rfl) | rfl <;> decide
    simp only [String.toList_append, String.reduceToList, List.cons_append, List.nil_append]
    exact readStringBody_hex4 small acc more
  · by_cases small : c.toNat < 0x10000
    · simp only [unicodeEscape, if_pos small, String.toList_append, String.reduceToList,
        List.cons_append, List.nil_append]
      exact readStringBody_hex4 small acc more
    · exact readStringBody_unicodeEscape (by omega) acc more
  · rw [Char.toString_eq_singleton, String.toList_singleton, List.singleton_append]
    exact readStringBody_plain notQuote notBackslash (by omega) acc more

/-- The escaped characters of a string, then a closing quote, read back as the string. -/
theorem readStringBody_escaped (markup ascii : Bool) (cs : List Char) (acc rest : List Char) :
    readStringBody acc ((String.join (cs.map (escapeJsonChar markup ascii))).toList ++ '"' :: rest) =
      .ok (String.ofList (acc.reverse ++ cs), rest) := by
  induction cs generalizing acc with
  | nil => simp [readStringBody]
  | cons c cs ih =>
    rw [List.map_cons, String.join_cons, String.toList_append, List.append_assoc,
      readStringBody_escapeJsonChar, ih]
    simp

theorem jsonString_toList (markup ascii : Bool) (s : String) :
    (jsonString markup s ascii).toList =
      '"' :: ((String.join (s.toList.map (escapeJsonChar markup ascii))).toList ++ ['"']) := by
  simp [jsonString]

/-! ## 3. Numbers -/

/-- Where a value may end: the end of the text, a blank, or the punctuation after a value. -/
def Delimits : List Char → Prop
  | [] => True
  | c :: _ => isJsonBlank c = true ∨ c = ',' ∨ c = '}' ∨ c = ']'

/-- Nothing that continues a number follows. -/
theorem Delimits.stops {rest : List Char} (delim : Delimits rest) :
    rest = [] ∨ ∃ c r, rest = c :: r ∧ c.isDigit = false ∧ c ≠ '.' ∧ c ≠ 'e' ∧ c ≠ 'E' := by
  cases rest with
  | nil => exact .inl rfl
  | cons c r =>
    refine .inr ⟨c, r, rfl, ?_⟩
    simp only [Delimits, isJsonBlank, Bool.or_eq_true, decide_eq_true_eq] at delim
    rcases delim with (((rfl | rfl) | rfl) | rfl) | rfl | rfl | rfl <;> decide

/-- Decimal digits as they are written: at least one, and no leading zero but a lone `0`. -/
def CanonicalDigits (ds : List Char) : Prop :=
  (∀ c ∈ ds, c.isDigit = true) ∧ (ds = ['0'] ∨ ∃ c cs, ds = c :: cs ∧ c ≠ '0')

theorem numberSign_of_digit {c : Char} (digit : c.isDigit = true) (cs : List Char) :
    numberSign (c :: cs) = ([], c :: cs) := by
  have notMinus : c ≠ '-' := by
    rintro rfl
    contradiction
  simp [numberSign, notMinus]

theorem numberInteger_canonical {ds : List Char} (canon : CanonicalDigits ds) {rest : List Char}
    (delim : Delimits rest) : numberInteger (ds ++ rest) = .ok (ds, rest) := by
  obtain ⟨digits, rfl | ⟨c, cs, rfl, leading⟩⟩ := canon
  · rfl
  · have ended : rest.takeWhile Char.isDigit = [] ∧ rest.dropWhile Char.isDigit = rest := by
      rcases delim.stops with rfl | ⟨c', r, rfl, notDigit, -⟩
      · simp
      · simp [notDigit]
    rw [List.cons_append, numberInteger, if_pos (digits c (by simp)), ← List.cons_append,
      List.takeWhile_append_of_pos digits, List.dropWhile_append_of_pos digits, ended.1, ended.2,
      List.append_nil]
    all_goals
      intro equal
      simp_all

theorem numberFraction_delimited {rest : List Char} (delim : Delimits rest) :
    numberFraction rest = .ok ([], rest) := by
  rcases delim.stops with rfl | ⟨c, r, rfl, -, notPoint, -⟩
  · rfl
  · rw [numberFraction]
    simpa using notPoint

theorem numberExponent_delimited {rest : List Char} (delim : Delimits rest) :
    numberExponent rest = .ok ([], rest) := by
  rcases delim.stops with rfl | ⟨c, r, rfl, -, -, notE, notCapital⟩
  · rfl
  · simp [numberExponent, notE, notCapital]

/-- A sign, canonical digits and a delimiter read as the number of the sign and digits. -/
theorem readNumber_canonical {sign ds rest : List Char} (signed : sign = [] ∨ sign = ['-'])
    (canon : CanonicalDigits ds) (delim : Delimits rest) :
    readNumber (sign ++ ds ++ rest) = .ok (⟨String.ofList (sign ++ ds)⟩, rest) := by
  have split : numberSign (sign ++ (ds ++ rest)) = (sign, ds ++ rest) := by
    obtain ⟨digits, shape⟩ := canon
    obtain ⟨c, cs, rfl⟩ : ∃ c cs, ds = c :: cs := by
      rcases shape with rfl | ⟨c, cs, rfl, -⟩ <;> exact ⟨_, _, rfl⟩
    rcases signed with rfl | rfl
    · exact numberSign_of_digit (digits c (by simp)) _
    · rfl
  simp only [readNumber, List.append_assoc, split, bind, Except.bind,
    numberInteger_canonical canon delim, numberFraction_delimited delim,
    numberExponent_delimited delim, pure, Except.pure, List.append_nil]

/-- A number literal as the reader takes it: it starts as a number does, and it is read whole,
as itself, before any delimiter. -/
structure Number.Token (n : Number) : Prop where
  lead : ∃ c cs, n.literal.toList = c :: cs ∧ (c = '-' ∨ c.isDigit = true)
  reads : ∀ rest, Delimits rest → readNumber (n.literal.toList ++ rest) = .ok (n, rest)

theorem toDigits_leading {n : Nat} (pos : 0 < n) : ∃ c cs, Nat.toDigits 10 n = c :: cs ∧ c ≠ '0' := by
  induction n using Nat.strongRecOn with
  | _ n ih =>
    by_cases small : n < 10
    · refine ⟨_, [], Nat.toDigits_of_lt_base small, ?_⟩
      have nonzero : ∀ d, d < 10 → 0 < d → Nat.digitChar d ≠ '0' := by decide
      exact nonzero n small pos
    · obtain ⟨c, cs, front, leading⟩ := ih (n / 10) (by omega) (by omega)
      exact ⟨c, cs ++ [Nat.digitChar (n % 10)], by
        rw [Nat.toDigits_of_base_le (by decide) (by omega), front, List.cons_append], leading⟩

theorem toDigits_canonical (n : Nat) : CanonicalDigits (Nat.toDigits 10 n) := by
  refine ⟨fun c listed => Nat.isDigit_of_mem_toDigits (by decide) (by decide) listed, ?_⟩
  rcases Nat.eq_zero_or_pos n with rfl | pos
  · exact .inl (Nat.toDigits_zero 10)
  · exact .inr (toDigits_leading pos)

/-- Integers are written as number tokens. -/
theorem Number.ofInt_token (i : Int) : (Number.ofInt i).Token := by
  obtain ⟨sign, ds, signed, canon, written⟩ : ∃ sign ds, (sign = [] ∨ sign = ['-']) ∧
      CanonicalDigits ds ∧ (Number.ofInt i).literal.toList = sign ++ ds := by
    by_cases nonneg : 0 ≤ i
    · exact ⟨[], _, .inl rfl, toDigits_canonical i.toNat, by
        simp [Number.ofInt, Int.repr_eq_if, nonneg, Nat.toList_repr]⟩
    · exact ⟨['-'], _, .inr rfl, toDigits_canonical (-i).toNat, by
        simp [Number.ofInt, Int.repr_eq_if, nonneg, Nat.toList_repr]⟩
  constructor
  · obtain ⟨digits, shape⟩ := canon
    obtain ⟨c, cs, rfl⟩ : ∃ c cs, ds = c :: cs := by
      rcases shape with rfl | ⟨c, cs, rfl, -⟩ <;> exact ⟨_, _, rfl⟩
    rcases signed with rfl | rfl
    · exact ⟨c, cs, written, .inr (digits c (by simp))⟩
    · exact ⟨'-', c :: cs, written, .inl rfl⟩
  · intro rest delim
    rw [written, readNumber_canonical signed canon delim, ← written, String.ofList_toList]

/-! ## 4. Blanks -/

/-- A layout whose indentation is made of blanks. -/
def Layout.Blank (L : Layout) : Prop :=
  ∀ ind, L.indent = some ind → ∀ c ∈ ind.toList, isJsonBlank c = true

theorem Layout.blank_pretty : Layout.pretty.Blank := by
  intro ind given
  simp only [Layout.pretty, Option.some.injEq] at given
  subst given
  simp [isJsonBlank]

theorem skipBlanks_blanks {bl : List Char} (blank : ∀ c ∈ bl, isJsonBlank c = true)
    (cs : List Char) : skipBlanks (bl ++ cs) = skipBlanks cs :=
  List.dropWhile_append_of_pos blank

theorem skipBlanks_cons {c : Char} (solid : isJsonBlank c = false) (cs : List Char) :
    skipBlanks (c :: cs) = c :: cs :=
  List.dropWhile_cons_of_neg (by simp [solid])

/-- A line break and its indentation are blanks. -/
theorem newline_blank {L : Layout} (blank : L.Blank) (k : Nat) :
    ∀ c ∈ (newline L k).toList, isJsonBlank c = true := by
  unfold newline
  split
  · simp
  · rename_i ind given
    intro c listed
    simp only [String.toList_append, String.toList_join, List.mem_append, List.mem_flatMap,
      List.mem_replicate] at listed
    rcases listed with fresh | ⟨piece, ⟨-, same⟩, inIndent⟩
    · simp at fresh
      simp [fresh, isJsonBlank]
    · exact blank _ given c (same ▸ inIndent)

/-- What follows a value in a written document: a line break, or the closing bracket. -/
theorem Delimits.newline (L : Layout) (k : Nat) {close : Char}
    (closing : close = '}' ∨ close = ']') (rest : List Char) :
    Delimits ((SlotAllocation.newline L k).toList ++ close :: rest) := by
  unfold SlotAllocation.newline
  split
  · simp only [String.reduceToList, List.nil_append, Delimits]
    exact .inr (.inr closing)
  · simp [Delimits, isJsonBlank]

/-- Blanks before a value are skipped. -/
theorem readValue_blanks {bl : List Char} (blank : ∀ c ∈ bl, isJsonBlank c = true)
    (f d : Nat) (cs : List Char) : readValue f d (bl ++ cs) = readValue f d cs := by
  cases f with
  | zero => rfl
  | succ f => simp only [readValue, skipBlanks_blanks blank]

/-! ## 5. Documents -/

/-- A document that reads back as written: every number in it is a token. -/
inductive Json.Readable : Json → Prop
  | null : Readable .null
  | bool (b : Bool) : Readable (.bool b)
  | num {n : Number} (token : n.Token) : Readable (.num n)
  | str (s : String) : Readable (.str s)
  | arr {items : List Json} (each : ∀ j ∈ items, Readable j) : Readable (.arr items)
  | obj {ms : List (String × Json)} (each : ∀ m ∈ ms, Readable m.2) : Readable (.obj ms)

mutual
/-- A bound on the reading budget that a written document uses up. -/
def Json.weight : Json → Nat
  | .arr items => Json.weightItems items + 2
  | .obj ms => Json.weightMembers ms + 2
  | _ => 1

/-- The budget the items of an array use up. -/
def Json.weightItems : List Json → Nat
  | [] => 0
  | j :: rest => j.weight + 1 + Json.weightItems rest

/-- The budget the members of an object use up. -/
def Json.weightMembers : List (String × Json) → Nat
  | [] => 0
  | (_, j) :: rest => j.weight + 1 + Json.weightMembers rest
end

theorem isDigit_solid {c : Char} (digit : c.isDigit = true) :
    isJsonBlank c = false ∧ c ≠ ']' ∧ c ≠ '}' ∧ c ≠ '{' ∧ c ≠ '[' ∧ c ≠ '"' ∧ c ≠ 't' ∧ c ≠ 'f' ∧
      c ≠ 'n' := by
  simp only [Char.isDigit, Bool.and_eq_true, decide_eq_true_eq] at digit
  have low := Char.le_def.mp digit.1
  have high := Char.le_def.mp digit.2
  refine ⟨?_, ?_, ?_, ?_, ?_, ?_, ?_, ?_, ?_⟩ <;>
    first
    | (simp only [isJsonBlank, Bool.or_eq_false_iff, decide_eq_false_iff_not]
       refine ⟨⟨⟨?_, ?_⟩, ?_⟩, ?_⟩ <;> (rintro rfl; simp_all))
    | (rintro rfl; simp_all)

/-- A written value starts with a character that is neither a blank nor a closing bracket. -/
theorem Json.Readable.write_head {j : Json} (readable : j.Readable) (L : Layout) (k : Nat) :
    ∃ c cs, (j.write L k).toList = c :: cs ∧ isJsonBlank c = false ∧ c ≠ ']' ∧ c ≠ '}' := by
  cases readable with
  | null => exact ⟨'n', ['u', 'l', 'l'], by simp [Json.write], by decide, by decide, by decide⟩
  | bool b =>
    cases b
    · exact ⟨'f', ['a', 'l', 's', 'e'], by simp [Json.write], by decide, by decide, by decide⟩
    · exact ⟨'t', ['r', 'u', 'e'], by simp [Json.write], by decide, by decide, by decide⟩
  | num token =>
    obtain ⟨c, cs, front, lead⟩ := token.lead
    refine ⟨c, cs, front, ?_⟩
    rcases lead with rfl | digit
    · decide
    · exact ⟨(isDigit_solid digit).1, (isDigit_solid digit).2.1, (isDigit_solid digit).2.2.1⟩
  | str s =>
    exact ⟨'"', _, by rw [Json.write]; exact jsonString_toList _ _ _, by decide, by decide, by decide⟩
  | arr each =>
    rename_i items
    cases items with
    | nil => exact ⟨'[', [']'], by simp [Json.write], by decide, by decide, by decide⟩
    | cons j rest =>
      refine ⟨'[', (writeItems L (k + 1) (j :: rest) ++ newline L k ++ "]").toList, ?_, by decide,
        by decide, by decide⟩
      rw [Json.write]
      · simp
      · simp
  | obj each =>
    rename_i ms
    cases ms with
    | nil => exact ⟨'\x7b', ['\x7d'], by simp [Json.write], by decide, by decide, by decide⟩
    | cons m rest =>
      refine ⟨'\x7b', (writeMembers L (k + 1) (m :: rest) ++ newline L k ++ "\x7d").toList, ?_,
        by decide, by decide, by decide⟩
      rw [Json.write]
      · simp
      · simp

/-- Reading back a written value: from any budget that covers its weight, at any depth that
leaves room for its nesting, with any delimiter after it. -/
def ReadsBack (L : Layout) (j : Json) : Prop :=
  ∀ k f d rest, j.weight ≤ f → d + j.depth ≤ maxNesting → Delimits rest →
    readValue f d ((j.write L k).toList ++ rest) = .ok (j, rest)

theorem readsBack_null (L : Layout) : ReadsBack L .null := by
  intro k f d rest enough _ _
  obtain ⟨g, rfl⟩ : ∃ g, f = g + 1 := ⟨f - 1, by simp [Json.weight] at enough; omega⟩
  simp [readValue, Json.write, skipBlanks_cons, readWord, isJsonBlank]

theorem readsBack_bool (L : Layout) (b : Bool) : ReadsBack L (.bool b) := by
  intro k f d rest enough _ _
  obtain ⟨g, rfl⟩ : ∃ g, f = g + 1 := ⟨f - 1, by simp [Json.weight] at enough; omega⟩
  cases b <;> simp [readValue, Json.write, skipBlanks_cons, readWord, isJsonBlank]

theorem readsBack_str (L : Layout) (s : String) : ReadsBack L (.str s) := by
  intro k f d rest enough _ _
  obtain ⟨g, rfl⟩ : ∃ g, f = g + 1 := ⟨f - 1, by simp [Json.weight] at enough; omega⟩
  rw [Json.write, jsonString_toList]
  simp [readValue, skipBlanks_cons, isJsonBlank, readStringBody_escaped, -String.toList_join]

theorem readsBack_num (L : Layout) {n : Number} (token : n.Token) : ReadsBack L (.num n) := by
  intro k f d rest enough _ delim
  obtain ⟨g, rfl⟩ : ∃ g, f = g + 1 := ⟨f - 1, by simp [Json.weight] at enough; omega⟩
  obtain ⟨c, cs, front, lead⟩ := token.lead
  have solid : isJsonBlank c = false ∧ c ≠ '{' ∧ c ≠ '[' ∧ c ≠ '"' ∧ c ≠ 't' ∧ c ≠ 'f' ∧
      c ≠ 'n' := by
    rcases lead with rfl | digit
    · decide
    · have := isDigit_solid digit
      exact ⟨this.1, this.2.2.2⟩
  have reads := token.reads rest delim
  rw [front, List.cons_append] at reads
  rw [Json.write, front, List.cons_append]
  simp only [readValue, skipBlanks_cons solid.1]
  -- the first character rules out every kind of value but a number
  split
  any_goals simp at solid
  rw [if_pos (by rcases lead with rfl | digit <;> simp [*]), reads]

/-- The items of an array, each on its line, and the closing bracket read back as the array. -/
theorem readItems_written {L : Layout} (blank : L.Blank) {items : List Json}
    (each : ∀ j ∈ items, j.Readable ∧ ReadsBack L j) (nonempty : items ≠ []) (k k' : Nat) :
    ∀ f d first acc rest, Json.weightItems items ≤ f → d + Json.depthItems items ≤ maxNesting →
      readItems f d first acc
          ((writeItems L k items).toList ++ (newline L k').toList ++ ']' :: rest) =
        .ok (.arr (acc.reverse ++ items), rest) := by
  induction items with
  | nil => contradiction
  | cons j more ih =>
    intro f d first acc rest enough deep
    obtain ⟨g, rfl⟩ : ∃ g, f = g + 1 := ⟨f - 1, by simp [Json.weightItems] at enough; omega⟩
    obtain ⟨readable, back⟩ := each j (by simp)
    obtain ⟨c, cs, front, solid, notClose, -⟩ := readable.write_head L k
    simp only [Json.weightItems, Json.depthItems] at enough deep
    cases more with
    | nil =>
      rw [writeItems]
      have readJ := back k g d ((newline L k').toList ++ ']' :: rest) (by omega) (by omega)
        (Delimits.newline L k' (.inr rfl) rest)
      rw [front, List.cons_append] at readJ
      simp only [String.toList_append, front, List.append_assoc, List.cons_append, readItems,
        skipBlanks_blanks (newline_blank blank k), skipBlanks_cons solid]
      split
      · simp_all
      · rw [readJ]
        simp only [skipBlanks_blanks (newline_blank blank k'),
          skipBlanks_cons (show isJsonBlank ']' = false by decide)]
        simp
    | cons j' more' =>
      rw [writeItems]
      · have readJ := back k g d (',' :: ((writeItems L k (j' :: more')).toList ++
            ((newline L k').toList ++ ']' :: rest))) (by omega) (by omega) (by simp [Delimits])
        rw [front, List.cons_append] at readJ
        simp only [String.toList_append, front, List.append_assoc, List.cons_append, readItems,
          skipBlanks_blanks (newline_blank blank k), skipBlanks_cons solid, String.reduceToList,
          List.nil_append]
        split
        · simp_all
        · rw [readJ]
          dsimp only
          rw [skipBlanks_cons (show isJsonBlank ',' = false by decide)]
          have later := ih (fun j listed => each j (by simp [listed])) (by simp) g d false
            (j :: acc) rest (by omega) (by omega)
          rw [List.append_assoc] at later
          simp [later]
      · simp

/-- Between a key and its value: a colon, then blanks. -/
theorem sep_toList (L : Layout) :
    ∃ tail, (sep L).toList = ':' :: tail ∧ ∀ c ∈ tail, isJsonBlank c = true := by
  unfold sep
  split
  · exact ⟨[], rfl, by simp⟩
  · exact ⟨[' '], rfl, by simp [isJsonBlank]⟩

/-- The members of an object, each on its line, and the closing brace read back as the
object. -/
theorem readMembers_written {L : Layout} (blank : L.Blank) {ms : List (String × Json)}
    (each : ∀ m ∈ ms, m.2.Readable ∧ ReadsBack L m.2) (nonempty : ms ≠ []) (k k' : Nat) :
    ∀ f d first acc rest, Json.weightMembers ms ≤ f → d + Json.depthMembers ms ≤ maxNesting →
      readMembers f d first acc
          ((writeMembers L k ms).toList ++ (newline L k').toList ++ '}' :: rest) =
        .ok (.obj (acc.reverse ++ ms), rest) := by
  obtain ⟨sepTail, sepFront, sepBlank⟩ := sep_toList L
  induction ms with
  | nil => contradiction
  | cons m more ih =>
    obtain ⟨key, v⟩ := m
    intro f d first acc rest enough deep
    obtain ⟨g, rfl⟩ : ∃ g, f = g + 1 := ⟨f - 1, by simp [Json.weightMembers] at enough; omega⟩
    obtain ⟨readable, back⟩ : v.Readable ∧ ReadsBack L v := each (key, v) (by simp)
    simp only [Json.weightMembers, Json.depthMembers] at enough deep
    cases more with
    | nil =>
      rw [writeMembers]
      have readV := back k g d ((newline L k').toList ++ '}' :: rest) (by omega) (by omega)
        (Delimits.newline L k' (.inl rfl) rest)
      simp only [String.toList_append, jsonString_toList, sepFront, List.append_assoc,
        List.cons_append, readMembers, skipBlanks_blanks (newline_blank blank k),
        skipBlanks_cons (show isJsonBlank '"' = false by decide)]
      rw [List.nil_append, readStringBody_escaped]
      simp only [List.reverse_nil, List.nil_append, String.ofList_toList,
        skipBlanks_cons (show isJsonBlank ':' = false by decide), readValue_blanks sepBlank]
      rw [readV]
      simp only [skipBlanks_blanks (newline_blank blank k'),
        skipBlanks_cons (show isJsonBlank '}' = false by decide)]
      simp
    | cons m' more' =>
      rw [writeMembers]
      · have readV := back k g d (',' :: ((writeMembers L k (m' :: more')).toList ++
            ((newline L k').toList ++ '}' :: rest))) (by omega) (by omega) (by simp [Delimits])
        simp only [String.toList_append, jsonString_toList, sepFront, List.append_assoc,
          List.cons_append, readMembers, skipBlanks_blanks (newline_blank blank k),
          skipBlanks_cons (show isJsonBlank '"' = false by decide), String.reduceToList]
        rw [List.nil_append, readStringBody_escaped]
        simp only [List.reverse_nil, List.nil_append, String.ofList_toList,
          skipBlanks_cons (show isJsonBlank ':' = false by decide), readValue_blanks sepBlank]
        rw [readV]
        simp only [skipBlanks_cons (show isJsonBlank ',' = false by decide)]
        have later := ih (fun m listed => each m (by simp [listed])) (by simp) g d false
          ((key, v) :: acc) rest (by omega) (by omega)
        rw [List.append_assoc] at later
        simp [later]
      · simp

/-- Every readable value reads back as it is written. -/
theorem Json.Readable.readsBack {L : Layout} (blank : L.Blank) {j : Json} (readable : j.Readable) :
    ReadsBack L j := by
  induction readable with
  | null => exact readsBack_null L
  | bool b => exact readsBack_bool L b
  | num token => exact readsBack_num L token
  | str s => exact readsBack_str L s
  | arr each ih =>
    rename_i items
    intro k f d rest enough deep _
    simp only [Json.weight, Json.depth] at enough deep
    obtain ⟨g, rfl⟩ : ∃ g, f = g + 1 := ⟨f - 1, by omega⟩
    cases items with
    | nil =>
      obtain ⟨h, rfl⟩ : ∃ h, g = h + 1 := ⟨g - 1, by omega⟩
      simp only [Json.write, String.reduceToList, List.cons_append, List.nil_append, readValue,
        skipBlanks_cons (show isJsonBlank '[' = false by decide)]
      rw [if_neg (by omega)]
      simp [readItems, skipBlanks_cons (show isJsonBlank ']' = false by decide)]
    | cons j more =>
      rw [Json.write]
      · simp only [String.toList_append, String.reduceToList, List.cons_append, List.nil_append,
          List.append_assoc, readValue, skipBlanks_cons (show isJsonBlank '[' = false by decide)]
        rw [if_neg (by omega)]
        have items := readItems_written blank (fun j listed => ⟨each j listed, ih j listed⟩)
          (by simp) (k + 1) k g (d + 1) true [] rest (by omega) (by omega)
        simpa [List.append_assoc] using items
      · simp
  | obj each ih =>
    rename_i ms
    intro k f d rest enough deep _
    simp only [Json.weight, Json.depth] at enough deep
    obtain ⟨g, rfl⟩ : ∃ g, f = g + 1 := ⟨f - 1, by omega⟩
    cases ms with
    | nil =>
      obtain ⟨h, rfl⟩ : ∃ h, g = h + 1 := ⟨g - 1, by omega⟩
      simp only [Json.write, String.reduceToList, List.cons_append, List.nil_append, readValue,
        skipBlanks_cons (show isJsonBlank '\x7b' = false by decide)]
      rw [if_neg (by omega)]
      simp [readMembers, skipBlanks_cons (show isJsonBlank '\x7d' = false by decide)]
    | cons m more =>
      rw [Json.write]
      · simp only [String.toList_append, String.reduceToList, List.cons_append, List.nil_append,
          List.append_assoc, readValue, skipBlanks_cons (show isJsonBlank '\x7b' = false by decide)]
        rw [if_neg (by omega)]
        have members := readMembers_written blank (fun m listed => ⟨each m listed, ih m listed⟩)
          (by simp) (k + 1) k g (d + 1) true [] rest (by omega) (by omega)
        simpa [List.append_assoc] using members
      · simp

/-! ## 6. The reader's budget -/

/-- The budget of written items is at most twice their length, and two. -/
theorem weightItems_le {L : Layout} (k : Nat) {items : List Json}
    (each : ∀ j ∈ items, ∀ k, j.weight ≤ 2 * (j.write L k).length + 1) :
    Json.weightItems items ≤ 2 * (writeItems L k items).length + 2 := by
  induction items with
  | nil => simp [Json.weightItems]
  | cons j more ih =>
    have first := each j (by simp) k
    have later := ih (fun j listed => each j (by simp [listed]))
    cases more with
    | nil =>
      simp only [Json.weightItems, writeItems, String.length_append] at later ⊢
      omega
    | cons j' more' =>
      rw [writeItems]
      · have comma : ",".length = 1 := rfl
        simp only [Json.weightItems, String.length_append] at later ⊢
        omega
      · simp

/-- The budget of written members is at most twice their length, and two. -/
theorem weightMembers_le {L : Layout} (k : Nat) {ms : List (String × Json)}
    (each : ∀ m ∈ ms, ∀ k, m.2.weight ≤ 2 * (m.2.write L k).length + 1) :
    Json.weightMembers ms ≤ 2 * (writeMembers L k ms).length + 2 := by
  induction ms with
  | nil => simp [Json.weightMembers]
  | cons m more ih =>
    obtain ⟨key, v⟩ := m
    have first : v.weight ≤ 2 * (v.write L k).length + 1 := each (key, v) (by simp) k
    have later := ih (fun m listed => each m (by simp [listed]))
    cases more with
    | nil =>
      simp only [Json.weightMembers, writeMembers, String.length_append] at later ⊢
      omega
    | cons m' more' =>
      rw [writeMembers]
      · have comma : ",".length = 1 := rfl
        simp only [Json.weightMembers, String.length_append] at later ⊢
        omega
      · simp

/-- The reading budget of a written value is at most twice its length, and one. -/
theorem Json.Readable.weight_le {j : Json} (readable : j.Readable) (L : Layout) (k : Nat) :
    j.weight ≤ 2 * (j.write L k).length + 1 := by
  induction readable generalizing k with
  | arr each ih =>
    rename_i items
    have bound := weightItems_le (k + 1) (fun j listed => ih j listed)
    have brackets : "[".length = 1 ∧ "]".length = 1 ∧ "[]".length = 2 := ⟨rfl, rfl, rfl⟩
    cases items with
    | nil => simp [Json.weight, Json.weightItems, Json.write, brackets]
    | cons j more =>
      rw [Json.write]
      · simp only [Json.weight, String.length_append] at bound ⊢
        omega
      · simp
  | obj each ih =>
    rename_i ms
    have bound := weightMembers_le (k + 1) (fun m listed => ih m listed)
    have braces : "\x7b".length = 1 ∧ "\x7d".length = 1 ∧ "\x7b\x7d".length = 2 := ⟨rfl, rfl, rfl⟩
    cases ms with
    | nil => simp [Json.weight, Json.weightMembers, Json.write, braces]
    | cons m more =>
      rw [Json.write]
      · simp only [Json.weight, String.length_append] at bound ⊢
        omega
      · simp
  | _ => simp [Json.weight]

/-- Reading what is written: a readable document whose nesting the reader allows, followed by
blanks only, reads back as itself. -/
theorem Json.parse_render {L : Layout} (blank : L.Blank) {j : Json} (readable : j.Readable)
    (shallow : j.depth ≤ maxNesting) {tail : String}
    (trailing : ∀ c ∈ tail.toList, isJsonBlank c = true) :
    Json.parse (j.render L ++ tail) = .ok j := by
  have budget := readable.weight_le L 0
  have ends : Delimits tail.toList := by
    cases listed : tail.toList with
    | nil => trivial
    | cons c _ => exact .inl (trailing c (by simp [listed]))
  have read := readable.readsBack blank 0
    (2 * ((j.write L 0).toList ++ tail.toList).length + 2) 0 tail.toList
    (by simp only [List.length_append, String.length_toList]; omega) (by omega) ends
  have gone : skipBlanks tail.toList = [] := by
    simpa [skipBlanks] using skipBlanks_blanks trailing []
  simp only [Json.parse, Json.render, String.toList_append, read, gone]

end SlotAllocation