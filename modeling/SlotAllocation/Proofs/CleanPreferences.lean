import SlotAllocation.Proofs.CacheCoherence

/-!
# Cleaning preferences keeps their order

`Preferences.normalize` cleans every applicant's list: it drops empty identifiers and every
repeat of a slot after its first occurrence. This file shows that cleaning changes no
applicant's choices, only how they are written:

1. `idxOf_eraseDups_lt_iff`: dropping repeats keeps the order of first occurrences, and so
   does dropping empty identifiers (`idxOf_filter_lt_iff`);
2. `cleanList_sublist`, `mem_cleanList`: the cleaned list is the old one with the empty
   identifiers and the repeats deleted;
3. `rank_normalize_pos_iff`, `rank_normalize_lt_iff`: a slot is ranked after cleaning
   exactly when it was before, and two ranked slots keep their order.

Main statement: `normalize_keeps_preference_order`, with idempotence and its use by the
summaries rebuilt from stored rows, which clean the preferences again.
-/

namespace SlotAllocation

/-! ## 1. Order of first occurrences -/

section Order

variable {α : Type} [BEq α] [LawfulBEq α]

/-- Filtering keeps the order of the first occurrences of two elements it keeps. -/
theorem idxOf_filter_lt_iff (keep : α → Bool) {a b : α} (keepA : keep a = true)
    (keepB : keep b = true) (l : List α) :
    (l.filter keep).idxOf a < (l.filter keep).idxOf b ↔ l.idxOf a < l.idxOf b := by
  induction l with
  | nil => simp
  | cons x rest ih =>
    by_cases atA : x = a
    · subst atA
      by_cases same : x = b
      · subst same
        simp
      · simp [keepA, same]
    · by_cases atB : x = b
      · subst atB
        simp [keepB, atA]
      · cases kept : keep x <;> simp [kept, atA, atB, ih]

omit [LawfulBEq α] in
theorem eraseDups_sublist : ∀ l : List α, l.eraseDups.Sublist l
  | [] => by simp
  | x :: rest => by
    have shorter : (rest.filter fun y => !y == x).length < rest.length + 1 :=
      Nat.lt_succ_of_le (List.length_filter_le _ _)
    rw [List.eraseDups_cons]
    exact .cons_cons x ((eraseDups_sublist _).trans List.filter_sublist)
termination_by l => l.length

/-- Dropping repeats keeps the order of first occurrences. -/
theorem idxOf_eraseDups_lt_iff (a b : α) : ∀ l : List α,
    l.eraseDups.idxOf a < l.eraseDups.idxOf b ↔ l.idxOf a < l.idxOf b
  | [] => by simp
  | x :: rest => by
    have shorter : (rest.filter fun y => !y == x).length < rest.length + 1 :=
      Nat.lt_succ_of_le (List.length_filter_le _ _)
    rw [List.eraseDups_cons]
    by_cases atA : x = a
    · subst atA
      by_cases same : x = b
      · subst same
        simp
      · simp [same]
    · by_cases atB : x = b
      · subst atB
        simp [atA]
      · -- past a head that is neither, both sides drop it; the repeats of it removed from
        -- the rest do not move `a` before `b` or back
        have later := idxOf_eraseDups_lt_iff a b (rest.filter fun y => !y == x)
        have filtered := idxOf_filter_lt_iff (fun y => !y == x) (by simpa using Ne.symm atA)
          (by simpa using Ne.symm atB) rest
        simp only [List.idxOf_cons_ne _ atA, List.idxOf_cons_ne _ atB, Nat.succ_lt_succ_iff]
        exact later.trans filtered
termination_by l => l.length

end Order

/-! ## 2. The cleaned list -/

theorem cleanList_sublist (l : List SlotId) : (cleanList l).Sublist l :=
  (eraseDups_sublist _).trans List.filter_sublist

theorem mem_cleanList {l : List SlotId} {s : SlotId} : s ∈ cleanList l ↔ s ∈ l ∧ s ≠ "" := by
  simp [cleanList, List.mem_eraseDups]

theorem nodup_cleanList (l : List SlotId) : (cleanList l).Nodup := nodup_eraseDups _

/-- Cleaning keeps the order of the first occurrences of named slots. -/
theorem idxOf_cleanList_lt_iff (l : List SlotId) {s t : SlotId} (named : s ≠ "") (namedT : t ≠ "") :
    (cleanList l).idxOf s < (cleanList l).idxOf t ↔ l.idxOf s < l.idxOf t := by
  rw [cleanList, idxOf_eraseDups_lt_iff]
  exact idxOf_filter_lt_iff _ (by simpa using named) (by simpa using namedT) l

@[simp] theorem cleanList_nil : cleanList [] = [] := rfl

/-! ## 3. Cleaned preferences -/

namespace Preferences

variable (p : Preferences)

theorem normalize_keys : p.normalize.keys = p.keys := by
  simp [normalize, Table.map, Table.keys, Function.comp_def]

theorem normalize_find? (a : ApplicantId) : p.normalize.find? a = (p.find? a).map cleanList := by
  simp [normalize, Table.map, Table.find?, List.find?_map, Function.comp_def]

theorem normalize_list (a : ApplicantId) : p.normalize.list a = cleanList (p.list a) := by
  unfold list Table.findD
  rw [normalize_find?]
  cases p.find? a <;> rfl

theorem rank_normalize_pos_iff (a : ApplicantId) {s : SlotId} (named : s ≠ "") :
    0 < p.normalize.rank a s ↔ 0 < p.rank a s := by
  simp only [rank, normalize_list, rankIn_pos_iff, mem_cleanList, named, ne_eq, not_false_eq_true,
    and_true]

/-- Two slots ranked before cleaning keep their order after it. -/
theorem rank_normalize_lt_iff (a : ApplicantId) {s t : SlotId} (named : s ≠ "") (namedT : t ≠ "")
    (ranked : 0 < p.rank a s) (rankedT : 0 < p.rank a t) :
    p.normalize.rank a s < p.normalize.rank a t ↔ p.rank a s < p.rank a t := by
  have listed := (rankIn_pos_iff _ _).mp ranked
  have listedT := (rankIn_pos_iff _ _).mp rankedT
  have kept : s ∈ cleanList (p.list a) := mem_cleanList.mpr ⟨listed, named⟩
  have keptT : t ∈ cleanList (p.list a) := mem_cleanList.mpr ⟨listedT, namedT⟩
  simp only [rank, normalize_list, rankIn, listed, listedT, kept, keptT, if_true,
    Nat.add_lt_add_iff_right]
  exact idxOf_cleanList_lt_iff _ named namedT

end Preferences

/-- Cleaning preferences keeps every applicant and writes each list as the old one with the
empty identifiers and the repeats after a first occurrence deleted: no repeat and no empty
identifier remain, and the kept slots stand in the order of their first occurrences. So a
named slot is ranked after cleaning exactly when it was before, two ranked slots keep their
order, cleaning twice is cleaning once, and a summary rebuilt from stored rows (which cleans
the preferences it is given) is the same whether or not they were cleaned before. -/
theorem normalize_keeps_preference_order (p : Preferences) :
    p.normalize.keys = p.keys ∧
    (∀ a l, p.find? a = some l → ∃ l', p.normalize.find? a = some l' ∧
      l'.Sublist l ∧ l'.Nodup ∧ "" ∉ l' ∧ (∀ s, s ∈ l' ↔ s ∈ l ∧ s ≠ "") ∧
      ∀ s t, s ≠ "" → t ≠ "" → (l'.idxOf s < l'.idxOf t ↔ l.idxOf s < l.idxOf t)) ∧
    (∀ a s t, s ≠ "" → t ≠ "" →
      (0 < p.normalize.rank a s ↔ 0 < p.rank a s) ∧
      (0 < p.rank a s → 0 < p.rank a t →
        (p.normalize.rank a s < p.normalize.rank a t ↔ p.rank a s < p.rank a t))) ∧
    p.normalize.normalize = p.normalize ∧
    ∀ batch rows completed,
      Summary.ofRows batch rows p.normalize completed = Summary.ofRows batch rows p completed := by
  refine ⟨p.normalize_keys, ?lists, ?ranks, p.normalize_normalize,
    fun batch rows completed => ofRows_normalize batch rows p completed⟩
  case lists =>
    intro a l found
    refine ⟨cleanList l, by rw [p.normalize_find?, found]; rfl, cleanList_sublist l,
      nodup_cleanList l, fun empty => (mem_cleanList.mp empty).2 rfl, fun s => mem_cleanList,
      fun s t named namedT => idxOf_cleanList_lt_iff l named namedT⟩
  case ranks =>
    intro a s t named namedT
    exact ⟨p.rank_normalize_pos_iff a named, p.rank_normalize_lt_iff a named namedT⟩

end SlotAllocation
