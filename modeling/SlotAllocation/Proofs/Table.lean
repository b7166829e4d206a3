import SlotAllocation.Table
import Mathlib.Data.List.Nodup
import Mathlib.Data.List.Perm.Basic

/-!
# Laws of keyed tables

A table keeps its entries strictly ascending, so a key occurs at most once. Everything
else about lookups follows from that:

1. `Table.find?_eq_some_iff`: a lookup finds exactly the entries of the table.
2. `Table.entries_insert_perm`: up to order, an insertion puts the new entry in front of
   the entries of the other keys.
3. `Table.entries_insert_perm_of_not_mem`: inserting a new key adds one entry and keeps all
   the others.
4. `nodup_eraseDups`: dropping the repeats of a list leaves none, and a list without repeats
   keeps its form (`eraseDups_of_nodup`).
-/

namespace SlotAllocation

namespace Table

variable {ν : Type}

theorem keys_nodup (t : Table ν) : t.keys.Nodup := by
  apply List.pairwise_map.mpr
  refine t.ascending.imp ?_
  intro p q hlt heq
  rw [heq] at hlt
  exact String.lt_irrefl _ hlt

/-- Two entries with one key are the same entry. -/
theorem entry_unique {t : Table ν} {p q : String × ν} (hp : p ∈ t.entries)
    (hq : q ∈ t.entries) (same : p.1 = q.1) : p = q :=
  List.inj_on_of_nodup_map t.keys_nodup hp hq same

theorem find?_eq_some_iff {t : Table ν} {k : String} {v : ν} :
    t.find? k = some v ↔ (k, v) ∈ t.entries := by
  unfold find?
  cases hfind : t.entries.find? (fun p => p.1 == k) with
  | none =>
    simp only [Option.map_none, reduceCtorEq, false_iff]
    intro present
    simpa using List.find?_eq_none.mp hfind (k, v) present
  | some p =>
    have hk : p.1 = k := by simpa using List.find?_some hfind
    have hmem := List.mem_of_find?_eq_some hfind
    simp only [Option.map_some, Option.some.injEq]
    constructor
    · rintro rfl
      rwa [show p = (k, p.2) from Prod.ext hk rfl] at hmem
    · intro present
      exact congrArg Prod.snd (entry_unique hmem present hk)

theorem mem_keys_iff {t : Table ν} {k : String} : k ∈ t.keys ↔ ∃ v, t.find? k = some v := by
  simp only [find?_eq_some_iff, keys, List.mem_map]
  constructor
  · rintro ⟨p, hp, rfl⟩
    exact ⟨p.2, hp⟩
  · rintro ⟨v, hv⟩
    exact ⟨(k, v), hv, rfl⟩

theorem find?_eq_none_iff {t : Table ν} {k : String} : t.find? k = none ↔ k ∉ t.keys := by
  rw [mem_keys_iff]
  cases t.find? k <;> simp

theorem contains_iff {t : Table ν} {k : String} : t.contains k = true ↔ k ∈ t.keys := by
  simp [contains, keys]

theorem contains_insert (t : Table ν) (k j : String) (v : ν) :
    (t.insert k v).contains j = (j == k || t.contains j) := by
  by_cases same : j = k
  · subst same
    simp [contains_iff, mem_keys_insert]
  · have : (t.insert k v).contains j = t.contains j := by
      rw [Bool.eq_iff_iff, contains_iff, contains_iff, mem_keys_insert]
      simp [same]
    simp [this, same]

@[simp] theorem entries_empty : (empty : Table ν).entries = [] := rfl

@[simp] theorem keys_empty : (empty : Table ν).keys = [] := rfl

@[simp] theorem find?_empty (k : String) : (empty : Table ν).find? k = none := rfl

@[simp] theorem contains_empty (k : String) : (empty : Table ν).contains k = false := rfl

theorem findD_insert (t : Table ν) (k j : String) (v d : ν) :
    (t.insert k v).findD j d = if j = k then v else t.findD j d := by
  unfold findD
  rw [find?_insert]
  split <;> rfl

/-- The entries with key `k` are the one the lookup finds, if any. -/
theorem filter_key_eq (t : Table ν) (k : String) :
    t.entries.filter (fun p => p.1 == k) = (t.find? k).toList.map (fun v => (k, v)) := by
  cases hk : t.find? k with
  | none =>
    simp only [Option.toList_none, List.map_nil]
    rw [List.filter_eq_nil_iff]
    intro p hp hpk
    have hkey : p.1 ∈ t.keys := List.mem_map_of_mem hp
    rw [show p.1 = k by simpa using hpk] at hkey
    exact find?_eq_none_iff.mp hk hkey
  | some v =>
    have hmem := find?_eq_some_iff.mp hk
    have nodup : (t.entries.filter (fun p => p.1 == k)).Nodup :=
      (t.keys_nodup.of_map Prod.fst).filter _
    have perm : (t.entries.filter (fun p => p.1 == k)).Perm [(k, v)] := by
      apply (List.perm_ext_iff_of_nodup nodup (List.nodup_singleton _)).mpr
      intro p
      simp only [List.mem_filter, List.mem_singleton, beq_iff_eq]
      constructor
      · rintro ⟨hp, hpk⟩
        exact entry_unique hp hmem hpk
      · rintro rfl
        exact ⟨hmem, rfl⟩
    simpa using List.perm_singleton.mp perm

/-- Up to order, the entries are those of `k` followed by those of the other keys. -/
theorem entries_perm_split (t : Table ν) (k : String) :
    t.entries.Perm ((t.find? k).toList.map (fun v => (k, v)) ++
      t.entries.filter (fun p => !(p.1 == k))) := by
  rw [← filter_key_eq]
  exact (List.filter_append_perm _ _).symm

/-- No entry above `k` has key `k`. -/
theorem filter_ne_of_lt {l : List (String × ν)} {k : String} (above : ∀ p ∈ l, k < p.1) :
    l.filter (fun p => !(p.1 == k)) = l := by
  rw [List.filter_eq_self]
  intro p hp
  have hne : p.1 ≠ k := fun heq => String.lt_irrefl k (heq ▸ above p hp)
  simp [hne]

theorem insertEntry_perm (k : String) (v : ν) {l : List (String × ν)} (h : Ascending l) :
    (insertEntry k v l).Perm ((k, v) :: l.filter (fun p => !(p.1 == k))) := by
  induction l with
  | nil => simp [insertEntry]
  | cons q rest ih =>
    obtain ⟨k', v'⟩ := q
    have above : ∀ p ∈ rest, k' < p.1 := fun p hp => (List.pairwise_cons.1 h).1 p hp
    unfold insertEntry
    split
    · rename_i hlt
      rw [filter_ne_of_lt]
      intro p hp
      rcases List.mem_cons.mp hp with rfl | hp
      · exact hlt
      · exact String.lt_trans hlt (above p hp)
    · split
      · rename_i _ heq
        subst heq
        simp [filter_ne_of_lt above]
      · rename_i _ hne
        have hne' : ¬ (k' == k) = true := by simpa using Ne.symm hne
        simp only [List.filter_cons, hne', Bool.not_false, ite_true]
        exact ((ih (List.pairwise_cons.1 h).2).cons _).trans (List.Perm.swap _ _ _)

/-- Up to order, inserting `k` replaces the entries of `k` by the new one. -/
theorem entries_insert_perm (t : Table ν) (k : String) (v : ν) :
    (t.insert k v).entries.Perm ((k, v) :: t.entries.filter (fun p => !(p.1 == k))) :=
  insertEntry_perm k v t.ascending

theorem entries_insert_perm_of_not_mem {t : Table ν} {k : String} (v : ν) (hk : k ∉ t.keys) :
    (t.insert k v).entries.Perm ((k, v) :: t.entries) := by
  have split := entries_perm_split t k
  rw [find?_eq_none_iff.mpr hk] at split
  simp only [Option.toList_none, List.map_nil, List.nil_append] at split
  exact (entries_insert_perm t k v).trans (split.symm.cons _)

theorem values_insert_perm (t : Table ν) (k : String) (v : ν) :
    ((t.insert k v).values ++ (t.find? k).toList).Perm (v :: t.values) := by
  have hins := (entries_insert_perm t k v).map Prod.snd
  have hsplit := (entries_perm_split t k).map Prod.snd
  simp only [values, List.map_cons, List.map_append, List.map_map] at hins hsplit ⊢
  refine (hins.append_right _).trans ?_
  refine List.Perm.cons _ ?_
  refine List.perm_append_comm.trans ?_
  simpa [Function.comp_def] using hsplit.symm

theorem size_insert_of_not_mem {t : Table ν} {k : String} (v : ν) (hk : k ∉ t.keys) :
    (t.insert k v).size = t.size + 1 := by
  simpa [size] using (entries_insert_perm_of_not_mem v hk).length_eq

theorem filterMap_insertEntry {β : Type} {k : String} {v : ν} (g : String × ν → Option β)
    (dropped : g (k, v) = none) {l : List (String × ν)} (hk : k ∉ l.map Prod.fst) :
    (insertEntry k v l).filterMap g = l.filterMap g := by
  induction l with
  | nil => simp [insertEntry, dropped]
  | cons q rest ih =>
    obtain ⟨k', v'⟩ := q
    simp only [List.map_cons, List.mem_cons, not_or] at hk
    unfold insertEntry
    split
    · simp [dropped]
    · split
      · rename_i _ heq
        exact absurd heq hk.1
      · simp only [List.filterMap_cons]
        rw [ih hk.2]

/-- Inserting a new key whose entry the filter drops leaves what the filter keeps unchanged. -/
theorem filterMap_insert_of_not_mem {β : Type} {t : Table ν} {k : String} {v : ν}
    (g : String × ν → Option β) (hk : k ∉ t.keys) (dropped : g (k, v) = none) :
    (t.insert k v).entries.filterMap g = t.entries.filterMap g :=
  filterMap_insertEntry g dropped hk

/-- A table is determined by its entries up to order: both lists ascend strictly by key. -/
theorem ext_of_perm {t u : Table ν} (perm : t.entries.Perm u.entries) : t = u := by
  obtain ⟨l, ascending⟩ := t
  obtain ⟨l', ascending'⟩ := u
  have same : l = l' := perm.eq_of_pairwise
    (fun _ _ _ _ below above => absurd (String.lt_trans below above) (String.lt_irrefl _))
    ascending ascending'
  subst same
  rfl

/-- Tables with the same keys have the same size. -/
theorem size_eq_of_keys_iff {μ : Type} {t : Table ν} {t' : Table μ}
    (same : ∀ k, k ∈ t.keys ↔ k ∈ t'.keys) : t.size = t'.size := by
  have perm := (List.perm_ext_iff_of_nodup t.keys_nodup t'.keys_nodup).mpr same
  simpa [keys, size] using perm.length_eq

/-- Inserting new keys one by one adds their entries and keeps all the others. -/
theorem entries_foldl_insert_perm (l : List (String × ν)) (t : Table ν)
    (distinct : (l.map Prod.fst).Nodup) (fresh : ∀ k ∈ l.map Prod.fst, k ∉ t.keys) :
    (l.foldl (fun t p => t.insert p.1 p.2) t).entries.Perm (t.entries ++ l) := by
  induction l generalizing t with
  | nil => simp
  | cons p rest ih =>
    obtain ⟨k, v⟩ := p
    simp only [List.map_cons, List.nodup_cons, List.mem_cons, forall_eq_or_imp] at distinct fresh
    have fresh' : ∀ j ∈ rest.map Prod.fst, j ∉ (t.insert k v).keys := by
      intro j hj hins
      rcases (mem_keys_insert t k j).mp hins with rfl | hold
      · exact distinct.1 hj
      · exact fresh.2 j hj hold
    refine (ih (t.insert k v) distinct.2 fresh').trans ?_
    refine ((entries_insert_perm_of_not_mem v fresh.1).append_right rest).trans ?_
    exact List.perm_middle.symm

end Table

/-! ## Lists without repeats

The keys of a table are a list without repeats; lists of applicants and of slots are brought
to that form by `List.eraseDups`, which keeps each first occurrence. -/

section EraseDups

variable {α : Type} [BEq α] [LawfulBEq α]

theorem nodup_eraseDups : ∀ l : List α, l.eraseDups.Nodup
  | [] => by simp
  | a :: as => by
    have shorter : (as.filter fun b => !b == a).length ≤ as.length := List.length_filter_le _ _
    rw [List.eraseDups_cons]
    refine List.nodup_cons.mpr ⟨?_, nodup_eraseDups _⟩
    rw [List.mem_eraseDups, List.mem_filter]
    simp
termination_by l => l.length

theorem eraseDups_of_nodup : ∀ {l : List α}, l.Nodup → l.eraseDups = l
  | [], _ => rfl
  | a :: as, distinct => by
    obtain ⟨fresh, rest⟩ := List.nodup_cons.mp distinct
    have kept : (as.filter fun b => !b == a) = as :=
      List.filter_eq_self.mpr fun b listed => by
        simpa using fun same : b = a => fresh (same ▸ listed)
    rw [List.eraseDups_cons, kept, eraseDups_of_nodup rest]

end EraseDups

end SlotAllocation
