/-!
# Tables keyed by identifiers

A `Table ν` binds identifiers to values of type `ν`. Its entries are kept in strictly
ascending key order, so each key occurs once and walking the entries visits the keys in
byte-wise order of their UTF-8 encoding (which is the code-point order of `String`).

Main statements:

1. `Table.find?_insert`: after `insert t k v`, looking up `k` gives `v`, and every other key
   gives what it gave before.
2. `Table.mem_keys_insert`: the keys after an insertion are the old keys and `k`.

Writing a key that is already present replaces its value: a table read from a document in
which a key is repeated keeps the last value.
-/

namespace SlotAllocation

/-- Keys in strictly ascending order. -/
def Ascending {ν : Type} (entries : List (String × ν)) : Prop :=
  entries.Pairwise (fun p q => p.1 < q.1)

/-- A finite map from identifiers to `ν`, its entries in strictly ascending key order. -/
structure Table (ν : Type) where
  entries : List (String × ν)
  ascending : Ascending entries

namespace Table

variable {ν μ : Type}

/-- The table without entries. -/
def empty : Table ν := ⟨[], List.Pairwise.nil⟩

instance : EmptyCollection (Table ν) := ⟨empty⟩

instance : Inhabited (Table ν) := ⟨empty⟩

/-- Places `(k, v)` into ascending `entries`, replacing the value of an existing `k`. -/
def insertEntry (k : String) (v : ν) : List (String × ν) → List (String × ν)
  | [] => [(k, v)]
  | (k', v') :: rest =>
    if k < k' then (k, v) :: (k', v') :: rest
    else if k = k' then (k, v) :: rest
    else (k', v') :: insertEntry k v rest

theorem mem_insertEntry {k : String} {v : ν} {l : List (String × ν)} {p : String × ν}
    (h : p ∈ insertEntry k v l) : p = (k, v) ∨ p ∈ l := by
  induction l with
  | nil => simp [insertEntry] at h; exact Or.inl h
  | cons q rest ih =>
    unfold insertEntry at h
    split at h
    · simp at h; rcases h with h | h | h <;> simp [h]
    · split at h
      · simp at h; rcases h with h | h <;> simp [h]
      · simp at h
        rcases h with h | h
        · simp [h]
        · rcases ih h with h' | h' <;> simp [h']

/-- The keys after placing `(k, v)` are `k` and the keys before. -/
theorem mem_keys_insertEntry (k j : String) (v : ν) (l : List (String × ν)) :
    j ∈ (insertEntry k v l).map Prod.fst ↔ j = k ∨ j ∈ l.map Prod.fst := by
  induction l with
  | nil => simp [insertEntry]
  | cons q rest ih =>
    unfold insertEntry
    split
    · simp
    · split
      · -- `k` takes the place of the equal key
        rename_i _ same
        simp [same]
      · simp only [List.map_cons, List.mem_cons, ih]
        exact or_left_comm

theorem ascending_insertEntry (k : String) (v : ν) {l : List (String × ν)}
    (h : Ascending l) : Ascending (insertEntry k v l) := by
  induction l with
  | nil => simp [insertEntry, Ascending]
  | cons q rest ih =>
    obtain ⟨k', v'⟩ := q
    have hq : ∀ p ∈ rest, k' < p.1 := fun p hp => (List.pairwise_cons.1 h).1 p hp
    have hr : Ascending rest := (List.pairwise_cons.1 h).2
    unfold insertEntry
    split
    · rename_i hlt
      refine List.Pairwise.cons ?_ h
      intro p hp
      simp at hp
      rcases hp with hp | hp
      · simp [hp, hlt]
      · exact String.lt_trans hlt (hq p hp)
    · split
      · rename_i _ heq
        subst heq
        exact List.Pairwise.cons (fun p hp => hq p hp) hr
      · rename_i hnlt hne
        have hgt : k' < k := Std.lt_of_le_of_ne hnlt (Ne.symm hne)
        refine List.Pairwise.cons ?_ (ih hr)
        intro p hp
        rcases mem_insertEntry hp with hp | hp
        · simp [hp, hgt]
        · exact hq p hp

/-- Binds `k` to `v`, replacing an earlier binding of `k`. -/
def insert (t : Table ν) (k : String) (v : ν) : Table ν :=
  ⟨insertEntry k v t.entries, ascending_insertEntry k v t.ascending⟩

/-- The value bound to `k`. -/
def find? (t : Table ν) (k : String) : Option ν :=
  (t.entries.find? (fun p => p.1 == k)).map Prod.snd

/-- Whether `k` is bound. -/
def contains (t : Table ν) (k : String) : Bool :=
  t.entries.any (fun p => p.1 == k)

/-- The keys, ascending. -/
def keys (t : Table ν) : List String := t.entries.map Prod.fst

/-- The values, in the order of their keys. -/
def values (t : Table ν) : List ν := t.entries.map Prod.snd

/-- The number of bindings. -/
def size (t : Table ν) : Nat := t.entries.length

/-- Builds a table from bindings in order, a later binding of a key replacing an earlier one. -/
def ofList (l : List (String × ν)) : Table ν :=
  l.foldl (fun t p => t.insert p.1 p.2) empty

/-- Applies `f` to every value. -/
def map (f : ν → μ) (t : Table ν) : Table μ :=
  ⟨t.entries.map (fun p => (p.1, f p.2)), by
    unfold Ascending
    rw [List.pairwise_map]
    exact t.ascending⟩

/-- The bindings whose key and value pass `keep`. -/
def filter (keep : String → ν → Bool) (t : Table ν) : Table ν :=
  ⟨t.entries.filter (fun p => keep p.1 p.2), List.Pairwise.filter _ t.ascending⟩

/-- The value bound to `k`, or `d`. -/
def findD (t : Table ν) (k : String) (d : ν) : ν := (t.find? k).getD d

theorem find?_insertEntry (k j : String) (v : ν) (l : List (String × ν)) :
    ((insertEntry k v l).find? (fun p => p.1 == j)).map Prod.snd =
      if j = k then some v else (l.find? (fun p => p.1 == j)).map Prod.snd := by
  induction l with
  | nil =>
    by_cases h : j = k
    · subst h; simp [insertEntry]
    · simp [insertEntry, Ne.symm h, h]
  | cons q rest ih =>
    obtain ⟨k', v'⟩ := q
    unfold insertEntry
    split
    · by_cases h : j = k
      · subst h; simp
      · simp [Ne.symm h, h]
    · split
      · rename_i _ heq
        subst heq
        by_cases h : j = k
        · subst h; simp
        · simp [Ne.symm h, h]
      · by_cases h : k' = j
        · subst h
          rename_i _ hne
          have hne' : ¬ k' = k := fun e => hne e.symm
          simp [hne']
        · simp [h, ih]

@[simp] theorem find?_insert (t : Table ν) (k j : String) (v : ν) :
    (t.insert k v).find? j = if j = k then some v else t.find? j :=
  find?_insertEntry k j v t.entries

theorem mem_keys_insert (t : Table ν) (k j : String) :
    j ∈ (t.insert k v).keys ↔ j = k ∨ j ∈ t.keys :=
  mem_keys_insertEntry k j v t.entries

end Table

end SlotAllocation
