import SlotAllocation.Assignment.Forced
import SlotAllocation.Proofs.Checks

/-!
# The forced phase

`force` hands out the seats that remain, slot by slot; `mergeForced` adds those pairs for the
applicants still without a slot and records them as forced.

1. `force_load_le`: `force` gives no slot more applicants than the seats it has left, and
   `seatsLeft_le` bounds these by the seats less the count.
2. `mergeForced_extends`, `mergeForced_load_le`: merging keeps every pair and adds at most
   the forced pairs.
3. `mergeForced_marks`: afterwards, exactly the new pairs are recorded as forced, each with
   its slot; the records of applicants placed before are untouched.
4. `countedRanks_mergeForced`: forced pairs never enter the rank statistics, so these stay
   as they were.
-/

namespace SlotAllocation

open Pairing

/-! ## 1. Handing out seats -/

/-- The seats the pool `ss` still offers at `s`. -/
def poolAt (ss : List (SlotId × Nat)) (s : SlotId) : Nat :=
  natSum ((ss.filter (fun p => p.1 == s)).map Prod.snd)

theorem poolAt_cons (s' s : SlotId) (n : Nat) (more : List (SlotId × Nat)) :
    poolAt ((s', n) :: more) s = (if s' = s then n else 0) + poolAt more s := by
  by_cases h : s' = s <;> simp [poolAt, h]

/-- The pool laid out over distinct slots offers each one its own count. -/
theorem poolAt_slots (f : SlotId → Nat) {l : List SlotId} (distinct : l.Nodup) (s : SlotId) :
    poolAt (l.map fun s' => (s', f s')) s = if s ∈ l then f s else 0 := by
  induction l with
  | nil => simp [poolAt]
  | cons s' rest ih =>
    rw [List.nodup_cons] at distinct
    rw [List.map_cons, poolAt_cons, ih distinct.2]
    by_cases h : s' = s
    · subst h
      simp [distinct.1]
    · simp [h, Ne.symm h]

theorem handOut_load_le (out : Pairing) (as : List ApplicantId) (ss : List (SlotId × Nat))
    (s : SlotId) : (handOut out as ss).load s ≤ out.load s + poolAt ss s := by
  fun_induction handOut out as ss with
  | case1 out ss => simp
  | case2 out as => simp
  | case3 out a rest s' n more placed ih =>
    exact ih
  | case4 out a rest s' more placed ih =>
    rw [poolAt_cons] at *
    simpa using ih
  | case5 out a rest s' more placed n ih =>
    have fresh : a ∉ out.keys := fun hk => placed (Table.contains_iff.mpr hk)
    rw [load_insert_of_not_mem s' s fresh, poolAt_cons] at ih
    rw [poolAt_cons]
    by_cases same : s' = s
    · simp only [same, if_true] at ih ⊢
      omega
    · simp only [same, if_false] at ih ⊢
      omega

theorem handOut_new_key (out : Pairing) (as : List ApplicantId) (ss : List (SlotId × Nat))
    {a : ApplicantId} (placed : a ∈ (handOut out as ss).keys) : a ∈ out.keys ∨ a ∈ as := by
  fun_induction handOut out as ss with
  | case1 out ss => exact Or.inl placed
  | case2 out as => exact Or.inl placed
  | case3 out b rest s' n more _ ih =>
    exact (ih placed).imp id (List.mem_cons_of_mem _)
  | case4 out b rest s' more _ ih => exact ih placed
  | case5 out b rest s' more _ n ih =>
    rcases ih placed with inserted | later
    · rcases (Table.mem_keys_insert out b a).mp inserted with rfl | earlier
      · exact Or.inr List.mem_cons_self
      · exact Or.inl earlier
    · exact Or.inr (List.mem_cons_of_mem _ later)

/-- A slot gets at most the seats it has left. -/
theorem force_load_le (waiting : List ApplicantId) (caps : Capacities) (counts : Counts)
    (s : SlotId) : (force waiting caps counts).load s ≤ seatsLeft caps counts s := by
  have pool : poolAt (caps.slots.map fun s' => (s', seatsLeft caps counts s')) s ≤
      seatsLeft caps counts s := by
    rw [poolAt_slots _ (show caps.slots.Nodup from Table.keys_nodup caps)]
    split <;> omega
  have bound := handOut_load_le Table.empty waiting
    (caps.slots.map fun s' => (s', seatsLeft caps counts s')) s
  rw [load_empty, Nat.zero_add] at bound
  exact Nat.le_trans bound pool

theorem force_key (waiting : List ApplicantId) (caps : Capacities) (counts : Counts)
    {a : ApplicantId} (placed : a ∈ (force waiting caps counts).keys) : a ∈ waiting := by
  rcases handOut_new_key _ _ _ placed with none | listed
  · simp at none
  · exact listed

/-- Wrapping to 64 bits leaves a 64-bit word alone. -/
theorem wrap64_of_le {x : Int} (lo : minWord ≤ x) (hi : x ≤ maxWord) : wrap64 x = x := by
  unfold minWord at lo
  unfold maxWord at hi
  exact Int.bmod_eq_of_le (by omega) (by omega)

/-- Once the count fits the seats, the seats left are at most the seats less the count. -/
theorem seatsLeft_le {caps : Capacities} {counts : Counts} {s : SlotId}
    (fits : counts.get s ≤ caps.seats s) :
    (seatsLeft caps counts s : Int) ≤ caps.seats s - counts.get s := by
  -- wrapping to 64 bits never enlarges a non-negative number
  unfold seatsLeft wrap64
  rw [Int.bmod_def]
  split <;> omega

/-! ## 2. Merging the forced pairs -/

/-- One step of `mergeForced`: a pair is added, and recorded as forced, only for an applicant
without a slot. -/
def mergeStep (acc : Pairing × Pairing) (p : ApplicantId × SlotId) : Pairing × Pairing :=
  if acc.1.contains p.1 then acc else (acc.1.insert p.1 p.2, acc.2.insert p.1 p.2)

theorem mergeForced_eq (r : Result) (forced : Pairing) (prefs : Preferences) :
    mergeForced (some r) forced prefs =
      summarize (forced.entries.foldl mergeStep (r.pairs, r.forced)).1
        (forced.entries.foldl mergeStep (r.pairs, r.forced)).2 prefs := rfl

theorem mergeStep_cases (acc : Pairing × Pairing) (p : ApplicantId × SlotId) :
    mergeStep acc p = acc ∨
      (p.1 ∉ acc.1.keys ∧ mergeStep acc p = (acc.1.insert p.1 p.2, acc.2.insert p.1 p.2)) := by
  unfold mergeStep
  by_cases placed : acc.1.contains p.1 = true
  · exact Or.inl (if_pos placed)
  · exact Or.inr ⟨fun hk => placed (Table.contains_iff.mpr hk), if_neg placed⟩

section Fold

theorem mergeFold_extends (l : List (ApplicantId × SlotId)) (acc : Pairing × Pairing) :
    (l.foldl mergeStep acc).1.Extends acc.1 := by
  induction l generalizing acc with
  | nil => exact Extends.refl _
  | cons p rest ih =>
    refine Extends.trans ?_ (ih _)
    rcases mergeStep_cases acc p with same | ⟨fresh, merged⟩
    · rw [same]
      exact Extends.refl _
    · rw [merged]
      intro b t hb
      have hne : b ≠ p.1 := fun e => fresh (e ▸ Table.mem_keys_iff.mpr ⟨t, hb⟩)
      simpa [hne] using hb

theorem mergeFold_load_le (l : List (ApplicantId × SlotId)) (acc : Pairing × Pairing)
    (t : SlotId) : (l.foldl mergeStep acc).1.load t ≤ acc.1.load t + (l.map Prod.snd).count t := by
  induction l generalizing acc with
  | nil => simp
  | cons p rest ih =>
    have step : (mergeStep acc p).1.load t ≤ acc.1.load t + if p.2 == t then 1 else 0 := by
      rcases mergeStep_cases acc p with same | ⟨fresh, merged⟩
      · rw [same]
        omega
      · rw [merged, load_insert_of_not_mem p.2 t fresh]
        by_cases h : p.2 = t <;> simp [h]
    have later := ih (mergeStep acc p)
    rw [List.foldl_cons, List.map_cons, List.count_cons]
    omega

theorem mergeFold_new_pair (l : List (ApplicantId × SlotId)) (acc : Pairing × Pairing)
    {a : ApplicantId} {s : SlotId} (paired : (l.foldl mergeStep acc).1.find? a = some s) :
    acc.1.find? a = some s ∨ (a ∉ acc.1.keys ∧ (a, s) ∈ l) := by
  induction l generalizing acc with
  | nil => exact Or.inl paired
  | cons p rest ih =>
    rcases mergeStep_cases acc p with same | ⟨fresh, merged⟩
    · rw [List.foldl_cons, same] at paired
      exact (ih acc paired).imp id (fun later => ⟨later.1, List.mem_cons_of_mem _ later.2⟩)
    · rw [List.foldl_cons, merged] at paired
      rcases ih _ paired with earlier | later
      · simp only [Table.find?_insert] at earlier
        split at earlier
        · rename_i hap
          cases earlier
          subst hap
          exact Or.inr ⟨fresh, List.mem_cons_self⟩
        · exact Or.inl earlier
      · refine Or.inr ⟨fun hk => later.1 ?_, List.mem_cons_of_mem _ later.2⟩
        exact (Table.mem_keys_insert _ _ _).mpr (Or.inr hk)

/-- After merging, the forced record of an applicant is its new pair when it was placed by
the merge, and its old record otherwise. -/
theorem mergeFold_marks (l : List (ApplicantId × SlotId)) (acc : Pairing × Pairing)
    (a : ApplicantId) :
    (l.foldl mergeStep acc).2.find? a =
      if a ∈ (l.foldl mergeStep acc).1.keys ∧ a ∉ acc.1.keys then
        (l.foldl mergeStep acc).1.find? a
      else acc.2.find? a := by
  induction l generalizing acc with
  | nil => simp
  | cons p rest ih =>
    obtain ⟨k, v⟩ := p
    rw [List.foldl_cons, ih]
    rcases mergeStep_cases acc (k, v) with same | ⟨fresh, merged⟩
    · rw [same]
    rw [merged]
    have kept := mergeFold_extends rest (acc.1.insert k v, acc.2.insert k v)
    by_cases hak : a = k
    · subst hak
      -- the merge placed `a` itself, with slot `v`, which the later steps keep
      have own : (acc.1.insert a v).find? a = some v := by simp
      have ownKey : a ∈ (acc.1.insert a v).keys := Table.mem_keys_iff.mpr ⟨_, own⟩
      have later := kept a v own
      simp [ownKey, kept.keys ownKey, fresh, later]
    · simp [Table.mem_keys_insert, hak]

/-- Merging a pair recorded as forced keeps the ranks that count. -/
theorem countedRanks_insert_forced {m forced : Pairing} {a : ApplicantId} (s : SlotId)
    (prefs : Preferences) (fresh : a ∉ m.keys) :
    countedRanks (m.insert a s) (forced.insert a s) prefs = countedRanks m forced prefs := by
  unfold countedRanks
  rw [Table.filterMap_insert_of_not_mem _ fresh (by simp)]
  apply List.filterMap_congr
  intro p hp
  have hne : p.1 ≠ a := fun e => fresh (e ▸ List.mem_map_of_mem hp)
  simp [hne]

theorem mergeFold_countedRanks (l : List (ApplicantId × SlotId)) (acc : Pairing × Pairing)
    (prefs : Preferences) :
    countedRanks (l.foldl mergeStep acc).1 (l.foldl mergeStep acc).2 prefs =
      countedRanks acc.1 acc.2 prefs := by
  induction l generalizing acc with
  | nil => rfl
  | cons p rest ih =>
    rw [List.foldl_cons, ih]
    rcases mergeStep_cases acc p with same | ⟨fresh, merged⟩
    · rw [same]
    · rw [merged]
      exact countedRanks_insert_forced p.2 prefs fresh

end Fold

/-! ## 3. The merged result -/

section Merged

variable (r : Result) (forced : Pairing) (prefs : Preferences)

theorem mergeForced_summarized : Summarized prefs (mergeForced (some r) forced prefs) := rfl

theorem mergeForced_extends : (mergeForced (some r) forced prefs).pairs.Extends r.pairs := by
  rw [mergeForced_eq, summarize_pairs]
  exact mergeFold_extends _ _

theorem mergeForced_load_le (t : SlotId) :
    (mergeForced (some r) forced prefs).pairs.load t ≤ r.pairs.load t + forced.load t := by
  rw [mergeForced_eq, summarize_pairs]
  exact mergeFold_load_le _ _ t

theorem mergeForced_new_pair {a : ApplicantId} {s : SlotId}
    (paired : (mergeForced (some r) forced prefs).pairs.find? a = some s) :
    r.pairs.find? a = some s ∨ (a ∉ r.pairs.keys ∧ forced.find? a = some s) := by
  rw [mergeForced_eq, summarize_pairs] at paired
  rcases mergeFold_new_pair _ _ paired with earlier | ⟨fresh, listed⟩
  · exact Or.inl earlier
  · exact Or.inr ⟨fresh, Table.find?_eq_some_iff.mpr listed⟩

theorem mergeForced_marks (a : ApplicantId) :
    (mergeForced (some r) forced prefs).forced.find? a =
      if a ∈ (mergeForced (some r) forced prefs).pairs.keys ∧ a ∉ r.pairs.keys then
        (mergeForced (some r) forced prefs).pairs.find? a
      else r.forced.find? a := by
  rw [mergeForced_eq, summarize_pairs, summarize_forced]
  exact mergeFold_marks _ _ a

theorem countedRanks_mergeForced :
    countedRanks (mergeForced (some r) forced prefs).pairs
      (mergeForced (some r) forced prefs).forced prefs = countedRanks r.pairs r.forced prefs := by
  rw [mergeForced_eq, summarize_pairs, summarize_forced]
  exact mergeFold_countedRanks _ _ prefs

end Merged

end SlotAllocation
