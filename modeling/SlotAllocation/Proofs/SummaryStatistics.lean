import SlotAllocation.Proofs.RunThenVerify

/-!
# What a summary says about its pairs

`summarize assignments forced prefs` is read back here against a definition made of the pairs
themselves. The pairs that count towards the rank statistics (`rankedPairs`) are those not
recorded as forced to their slot whose slot the applicant ranked. Then:

1. the rank histogram records each rank with the number of counted pairs of that rank, and no
   other entry (`mem_histogram_iff`, through `tallyOf_histogram`);
2. the mean rank is the sum of the counted ranks over their number (`countedRanks_eq_map`);
3. the waiting applicants are the applicants without a pair, ascending.

Main statement: `summarize_reference`.
-/

namespace SlotAllocation

/-! ## 1. Histograms of ranks -/

/-- How often histogram `h` records rank `k`: the counts of its entries for `k`, added up. -/
def tallyOf (h : List (Nat × Nat)) (k : Nat) : Nat :=
  natSum ((h.filter fun p => p.1 == k).map Prod.snd)

@[simp] theorem tallyOf_nil (k : Nat) : tallyOf [] k = 0 := rfl

theorem tallyOf_cons (q : Nat × Nat) (h : List (Nat × Nat)) (k : Nat) :
    tallyOf (q :: h) k = (if q.1 = k then q.2 else 0) + tallyOf h k := by
  by_cases same : q.1 = k <;> simp [tallyOf, same]

/-- Tallying `r` adds one occurrence of `r` and leaves every other rank alone. -/
theorem tallyOf_tallyRank (r k : Nat) (h : List (Nat × Nat)) :
    tallyOf (tallyRank r h) k = tallyOf h k + if r = k then 1 else 0 := by
  induction h with
  | nil => by_cases same : r = k <;> simp [tallyRank, tallyOf_cons, same]
  | cons q rest ih =>
    obtain ⟨j, n⟩ := q
    unfold tallyRank
    by_cases below : r < j
    · rw [if_pos below]
      simp only [tallyOf_cons]
      split_ifs <;> omega
    · rw [if_neg below]
      by_cases same : r = j
      · subst same
        rw [if_pos rfl]
        simp only [tallyOf_cons]
        split_ifs <;> omega
      · rw [if_neg same]
        simp only [tallyOf_cons, ih]
        split_ifs <;> omega

/-- Tallying keeps every recorded count positive. -/
theorem tallyRank_pos (r : Nat) {h : List (Nat × Nat)} (positive : ∀ p ∈ h, 0 < p.2) :
    ∀ p ∈ tallyRank r h, 0 < p.2 := by
  induction h with
  | nil => simp [tallyRank]
  | cons q rest ih =>
    obtain ⟨j, n⟩ := q
    have head : 0 < n := positive (j, n) List.mem_cons_self
    have tail : ∀ p ∈ rest, 0 < p.2 := fun p listed => positive p (List.mem_cons_of_mem _ listed)
    unfold tallyRank
    split_ifs
    · exact List.forall_mem_cons.mpr ⟨Nat.one_pos, positive⟩
    · exact List.forall_mem_cons.mpr ⟨Nat.succ_pos n, tail⟩
    · exact List.forall_mem_cons.mpr ⟨head, ih tail⟩

theorem foldl_tallyRank_tallyOf (rs : List Nat) (h : List (Nat × Nat)) (k : Nat) :
    tallyOf (rs.foldl (fun h r => tallyRank r h) h) k = tallyOf h k + rs.count k := by
  induction rs generalizing h with
  | nil => simp
  | cons r rest ih =>
    rw [List.foldl_cons, ih, tallyOf_tallyRank, List.count_cons]
    simp only [beq_iff_eq]
    split_ifs <;> omega

theorem foldl_tallyRank_pos (rs : List Nat) {h : List (Nat × Nat)} (positive : ∀ p ∈ h, 0 < p.2) :
    ∀ p ∈ rs.foldl (fun h r => tallyRank r h) h, 0 < p.2 := by
  induction rs generalizing h with
  | nil => exact positive
  | cons r rest ih => exact ih (tallyRank_pos r positive)

theorem tallyOf_histogram (rs : List Nat) (k : Nat) : tallyOf (histogram rs) k = rs.count k := by
  unfold histogram
  rw [foldl_tallyRank_tallyOf, tallyOf_nil, Nat.zero_add]

/-- In a list ascending by key, the entries with the key of a listed entry are that entry. -/
theorem filter_key_of_ascending {h : List (Nat × Nat)} (ascending : (h.map Prod.fst).Pairwise (· < ·))
    {k n : Nat} (listed : (k, n) ∈ h) : h.filter (fun p => p.1 == k) = [(k, n)] := by
  induction h with
  | nil => cases listed
  | cons q rest ih =>
    simp only [List.map_cons, List.pairwise_cons, List.mem_map, forall_exists_index, and_imp,
      forall_apply_eq_imp_iff₂] at ascending
    have above : ∀ p ∈ rest, q.1 < p.1 := ascending.1
    rcases List.mem_cons.mp listed with rfl | later
    · have none : rest.filter (fun p => p.1 == k) = [] :=
        List.filter_eq_nil_iff.mpr fun p member same => by
          have := above p member
          simp only [beq_iff_eq] at same
          omega
      simp [none]
    · have differ : q.1 ≠ k := Nat.ne_of_lt (above (k, n) later)
      simp [differ, ih ascending.2 later]

/-- A count the histogram records is the number of occurrences of its rank. -/
theorem histogram_count_of_mem {rs : List Nat} {k n : Nat} (listed : (k, n) ∈ histogram rs) :
    n = rs.count k := by
  have tally := tallyOf_histogram rs k
  rw [tallyOf, filter_key_of_ascending (histogram_sorted rs) listed] at tally
  simpa using tally

/-- The histogram records rank `k` with count `n` exactly when `k` occurs `n > 0` times. -/
theorem mem_histogram_iff (rs : List Nat) (k n : Nat) :
    (k, n) ∈ histogram rs ↔ 0 < n ∧ n = rs.count k := by
  have positive := foldl_tallyRank_pos rs (h := []) (by simp)
  constructor
  · intro listed
    exact ⟨positive (k, n) listed, histogram_count_of_mem listed⟩
  · rintro ⟨occurs, rfl⟩
    -- a rank that occurs has an entry, since the entries for it add up to its count
    have entry : ∃ m, (k, m) ∈ histogram rs := by
      by_contra absent
      have none : (histogram rs).filter (fun p => p.1 == k) = [] :=
        List.filter_eq_nil_iff.mpr fun p listed same => by
          simp only [beq_iff_eq] at same
          exact absent ⟨p.2, same ▸ listed⟩
      have tally := tallyOf_histogram rs k
      rw [tallyOf, none] at tally
      simp at tally
      omega
    obtain ⟨m, listed⟩ := entry
    rwa [← histogram_count_of_mem listed]

/-- Counting a rank among whole numbers counts it among naturals. -/
theorem filter_cast_eq (rs : List Nat) (j : Nat) :
    (rs.filter fun r : Nat => (r : Int) = j) = rs.filter (· == j) :=
  List.filter_congr fun r _ => by
    rw [Bool.eq_iff_iff]
    simp only [decide_eq_true_eq, beq_iff_eq, Int.ofNat_inj]

/-- Written with whole numbers, as a result holds it, the histogram still records each rank
with its number of occurrences and nothing else. -/
theorem mem_histogram_cast_iff (rs : List Nat) (k n : Int) :
    (k, n) ∈ (histogram rs).map (fun p => ((p.1 : Int), (p.2 : Int))) ↔
      0 < n ∧ n = (rs.filter fun r : Nat => (r : Int) = k).length := by
  simp only [List.mem_map, Prod.mk.injEq, Prod.exists]
  constructor
  · rintro ⟨j, m, listed, rfl, rfl⟩
    obtain ⟨occurs, count⟩ := (mem_histogram_iff rs j m).mp listed
    refine ⟨by exact_mod_cast occurs, ?_⟩
    rw [count, List.count_eq_countP, List.countP_eq_length_filter, filter_cast_eq]
  · rintro ⟨occurs, count⟩
    -- a rank with a positive count is a whole number
    obtain ⟨j, rfl⟩ : ∃ j : Nat, k = j := by
      obtain ⟨r, listed⟩ := List.exists_mem_of_length_pos
        (by omega : 0 < (rs.filter fun r : Nat => (r : Int) = k).length)
      exact ⟨r, (by simpa using (List.mem_filter.mp listed).2 : (r : Int) = k).symm⟩
    refine ⟨j, (rs.filter fun r : Nat => (r : Int) = j).length, ?_, rfl, count.symm⟩
    refine (mem_histogram_iff rs j _).mpr ⟨by omega, ?_⟩
    rw [List.count_eq_countP, List.countP_eq_length_filter, filter_cast_eq]

/-- Adding up the counts commutes with writing them as whole numbers. -/
theorem foldr_add_cast (h : List (Nat × Nat)) :
    ((h.map (fun p => ((p.1 : Int), (p.2 : Int)))).map Prod.snd).foldr (· + ·) 0 =
      (natSum (h.map Prod.snd) : Int) := by
  induction h with
  | nil => rfl
  | cons q rest ih => simp only [List.map_cons, List.foldr_cons, natSum_cons, ih, Int.natCast_add]

/-- The counts of a histogram, as whole numbers, add up to the number of ranks. -/
theorem histogram_cast_sum (rs : List Nat) :
    (((histogram rs).map (fun p => ((p.1 : Int), (p.2 : Int)))).map Prod.snd).foldr (· + ·) 0 =
      (rs.length : Int) := by
  have sum := (foldl_tallyRank rs [] List.Pairwise.nil).2.1
  simp only [List.map_nil, natSum_nil, Nat.zero_add] at sum
  rw [foldr_add_cast, histogram, sum]

/-! ## 2. The counted pairs -/

/-- The pairs of `assignments` that count towards the rank statistics: not recorded in
`forced` with that slot, and ranked by their applicant. -/
def rankedPairs (assignments forced : Pairing) (prefs : Preferences) : List (ApplicantId × SlotId) :=
  assignments.entries.filter fun p => forced.find? p.1 != some p.2 && 0 < prefs.rank p.1 p.2

/-- The counted ranks are the ranks of the counted pairs. -/
theorem countedRanks_eq_map (assignments forced : Pairing) (prefs : Preferences) :
    countedRanks assignments forced prefs =
      (rankedPairs assignments forced prefs).map fun p => prefs.rank p.1 p.2 := by
  unfold countedRanks rankedPairs
  induction assignments.entries with
  | nil => rfl
  | cons p rest ih =>
    by_cases forcedHere : forced.find? p.1 = some p.2
    · simp [forcedHere, ih]
    · by_cases unranked : prefs.rank p.1 p.2 = 0
      · simp [forcedHere, unranked, ih]
      · simp [forcedHere, unranked, Nat.pos_of_ne_zero unranked, ih]

/-! ## 3. The summary -/

section Summary

variable (m forced : Pairing) (prefs : Preferences)

theorem summarize_averageRank :
    (summarize m forced prefs).averageRank =
      if rankedPairs m forced prefs = [] then none
      else some (Float.ofNat (natSum ((rankedPairs m forced prefs).map fun p => prefs.rank p.1 p.2)) /
        Float.ofNat (rankedPairs m forced prefs).length) := by
  simp only [summarize, meanRank, countedRanks_eq_map, List.isEmpty_iff, List.map_eq_nil_iff,
    List.length_map]

theorem mem_summarize_rankDistribution (k n : Int) :
    (k, n) ∈ (summarize m forced prefs).rankDistribution ↔
      0 < n ∧ n = ((rankedPairs m forced prefs).filter fun p => (prefs.rank p.1 p.2 : Int) = k).length := by
  simp only [summarize]
  rw [mem_histogram_cast_iff, countedRanks_eq_map, List.filter_map, List.length_map]
  rfl

/-- The waiting applicants are the applicants without a pair, ascending. -/
theorem summarize_unassigned_ascending :
    ∃ u, (summarize m forced prefs).unassigned = some u ∧
      (∀ a, a ∈ u ↔ a ∈ prefs.keys ∧ a ∉ m.keys) ∧ u.Pairwise (· < ·) := by
  refine ⟨_, rfl, fun a => ?_, ?_⟩
  · simp [Preferences.applicants, ← Table.contains_iff]
  · exact (List.pairwise_map.mpr prefs.ascending).filter _

/-- A summary describes its pairs as their reference definition does: the pairs, their number
and the problem's size as given; the forced pairs as given; a histogram recording each rank
with the number of counted pairs of that rank (empty without counted pairs, ascending, its
counts adding up to the counted pairs); the mean of the counted ranks; and the applicants
without a pair, ascending. -/
theorem summarize_reference :
    (summarize m forced prefs).assignments = some m ∧
    (summarize m forced prefs).assignedCount = m.size ∧
    (summarize m forced prefs).total = prefs.size ∧
    (summarize m forced prefs).forced = forced ∧
    (∀ k n : Int, (k, n) ∈ (summarize m forced prefs).rankDistribution ↔
      0 < n ∧ n = ((rankedPairs m forced prefs).filter fun p => (prefs.rank p.1 p.2 : Int) = k).length) ∧
    (rankedPairs m forced prefs = [] → (summarize m forced prefs).rankDistribution = []) ∧
    ((summarize m forced prefs).rankDistribution.map Prod.fst).Pairwise (· < ·) ∧
    ((summarize m forced prefs).rankDistribution.map Prod.snd).foldr (· + ·) 0 =
      ((rankedPairs m forced prefs).length : Int) ∧
    (summarize m forced prefs).averageRank =
      (if rankedPairs m forced prefs = [] then none
       else some (Float.ofNat (natSum ((rankedPairs m forced prefs).map fun p => prefs.rank p.1 p.2)) /
         Float.ofNat (rankedPairs m forced prefs).length)) ∧
    ∃ u, (summarize m forced prefs).unassigned = some u ∧
      (∀ a, a ∈ u ↔ a ∈ prefs.keys ∧ a ∉ m.keys) ∧ u.Pairwise (· < ·) := by
  refine ⟨rfl, rfl, rfl, rfl, mem_summarize_rankDistribution m forced prefs, ?empty, ?ascending,
    ?sum, summarize_averageRank m forced prefs, summarize_unassigned_ascending m forced prefs⟩
  case empty =>
    intro nothing
    apply List.eq_nil_iff_forall_not_mem.mpr
    rintro ⟨k, n⟩ listed
    have counted := (mem_summarize_rankDistribution m forced prefs k n).mp listed
    simp [nothing] at counted
    omega
  case ascending =>
    simp only [summarize, List.map_map]
    have sorted := histogram_sorted (countedRanks m forced prefs)
    rw [List.pairwise_map] at sorted ⊢
    exact sorted.imp fun below => by simpa using below
  case sum =>
    simp only [summarize]
    rw [histogram_cast_sum, countedRanks_eq_map, List.length_map]

end Summary

end SlotAllocation
