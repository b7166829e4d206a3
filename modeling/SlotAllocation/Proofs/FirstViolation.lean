import SlotAllocation.Proofs.Checks

/-!
# The checks report the first violation

The two checks on a result pass exactly the valid results, and on any other result name the
violation with the least key. Both walk a table in ascending key order and stop at the first
entry that fails, so this is one fact about tables (`Table.find?_entries_least`) read twice:

1. `checkCapacity_first_violation`: a result with a slot over its seats is refused for the
   byte-wise least such slot, reported with its load and its seats.
2. `checkPreferences_first_violation`: a result with a pair that is neither forced nor ranked
   is refused for the byte-wise least such applicant, reported with its slot.
3. `checks_accept_exactly_valid`: both checks together, on a present or missing result.
-/

namespace SlotAllocation

namespace Table

variable {ν : Type}

/-- A search over a table's entries visits the keys in ascending order, so the entry it finds
has the least key of all entries that pass. -/
theorem find?_entries_least {t : Table ν} {f : String × ν → Bool} {p : String × ν}
    (found : t.entries.find? f = some p) :
    p ∈ t.entries ∧ f p = true ∧ ∀ q ∈ t.entries, f q = true → p.1 ≤ q.1 := by
  obtain ⟨passes, before, after, split, skipped⟩ := List.find?_eq_some_iff_append.mp found
  have ascending : Ascending (before ++ p :: after) := split ▸ t.ascending
  refine ⟨split ▸ List.mem_append_right _ List.mem_cons_self, passes, ?_⟩
  intro q listed passesToo
  rw [split] at listed
  rcases List.mem_append.mp listed with earlier | later
  · -- every entry before the one found fails the search
    have fails := skipped q earlier
    simp [passesToo] at fails
  · rcases List.mem_cons.mp later with rfl | beyond
    · exact String.le_refl _
    · have below : p.1 < q.1 := (List.pairwise_cons.mp (List.pairwise_append.mp ascending).2.1).1 q beyond
      exact String.not_lt.mp fun above => String.lt_irrefl _ (String.lt_trans below above)

end Table

namespace Pairing

/-- A count recorded for a slot is its load. -/
theorem counts_find?_load {m : Pairing} {s : SlotId} {n : Int} (recorded : m.counts.find? s = some n) :
    n = m.load s := by
  have get := counts_get m s
  simp only [Counts.get, Table.findD, recorded, Option.getD_some] at get
  exact get

/-- A slot somebody holds is recorded with its load. -/
theorem counts_find?_of_pos {m : Pairing} {s : SlotId} (held : 0 < m.load s) :
    m.counts.find? s = some (m.load s : Int) := by
  cases recorded : m.counts.find? s with
  | none =>
    have get := counts_get m s
    simp only [Counts.get, Table.findD, recorded, Option.getD_none] at get
    omega
  | some n => rw [counts_find?_load recorded]

end Pairing

open Pairing

theorem checkCapacity_first_violation (r : Result) (caps : Capacities)
    (exceeding : ∃ s, caps.seats s < r.pairs.load s) :
    ∃ s, checkCapacity (some r) caps = some (.overCapacity s (r.pairs.load s) (caps.seats s)) ∧
      caps.seats s < r.pairs.load s ∧ ∀ t, caps.seats t < r.pairs.load t → s ≤ t := by
  cases found : r.pairs.counts.entries.find? (fun p => decide (caps.seats p.1 < p.2)) with
  | none =>
    have passes : checkCapacity (some r) caps = none := by simp [checkCapacity, found]
    obtain ⟨s, exceeds⟩ := exceeding
    have fits := (checkCapacity_eq_none_iff r caps).mp passes s
    omega
  | some p =>
    obtain ⟨listed, exceeds, least⟩ := Table.find?_entries_least found
    have load := counts_find?_load (Table.find?_eq_some_iff.mpr listed)
    refine ⟨p.1, by simp [checkCapacity, found, load], by simpa [load] using exceeds, ?_⟩
    intro t exceedsT
    -- a slot over its seats holds somebody, so the counts list it
    have held : 0 < r.pairs.load t := by
      have := Capacities.seats_nonneg caps t
      omega
    exact least (t, _) (Table.find?_eq_some_iff.mp (counts_find?_of_pos held)) (by simpa using exceedsT)

theorem checkPreferences_first_violation (r : Result) (prefs : Preferences)
    (unranked : ∃ a s, r.pairs.find? a = some s ∧ r.forced.find? a ≠ some s ∧ prefs.rank a s = 0) :
    ∃ a s, checkPreferences (some r) prefs = some (.unranked a s) ∧
      r.pairs.find? a = some s ∧ r.forced.find? a ≠ some s ∧ prefs.rank a s = 0 ∧
      ∀ b t, r.pairs.find? b = some t → r.forced.find? b ≠ some t → prefs.rank b t = 0 → a ≤ b := by
  cases found : r.pairs.entries.find? (fun p =>
      !(r.forced.find? p.1 == some p.2) && prefs.rank p.1 p.2 == 0) with
  | none =>
    obtain ⟨a, s, paired, notForced, notRanked⟩ := unranked
    have fails := List.find?_eq_none.mp found (a, s) (Table.find?_eq_some_iff.mp paired)
    simp [notForced, notRanked] at fails
  | some p =>
    obtain ⟨listed, fails, least⟩ := Table.find?_entries_least found
    simp only [Bool.and_eq_true, Bool.not_eq_true', beq_eq_false_iff_ne, beq_iff_eq] at fails
    refine ⟨p.1, p.2, by simp [checkPreferences, found], Table.find?_eq_some_iff.mpr listed,
      fails.1, fails.2, ?_⟩
    intro b t paired notForced notRanked
    exact least (b, t) (Table.find?_eq_some_iff.mp paired) (by simp [notForced, notRanked])

/-- The capacity check passes exactly the missing result and the results within every slot's
seats, and refuses any other for its least slot over its seats; the preference check passes
exactly the missing result and the results whose every pair is forced or ranked, and refuses
any other for its least applicant holding a slot it neither ranked nor was forced on. -/
theorem checks_accept_exactly_valid (r : Option Result) (caps : Capacities) (prefs : Preferences) :
    (checkCapacity r caps = none ↔
      ∀ res, r = some res → ∀ s, (res.pairs.load s : Int) ≤ caps.seats s) ∧
    (∀ res, r = some res → (∃ s, caps.seats s < res.pairs.load s) →
      ∃ s, checkCapacity r caps = some (.overCapacity s (res.pairs.load s) (caps.seats s)) ∧
        caps.seats s < res.pairs.load s ∧ ∀ t, caps.seats t < res.pairs.load t → s ≤ t) ∧
    (checkPreferences r prefs = none ↔
      ∀ res, r = some res → ∀ a s, res.pairs.find? a = some s → res.forced.find? a ≠ some s →
        0 < prefs.rank a s) ∧
    (∀ res, r = some res →
      (∃ a s, res.pairs.find? a = some s ∧ res.forced.find? a ≠ some s ∧ prefs.rank a s = 0) →
      ∃ a s, checkPreferences r prefs = some (.unranked a s) ∧
        res.pairs.find? a = some s ∧ res.forced.find? a ≠ some s ∧ prefs.rank a s = 0 ∧
        ∀ b t, res.pairs.find? b = some t → res.forced.find? b ≠ some t → prefs.rank b t = 0 →
          a ≤ b) := by
  cases r with
  | none => simp [checkCapacity, checkPreferences]
  | some res =>
    refine ⟨?capacity, ?overCapacity, ?preferences, ?unranked⟩
    case capacity =>
      simpa [WithinSeats] using checkCapacity_eq_none_iff res caps
    case overCapacity =>
      rintro _ ⟨⟩ exceeding
      exact checkCapacity_first_violation res caps exceeding
    case preferences =>
      simp only [checkPreferences_eq_none_iff, Option.some.injEq, forall_eq']
      constructor
      · intro valid a s paired notForced
        rcases valid a s paired with forced | listed
        · exact absurd forced notForced
        · exact (rankIn_pos_iff _ _).mpr listed
      · intro valid a s paired
        by_cases forced : res.forced.find? a = some s
        · exact Or.inl forced
        · exact Or.inr ((rankIn_pos_iff _ _).mp (valid a s paired forced))
    case unranked =>
      rintro _ ⟨⟩ unranked
      exact checkPreferences_first_violation res prefs unranked

end SlotAllocation
