import SlotAllocation.Proofs.Engine

/-!
# The built-in engine

With deferred acceptance as its matcher the engine never fails: the first result fits the
seats, and the cascade phase finds nothing to do (`cascade_after_stableMatch`), so the
outcome is the first result, possibly filled up by the forced phase (`defaultOutcome_eq`).

1. `runDefault_sound`: every run succeeds with a result that passes both checks, places only
   applicants of the problem, accounts for every applicant, and labels exactly the placed
   applicants, the forced label going to exactly the forced pairs.
2. `cascade_idle_after_matching`: the cascade phase gives back the matcher's result and
   labels nobody.
3. `forced_filling_only_adds`: filling up only adds forced pairs to the result of the run
   without it, and leaves its rank statistics alone.
-/

namespace SlotAllocation

open Pairing

/-! ## 1. The forced phase on a summarized result -/

section ForceStage

variable (prefs : Preferences) (caps : Capacities) (forceFill : Bool) {r1 : Result}

theorem forceStage_summarized (summarized : Summarized prefs r1) :
    Summarized prefs (forceStage prefs caps forceFill r1) := by
  unfold forceStage
  split
  · exact mergeForced_summarized _ _ _
  · exact summarized

/-- The forced record after the phase: the new pairs, and the old records otherwise. -/
theorem forceStage_marks (a : ApplicantId) :
    (forceStage prefs caps forceFill r1).forced.find? a =
      if a ∈ (forceStage prefs caps forceFill r1).pairs.keys ∧ a ∉ r1.pairs.keys then
        (forceStage prefs caps forceFill r1).pairs.find? a
      else r1.forced.find? a := by
  unfold forceStage
  split
  · exact mergeForced_marks _ _ _ a
  · simp

theorem forceStage_countedRanks :
    countedRanks (forceStage prefs caps forceFill r1).pairs
      (forceStage prefs caps forceFill r1).forced prefs = countedRanks r1.pairs r1.forced prefs := by
  unfold forceStage
  split
  · exact countedRanks_mergeForced _ _ _
  · rfl

/-- A pair after the phase was there before, or belongs to a waiting applicant. -/
theorem forceStage_new_pair {a : ApplicantId} {s : SlotId}
    (paired : (forceStage prefs caps forceFill r1).pairs.find? a = some s) :
    r1.pairs.find? a = some s ∨ (a ∉ r1.pairs.keys ∧ a ∈ r1.waiting) := by
  unfold forceStage at paired
  split at paired
  · rcases mergeForced_new_pair _ _ _ paired with old | ⟨fresh, forced⟩
    · exact Or.inl old
    · exact Or.inr ⟨fresh, force_key _ _ _ (Table.mem_keys_iff.mpr ⟨s, forced⟩)⟩
  · exact Or.inl paired

theorem forceStage_known (summarized : Summarized prefs r1)
    (known : ∀ a ∈ r1.pairs.keys, a ∈ prefs.applicants) :
    ∀ a ∈ (forceStage prefs caps forceFill r1).pairs.keys, a ∈ prefs.applicants := by
  intro a placed
  obtain ⟨s, paired⟩ := Table.mem_keys_iff.mp placed
  rcases forceStage_new_pair prefs caps forceFill paired with old | ⟨_, waiting⟩
  · exact known a (Table.mem_keys_iff.mpr ⟨s, old⟩)
  · rw [summarized.waiting, List.mem_filter] at waiting
    exact waiting.1

/-- Forced pairs are recorded as such, so a result that passed the preference check still
passes it. -/
theorem forceStage_preferences (ranked : checkPreferences (some r1) prefs = none) :
    checkPreferences (some (forceStage prefs caps forceFill r1)) prefs = none := by
  rw [checkPreferences_eq_none_iff] at ranked ⊢
  intro a s paired
  rw [forceStage_marks]
  by_cases old : a ∈ r1.pairs.keys
  · -- a pair kept from before: the same slot and the same record as before
    obtain ⟨s', before⟩ := Table.mem_keys_iff.mp old
    have kept := forceStage_extends prefs caps forceFill r1 a s' before
    have same : s' = s := Option.some.inj (kept.symm.trans paired)
    subst same
    simpa [old] using ranked a s' before
  · left
    simp [old, Table.mem_keys_iff.mpr ⟨s, paired⟩, paired]

@[simp] theorem forceStage_false : forceStage prefs caps false r1 = r1 := rfl

theorem forceStage_averageRank (summarized : Summarized prefs r1) :
    (forceStage prefs caps forceFill r1).averageRank = r1.averageRank := by
  rw [(forceStage_summarized prefs caps forceFill summarized).averageRank,
    summarized.averageRank, forceStage_countedRanks]

theorem forceStage_rankDistribution (summarized : Summarized prefs r1) :
    (forceStage prefs caps forceFill r1).rankDistribution = r1.rankDistribution := by
  rw [(forceStage_summarized prefs caps forceFill summarized).rankDistribution,
    summarized.rankDistribution, forceStage_countedRanks]

section Unforced

variable (unforced : r1.forced = Table.empty)
include unforced

/-- On a result without forced pairs, the forced pairs after the phase are exactly its new
pairs. -/
theorem forceStage_forced_keys (a : ApplicantId) :
    a ∈ (forceStage prefs caps forceFill r1).forced.keys ↔
      a ∈ (forceStage prefs caps forceFill r1).pairs.keys ∧ a ∉ r1.pairs.keys := by
  rw [Table.mem_keys_iff, forceStage_marks, unforced]
  split
  · rename_i fresh
    exact ⟨fun _ => fresh, fun _ => Table.mem_keys_iff.mp fresh.1⟩
  · rename_i old
    constructor
    · rintro ⟨s, recorded⟩
      simp at recorded
    · intro fresh
      exact absurd fresh old

theorem forceStage_forced_paired {a : ApplicantId} {s : SlotId}
    (recorded : (forceStage prefs caps forceFill r1).forced.find? a = some s) :
    (forceStage prefs caps forceFill r1).pairs.find? a = some s := by
  rw [forceStage_marks, unforced] at recorded
  split at recorded
  · exact recorded
  · simp at recorded

/-- An applicant is placed after the phase exactly when it was placed before or forced. -/
theorem forceStage_contains (a : ApplicantId) :
    (forceStage prefs caps forceFill r1).pairs.contains a =
      (r1.pairs.contains a || (forceStage prefs caps forceFill r1).forced.contains a) := by
  rw [Bool.eq_iff_iff, Bool.or_eq_true, Table.contains_iff, Table.contains_iff,
    Table.contains_iff, forceStage_forced_keys prefs caps forceFill unforced]
  constructor
  · intro placed
    by_cases old : a ∈ r1.pairs.keys
    · exact Or.inl old
    · exact Or.inr ⟨placed, old⟩
  · rintro (old | ⟨placed, _⟩)
    · exact (forceStage_extends prefs caps forceFill r1).keys old
    · exact placed

end Unforced

end ForceStage

/-! ## 2. The outcome of the built-in engine -/

section Default

variable (prefs : Preferences) (caps : Capacities)

theorem stableMatch_preferences : checkPreferences (some (stableMatch prefs caps)) prefs = none :=
  (checkPreferences_eq_none_iff _ prefs).mpr fun _ _ paired =>
    Or.inr (stableMatch_listed prefs caps paired)

theorem cascadeStage_stableMatch :
    cascadeStage prefs caps (stableMatch prefs caps) = stableMatch prefs caps := by
  unfold cascadeStage
  split
  · rfl
  · exact cascade_after_stableMatch prefs caps

theorem runDefault_eq (forceFill : Bool) :
    runDefault prefs caps forceFill =
      .ok (stagedOutcome prefs caps forceFill (stableMatch prefs caps)) :=
  runEngine_of_fits forceFill rfl (stableMatch_withinSeats prefs caps)

/-- The outcome of the built-in engine: the matcher's result, filled up when asked for; the
cascade labels nobody. -/
theorem defaultOutcome_eq (forceFill : Bool) :
    stagedOutcome prefs caps forceFill (stableMatch prefs caps) =
      ⟨forceStage prefs caps forceFill (stableMatch prefs caps),
        (labelNew (labelNew Table.empty (stableMatch prefs caps) .stable).1
          (forceStage prefs caps forceFill (stableMatch prefs caps)) .forced).1,
        (labelNew Table.empty (stableMatch prefs caps) .stable).2, 0,
        (labelNew (labelNew Table.empty (stableMatch prefs caps) .stable).1
          (forceStage prefs caps forceFill (stableMatch prefs caps)) .forced).2⟩ := by
  have idle := labelNew_idle (labelNew Table.empty (stableMatch prefs caps) .stable).1
    (stableMatch prefs caps) .cascade (fun _ => labelNew_labels_placed _ _ _)
  simp only [stagedOutcome, cascadeStage_stableMatch, idle]

theorem defaultOutcome_result (forceFill : Bool) :
    (stagedOutcome prefs caps forceFill (stableMatch prefs caps)).result =
      forceStage prefs caps forceFill (stableMatch prefs caps) := by
  rw [defaultOutcome_eq]

theorem defaultOutcome_cascadeAssigned (forceFill : Bool) :
    (stagedOutcome prefs caps forceFill (stableMatch prefs caps)).cascadeAssigned = 0 := by
  rw [defaultOutcome_eq]

/-- The label of an applicant: stable when the matcher placed it, forced when only the
forced phase did. -/
theorem defaultOutcome_label (forceFill : Bool) (a : ApplicantId) :
    (stagedOutcome prefs caps forceFill (stableMatch prefs caps)).phases.find? a =
      if a ∈ (stableMatch prefs caps).pairs.keys then some .stable
      else if a ∈ (forceStage prefs caps forceFill (stableMatch prefs caps)).pairs.keys then
        some .forced
      else none := by
  rw [defaultOutcome_eq]
  simp only [labelNew_find?, labelNew_keys, Table.keys_empty, List.not_mem_nil, false_or,
    Table.find?_empty]
  by_cases matched : a ∈ (stableMatch prefs caps).pairs.keys
  · simp [matched]
  · simp [matched]

/-! ## 3. What the built-in engine guarantees -/

/-- Every run of the built-in engine succeeds. Its result passes both checks, places only
applicants of the problem and accounts for all of them; the labelled applicants are the
placed ones, the phase counts add up to the number of pairs, and the forced label goes to
exactly the applicants recorded as forced. -/
theorem runDefault_sound (forceFill : Bool) :
    ∃ o, runDefault prefs caps forceFill = .ok o ∧
      checkCapacity (some o.result) caps = none ∧
      checkPreferences (some o.result) prefs = none ∧
      (∀ a ∈ o.result.pairs.keys, a ∈ prefs.applicants) ∧
      o.result.assignedCount + o.result.waiting.length = o.result.total ∧
      o.result.total = prefs.size ∧
      (∀ a, a ∈ o.phases.keys ↔ a ∈ o.result.pairs.keys) ∧
      ((o.stableAssigned + o.cascadeAssigned + o.forcedAssigned : Nat) : Int) =
        o.result.assignedCount ∧
      ∀ a, o.phases.find? a = some .forced ↔ a ∈ o.result.forced.keys := by
  have result := defaultOutcome_result prefs caps forceFill
  have summarized := forceStage_summarized prefs caps forceFill (stableMatch_summarized prefs caps)
  have known := forceStage_known prefs caps forceFill (stableMatch_summarized prefs caps)
    (fun _ => stableMatch_placed_known prefs caps)
  refine ⟨_, runDefault_eq prefs caps forceFill, ?_, ?_, ?_, ?_, ?_,
    stagedOutcome_labelled prefs caps forceFill _, ?_, ?_⟩
  · rw [result, checkCapacity_eq_none_iff]
    exact forceStage_withinSeats prefs caps forceFill (stableMatch_withinSeats prefs caps)
  · rw [result]
    exact forceStage_preferences prefs caps forceFill (stableMatch_preferences prefs caps)
  · rw [result]
    exact known
  · rw [result, summarized.assignedCount, summarized.waiting, summarized.total]
    exact summarize_tally _ prefs known
  · rw [result]
    exact summarized.total
  · rw [stagedOutcome_counts, result, summarized.assignedCount]
  · intro a
    rw [defaultOutcome_label, result,
      forceStage_forced_keys prefs caps forceFill (stableMatch_forced prefs caps)]
    by_cases matched : a ∈ (stableMatch prefs caps).pairs.keys
    · simp [matched]
    · simp [matched]

/-- After deferred acceptance the cascade gives back the very same result, without forced
pairs; so the built-in engine never places or labels anybody in the cascade phase. -/
theorem cascade_idle_after_matching (forceFill : Bool) :
    cascade (some (stableMatch prefs caps)) prefs caps none = stableMatch prefs caps ∧
      (stableMatch prefs caps).forced = Table.empty ∧
      ∃ o, runDefault prefs caps forceFill = .ok o ∧ o.cascadeAssigned = 0 ∧
        ∀ a, o.phases.find? a ≠ some .cascade := by
  refine ⟨cascade_after_stableMatch prefs caps, stableMatch_forced prefs caps, _,
    runDefault_eq prefs caps forceFill, defaultOutcome_cascadeAssigned prefs caps forceFill, ?_⟩
  intro a
  rw [defaultOutcome_label]
  split_ifs <;> simp

/-- Filling up only adds forced pairs to the run without it: they are the new pairs, the
waiting list loses exactly them, the labels and counts of the other phases stay, and so do
the rank statistics. -/
theorem forced_filling_only_adds :
    ∃ o₀ o₁, runDefault prefs caps false = .ok o₀ ∧ runDefault prefs caps true = .ok o₁ ∧
      o₁.result.pairs.Extends o₀.result.pairs ∧
      (∀ a, a ∈ o₁.result.forced.keys ↔ a ∈ o₁.result.pairs.keys ∧ a ∉ o₀.result.pairs.keys) ∧
      (∀ a s, o₁.result.forced.find? a = some s → o₁.result.pairs.find? a = some s) ∧
      o₁.result.waiting = o₀.result.waiting.filter (fun a => !o₁.result.forced.contains a) ∧
      o₁.stableAssigned = o₀.stableAssigned ∧
      o₁.cascadeAssigned = o₀.cascadeAssigned ∧
      (∀ a p, o₀.phases.find? a = some p → o₁.phases.find? a = some p) ∧
      o₁.result.averageRank = o₀.result.averageRank ∧
      o₁.result.rankDistribution = o₀.result.rankDistribution := by
  have unforced := stableMatch_forced prefs caps
  have summarized₀ := stableMatch_summarized prefs caps
  have summarized₁ := forceStage_summarized prefs caps true summarized₀
  refine ⟨_, _, runDefault_eq prefs caps false, runDefault_eq prefs caps true, ?_⟩
  rw [defaultOutcome_result prefs caps false, defaultOutcome_result prefs caps true,
    forceStage_false]
  refine ⟨forceStage_extends prefs caps true _, forceStage_forced_keys prefs caps true unforced,
    fun _ _ => forceStage_forced_paired prefs caps true unforced, ?_, rfl, ?_, ?_,
    forceStage_averageRank prefs caps true summarized₀,
    forceStage_rankDistribution prefs caps true summarized₀⟩
  · -- waiting after filling up: neither placed before nor forced
    rw [summarized₁.waiting, summarized₀.waiting, List.filter_filter]
    refine List.filter_congr fun a _ => ?_
    rw [forceStage_contains prefs caps true unforced, Bool.not_or, Bool.and_comm]
  · rw [defaultOutcome_cascadeAssigned, defaultOutcome_cascadeAssigned]
  · intro a p labelled
    rw [defaultOutcome_label] at labelled ⊢
    by_cases matched : a ∈ (stableMatch prefs caps).pairs.keys
    · simpa [matched] using labelled
    · simp [matched] at labelled

end Default

end SlotAllocation
