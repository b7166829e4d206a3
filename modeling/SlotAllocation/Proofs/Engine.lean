import SlotAllocation.Assignment.Engine
import SlotAllocation.Proofs.Cascade
import SlotAllocation.Proofs.Forced

/-!
# The engine

A run asks the matcher for a first result and checks it against the seats; the cascade
phase runs while applicants wait, and the forced phase when it is asked for and applicants
still wait. Each phase labels the applicants it placed first.

`stagedOutcome` is what the phases compute from a first result; `runEngine_of_fits` shows
that a run whose first result fits the seats returns exactly that, since the later checks
cannot fail, and `runEngine_of_exceeds` that any other run fails at the first check. The
main statements:

1. `runEngine_outcome_or_stable_failure`: for every matcher, a run fails exactly when the
   matcher's result exceeds a slot's seats, and then with the error of the stable phase.
   Otherwise the final pairs keep the matcher's pairs, the labelled applicants are the
   placed ones, and the phase counts add up to the number of pairs.

Section 4 runs two matchers whose results are at odds with one problem: one overfills a
slot and fails at the stable phase, the other places an unknown applicant and lists waiting
applicants wrongly, and its run goes through the cascade and the forced phase.
-/

namespace SlotAllocation

open Pairing

/-! ## 1. Labelling the applicants a phase placed -/

/-- One step of `labelNew`: an applicant without a label gets `phase` and is counted. -/
def labelStep (phase : Phase) (acc : Table Phase × Nat) (a : ApplicantId) : Table Phase × Nat :=
  if acc.1.contains a then acc else (acc.1.insert a phase, acc.2 + 1)

theorem labelNew_eq (phases : Table Phase) (r : Result) (phase : Phase) :
    labelNew phases r phase = r.pairs.keys.foldl (labelStep phase) (phases, 0) := rfl

theorem labelStep_cases (phase : Phase) (acc : Table Phase × Nat) (a : ApplicantId) :
    (a ∈ acc.1.keys ∧ labelStep phase acc a = acc) ∨
      (a ∉ acc.1.keys ∧ labelStep phase acc a = (acc.1.insert a phase, acc.2 + 1)) := by
  unfold labelStep
  by_cases labelled : acc.1.contains a = true
  · exact Or.inl ⟨Table.contains_iff.mp labelled, if_pos labelled⟩
  · exact Or.inr ⟨fun hk => labelled (Table.contains_iff.mpr hk), if_neg labelled⟩

section Fold

variable {phase : Phase}

theorem labelFold_keys (l : List ApplicantId) (acc : Table Phase × Nat) (a : ApplicantId) :
    a ∈ (l.foldl (labelStep phase) acc).1.keys ↔ a ∈ acc.1.keys ∨ a ∈ l := by
  induction l generalizing acc with
  | nil => simp
  | cons b rest ih =>
    rw [List.foldl_cons, ih]
    rcases labelStep_cases phase acc b with ⟨labelled, same⟩ | ⟨_, added⟩
    · rw [same]
      by_cases hab : a = b
      · subst hab
        simp [labelled]
      · simp [hab]
    · rw [added, Table.mem_keys_insert]
      simp only [List.mem_cons]
      tauto

theorem labelFold_find? (l : List ApplicantId) (acc : Table Phase × Nat) (a : ApplicantId) :
    (l.foldl (labelStep phase) acc).1.find? a =
      if a ∈ acc.1.keys ∨ a ∉ l then acc.1.find? a else some phase := by
  induction l generalizing acc with
  | nil => simp
  | cons b rest ih =>
    rw [List.foldl_cons, ih]
    rcases labelStep_cases phase acc b with ⟨labelled, same⟩ | ⟨fresh, added⟩
    · rw [same]
      by_cases hab : a = b
      · subst hab
        simp [labelled]
      · simp [hab]
    · simp only [added, Table.mem_keys_insert, Table.find?_insert]
      by_cases hab : a = b
      · subst hab
        simp [fresh]
      · simp [hab]

theorem labelFold_size (phase : Phase) (l : List ApplicantId) (acc : Table Phase × Nat) :
    (l.foldl (labelStep phase) acc).1.size + acc.2 = acc.1.size + (l.foldl (labelStep phase) acc).2 := by
  induction l generalizing acc with
  | nil => simp
  | cons b rest ih =>
    rw [List.foldl_cons]
    rcases labelStep_cases phase acc b with ⟨_, same⟩ | ⟨fresh, added⟩
    · rw [same]
      exact ih acc
    · rw [added]
      have later := ih (acc.1.insert b phase, acc.2 + 1)
      rw [Table.size_insert_of_not_mem phase fresh] at later
      simp only at later
      omega

theorem labelFold_idle (l : List ApplicantId) (acc : Table Phase × Nat)
    (labelled : ∀ a ∈ l, a ∈ acc.1.keys) : l.foldl (labelStep phase) acc = acc := by
  induction l with
  | nil => rfl
  | cons b rest ih =>
    rw [List.foldl_cons]
    rcases labelStep_cases phase acc b with ⟨_, same⟩ | ⟨fresh, _⟩
    · rw [same]
      exact ih (fun a ha => labelled a (List.mem_cons_of_mem _ ha))
    · exact absurd (labelled b List.mem_cons_self) fresh

end Fold

section Label

variable (phases : Table Phase) (r : Result) (phase : Phase)

theorem labelNew_keys (a : ApplicantId) :
    a ∈ (labelNew phases r phase).1.keys ↔ a ∈ phases.keys ∨ a ∈ r.pairs.keys := by
  rw [labelNew_eq]
  exact labelFold_keys _ _ a

theorem labelNew_find? (a : ApplicantId) :
    (labelNew phases r phase).1.find? a =
      if a ∈ phases.keys ∨ a ∉ r.pairs.keys then phases.find? a else some phase := by
  rw [labelNew_eq]
  exact labelFold_find? _ _ a

theorem labelNew_size :
    (labelNew phases r phase).1.size = phases.size + (labelNew phases r phase).2 := by
  have sized := labelFold_size phase r.pairs.keys (phases, 0)
  rw [Nat.add_zero] at sized
  rw [labelNew_eq]
  exact sized

/-- Every applicant the phase's result places carries a label afterwards. -/
theorem labelNew_labels_placed {a : ApplicantId} (placed : a ∈ r.pairs.keys) :
    a ∈ (labelNew phases r phase).1.keys :=
  (labelNew_keys phases r phase a).mpr (Or.inr placed)

/-- A phase that placed nobody new labels nobody. -/
theorem labelNew_idle (labelled : ∀ a ∈ r.pairs.keys, a ∈ phases.keys) :
    labelNew phases r phase = (phases, 0) := by
  rw [labelNew_eq]
  exact labelFold_idle _ _ labelled

end Label

/-! ## 2. The phases after the first result -/

/-- The result after the cascade phase, which runs only while applicants wait. -/
def cascadeStage (prefs : Preferences) (caps : Capacities) (r0 : Result) : Result :=
  if r0.waiting.isEmpty then r0 else cascade (some r0) prefs caps none

/-- The result after the forced phase, which runs only when asked for and applicants wait. -/
def forceStage (prefs : Preferences) (caps : Capacities) (forceFill : Bool) (r1 : Result) :
    Result :=
  if forceFill && !r1.waiting.isEmpty then
    mergeForced (some r1) (force r1.waiting caps r1.pairs.counts) prefs
  else r1

/-- What the phases compute from a first result `r0`, each labelling the applicants it placed
first. -/
def stagedOutcome (prefs : Preferences) (caps : Capacities) (forceFill : Bool) (r0 : Result) :
    Outcome :=
  let r1 := cascadeStage prefs caps r0
  let r2 := forceStage prefs caps forceFill r1
  let l0 := labelNew Table.empty r0 .stable
  let l1 := labelNew l0.1 r1 .cascade
  let l2 := labelNew l1.1 r2 .forced
  ⟨r2, l2.1, l0.2, l1.2, l2.2⟩

section Stages

variable (prefs : Preferences) (caps : Capacities)

theorem cascadeStage_extends (r0 : Result) : (cascadeStage prefs caps r0).pairs.Extends r0.pairs := by
  unfold cascadeStage
  split
  · exact Extends.refl _
  · exact cascade_extends prefs caps r0 none

theorem forceStage_extends (forceFill : Bool) (r1 : Result) :
    (forceStage prefs caps forceFill r1).pairs.Extends r1.pairs := by
  unfold forceStage
  split
  · exact mergeForced_extends _ _ _
  · exact Extends.refl _

/-- The forced pairs only take seats that are left. -/
theorem forceStage_withinSeats (forceFill : Bool) {r1 : Result}
    (fits : r1.pairs.WithinSeats caps) :
    (forceStage prefs caps forceFill r1).pairs.WithinSeats caps := by
  unfold forceStage
  split
  · intro t
    have merged := mergeForced_load_le r1 (force r1.waiting caps r1.pairs.counts) prefs t
    have handed := force_load_le r1.waiting caps r1.pairs.counts t
    have left : (seatsLeft caps r1.pairs.counts t : Int) ≤ caps.seats t - r1.pairs.counts.get t :=
      seatsLeft_le (by rw [counts_get]; exact fits t)
    rw [counts_get] at left
    omega
  · exact fits

end Stages

section Run

variable {m : Matcher} {prefs : Preferences} {caps : Capacities} {r0 : Result}

/-- A run whose first result fits the seats passes every later check and returns what the
phases compute. -/
theorem runEngine_of_fits (forceFill : Bool) (matched : m prefs caps = some r0)
    (fits : r0.pairs.WithinSeats caps) :
    runEngine (some m) prefs caps forceFill = .ok (stagedOutcome prefs caps forceFill r0) := by
  have fits0 := (checkCapacity_eq_none_iff r0 caps).mpr fits
  unfold stagedOutcome cascadeStage forceStage
  by_cases hw : r0.waiting.isEmpty = true
  · -- nobody waits: neither later phase runs, and neither labels anybody
    have idle1 := labelNew_idle (labelNew Table.empty r0 .stable).1 r0 .cascade
      (fun _ => labelNew_labels_placed _ _ _)
    have idle2 := labelNew_idle (labelNew Table.empty r0 .stable).1 r0 .forced
      (fun _ => labelNew_labels_placed _ _ _)
    simp only [runEngine, matched, requireSeats, fits0, hw, if_true, Bool.not_true, Bool.and_false,
      Bool.false_eq_true, if_false, idle1, idle2, Bind.bind, Except.bind, pure, Except.pure]
  · have hw' : r0.waiting.isEmpty = false := by simpa using hw
    have fits1 := cascade_withinSeats prefs caps r0 fits
    have check1 := (checkCapacity_eq_none_iff _ caps).mpr fits1
    by_cases hf : (forceFill && !(cascade (some r0) prefs caps none).waiting.isEmpty) = true
    · have check2 := (checkCapacity_eq_none_iff _ caps).mpr
        (forceStage_withinSeats prefs caps forceFill fits1)
      simp only [forceStage, hf, if_true] at check2
      simp only [runEngine, matched, requireSeats, fits0, hw', check1, check2, hf,
        Bool.false_eq_true, if_true, if_false, Bind.bind, Except.bind, pure, Except.pure]
    · -- the forced phase does not run: the cascade's labels stay
      have idle2 := labelNew_idle (labelNew (labelNew Table.empty r0 .stable).1
        (cascade (some r0) prefs caps none) .cascade).1 (cascade (some r0) prefs caps none) .forced
        (fun _ => labelNew_labels_placed _ _ _)
      simp only [runEngine, matched, requireSeats, fits0, hw', check1, hf, idle2,
        Bool.false_eq_true, if_false, Bind.bind, Except.bind, pure, Except.pure]

/-- A run whose first result exceeds a slot's seats fails with the stable phase's error. -/
theorem runEngine_of_exceeds (forceFill : Bool) {v : Violation} (matched : m prefs caps = some r0)
    (exceeds : checkCapacity (some r0) caps = some v) :
    runEngine (some m) prefs caps forceFill = .error (.overCapacity .stable v) := by
  simp [runEngine, matched, requireSeats, exceeds, Bind.bind, Except.bind]

end Run

/-! ## 3. What every run that succeeds reports -/

section Staged

variable (prefs : Preferences) (caps : Capacities) (forceFill : Bool) (r0 : Result)

/-- The final pairs keep the first result's pairs. -/
theorem stagedOutcome_extends :
    (stagedOutcome prefs caps forceFill r0).result.pairs.Extends r0.pairs :=
  (cascadeStage_extends prefs caps r0).trans (forceStage_extends prefs caps forceFill _)

/-- The labelled applicants are the placed ones. -/
theorem stagedOutcome_labelled (a : ApplicantId) :
    a ∈ (stagedOutcome prefs caps forceFill r0).phases.keys ↔
      a ∈ (stagedOutcome prefs caps forceFill r0).result.pairs.keys := by
  have early := cascadeStage_extends prefs caps r0
  have late := forceStage_extends prefs caps forceFill (cascadeStage prefs caps r0)
  simp only [stagedOutcome, labelNew_keys, Table.keys_empty, List.not_mem_nil, false_or]
  constructor
  · rintro ((first | second) | final)
    · exact late.keys (early.keys first)
    · exact late.keys second
    · exact final
  · exact fun final => Or.inr final

/-- Every placed applicant is counted once, by the phase that placed it first. -/
theorem stagedOutcome_counts :
    (stagedOutcome prefs caps forceFill r0).stableAssigned +
        (stagedOutcome prefs caps forceFill r0).cascadeAssigned +
        (stagedOutcome prefs caps forceFill r0).forcedAssigned =
      (stagedOutcome prefs caps forceFill r0).result.pairs.size := by
  rw [← Table.size_eq_of_keys_iff (stagedOutcome_labelled prefs caps forceFill r0)]
  simp only [stagedOutcome, labelNew_size]
  simp [Table.size]

end Staged

/-- For every matcher, a run fails exactly when the matcher's result exceeds a slot's seats,
and then with the stable phase's error: the checks after the cascade and the forced phase
never fail. A run that succeeds keeps the matcher's pairs, labels exactly the placed
applicants, and its phase counts add up to the number of pairs. -/
theorem runEngine_outcome_or_stable_failure (m : Matcher) (prefs : Preferences)
    (caps : Capacities) (forceFill : Bool) {r : Result} (matched : m prefs caps = some r) :
    (∀ e, runEngine (some m) prefs caps forceFill = .error e ↔
        ∃ v, checkCapacity (some r) caps = some v ∧ e = .overCapacity .stable v) ∧
      ∀ o, runEngine (some m) prefs caps forceFill = .ok o →
        o.result.pairs.Extends r.pairs ∧
        (∀ a, a ∈ o.phases.keys ↔ a ∈ o.result.pairs.keys) ∧
        o.stableAssigned + o.cascadeAssigned + o.forcedAssigned = o.result.pairs.size := by
  cases checked : checkCapacity (some r) caps with
  | some v =>
    have failed := runEngine_of_exceeds forceFill matched checked
    rw [failed]
    refine ⟨fun e => ?_, fun o ran => by cases ran⟩
    constructor
    · intro same
      cases same
      exact ⟨v, rfl, rfl⟩
    · rintro ⟨v', found, rfl⟩
      cases found
      rfl
  | none =>
    have ran := runEngine_of_fits forceFill matched ((checkCapacity_eq_none_iff r caps).mp checked)
    rw [ran]
    refine ⟨fun e => ?_, fun o same => ?_⟩
    · constructor
      · intro failed
        cases failed
      · rintro ⟨v, found, _⟩
        cases found
    · cases same
      exact ⟨stagedOutcome_extends prefs caps forceFill r,
        stagedOutcome_labelled prefs caps forceFill r, stagedOutcome_counts prefs caps forceFill r⟩

/-! ## 4. Two inconsistent matchers on one problem -/

/-- Three applicants: `A` and `C` want only `S`, `B` wants `S` and then `T`. -/
def threeApplicants : Preferences :=
  ((Table.empty.insert "A" ["S"]).insert "B" ["S", "T"]).insert "C" ["S"]

/-- Three slots of one seat each. -/
def threeSeats : Capacities :=
  ((Table.empty.insert "S" 1).insert "T" 1).insert "U" 1

/-- A first result that puts `A` and `B` on the one seat of `S`. -/
def overfullResult : Result :=
  ⟨some ((Table.empty.insert "A" "S").insert "B" "S"), Table.empty, none, 0, 0, none, []⟩

/-- A first result at odds with the problem: it places `X`, who has no preferences, lists
`C` twice and the placed `X` as waiting, and leaves out the unplaced `A`. -/
def strayResult : Result :=
  ⟨some (Table.empty.insert "X" "S"), Table.empty, some ["B", "C", "X", "C"], 0, 0, none, []⟩

/-- The overfull result fails the run with the stable phase's error. The stray one fits the
seats: the cascade places `B` on `T`, the forced phase hands `A` the seat of `U`, and each
phase counts the applicant it placed. -/
theorem inconsistentMatchers_outcome :
    runEngine (some fun _ _ => some overfullResult) threeApplicants threeSeats true =
        .error (.overCapacity .stable (.overCapacity "S" 2 1)) ∧
      ∃ o, runEngine (some fun _ _ => some strayResult) threeApplicants threeSeats true = .ok o ∧
        o.result.pairs.Extends strayResult.pairs ∧
        (∀ a, a ∈ o.phases.keys ↔ a ∈ o.result.pairs.keys) ∧
        o.stableAssigned = 1 ∧ o.cascadeAssigned = 1 ∧ o.forcedAssigned = 1 ∧
        o.result.pairs.size = 3 := by
  have overfull := runEngine_outcome_or_stable_failure (fun _ _ => some overfullResult)
    threeApplicants threeSeats true rfl
  have stray := runEngine_outcome_or_stable_failure (fun _ _ => some strayResult)
    threeApplicants threeSeats true rfl
  have exceeds : checkCapacity (some overfullResult) threeSeats =
      some (.overCapacity "S" 2 1) := rfl
  have counted : (runEngine (some fun _ _ => some strayResult) threeApplicants threeSeats
      true).toOption.map (fun o => (o.stableAssigned, o.cascadeAssigned, o.forcedAssigned,
        o.result.pairs.size)) = some (1, 1, 1, 3) := by
    decide +kernel
  refine ⟨(overfull.1 _).mpr ⟨_, exceeds, rfl⟩, ?_⟩
  cases ran : runEngine (some fun _ _ => some strayResult) threeApplicants threeSeats true with
  | error e =>
    rw [ran] at counted
    cases counted
  | ok o =>
    rw [ran] at counted
    simp only [Except.toOption, Option.map_some, Option.some.injEq, Prod.mk.injEq] at counted
    obtain ⟨kept, labelled, _⟩ := stray.2 o ran
    exact ⟨o, rfl, kept, labelled, counted⟩

end SlotAllocation
