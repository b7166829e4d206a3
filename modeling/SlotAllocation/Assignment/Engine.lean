import SlotAllocation.Assignment.Matching
import SlotAllocation.Assignment.Cascade
import SlotAllocation.Assignment.Forced
import SlotAllocation.Assignment.Verify

/-!
# The three-phase engine

A run first asks a matcher for the stable phase and checks its result against the seats.
While applicants wait, the cascade phase places them greedily; with forced filling on and
applicants still waiting, the forced phase hands out the remaining seats. Each phase's
result is checked against the seats, and every applicant is labelled with the phase that
first placed it.
-/

namespace SlotAllocation

/-- The phase that placed an applicant. -/
inductive Phase where
  | stable
  | cascade
  | forced
deriving DecidableEq, Repr

/-- The name of a phase, as stored and reported. -/
def Phase.name : Phase → String
  | .stable => "stable"
  | .cascade => "cascade"
  | .forced => "forced"

/-- Reads a phase name. -/
def Phase.ofName? : String → Option Phase
  | "stable" => some .stable
  | "cascade" => some .cascade
  | "forced" => some .forced
  | _ => none

/-- Produces the stable phase; `none` stands for a matcher that returned no result. -/
abbrev Matcher := Preferences → Capacities → Option Result

/-- The built-in matcher: deferred acceptance. -/
def stableMatcher : Matcher := fun prefs caps => some (stableMatch prefs caps)

/-- The final result, who was placed in which phase, and how many each phase placed. -/
structure Outcome where
  result : Result
  phases : Table Phase
  stableAssigned : Nat
  cascadeAssigned : Nat
  forcedAssigned : Nat

/-- Why a run fails. -/
inductive RunError where
  /-- There is no matcher. -/
  | unavailable
  /-- The matcher gave no result. -/
  | noResult
  /-- The result of `phase` exceeds a slot's seats. -/
  | overCapacity (phase : Phase) (v : Violation)

/-- The text of a run error. -/
def RunError.message : RunError → String
  | .unavailable => "assignment: stable matcher unavailable"
  | .noResult => "assignment: stable matcher unavailable: matcher returned no result"
  | .overCapacity p v => p.name ++ " phase: " ++ v.message

/-- Labels the applicants of `r` not labelled yet with `phase`, counting them. -/
def labelNew (phases : Table Phase) (r : Result) (phase : Phase) : Table Phase × Nat :=
  r.pairs.keys.foldl (fun acc a =>
    if acc.1.contains a then acc else (acc.1.insert a phase, acc.2 + 1)) (phases, 0)

/-- Fails with the phase's error when `r` exceeds a slot's seats. -/
def requireSeats (phase : Phase) (r : Result) (caps : Capacities) : Except RunError Unit :=
  match checkCapacity (some r) caps with
  | some v => .error (.overCapacity phase v)
  | none => .ok ()

/-- Runs the phases with `matcher` (none when the engine has no matcher). -/
def runEngine (matcher : Option Matcher) (prefs : Preferences) (caps : Capacities)
    (forceFill : Bool) : Except RunError Outcome := do
  let some m := matcher | .error .unavailable
  let some r0 := m prefs caps | .error .noResult
  requireSeats .stable r0 caps
  let (phases, stableN) := labelNew Table.empty r0 .stable
  let (r1, phases, cascadeN) ←
    if r0.waiting.isEmpty then pure (r0, phases, 0)
    else
      let r1 := cascade (some r0) prefs caps none
      requireSeats .cascade r1 caps
      let (phases, n) := labelNew phases r1 .cascade
      pure (r1, phases, n)
  let (r2, phases, forcedN) ←
    if forceFill && !r1.waiting.isEmpty then
      let f := force r1.waiting caps r1.pairs.counts
      let r2 := mergeForced (some r1) f prefs
      requireSeats .forced r2 caps
      let (phases, n) := labelNew phases r2 .forced
      pure (r2, phases, n)
    else pure (r1, phases, 0)
  pure ⟨r2, phases, stableN, cascadeN, forcedN⟩

/-- The engine with the built-in matcher. -/
def runDefault (prefs : Preferences) (caps : Capacities) (forceFill : Bool) :
    Except RunError Outcome :=
  runEngine (some stableMatcher) prefs caps forceFill

end SlotAllocation
