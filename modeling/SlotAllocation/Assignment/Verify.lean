import SlotAllocation.Assignment.Basic
import SlotAllocation.Text.Quoted

/-!
# Checking a result

Two checks on a finished result. `checkCapacity` finds the first slot, in ascending order,
that holds more applicants than it has seats. `checkPreferences` finds the first applicant,
in ascending order, whose slot is neither forced on it nor on its own list. A missing result
passes both.
-/

namespace SlotAllocation

/-- Why a result is refused. -/
inductive Violation where
  /-- `slot` holds `holds` applicants but has only `capacity` seats. -/
  | overCapacity (slot : SlotId) (holds : Int) (capacity : Int)
  /-- `applicant` holds `slot`, which it did not rank and was not forced on it. -/
  | unranked (applicant : ApplicantId) (slot : SlotId)

/-- The text of a violation. -/
def Violation.message : Violation → String
  | .overCapacity s n c =>
    let slot := Text.quote s
    s!"assignment: slot capacity exceeded: slot {slot} holds {n}, capacity {c}"
  | .unranked a s =>
    let applicant := Text.quote a
    let slot := Text.quote s
    s!"assignment: slot not in applicant preferences: applicant {applicant} holds {slot}"

/-- The first slot, ascending, holding more applicants than seats. -/
def checkCapacity (r : Option Result) (caps : Capacities) : Option Violation :=
  match r with
  | none => none
  | some r =>
    let counts := r.pairs.counts
    (counts.entries.find? (fun p => decide (caps.seats p.1 < p.2))).map
      (fun p => .overCapacity p.1 p.2 (caps.seats p.1))

/-- The first applicant, ascending, holding a slot it neither ranked nor was forced on. -/
def checkPreferences (r : Option Result) (prefs : Preferences) : Option Violation :=
  match r with
  | none => none
  | some r =>
    (r.pairs.entries.find? (fun p =>
      !(r.forced.find? p.1 == some p.2) && prefs.rank p.1 p.2 == 0)).map
      (fun p => .unranked p.1 p.2)

end SlotAllocation
