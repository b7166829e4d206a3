import SlotAllocation.Validation.Verdict
import SlotAllocation.Assignment.Document

/-!
# Rules on problems

A problem is valid when both tables are present, every applicant and slot identifier is
non-empty, every ranked slot is non-empty (a null list passes) and every capacity is at least
zero. Issues name the field as `Problem.Preferences[applicant][position]` or
`Problem.Capacities[slot]`; a failed rule is reported as `failed on the '<rule>' rule` with
the rule's name upper-cased as code.
-/

namespace SlotAllocation

/-- The issues of the preference table. -/
def preferenceIssues (p : Preferences) : List Issue :=
  p.entries.flatMap fun (a, slots) =>
    let field := "Problem.Preferences[" ++ a ++ "]"
    (if a.isEmpty then [ruleIssue field "required"] else []) ++
    (slots.zipIdx.filterMap fun (s, i) =>
      if s.isEmpty then some (ruleIssue (field ++ "[" ++ toString i ++ "]") "required") else none)

/-- The issues of the capacity table. -/
def capacityIssues (c : Capacities) : List Issue :=
  c.entries.flatMap fun (s, n) =>
    let field := "Problem.Capacities[" ++ s ++ "]"
    (if s.isEmpty then [ruleIssue field "required"] else []) ++
    (if n < 0 then [ruleIssue field "gte"] else [])

/-- The issues of a problem. -/
def Problem.issues (p : Problem) : List Issue :=
  (match p.preferences with
    | none => [ruleIssue "Problem.Preferences" "required"]
    | some t => preferenceIssues t) ++
  (match p.capacities with
    | none => [ruleIssue "Problem.Capacities" "required"]
    | some t => capacityIssues t)

/-- The verdict on a problem. -/
def Problem.verdict (p : Problem) : Verdict :=
  let issues := p.issues
  if issues.isEmpty then Verdict.pass else Verdict.ofIssues false issues

/-- The verdict on a missing problem. -/
def missingProblemVerdict : Verdict :=
  Verdict.single "(root)" "validator: (nil *placement.Problem)" "INVALID"

end SlotAllocation
