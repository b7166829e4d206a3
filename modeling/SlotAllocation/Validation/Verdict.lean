/-!
# Verdicts of validation

A verdict says whether a document passed and lists the issues found, each with the field it
concerns, a message and a code. Issues are listed in ascending order of field, message and
code; the joined text lists the `field: message` lines in ascending byte order, separated by
`; `.
-/

namespace SlotAllocation

/-- One problem found in a document. -/
structure Issue where
  field : String
  message : String
  code : String
deriving DecidableEq, Repr

/-- Whether `a` comes before or with `b`: by field, then message, then code. -/
def Issue.le (a b : Issue) : Bool :=
  if a.field != b.field then a.field < b.field
  else if a.message != b.message then a.message < b.message
  else a.code ≤ b.code

/-- The issue for a failed rule on `field`. -/
def ruleIssue (field rule : String) : Issue :=
  ⟨field, "failed on the '" ++ rule ++ "' rule", rule.toUpper⟩

/-- The outcome of validating a document. -/
structure Verdict where
  valid : Bool
  issues : List Issue

namespace Verdict

/-- A verdict with its issues in canonical order. -/
def ofIssues (valid : Bool) (issues : List Issue) : Verdict :=
  ⟨valid, issues.mergeSort Issue.le⟩

/-- A passing verdict. -/
def pass : Verdict := ⟨true, []⟩

/-- A failing verdict with one issue. -/
def single (field message code : String) : Verdict := ⟨false, [⟨field, message, code⟩]⟩

/-- `field: message` for each issue, in order. -/
def messages (v : Verdict) : List String := v.issues.map fun i => i.field ++ ": " ++ i.message

/-- The messages in ascending byte order, joined by `; `. -/
def text (v : Verdict) : String :=
  "; ".intercalate (v.messages.mergeSort (fun a b => decide (a ≤ b)))

/-- Whether some issue concerns `field`. -/
def hasErrors (v : Verdict) (field : String) : Bool := v.issues.any (fun i => i.field == field)

end Verdict

end SlotAllocation
