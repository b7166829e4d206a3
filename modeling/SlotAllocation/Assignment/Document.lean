import SlotAllocation.Assignment.Basic
import SlotAllocation.Json.Bind
import SlotAllocation.Json.Print

/-!
# Problems and results as documents

A problem document is `{"preferences": {applicant: [slot…]}, "capacities": {slot: int}}`;
a result document lists `assignments`, `forced` (left out when empty), `unassigned`,
`total`, `assignedCount`, `averageRank` and `rankDistribution` (left out when empty), in
that order. Map members are written in ascending key order; the keys of the rank histogram
are compared as decimal text, so `10` comes before `2`.

The shapes here declare how documents are read, with the type names that a mismatch
reports.
-/

namespace SlotAllocation

/-- A complete assignment input. `none` marks a table the document left null. -/
structure Problem where
  preferences : Option Preferences
  capacities : Option Capacities

namespace Problem

/-- The preferences, a null table read as empty. -/
def prefs (p : Problem) : Preferences := p.preferences.getD Table.empty

/-- The capacities, a null table read as empty. -/
def caps (p : Problem) : Capacities := p.capacities.getD Table.empty

end Problem

/-- How a problem document is read. -/
def problemShape : Shape :=
  .record "placement.Problem"
    [("preferences", .dict "assignment.Preferences"
        (.list "[]assignment.SlotID" (.text "assignment.SlotID"))),
     ("capacities", .dict "assignment.Capacities" (.whole "int"))]

/-- How a result document is read. -/
def resultShape : Shape :=
  .record "assignment.Result"
    [("assignments", .dict "map[assignment.ApplicantID]assignment.SlotID" (.text "assignment.SlotID")),
     ("forced", .dict "map[assignment.ApplicantID]assignment.SlotID" (.text "assignment.SlotID")),
     ("unassigned", .list "[]assignment.ApplicantID" (.text "assignment.ApplicantID")),
     ("total", .whole "int"),
     ("assignedCount", .whole "int"),
     ("averageRank", .optional .real),
     ("rankDistribution", .wholeKeyed "map[int]int" "int" (.whole "int"))]

/-- A table of strings from an object, none for null. -/
def readTextTable (j : Json) : Option (Table String) :=
  j.members?.map fun ms => Table.ofList (ms.map fun p => (p.1, p.2.text))

/-- A table of integers from an object, none for null. -/
def readWholeTable (j : Json) : Option (Table Int) :=
  j.members?.map fun ms => Table.ofList (ms.map fun p => (p.1, p.2.whole))

/-- Preferences from an object of string lists, none for null. -/
def readPreferences (j : Json) : Option Preferences :=
  j.members?.map fun ms =>
    Table.ofList (ms.map fun p => (p.1, (p.2.items?.getD []).map Json.text))

/-- A problem from a value bound to `problemShape`. -/
def Problem.ofBound (j : Json) : Problem :=
  ⟨readPreferences (j.get "preferences"), readWholeTable (j.get "capacities")⟩

/-- A double from a number value. -/
def Json.float? : Json → Option Float
  | .num n => match n.decimal? with
    | some (m, e) =>
      if 0 ≤ e then
        let f := Float.ofScientific m.natAbs false e.toNat
        some (if m < 0 then -f else f)
      else
        let f := Float.ofScientific m.natAbs true (-e).toNat
        some (if m < 0 then -f else f)
    | none => none
  | _ => none

/-- A result from a value bound to `resultShape`. -/
def Result.ofBound (j : Json) : Result :=
  { assignments := readTextTable (j.get "assignments")
    forced := (readTextTable (j.get "forced")).getD Table.empty
    unassigned := (j.get "unassigned").items?.map (List.map Json.text)
    total := (j.get "total").whole
    assignedCount := (j.get "assignedCount").whole
    averageRank := (j.get "averageRank").float?
    rankDistribution := ((j.get "rankDistribution").members?.getD []).filterMap fun p =>
      (String.toInt? p.1).map fun k => (k, p.2.whole) }

/-- A table of strings as an object. -/
def Pairing.toJson (m : Pairing) : Json := .obj (m.entries.map fun p => (p.1, .str p.2))

/-- A table of integers as an object. -/
def Counts.toJson (m : Counts) : Json := .obj (m.entries.map fun p => (p.1, .int p.2))

/-- The rank histogram as an object, keys ordered as decimal text. -/
def rankHistogramJson (h : List (Int × Int)) : Json :=
  let entries := h.map fun p => (toString p.1, Json.int p.2)
  .obj (entries.mergeSort (fun a b => decide (a.1 ≤ b.1)))

/-- The members of a result document, in order. -/
def Result.members (r : Result) : List (String × Json) :=
  [("assignments", match r.assignments with
      | some m => m.toJson
      | none => .null)] ++
  (if r.forced.size = 0 then [] else [("forced", r.forced.toJson)]) ++
  [("unassigned", match r.unassigned with
      | some xs => Json.strs xs
      | none => .null),
   ("total", .int r.total),
   ("assignedCount", .int r.assignedCount),
   ("averageRank", Json.floatOrNull r.averageRank)] ++
  (if r.rankDistribution.isEmpty then [] else [("rankDistribution", rankHistogramJson r.rankDistribution)])

/-- A result as a document. -/
def Result.toJson (r : Result) : Json := .obj r.members

end SlotAllocation
