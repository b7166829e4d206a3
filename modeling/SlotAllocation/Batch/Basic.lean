import SlotAllocation.Assignment.Engine
import SlotAllocation.Time.Instant

/-!
# Batches and their stored rows

A batch is one assignment problem under an identifier. It has a kind (what it places), a
status (`open` until a run commits, then `assigned`, or `force_filled` once forced pairs
exist) and the time of its last change. Every committed pair is stored as a row carrying the
phase that placed it and the run that wrote it.

Main statements: `splitRows` keeps the last row of each applicant and every forced row;
`committedRunId` names the run of the first row not forced, else of the first row.
-/

namespace SlotAllocation

/-- The kinds of batch: student groups onto subjects, or students onto internships. -/
def kindSubjects : String := "subjects"

/-- See `kindSubjects`. -/
def kindInternships : String := "internships"

/-- Whether a kind is one of the two known kinds. -/
def kindValid (k : String) : Bool := k == kindSubjects || k == kindInternships

/-- The statuses of a batch. -/
inductive BatchStatus where
  | openBatch
  | assigned
  | forceFilled
deriving DecidableEq, Repr

/-- The stored name of a status. -/
def BatchStatus.name : BatchStatus → String
  | .openBatch => "open"
  | .assigned => "assigned"
  | .forceFilled => "force_filled"

/-- A batch as stored. Kind and status are kept as stored text. -/
structure Batch where
  id : String
  kind : String
  status : String
  updatedAt : Instant
deriving Repr, Inhabited

/-- One stored pair: who, where, which phase placed it, and which run wrote it. -/
structure Row where
  applicant : ApplicantId
  slot : SlotId
  phase : String
  run : String
deriving Repr, Inhabited, DecidableEq

/-- Whether a row was placed by the forced phase. -/
def Row.isForced (r : Row) : Bool := r.phase == Phase.forced.name

/-- All pairs of the rows (a later row of an applicant replacing an earlier one), and the
forced ones among them. -/
def splitRows (rows : List Row) : Pairing × Pairing :=
  rows.foldl (fun acc r =>
    (acc.1.insert r.applicant r.slot,
     if r.isForced then acc.2.insert r.applicant r.slot else acc.2)) (Table.empty, Table.empty)

/-- The run that wrote the stable and cascade rows, or the first row's run when every row
was forced; empty without rows. -/
def committedRunId (rows : List Row) : String :=
  match rows.find? (fun r => !r.isForced) with
  | some r => r.run
  | none => match rows with
    | r :: _ => r.run
    | [] => ""

/-- Whether any row was written by `run`. -/
def hasRun (rows : List Row) (run : String) : Bool := rows.any (fun r => r.run == run)

end SlotAllocation
