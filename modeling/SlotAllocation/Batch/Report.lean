import SlotAllocation.Batch.Summary

/-!
# Assignment reports

A report is a summary of a batch's stored rows, credited to one run, with every row and its
rank (0 for forced rows, otherwise the rank under the cleaned preferences) and the load of
every slot of the problem: its seats and how many applicants hold it.
-/

namespace SlotAllocation

/-- One reported pair. -/
structure ReportRow where
  applicant : ApplicantId
  slot : SlotId
  phase : String
  rank : Nat

/-- How full one slot is. -/
structure SlotLoad where
  slot : SlotId
  capacity : Int
  held : Int

/-- A report of a batch. `slotLoad` is empty exactly when the problem has no slots. -/
structure Report where
  summary : Summary
  rows : List ReportRow
  slotLoad : List SlotLoad
  indexedAt : Instant

/-- The report of `rows` for `batch`, credited to `runId`. -/
def buildReport (batch : Batch) (runId : String) (rows : List Row) (problem : Problem)
    (now : Instant) : Report :=
  let prefs := problem.prefs.normalize
  let summary := { Summary.ofRows batch rows prefs now with runId := runId }
  let reportRows := rows.map fun r =>
    ⟨r.applicant, r.slot, r.phase, if r.isForced then 0 else prefs.rank r.applicant r.slot⟩
  let held := (splitRows rows).1.counts
  let caps := problem.caps
  let load := caps.slots.map fun s => ⟨s, caps.seats s, held.get s⟩
  ⟨summary, reportRows, load, now⟩

/-- Why the report cannot be written as a document, if it cannot: one of its times, in
written order, is out of the writable range. -/
def Report.jsonProblem? (r : Report) : Option String :=
  r.summary.jsonProblem?.orElse fun _ => r.indexedAt.jsonProblem?

/-- The report as a document: the summary's members, then rows, slot load and time. -/
def Report.toJson (r : Report) : Json :=
  .obj (r.summary.members ++
    [("assignments", .arr (r.rows.map fun row =>
        .obj ([("applicantId", .str row.applicant), ("slotId", .str row.slot),
               ("phase", .str row.phase)] ++
              (if row.rank = 0 then [] else [("rank", .nat row.rank)])))),
     ("slotLoad", if r.slotLoad.isEmpty then .null else .arr (r.slotLoad.map fun l =>
        .obj [("slotId", .str l.slot), ("capacity", .int l.capacity), ("held", .int l.held)])),
     ("indexedAt", .str r.indexedAt.rfc3339)])

end SlotAllocation
