import SlotAllocation.Service.World
import SlotAllocation.Service.Requests
import SlotAllocation.Batch.Report

/-!
# Indexing the report of a committed run

A report job writes the report of a committed batch into the search index, under the run's
identifier:

1. the request is checked (`reportSchema`);
2. an open batch has no committed run and fails the job as bad input;
3. when the batch has rows, the named run must have written one of them;
4. the report is built from the stored rows and problem (`buildReport`) and indexed; a
   failed write fails the job.
-/

namespace SlotAllocation

/-- What a report job answers. -/
structure ReportAnswer where
  index : String
  reportId : String
  status : String
  assignedCount : Int
  unassignedCount : Nat
  indexedAt : Instant

/-- The answer as a document. -/
def ReportAnswer.toJson (a : ReportAnswer) : Json :=
  .obj [("reportIndex", .str a.index), ("reportId", .str a.reportId), ("status", .str a.status),
    ("assignedCount", .int a.assignedCount), ("unassignedCount", .nat a.unassignedCount),
    ("indexedAt", .str a.indexedAt.rfc3339)]

/-- Performs a report job, writing into `index`. -/
def indexReport (index : String) (r : ReportRequest) : Attempt ReportAnswer := do
  let verdict := reportSchema.validate (.obj [("batchId", .str r.batchId), ("runId", .str r.runId)])
  if !verdict.valid then Attempt.fail (Failure.invalidInput verdict.text)
  let batch ← Attempt.ofStore (← Work.query (·.loadBatch · r.batchId)) fun e =>
    match e with
    | .notFound _ => Failure.batchNotFound r.batchId
    | .failed t => Failure.preferencesLoadFailed r.batchId t
  if batch.status == BatchStatus.openBatch.name then
    Attempt.fail (Failure.invalidInput ("batch " ++ r.batchId ++ " has no committed run to report"))
  let problem ← Attempt.ofStore (← Work.query (·.loadProblem · r.batchId))
    fun e => Failure.preferencesLoadFailed r.batchId e.text
  let rows ← Attempt.ofStore (← Work.query (·.loadRows · r.batchId))
    fun e => Failure.preferencesLoadFailed r.batchId e.text
  if !rows.isEmpty && !hasRun rows r.runId then
    Attempt.fail (Failure.invalidInput ("run " ++ r.runId ++
      " wrote none of the assignments stored for batch " ++ r.batchId ++ " (committed run " ++
      committedRunId rows ++ ")"))
  let report := buildReport batch r.runId rows problem (← Work.now)
  match ← Work.indexDocument ⟨index, r.runId, report.toJson⟩ with
  | .error m => Attempt.fail (Failure.reportIndexFailed index m)
  | .ok () =>
    pure { index, reportId := r.runId, status := batch.status
           assignedCount := report.summary.assignedCount
           unassignedCount := (report.summary.unassigned.getD []).length
           indexedAt := report.indexedAt }

end SlotAllocation
