import SlotAllocation.Service.World
import SlotAllocation.Service.Requests

/-!
# Force-filling a committed batch

A force-fill job places the applicants a committed batch left waiting into the seats still
free, ignoring their choices:

1. the request is checked (`fillSchema`) and a run identifier drawn;
2. the batch's lock is taken (another run's lock fails the job) and released whatever
   happens next;
3. an open batch has nothing to fill around and fails the job as bad input;
4. the stored rows are summarised, the waiting applicants handed the free seats, and the
   merged result checked against the seats (stored rows that already exceed a slot fail the
   job);
5. when anyone was placed, the new pairs are appended in one transaction, the batch marked
   force-filled and its summary cached again; a summary that cannot be cached is dropped
   from the cache, so that no stale one stays (unless that fails too).
-/

namespace SlotAllocation

/-- What a force-fill job answers. -/
structure FillAnswer where
  batchId : String
  runId : String
  status : String
  forced : Pairing
  unassigned : Option (List ApplicantId)
  assignedCount : Int
  averageRank : Option Float

/-- The answer as a document. -/
def FillAnswer.toJson (a : FillAnswer) : Json :=
  .obj [("batchId", .str a.batchId), ("runId", .str a.runId), ("status", .str a.status),
    ("forced", a.forced.toJson), ("unassigned", Json.strsOrNull a.unassigned),
    ("hasUnassigned", .bool !(a.unassigned.getD []).isEmpty),
    ("assignedCount", .int a.assignedCount), ("averageRank", Json.floatOrNull a.averageRank)]

/-- Fills a committed batch while holding its lock. -/
def fillLocked (batchId runId : String) : Attempt FillAnswer := do
  let batch ← Attempt.ofStore (← Work.query (·.loadBatch · batchId)) fun e =>
    match e with
    | .notFound _ => Failure.batchNotFound batchId
    | .failed t => Failure.preferencesLoadFailed batchId t
  if batch.status == BatchStatus.openBatch.name then
    Attempt.fail (Failure.invalidInput
      ("batch " ++ batchId ++ " has no committed assignments to fill around"))
  let problem ← Attempt.ofStore (← Work.query (·.loadProblem · batchId))
    fun e => Failure.preferencesLoadFailed batchId e.text
  let rows ← Attempt.ofStore (← Work.query (·.loadRows · batchId))
    fun e => Failure.preferencesLoadFailed batchId e.text
  let prefs := problem.prefs.normalize
  let (assigned, forced) := splitRows rows
  let current := summarize assigned forced prefs
  let newlyForced := force current.waiting problem.caps assigned.counts
  let result := mergeForced (some current) newlyForced prefs
  match checkCapacity (some result) problem.caps with
  | some v => Attempt.fail (Failure.capacityViolated v.message)
  | none => pure ()
  let status ← if newlyForced.size == 0 then pure batch.status
    else do
      let _ ← Attempt.ofStore (← Work.change (·.appendForced · batchId runId newlyForced))
        fun e => Failure.persistFailed batchId e.text
      let batch := { batch with status := BatchStatus.forceFilled.name }
      let added := current.waiting.filterMap fun a =>
        (newlyForced.find? a).map fun s => (⟨a, s, Phase.forced.name, runId⟩ : Row)
      let s := Summary.ofRows batch (rows ++ added) prefs (← Work.now)
      if (← Work.putSummary s).toBool then pure batch.status
      else do
        let _ ← Work.invalidate batchId
        pure batch.status
  pure { batchId, runId, status, forced := newlyForced, unassigned := result.unassigned
         assignedCount := result.assignedCount, averageRank := result.averageRank }

/-- Performs a force-fill job. -/
def fillBatch (r : FillRequest) : Attempt FillAnswer := do
  let verdict := fillSchema.validate (.obj [("batchId", .str r.batchId)])
  if !verdict.valid then Attempt.fail (Failure.invalidInput verdict.text)
  let runId ← Work.newRunId
  match ← Work.acquire r.batchId runId with
  | .error .held => Attempt.fail (Failure.batchLocked r.batchId)
  | .error (.failed t) => Attempt.fail (Failure.externalService "redis" t)
  | .ok () => Attempt.always (fillLocked r.batchId runId) (do let _ ← Work.release r.batchId runId)

end SlotAllocation
