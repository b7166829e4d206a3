import SlotAllocation.Service.World
import SlotAllocation.Service.Requests
import SlotAllocation.Settings.Tasks
import SlotAllocation.Word

/-!
# Computing a batch's assignments

A compute job runs the engine on a batch and commits the result:

1. the request is checked (`computeSchema`, then the problem rules for an inline problem);
2. a request with an inline problem is a preview: the engine runs on it as an open batch of
   the requested kind (`subjects` by default) and nothing is stored;
3. otherwise, unless the request asks for a rerun or a dry run, a cached summary is answered
   as it is (a cache that cannot be read or holds no readable summary is passed over);
4. a run identifier is drawn; a run that is not dry takes the batch's lock (another run's
   lock fails the job) and releases it whatever happens next;
5. a batch that is already committed is, unless a rerun or dry run is asked for, described
   from its stored rows and that description cached again;
6. otherwise the engine runs on the stored problem; a dry run answers its outcome, and any
   other run replaces the batch's rows, sets its status and caches its summary.

An engine run that outlasts the run deadline fails the job with the deadline (`runProblem`).

The force-fill flag of the request overrides the worker's setting.
-/

namespace SlotAllocation

/-- What a compute job answers. -/
structure ComputeAnswer where
  batchId : String
  runId : String
  kind : String
  status : String
  assignments : Option Pairing
  unassigned : Option (List ApplicantId)
  total : Int
  assignedCount : Int
  stableAssigned : Int
  cascadeAssigned : Int
  forcedAssigned : Int
  averageRank : Option Float
  cached : Bool
  dryRun : Bool

/-- The answer as a document; the pairs are left out when there are none. -/
def ComputeAnswer.toJson (a : ComputeAnswer) : Json :=
  let pairs := a.assignments.getD Table.empty
  .obj ([("batchId", .str a.batchId), ("runId", .str a.runId), ("kind", .str a.kind),
    ("status", .str a.status)] ++
    omittable (pairs.size != 0) "assignments" pairs.toJson ++
    [("unassigned", Json.strsOrNull a.unassigned),
     ("hasUnassigned", .bool !(a.unassigned.getD []).isEmpty),
     ("total", .int a.total), ("assignedCount", .int a.assignedCount),
     ("stableAssigned", .int a.stableAssigned), ("cascadeAssigned", .int a.cascadeAssigned),
     ("forcedAssigned", .int a.forcedAssigned), ("averageRank", Json.floatOrNull a.averageRank),
     ("cached", .bool a.cached), ("dryRun", .bool a.dryRun)])

/-- The answer for a run's outcome. -/
def ComputeAnswer.ofOutcome (batch : Batch) (runId : String) (o : Outcome) (dryRun : Bool) :
    ComputeAnswer :=
  { batchId := batch.id, runId, kind := batch.kind, status := batch.status
    assignments := o.result.assignments, unassigned := o.result.unassigned
    total := o.result.total, assignedCount := o.result.assignedCount
    stableAssigned := o.stableAssigned, cascadeAssigned := o.cascadeAssigned
    forcedAssigned := o.forcedAssigned, averageRank := o.result.averageRank
    cached := false, dryRun }

/-- The answer for a stored summary; a missing list of unassigned applicants is empty. -/
def ComputeAnswer.ofSummary (s : Summary) : ComputeAnswer :=
  { batchId := s.batchId, runId := s.runId, kind := s.kind, status := s.status
    assignments := none, unassigned := some (s.unassigned.getD [])
    total := s.total, assignedCount := s.assignedCount
    stableAssigned := s.stableAssigned, cascadeAssigned := s.cascadeAssigned
    forcedAssigned := s.forcedAssigned, averageRank := s.averageRank
    cached := true, dryRun := false }

/-- How cached summaries are read. -/
def summaryShape : Shape :=
  .record "placement.Summary"
    [("batchId", .text "string"), ("runId", .text "string"), ("kind", .text "placement.Kind"),
     ("status", .text "placement.Status"), ("total", .whole "int"),
     ("assignedCount", .whole "int"), ("stableAssigned", .whole "int"),
     ("cascadeAssigned", .whole "int"), ("forcedAssigned", .whole "int"),
     ("unassigned", .list "[]assignment.ApplicantID" (.text "assignment.ApplicantID")),
     ("averageRank", .optional .real), ("rankDistribution", .wholeKeyed "map[int]int" "int" (.whole "int")),
     ("completedAt", .anything)]

/-- A cached summary, none when the text does not read as one: besides fitting the shape,
the histogram's keys must be decimal whole numbers and the completion time null or a time
text. -/
def readCachedSummary (text : String) : Option Summary :=
  match bindText summaryShape text with
  | .error _ => none
  | .ok j =>
    let histogram := ((j.get "rankDistribution").members?.getD []).map fun (k, v) =>
      (k.toInt?.filter isWord, v.whole)
    let completed : Option Instant := match j.get "completedAt" with
      | .null => some Instant.zero
      | .str t => (Instant.parse t).toOption
      | _ => none
    if histogram.any (·.1.isNone) then none
    else completed.map fun finished =>
      { batchId := (j.get "batchId").text, runId := (j.get "runId").text
        kind := (j.get "kind").text, status := (j.get "status").text
        total := (j.get "total").whole, assignedCount := (j.get "assignedCount").whole
        stableAssigned := (j.get "stableAssigned").whole
        cascadeAssigned := (j.get "cascadeAssigned").whole
        forcedAssigned := (j.get "forcedAssigned").whole
        unassigned := (j.get "unassigned").items?.map (List.map Json.text)
        averageRank := (j.get "averageRank").float?
        rankDistribution := histogram.filterMap fun (k, v) => k.map (·, v)
        completedAt := finished }

/-- The failure of an engine run. -/
def runFailure (e : RunError) : String → Failure :=
  match e with
  | .overCapacity _ _ => Failure.capacityViolated e.message
  | _ => Failure.matcherUnavailable e.message

/-- Runs the engine on a problem, its preferences cleaned first. A run that outlasts the run
deadline of `runTimeout` nanoseconds fails with the deadline, whatever the engine answers. -/
def runProblem (runTimeout : Int) (problem : Problem) (forceFill : Bool) : Attempt Outcome := do
  if ← Work.overdue then Attempt.fail (Failure.assignmentTimeout runTimeout)
  match runDefault problem.prefs.normalize problem.caps forceFill with
  | .ok o => pure o
  | .error e => Attempt.fail (runFailure e)

/-- Checks a compute request. -/
def checkCompute (r : ComputeRequest) : Attempt Unit := do
  let verdict := computeSchema.validate r.toJson
  if !verdict.valid then Attempt.fail (Failure.invalidInput verdict.text)
  match r.problem with
  | some p =>
    let v := p.verdict
    if !v.valid then Attempt.fail (Failure.invalidInput v.text)
  | none => pure ()

/-- Describes a committed batch from its stored rows and caches the description. -/
def describeCommitted (batch : Batch) : Attempt ComputeAnswer := do
  let problem ← Attempt.ofStore (← Work.query (·.loadProblem · batch.id))
    fun e => Failure.preferencesLoadFailed batch.id e.text
  let rows ← Attempt.ofStore (← Work.query (·.loadRows · batch.id))
    fun e => Failure.preferencesLoadFailed batch.id e.text
  let clock ← Work.now
  let finished := if batch.updatedAt.isZero then clock else batch.updatedAt
  let s := Summary.ofRows batch rows problem.prefs finished
  let _ ← Work.putSummary s
  pure (ComputeAnswer.ofSummary s)

/-- Runs the engine on a stored batch and, unless dry, commits the outcome. -/
def computeStored (runTimeout : Int) (r : ComputeRequest) (forceFill : Bool)
    (runId : String) : Attempt ComputeAnswer := do
  let batch ← Attempt.ofStore (← Work.query (·.loadBatch · r.batchId)) fun e =>
    match e with
    | .notFound _ => Failure.batchNotFound r.batchId
    | .failed t => Failure.preferencesLoadFailed r.batchId t
  if !r.rerun && !r.dryRun && batch.status != BatchStatus.openBatch.name then
    describeCommitted batch
  else
    let problem ← Attempt.ofStore (← Work.query (·.loadProblem · r.batchId))
      fun e => Failure.preferencesLoadFailed r.batchId e.text
    let o ← runProblem runTimeout problem forceFill
    if r.dryRun then pure (ComputeAnswer.ofOutcome batch runId o true)
    else
      let status := if o.forcedAssigned > 0 then BatchStatus.forceFilled.name
        else BatchStatus.assigned.name
      let pairs := o.result.pairs.entries.map fun (a, s) =>
        (a, s, ((o.phases.find? a).map Phase.name).getD "")
      let _ ← Attempt.ofStore (← Work.change (·.saveOutcome · r.batchId runId status pairs))
        fun e => Failure.persistFailed r.batchId e.text
      let batch := { batch with status }
      let _ ← Work.putSummary (Summary.ofOutcome batch runId o (← Work.now))
      pure (ComputeAnswer.ofOutcome batch runId o false)

/-- Performs a compute job. -/
def computeBatch (settings : ComputeSettings) (r : ComputeRequest) : Attempt ComputeAnswer := do
  checkCompute r
  let forceFill := r.forceFill.getD settings.forceFill
  match r.problem with
  | some problem =>
    let kind := if r.kind.isEmpty then kindSubjects else r.kind
    let batch : Batch := ⟨r.batchId, kind, BatchStatus.openBatch.name, Instant.zero⟩
    let runId ← Work.newRunId
    let o ← runProblem settings.runTimeout problem forceFill
    pure (ComputeAnswer.ofOutcome batch runId o true)
  | none =>
    let cached ← if r.rerun || r.dryRun then pure none
      else match ← Work.cachedSummary r.batchId with
        | .ok (some text) => pure (readCachedSummary text)
        | _ => pure none
    match cached with
    | some s => pure (ComputeAnswer.ofSummary s)
    | none =>
      let runId ← Work.newRunId
      if r.dryRun then computeStored settings.runTimeout r forceFill runId
      else
        match ← Work.acquire r.batchId runId with
        | .error .held => Attempt.fail (Failure.batchLocked r.batchId)
        | .error (.failed t) => Attempt.fail (Failure.externalService "redis" t)
        | .ok () =>
          Attempt.always (computeStored settings.runTimeout r forceFill runId)
            (do let _ ← Work.release r.batchId runId)

end SlotAllocation
