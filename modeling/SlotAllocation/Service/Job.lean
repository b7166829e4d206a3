import SlotAllocation.Service.Compute
import SlotAllocation.Service.Fill
import SlotAllocation.Service.Indexing
import SlotAllocation.Service.Notify

/-!
# Jobs

The broker hands a worker a job: a key, the retries it has left and its variables as text.
The worker binds the variables to its request shape (a text that does not fit fails the job
as bad input, `parse variables: …`), performs the task and reports back with one command:

* `complete` with the task's answer as variables;
* `fail` with the retries left and the back-off, when the failure is retryable and retries
  remain (`retryDecision`);
* `throw`, raising the failure in the process, otherwise.

Failed and thrown jobs carry the failure's variables (`ProcessError.jobVariables`).
-/

namespace SlotAllocation

/-- The settings of the four workers. -/
structure Workers where
  compute : ComputeSettings
  fill : FillSettings
  report : ReportSettings
  notify : NotifySettings

/-- The retry cap and back-off (in nanoseconds) of a task's worker. -/
def Workers.retryPolicy (w : Workers) : Task → Int × Int
  | .compute => (w.compute.maxRetries, w.compute.retryBackoff)
  | .fill => (w.fill.maxRetries, w.fill.retryBackoff)
  | .report => (w.report.maxRetries, w.report.retryBackoff)
  | .notify => (w.notify.maxRetries, w.notify.retryBackoff)

/-- Binds job variables to a request shape. -/
def bindVariables (shape : Shape) (text : String) : Attempt Json :=
  match bindText shape text with
  | .ok j => pure j
  | .error e => Attempt.fail (Failure.invalidInput ("parse variables: " ++ e.message))

/-- Performs a task on job variables, giving its answer as a document. -/
def Task.perform (t : Task) (w : Workers) (text : String) : Attempt Json :=
  match t with
  | .compute => do
    let j ← bindVariables computeShape text
    return (← computeBatch w.compute (ComputeRequest.ofBound j)).toJson
  | .fill => do
    let j ← bindVariables fillShape text
    return (← fillBatch ⟨(j.get "batchId").text⟩).toJson
  | .report => do
    let j ← bindVariables reportShape text
    return (← indexReport w.report.index ⟨(j.get "batchId").text, (j.get "runId").text⟩).toJson
  | .notify => do
    let j ← bindVariables notifyShape text
    return (← notifyUnassigned w.notify (NotifyRequest.ofBound j)).toJson

/-- A job as the broker hands it out. -/
structure Job where
  key : Int
  retries : Int
  vars : String

/-- What a worker reports for a job. -/
inductive Command where
  | complete (jobKey : Int) (vars : Json)
  | fail (jobKey : Int) (retries : Int) (message : String) (backoffMs : Int) (vars : Table Json)
  | throw (jobKey : Int) (code message : String) (vars : Table Json)

/-- The command reporting a failure of a job, under a worker's retry cap and back-off. -/
def failureCommand (maxRetries backoff : Int) (job : Job) (e : Failure) : Command :=
  let p := e.toProcess
  let d := retryDecision maxRetries e job.retries
  if d.throw then .throw job.key p.code p.message p.jobVariables
  else .fail job.key d.retries ("[" ++ p.code ++ "] " ++ p.message)
    (if backoff > 0 then backoff / 1000000 else 0) p.jobVariables

/-- Handles a job of task `t`. -/
def handleJob (t : Task) (w : Workers) (job : Job) : Work Command := do
  match ← (t.perform w job.vars).run with
  | .ok answer => return .complete job.key answer
  | .error e =>
    let (maxRetries, backoff) := w.retryPolicy t
    return failureCommand maxRetries backoff job e

/-- A command as a document. -/
def Command.toJson : Command → Json
  | .complete key vars => .obj [("command", .str "complete"), ("jobKey", .int key), ("variables", vars)]
  | .fail key retries msg backoff vars =>
    .obj [("command", .str "fail"), ("jobKey", .int key), ("retries", .int retries),
      ("errorMessage", .str msg), ("retryBackOff", .int backoff), ("variables", .obj vars.entries)]
  | .throw key code msg vars =>
    .obj [("command", .str "throw"), ("jobKey", .int key), ("errorCode", .str code),
      ("errorMessage", .str msg), ("variables", .obj vars.entries)]

end SlotAllocation
