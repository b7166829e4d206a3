import SlotAllocation.Json.Value
import SlotAllocation.Table
import SlotAllocation.Time.Duration

/-!
# Failures of the job workers

A `Failure` is what a worker reports when a job cannot be done: a code, a message for
people, details, whether a retry may help, optional metadata, the text of the error that
caused it, and when it arose. Each kind of failure has its constructor with fixed message
and details.

The codes the workers raise map to process error codes one to one; other codes pass
through. Codes whose failures are worth retrying carry a retry budget: 3 for a held lock,
load, persistence, indexing, notification and external-service failures, 2 for timeouts,
0 otherwise. A failure is retryable by default exactly when its code has a budget.
-/

namespace SlotAllocation

/-- The codes the workers raise. -/
def codeInvalidInput : String := "INVALID_ASSIGNMENT_INPUT"
/-- See `codeInvalidInput`. -/
def codeBatchNotFound : String := "BATCH_NOT_FOUND"
/-- See `codeInvalidInput`. -/
def codeBatchLocked : String := "BATCH_LOCKED"
/-- See `codeInvalidInput`. -/
def codePreferencesLoadFailed : String := "PREFERENCES_LOAD_FAILED"
/-- See `codeInvalidInput`. -/
def codeMatcherUnavailable : String := "MATCHER_UNAVAILABLE"
/-- See `codeInvalidInput`. -/
def codeAssignmentTimeout : String := "ASSIGNMENT_TIMEOUT"
/-- See `codeInvalidInput`. -/
def codeCapacityViolated : String := "CAPACITY_INVARIANT_VIOLATED"
/-- See `codeInvalidInput`. -/
def codePersistFailed : String := "ASSIGNMENT_PERSIST_FAILED"
/-- See `codeInvalidInput`. -/
def codeReportIndexFailed : String := "REPORT_INDEX_FAILED"
/-- See `codeInvalidInput`. -/
def codeNotificationFailed : String := "NOTIFICATION_SEND_FAILED"
/-- See `codeInvalidInput`. -/
def codeInternal : String := "INTERNAL_ERROR"
/-- See `codeInvalidInput`. -/
def codeExternalService : String := "EXTERNAL_SERVICE_ERROR"
/-- See `codeInvalidInput`. -/
def codeTimeout : String := "TIMEOUT_ERROR"

/-- The worker codes, each its own process error code. -/
def processCodes : List String :=
  [codeInvalidInput, codeBatchNotFound, codeBatchLocked, codePreferencesLoadFailed,
   codeMatcherUnavailable, codeAssignmentTimeout, codeCapacityViolated, codePersistFailed,
   codeReportIndexFailed, codeNotificationFailed]

/-- The process error code of a worker code, if it has one. -/
def processCode? (code : String) : Option String :=
  if processCodes.contains code then some code else none

/-- How many retries a failure with `code` may use. -/
def retryBudget (code : String) : Nat :=
  if code == codeBatchLocked || code == codePreferencesLoadFailed || code == codePersistFailed ||
      code == codeReportIndexFailed || code == codeNotificationFailed || code == codeExternalService
  then 3
  else if code == codeAssignmentTimeout || code == codeTimeout then 2
  else 0

/-- Whether failures with `code` are worth retrying. -/
def retryableCode (code : String) : Bool := retryBudget code > 0

/-- The area a code belongs to, by the words it contains, checked in order. -/
def codeCategory (code : String) : String :=
  let has (w : String) : Bool := (code.splitOn w).length > 1
  if has "INPUT" || has "VALIDATION" then "VALIDATION"
  else if has "BATCH" then "BATCH"
  else if has "PREFERENCES" || has "PERSIST" then "DATABASE"
  else if has "MATCHER" || has "CAPACITY" || has "ASSIGNMENT" then "ASSIGNMENT"
  else if has "REPORT" then "SEARCH"
  else if has "NOTIFICATION" then "NOTIFICATION"
  else "OTHER"

/-- A worker failure. -/
structure Failure where
  code : String
  message : String
  details : String
  retryable : Bool
  /-- Extra variables, `none` when never set. -/
  metadata : Option (Table Json)
  /-- The text of the error that caused this one, if any. -/
  cause : Option String
  /-- When the failure arose, as RFC 3339 text to the second. -/
  stamp : String

namespace Failure

/-- A failure with the default retry flag of its code. -/
def make (code message details : String) (cause : Option String) (stamp : String) : Failure :=
  ⟨code, message, details, retryableCode code, none, cause, stamp⟩

/-- Sets a metadata variable, replacing an earlier value of the same key. -/
def withMetadata (e : Failure) (key : String) (value : Json) : Failure :=
  { e with metadata := some ((e.metadata.getD Table.empty).insert key value) }

/-- The input did not pass validation. -/
def invalidInput (details : String) (stamp : String) : Failure :=
  make codeInvalidInput "Assignment input validation failed" details none stamp

/-- The batch does not exist. -/
def batchNotFound (batchId : String) (stamp : String) : Failure :=
  (make codeBatchNotFound "Assignment batch not found" ("batchId: " ++ batchId) none stamp).withMetadata
    "batchId" (.str batchId)

/-- Another run holds the batch. -/
def batchLocked (batchId : String) (stamp : String) : Failure :=
  (make codeBatchLocked "Another assignment run holds the batch" ("batchId: " ++ batchId) none stamp).withMetadata
    "batchId" (.str batchId)

/-- The problem of a batch could not be loaded. -/
def preferencesLoadFailed (batchId cause : String) (stamp : String) : Failure :=
  make codePreferencesLoadFailed "Failed to load preferences or capacities"
    ("batchId: " ++ batchId ++ ", error: " ++ cause) (some cause) stamp

/-- The matcher is missing or gave nothing. -/
def matcherUnavailable (cause : String) (stamp : String) : Failure :=
  make codeMatcherUnavailable "Stable matcher unavailable" cause (some cause) stamp

/-- A run took longer than `timeoutNs` nanoseconds. -/
def assignmentTimeout (timeoutNs : Int) (stamp : String) : Failure :=
  make codeAssignmentTimeout "Assignment run exceeded its deadline" ("timeout: " ++ durationText timeoutNs)
    none stamp

/-- A result exceeded a slot's seats. -/
def capacityViolated (cause : String) (stamp : String) : Failure :=
  make codeCapacityViolated "Assignment violates slot capacity" cause (some cause) stamp

/-- Storing the pairs failed. -/
def persistFailed (batchId cause : String) (stamp : String) : Failure :=
  make codePersistFailed "Failed to persist assignments" ("batchId: " ++ batchId ++ ", error: " ++ cause)
    (some cause) stamp

/-- Indexing a report failed. -/
def reportIndexFailed (index cause : String) (stamp : String) : Failure :=
  make codeReportIndexFailed "Failed to index assignment report" ("index: " ++ index ++ ", error: " ++ cause)
    (some cause) stamp

/-- Sending a notification failed. -/
def notificationFailed (channel cause : String) (stamp : String) : Failure :=
  make codeNotificationFailed "Notification delivery failed" ("channel: " ++ channel ++ ", error: " ++ cause)
    (some cause) stamp

/-- An error of no known kind. -/
def internal (cause : String) (stamp : String) : Failure :=
  make codeInternal "Unexpected error" cause (some cause) stamp

/-- A service the worker depends on failed; always retryable. -/
def externalService (service cause : String) (stamp : String) : Failure :=
  { make codeExternalService ("External service '" ++ service ++ "' error") cause (some cause) stamp with
    retryable := true }

/-- A service the worker depends on timed out; always retryable. -/
def serviceTimeout (service cause : String) (stamp : String) : Failure :=
  { make codeTimeout ("Service '" ++ service ++ "' timeout") cause (some cause) stamp with retryable := true }

/-- A resource is missing in a service. -/
def resourceNotFound (service details : String) (stamp : String) : Failure :=
  make "RESOURCE_NOT_FOUND" ("Resource not found in " ++ service) details none stamp

/-- A business rule was broken. -/
def businessRule (message details : String) (stamp : String) : Failure :=
  make "BUSINESS_RULE_VIOLATION" message details none stamp

/-- Authentication failed. -/
def authentication (details : String) (stamp : String) : Failure :=
  make "AUTHENTICATION_ERROR" "Authentication failed" details none stamp

/-- `CODE: message (details)`, or `CODE: message` without details. -/
def text (e : Failure) : String :=
  if e.details.isEmpty then e.code ++ ": " ++ e.message
  else e.code ++ ": " ++ e.message ++ " (" ++ e.details ++ ")"

end Failure

/-- A failure as the process sees it. -/
structure ProcessError where
  code : String
  message : String
  details : String
  retryable : Bool
  retries : Nat
  vars : Table Json

/-- The process form of a failure: the mapped code, the retry budget (0 when not
retryable), and as variables the failure's own code (before mapping) and its stamp, overridden by
metadata. -/
def Failure.toProcess (e : Failure) : ProcessError :=
  let base : Table Json := (Table.empty.insert "originalErrorCode" (.str e.code)).insert "timestamp" (.str e.stamp)
  let vars := (e.metadata.getD Table.empty).entries.foldl (fun t p => t.insert p.1 p.2) base
  { code := (processCode? e.code).getD e.code
    message := e.message
    details := e.details
    retryable := e.retryable
    retries := if e.retryable then retryBudget e.code else 0
    vars := vars }

/-- `BPMNError[code]: message`. -/
def ProcessError.text (p : ProcessError) : String := "BPMNError[" ++ p.code ++ "]: " ++ p.message

/-- The variables sent with a failed job: code, message, details and the retry flag,
overridden by the error's own variables. -/
def ProcessError.jobVariables (p : ProcessError) : Table Json :=
  let base : Table Json :=
    (((Table.empty.insert "errorCode" (.str p.code)).insert "errorMessage" (.str p.message)).insert
      "errorDetails" (.str p.details)).insert "retryable" (.bool p.retryable)
  p.vars.entries.foldl (fun t q => t.insert q.1 q.2) base

/-- What to do with a failed job. -/
structure Decision where
  /-- Raise the error in the process instead of retrying. -/
  throw : Bool
  /-- The retries left for the job when it is failed. -/
  retries : Int

/-- Throws failures that are not retryable or have no retry left; otherwise fails the job
with the smaller of the retries the job has left and the failure's budget, the budget first
lowered to `maxRetries` when that is positive and smaller. -/
def retryDecision (maxRetries : Int) (e : Failure) (jobRetries : Int) : Decision :=
  if !e.retryable then ⟨true, 0⟩
  else
    let budget : Int := retryBudget e.code
    let budget := if 0 < maxRetries && maxRetries < budget then maxRetries else budget
    let remaining := min (jobRetries - 1) budget
    if remaining ≤ 0 then ⟨true, 0⟩ else ⟨false, remaining⟩

end SlotAllocation
