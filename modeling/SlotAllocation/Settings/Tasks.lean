import SlotAllocation.Settings.Basic
import SlotAllocation.Validation.Verdict
import SlotAllocation.Text.EmailAddress
import SlotAllocation.Word

/-!
# Settings of the four job workers

Each job worker takes its own settings from the service settings: the worker entry of its
task type, and the parts of the run and notification settings it needs. Times become
nanoseconds, multiplied in 64-bit words.

Each kind of settings has its rules, reported as issues on the field `Config.<Field>`:
timeouts and the lock's lifetime must be positive (`gt`), retries and lifetimes of results
must not be negative (`gte`), the report index is required, and the notifier needs a sender
and a recipient list when mail is on (`required_if`), well-formed addresses (`email`, on
`Config.Recipients[i]` for the i-th recipient), and a topic when the topic is on. A field
that fails one rule is not checked against the rules after it.
-/

namespace SlotAllocation

/-- A time of whole milliseconds in nanoseconds, wrapped to a 64-bit word. -/
def nanosOfMillis (ms : Int) : Int := wrap64 (ms * 1000000)

/-- Settings of the worker that computes assignments. -/
structure ComputeSettings where
  timeout : Int
  runTimeout : Int
  lockTTL : Int
  resultTTL : Int
  forceFill : Bool
  maxRetries : Int
  retryBackoff : Int
deriving DecidableEq, Repr

/-- Settings of the worker that fills the remaining seats. -/
structure FillSettings where
  timeout : Int
  lockTTL : Int
  resultTTL : Int
  maxRetries : Int
  retryBackoff : Int
deriving DecidableEq, Repr

/-- Settings of the worker that indexes reports. -/
structure ReportSettings where
  timeout : Int
  index : String
  maxRetries : Int
  retryBackoff : Int
deriving DecidableEq, Repr

/-- Settings of the worker that notifies about applicants left without a slot. -/
structure NotifySettings where
  timeout : Int
  mailEnabled : Bool
  fromAddress : String
  recipients : Option (List String)
  topicEnabled : Bool
  topicArn : String
  deliveryTTL : Int
  maxRetries : Int
  retryBackoff : Int
deriving DecidableEq, Repr

/-- The four task types. -/
inductive Task where
  | compute
  | fill
  | report
  | notify
deriving DecidableEq, Repr

/-- The settings of one worker. -/
inductive TaskSettings where
  | compute (s : ComputeSettings)
  | fill (s : FillSettings)
  | report (s : ReportSettings)
  | notify (s : NotifySettings)
deriving DecidableEq, Repr

namespace Task

/-- The task types in the order the service lists them. -/
def all : List Task := [.compute, .fill, .report, .notify]

/-- The name under which jobs of the task are published. -/
def typeName : Task → String
  | .compute => "compute-assignments"
  | .fill => "force-fill-assignments"
  | .report => "index-assignment-report"
  | .notify => "notify-unassigned"

/-- The settings of the task's worker under the service settings `s`. -/
def settings (t : Task) (s : Settings) : TaskSettings :=
  let w := s.worker t.typeName
  match t with
  | .compute => .compute
    { timeout := nanosOfMillis w.timeout
      runTimeout := nanosOfMillis s.run.runTimeout
      lockTTL := nanosOfMillis s.run.lockTTL
      resultTTL := nanosOfMillis s.run.resultTTL
      forceFill := s.run.forceFill
      maxRetries := w.maxRetries
      retryBackoff := nanosOfMillis w.retryBackoff }
  | .fill => .fill
    { timeout := nanosOfMillis w.timeout
      lockTTL := nanosOfMillis s.run.lockTTL
      resultTTL := nanosOfMillis s.run.resultTTL
      maxRetries := w.maxRetries
      retryBackoff := nanosOfMillis w.retryBackoff }
  | .report => .report
    { timeout := nanosOfMillis w.timeout
      index := s.run.reportIndex
      maxRetries := w.maxRetries
      retryBackoff := nanosOfMillis w.retryBackoff }
  | .notify => .notify
    { timeout := nanosOfMillis w.timeout
      mailEnabled := s.notices.mail.enabled
      fromAddress := s.notices.mail.fromAddress
      recipients := s.notices.mail.recipients
      topicEnabled := s.notices.topic.enabled
      topicArn := s.notices.topic.arn
      deliveryTTL := nanosOfMillis s.run.resultTTL
      maxRetries := w.maxRetries
      retryBackoff := nanosOfMillis w.retryBackoff }

end Task

/-- The issue of a settings field failing `rule`. -/
def settingIssue (field rule : String) : Issue := ruleIssue ("Config." ++ field) rule

/-- The issue of a field that must be positive. -/
def positiveIssues (field : String) (v : Int) : List Issue :=
  if 0 < v then [] else [settingIssue field "gt"]

/-- The issue of a field that must not be negative. -/
def nonNegativeIssues (field : String) (v : Int) : List Issue :=
  if 0 ≤ v then [] else [settingIssue field "gte"]

/-- The issues of the notifier's sender: required when mail is on, an address when given. -/
def senderIssues (mailEnabled : Bool) (address : String) : List Issue :=
  if mailEnabled && address.isEmpty then [settingIssue "FromEmail" "required_if"]
  else if !address.isEmpty && !EmailAddress.isValid address then
    [settingIssue "FromEmail" "email"]
  else []

/-- The issues of the notifier's recipients: a list is required when mail is on, and each
entry must be an address. -/
def recipientIssues (mailEnabled : Bool) : Option (List String) → List Issue
  | none => if mailEnabled then [settingIssue "Recipients" "required_if"] else []
  | some rs => rs.zipIdx.filterMap fun (r, i) =>
    if EmailAddress.isValid r then none
    else some (settingIssue ("Recipients[" ++ toString i ++ "]") "email")

/-- The issues of a worker's settings. -/
def TaskSettings.issues : TaskSettings → List Issue
  | .compute s =>
    positiveIssues "Timeout" s.timeout ++ positiveIssues "RunTimeout" s.runTimeout ++
    positiveIssues "LockTTL" s.lockTTL ++ nonNegativeIssues "ResultTTL" s.resultTTL ++
    nonNegativeIssues "MaxRetries" s.maxRetries
  | .fill s =>
    positiveIssues "Timeout" s.timeout ++ positiveIssues "LockTTL" s.lockTTL ++
    nonNegativeIssues "ResultTTL" s.resultTTL ++ nonNegativeIssues "MaxRetries" s.maxRetries
  | .report s =>
    positiveIssues "Timeout" s.timeout ++
    (if s.index.isEmpty then [settingIssue "Index" "required"] else []) ++
    nonNegativeIssues "MaxRetries" s.maxRetries
  | .notify s =>
    positiveIssues "Timeout" s.timeout ++ senderIssues s.mailEnabled s.fromAddress ++
    recipientIssues s.mailEnabled s.recipients ++
    (if s.topicEnabled && s.topicArn.isEmpty then [settingIssue "TopicARN" "required_if"]
     else []) ++
    nonNegativeIssues "DeliveryTTL" s.deliveryTTL ++ nonNegativeIssues "MaxRetries" s.maxRetries

/-- The verdict on a worker's settings. -/
def TaskSettings.verdict (s : TaskSettings) : Verdict :=
  let issues := s.issues
  if issues.isEmpty then Verdict.pass else Verdict.ofIssues false issues

end SlotAllocation
