import SlotAllocation.Service.World
import SlotAllocation.Service.Requests
import SlotAllocation.Settings.Tasks
import SlotAllocation.Digest.NameId
import SlotAllocation.Text.Bytes

/-!
# Notifying the operators of unassigned applicants

A notify job tells the coordinators by mail and the operators' topic who was left without a
slot:

1. the request is checked (`notifySchema`); without a list of applicants, the list and the
   kind are taken from the batch's stored rows;
2. the notification's identifier is derived from the batch, the run and the sorted
   applicants (`notificationId`), so every attempt of one job carries the same identifier;
3. an empty list is `skipped`, and with both channels off the notification is `disabled`;
4. otherwise each enabled channel (mail first) is sent unless the cache marks it as already
   sent for this identifier; a failed send fails the job, and a sent channel is marked.
   A channel skipped as already sent still counts as sent.

Topic subjects are cut to their first 100 bytes.
-/

namespace SlotAllocation

/-- The channels a notification goes out on. -/
def channelMail : String := "email"

/-- See `channelMail`. -/
def channelTopic : String := "topic"

/-- The identifier of the notification of `unassigned` for a batch and run. -/
def notificationId (batchId runId : String) (unassigned : List String) : String :=
  let ids := unassigned.mergeSort fun a b => Decidable.decide (a ≤ b)
  NameId.ofName (batchId ++ "\n" ++ runId ++ "\n" ++ ",".intercalate ids)

/-- The subject and body of a notification. -/
def composeNotice (batchId runId kind : String) (unassigned : List String) : String × String :=
  let n := toString unassigned.length
  let subject := "Batch " ++ batchId ++ ": " ++ n ++ " applicant(s) unassigned"
  let body := "Batch: " ++ batchId ++ "\n" ++
    (if kind.isEmpty then "" else "Kind: " ++ kind ++ "\n") ++
    (if runId.isEmpty then "" else "Run: " ++ runId ++ "\n") ++
    "\nThe following " ++ n ++ " applicant(s) hold no slot:\n" ++
    String.join (unassigned.map fun a => "  - " ++ a ++ "\n") ++
    "\nRun force-fill-assignments to place them in the remaining seats.\n"
  (subject, body)

/-- What a notify job answers. -/
structure NotifyAnswer where
  notificationId : String
  status : String
  channels : List String
  unassignedCount : Nat
  sentAt : Instant

/-- The answer as a document. -/
def NotifyAnswer.toJson (a : NotifyAnswer) : Json :=
  .obj [("notificationId", .str a.notificationId), ("notificationStatus", .str a.status),
    ("channels", Json.strs a.channels), ("unassignedCount", .nat a.unassignedCount),
    ("sentAt", .str a.sentAt.rfc3339)]

/-- The applicants a committed batch left waiting, and the batch's kind. -/
def storedUnassigned (batchId : String) : Attempt (List String × String) := do
  let batch ← Attempt.ofStore (← Work.query (·.loadBatch · batchId)) fun e =>
    match e with
    | .notFound _ => Failure.batchNotFound batchId
    | .failed t => Failure.preferencesLoadFailed batchId t
  let problem ← Attempt.ofStore (← Work.query (·.loadProblem · batchId))
    fun e => Failure.preferencesLoadFailed batchId e.text
  let rows ← Attempt.ofStore (← Work.query (·.loadRows · batchId))
    fun e => Failure.preferencesLoadFailed batchId e.text
  let s := Summary.ofRows batch rows problem.prefs (← Work.now)
  pure (s.unassigned.getD [], batch.kind)

/-- Sends on `channel` unless the notification already went out on it, then marks it. A
delivery mark that cannot be read does not stop the send. -/
def deliver (id channel : String) (send : Work (Except String Unit)) : Attempt Unit := do
  let already := (← Work.delivered id channel).toOption.getD false
  if !already then
    match ← send with
    | .error m => Attempt.fail (Failure.notificationFailed channel m)
    | .ok () =>
      let _ ← Work.markDelivered id channel
      pure ()

/-- The applicants a notify job is about, and the batch's kind: the request's own list, or else
the list and kind read from the store. -/
def notifyList (r : NotifyRequest) : Attempt (List String × String) :=
  match r.unassigned with
  | some l => pure (l, r.kind)
  | none => storedUnassigned r.batchId

/-- Delivers notification `id` on `channel` when the channel is `enabled`; names the channel
when it was delivered on. -/
def deliverOn (enabled : Bool) (id channel : String) (send : Work (Except String Unit)) :
    Attempt (List String) :=
  if enabled then do
    deliver id channel send
    pure [channel]
  else pure []

/-- Sends notification `id` of `unassigned` on the enabled channels, mail first, and names the
channels it went out on. -/
def sendNotice (settings : NotifySettings) (r : NotifyRequest) (id kind : String)
    (unassigned : List String) : Attempt (List String) := do
  let (subject, body) := composeNotice r.batchId r.runId kind unassigned
  let mailed ← deliverOn settings.mailEnabled id channelMail
    (Work.sendEmail ⟨settings.fromAddress, settings.recipients, subject, body⟩)
  let attributes := Table.ofList ([("batchId", r.batchId), ("notificationId", id),
    ("unassignedCount", toString unassigned.length)] ++
    (if kind.isEmpty then [] else [("kind", kind)]))
  let published ← deliverOn settings.topicEnabled id channelTopic
    (Work.publish ⟨settings.topicArn, Text.byteCut subject 100, body, attributes⟩)
  pure (mailed ++ published)

/-- Performs a notify job. -/
def notifyUnassigned (settings : NotifySettings) (r : NotifyRequest) : Attempt NotifyAnswer := do
  let verdict := notifySchema.validate r.toJson
  if !verdict.valid then Attempt.fail (Failure.invalidInput verdict.text)
  let (unassigned, kind) ← notifyList r
  let id := notificationId r.batchId r.runId unassigned
  let answer : NotifyAnswer := ⟨id, "", [], unassigned.length, ← Work.now⟩
  if unassigned.isEmpty then pure { answer with status := "skipped" }
  else if !settings.mailEnabled && !settings.topicEnabled then
    pure { answer with status := "disabled" }
  else
    let channels ← sendNotice settings r id kind unassigned
    pure { answer with status := "sent", channels }

end SlotAllocation
