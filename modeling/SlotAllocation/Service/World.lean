import SlotAllocation.Service.Relational
import SlotAllocation.Service.Cache
import SlotAllocation.Failure.Basic
import SlotAllocation.Store.Keys
import SlotAllocation.Batch.Summary

/-!
# The world the job workers act on

A worker reads and changes the relational store and the cache, sends mail, publishes to the
operators' topic and indexes reports. `World` holds the stores, what was sent so far and how
many run identifiers were drawn; `Conditions` holds what a job cannot change: the clock
reading, which calls fail, and whether an engine run outlasts its deadline.

`Work` is a computation over the world under conditions. Every call here gives the text the
service reports on failure, prefixed as the service prefixes it (`acquire lock: …`,
`cache summary: …`, `read delivery: …`); a failed send leaves nothing in the outbox.

Run identifiers are drawn from a counter, `run-1`, `run-2`, … in the order they are drawn.
-/

namespace SlotAllocation

/-- A mail to the coordinators. -/
structure Email where
  source : String
  recipients : Option (List String)
  subject : String
  body : String

/-- A message published to a topic, with text attributes. -/
structure Publication where
  topic : String
  subject : String
  message : String
  attributes : Table String

/-- A document written to a search index under an identifier. -/
structure IndexedDocument where
  index : String
  id : String
  document : Json

/-- What was sent, in order. -/
structure Outbox where
  emails : List Email := []
  publications : List Publication := []
  documents : List IndexedDocument := []

/-- The calls that fail, and their messages; `runOverdue` when an engine run outlasts the
run deadline. -/
structure Faults where
  statements : StatementFaults := Table.empty
  cache : CacheFaults := {}
  mail : Option String := none
  topic : Option String := none
  index : Option String := none
  runOverdue : Bool := false

/-- What a job cannot change: the clock reading and the failing calls. -/
structure Conditions where
  now : Instant
  faults : Faults := {}

/-- The stores, the outbox and the number of run identifiers drawn. -/
structure World where
  db : Database
  cache : Cache
  outbox : Outbox := {}
  drawn : Nat := 0

/-- A computation over the world under conditions. -/
abbrev Work := ReaderT Conditions (StateM World)

/-- A computation over the world that may fail. -/
abbrev Attempt := ExceptT Failure Work

namespace Work

/-- The clock reading. -/
def now : Work Instant := do return (← read).now

/-- Whether an engine run started now outlasts the run deadline. -/
def overdue : Work Bool := do return (← read).faults.runOverdue

/-- The time stamp of failures raised now. -/
def stamp : Work String := do return (← read).now.rfc3339

/-- Draws a fresh run identifier. -/
def newRunId : Work String :=
  modifyGet fun w => ("run-" ++ toString (w.drawn + 1), { w with drawn := w.drawn + 1 })

/-- Reads the relational store. -/
def query {α : Type} (f : Database → StatementFaults → Except StoreError α) :
    Work (Except StoreError α) := do
  return f (← get).db (← read).faults.statements

/-- Changes the relational store. -/
def change (f : Database → StatementFaults → Database × Except StoreError Unit) :
    Work (Except StoreError Unit) := do
  let (db, r) := f (← get).db (← read).faults.statements
  modify fun w => { w with db := db }
  return r

/-- Runs a cache command that may change the cache. -/
def cacheChange {α : Type} (f : Cache → CacheFaults → Cache × Except String α) :
    Work (Except String α) := do
  let (c, r) := f (← get).cache (← read).faults.cache
  modify fun w => { w with cache := c }
  return r

/-- Runs a cache command that only reads. -/
def cacheRead {α : Type} (f : Cache → CacheFaults → Except String α) : Work (Except String α) := do
  return f (← get).cache (← read).faults.cache

/-- Prefixes the text of a failure. -/
def context {α : Type} (what : String) (r : Except String α) : Except String α :=
  r.mapError (what ++ ": " ++ ·)

end Work

/-- Why the lock of a batch could not be taken. -/
inductive LockError where
  /-- Another run holds it. -/
  | held
  /-- The cache failed. -/
  | failed (text : String)

namespace Work

/-- Takes the lock of a batch for `token`. -/
def acquire (batchId token : String) : Work (Except LockError Unit) := do
  match ← cacheChange (·.setIfAbsent · (lockKey batchId) token) with
  | .ok true => return .ok ()
  | .ok false => return .error .held
  | .error m => return .error (.failed ("acquire lock: " ++ m))

/-- Drops the lock of a batch if `token` still holds it. -/
def release (batchId token : String) : Work (Except String Unit) :=
  context "release lock" <$> cacheChange (·.release · (lockKey batchId) token)

/-- The cached summary text of a batch, none when there is none. -/
def cachedSummary (batchId : String) : Work (Except String (Option String)) :=
  context "read cached summary" <$> cacheRead (·.get · (resultKey batchId))

/-- Caches the summary of a batch. -/
def putSummary (s : Summary) : Work (Except String Unit) :=
  context "cache summary" <$> cacheChange (·.set · (resultKey s.batchId) (s.toJson.render Layout.compact))

/-- Drops the cached summary of a batch. -/
def invalidate (batchId : String) : Work (Except String Unit) :=
  cacheChange (·.delete · (resultKey batchId))

/-- Whether a notification already went out on a channel. -/
def delivered (notificationId channel : String) : Work (Except String Bool) :=
  context "read delivery" <$> cacheRead (·.exists? · (deliveryKey notificationId channel))

/-- Marks a notification as sent on a channel. -/
def markDelivered (notificationId channel : String) : Work (Except String Unit) :=
  context "record delivery" <$> cacheChange (·.set · (deliveryKey notificationId channel) "1")

/-- Records a sent item unless `fault` makes the call fail. -/
def send (fault : Faults → Option String) (record : Outbox → Outbox) : Work (Except String Unit) := do
  match fault (← read).faults with
  | some m => return .error m
  | none =>
    modify fun w => { w with outbox := record w.outbox }
    return .ok ()

/-- Sends a mail. -/
def sendEmail (e : Email) : Work (Except String Unit) :=
  send (·.mail) fun o => { o with emails := o.emails ++ [e] }

/-- Publishes to a topic. -/
def publish (p : Publication) : Work (Except String Unit) :=
  send (·.topic) fun o => { o with publications := o.publications ++ [p] }

/-- Indexes a document. -/
def indexDocument (d : IndexedDocument) : Work (Except String Unit) :=
  send (·.index) fun o => { o with documents := o.documents ++ [d] }

end Work

namespace Attempt

/-- Fails with the failure `make` builds from the current stamp. -/
def fail {α : Type} (make : String → Failure) : Attempt α := do
  throw (make (← Work.stamp))

/-- The value of a store result, or the failure `onError` builds. -/
def ofStore {α : Type} (r : Except StoreError α) (onError : StoreError → String → Failure) :
    Attempt α :=
  match r with
  | .ok a => pure a
  | .error e => fail (onError e)

/-- Runs `body`, then `finish` whatever the outcome of `body`, keeping that outcome. -/
def always {α : Type} (body : Attempt α) (finish : Work Unit) : Attempt α := do
  let r : Except Failure α ← (body.run : Work (Except Failure α))
  finish
  match r with
  | .ok a => pure a
  | .error e => throw e

end Attempt

end SlotAllocation
