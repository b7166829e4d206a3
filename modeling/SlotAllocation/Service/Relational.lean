import SlotAllocation.Batch.Basic
import SlotAllocation.Assignment.Document

/-!
# The relational store

The store holds the batches, the problem of each batch (its applicants' ranked choices and
its slots' seats) and the committed rows of every batch. The repository reads and writes it
with a fixed set of statements; any of them can be made to fail, to model an unreliable
database:

* a failing query reports its message; a message `!iterate:rest` on a query lets the query
  run and makes reading its rows fail with `rest` after the last row (for the batch query,
  only when there is no row to read);
* the message `!norows` on the status update makes it change no row;
* a transaction keeps a copy of the batches and rows when it begins and puts it back when it
  is rolled back, when its commit fails, and also when its rollback fails.

Every repository operation gives the text the service reports on failure (`load batch b:
…`, `iterate preferences: …`, `insert assignment a: …`), or `StoreError.notFound` when a
batch does not exist.
-/

namespace SlotAllocation

/-- One stored row and the batch it belongs to. -/
structure StoredRow where
  batch : String
  row : Row
deriving Repr, Inhabited

/-- The statements the repository runs. -/
inductive Statement where
  | selectBatch
  | selectPreferences
  | selectCapacities
  | selectAssignments
  | deleteAssignments
  | insertAssignment
  | updateStatus
  | begin
  | commit
  | rollback
deriving DecidableEq, Repr

/-- The name under which a statement's failure is injected. -/
def Statement.key : Statement → String
  | .selectBatch => "select_batch"
  | .selectPreferences => "select_preferences"
  | .selectCapacities => "select_capacities"
  | .selectAssignments => "select_assignments"
  | .deleteAssignments => "delete_assignments"
  | .insertAssignment => "insert_assignment"
  | .updateStatus => "update_status"
  | .begin => "begin"
  | .commit => "commit"
  | .rollback => "rollback"

/-- The messages that statements fail with, by statement name. -/
abbrev StatementFaults := Table String

/-- How a query fails, if it does. -/
inductive QueryFault where
  /-- The query itself fails. -/
  | query (message : String)
  /-- The query runs; reading its rows fails after the last one. -/
  | rows (message : String)

/-- The marker of a failure that lets the query run. -/
def iterateMarker : String := "!iterate:"

/-- How the query `s` fails under `faults`. -/
def queryFault? (faults : StatementFaults) (s : Statement) : Option QueryFault :=
  (faults.find? s.key).map fun m =>
    if m.startsWith iterateMarker then .rows (String.ofList (m.toList.drop iterateMarker.length))
    else .query m

/-- Why a repository operation failed. -/
inductive StoreError where
  /-- The batch does not exist. -/
  | notFound (batchId : String)
  /-- Any other failure, with its text. -/
  | failed (text : String)
deriving Repr

/-- The text of a store error. -/
def StoreError.text : StoreError → String
  | .notFound id => "placement: batch not found: " ++ id
  | .failed t => t

/-- The relational store: the time it stamps changes with, the batches, the problems by
batch and the rows in table order. -/
structure Database where
  now : Instant
  batches : List Batch
  problems : Table Problem
  rows : List StoredRow

namespace Database

/-- The batch with identifier `id`, if any. -/
def batch? (db : Database) (id : String) : Option Batch := db.batches.find? (·.id == id)

/-- Loads a batch. -/
def loadBatch (db : Database) (faults : StatementFaults) (id : String) : Except StoreError Batch :=
  match queryFault? faults .selectBatch, db.batch? id with
  | some (.query m), _ => .error (.failed ("load batch " ++ id ++ ": " ++ m))
  | some (.rows _), some b => .ok b
  | some (.rows m), none => .error (.failed ("load batch " ++ id ++ ": " ++ m))
  | none, some b => .ok b
  | none, none => .error (.notFound id)

/-- The preferences of a batch's applicants: every applicant, with its choices in rank order
(none for a null list). A batch without a problem has no applicants. -/
def storedPreferences (db : Database) (id : String) : Preferences :=
  match db.problems.find? id with
  | some p => p.prefs
  | none => Table.empty

/-- The seats of a batch's slots. -/
def storedCapacities (db : Database) (id : String) : Capacities :=
  match db.problems.find? id with
  | some p => p.caps
  | none => Table.empty

/-- Runs a query whose rows read as `value`, under the query's fault. -/
def query {α : Type} (faults : StatementFaults) (s : Statement) (what : String) (value : α) :
    Except StoreError α :=
  match queryFault? faults s with
  | some (.query m) => .error (.failed ("query " ++ what ++ ": " ++ m))
  | some (.rows m) => .error (.failed ("iterate " ++ what ++ ": " ++ m))
  | none => .ok value

/-- Loads the preferences of a batch. -/
def loadPreferences (db : Database) (faults : StatementFaults) (id : String) :
    Except StoreError Preferences :=
  query faults .selectPreferences "preferences" (db.storedPreferences id)

/-- Loads the capacities of a batch. -/
def loadCapacities (db : Database) (faults : StatementFaults) (id : String) :
    Except StoreError Capacities :=
  query faults .selectCapacities "capacities" (db.storedCapacities id)

/-- Loads the problem of a batch: preferences first, then capacities. -/
def loadProblem (db : Database) (faults : StatementFaults) (id : String) :
    Except StoreError Problem := do
  let prefs ← db.loadPreferences faults id
  let caps ← db.loadCapacities faults id
  pure ⟨some prefs, some caps⟩

/-- The rows of a batch, ordered by applicant, rows of one applicant in table order. -/
def batchRows (db : Database) (id : String) : List Row :=
  ((db.rows.filter (·.batch == id)).map (·.row)).mergeSort fun a b => decide (a.applicant ≤ b.applicant)

/-- Loads the rows of a batch. -/
def loadRows (db : Database) (faults : StatementFaults) (id : String) : Except StoreError (List Row) :=
  query faults .selectAssignments "assignments" (db.batchRows id)

/-- Runs a changing statement: its injected message, if any, fails it. -/
def exec (faults : StatementFaults) (s : Statement) (describe : String → String) :
    Except StoreError Unit :=
  match faults.find? s.key with
  | some m => .error (.failed (describe m))
  | none => .ok ()

/-- Deletes the rows of a batch. -/
def deleteRows (db : Database) (faults : StatementFaults) (id : String) :
    Except StoreError Database := do
  exec faults .deleteAssignments ("clear assignments: " ++ ·)
  pure { db with rows := db.rows.filter (·.batch != id) }

/-- Appends rows to a batch, one statement each, stopping at the first failure (whose text
`describe` gives from the applicant and the message). -/
def insertRows (db : Database) (faults : StatementFaults) (id : String)
    (describe : ApplicantId → String → String) : List Row → Except StoreError Database
  | [] => .ok db
  | r :: rest => do
    exec faults .insertAssignment (describe r.applicant)
    insertRows { db with rows := db.rows ++ [⟨id, r⟩] } faults id describe rest

/-- Sets the status of a batch and stamps it with the store's time. -/
def updateStatus (db : Database) (faults : StatementFaults) (id : String) (status : String) :
    Except StoreError Database :=
  match faults.find? Statement.updateStatus.key with
  | some "!norows" => .error (.notFound id)
  | some m => .error (.failed ("update batch status: " ++ m))
  | none =>
    if (db.batch? id).isSome then
      .ok { db with batches := db.batches.map fun b =>
        if b.id == id then { b with status := status, updatedAt := db.now } else b }
    else .error (.notFound id)

/-- Runs `body` in a transaction. A failure of the body or of the commit puts back the
batches and rows as they were when it began; a failed rollback is added to the body's error. -/
def transact (db : Database) (faults : StatementFaults)
    (body : Database → Except StoreError Database) : Database × Except StoreError Unit :=
  match faults.find? Statement.begin.key with
  | some m => (db, .error (.failed ("begin transaction: " ++ m)))
  | none =>
    match body db with
    | .error e =>
      match faults.find? Statement.rollback.key with
      | some m => (db, .error (.failed (e.text ++ " (rollback failed: " ++ m ++ ")")))
      | none => (db, .error e)
    | .ok after =>
      match faults.find? Statement.commit.key with
      | some m => (db, .error (.failed ("commit transaction: " ++ m)))
      | none => (after, .ok ())

/-- Replaces the rows of a batch with the pairs of a run and moves the batch to `status`, in
one transaction. Pairs are written in ascending order of applicant, each with its phase. -/
def saveOutcome (db : Database) (faults : StatementFaults) (id run status : String)
    (pairs : List (ApplicantId × SlotId × String)) : Database × Except StoreError Unit :=
  db.transact faults fun db => do
    let db ← db.deleteRows faults id
    let db ← db.insertRows faults id (fun a m => "insert assignment " ++ a ++ ": " ++ m)
      (pairs.map fun (a, s, phase) => ⟨a, s, phase, run⟩)
    db.updateStatus faults id status

/-- Adds forced pairs to a committed batch and marks it force-filled, in one transaction. -/
def appendForced (db : Database) (faults : StatementFaults) (id run : String) (forced : Pairing) :
    Database × Except StoreError Unit :=
  db.transact faults fun db => do
    let db ← db.insertRows faults id (fun a m => "insert forced assignment " ++ a ++ ": " ++ m)
      (forced.entries.map fun (a, s) => ⟨a, s, Phase.forced.name, run⟩)
    db.updateStatus faults id BatchStatus.forceFilled.name

end Database

end SlotAllocation
