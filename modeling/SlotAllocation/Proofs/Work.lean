import SlotAllocation.Service.Compute
import SlotAllocation.Service.Fill
import SlotAllocation.Proofs.Table

/-!
# Running a job on the world

`Work.runIn` and `Attempt.runIn` run a computation from a world under conditions and give
its value (or failure) and the world after it. The run of a composed computation is the run
of its parts (`Attempt.runIn_bind`), so a job is followed step by step with one lemma per
step and no step is unfolded twice.

Under clean conditions, where neither the relational store nor the cache fails a call and
engine runs end in time, every store operation does what it is for; section 2 states what each one does to the world, and
section 3 what the worker steps built on them do. Section 3 first names only the faults of
the commands a step sends: a cache command that the faults let through acts as on a cache
that never fails, and a summary write that fails changes nothing.
-/

namespace SlotAllocation

/-! ## 1. Runs -/

/-- The value of `m` run from `w` under `c`, and the world after it. -/
def Work.runIn {α : Type} (m : Work α) (c : Conditions) (w : World) : α × World :=
  (m.run c).run w

/-- The outcome of `x` run from `w` under `c`, and the world after it. -/
def Attempt.runIn {α : Type} (x : Attempt α) (c : Conditions) (w : World) :
    Except Failure α × World :=
  Work.runIn x.run c w

namespace Attempt

variable {α β : Type} (c : Conditions) (w : World)

@[simp] theorem runIn_pure (a : α) : (pure a : Attempt α).runIn c w = (.ok a, w) := rfl

theorem runIn_bind (x : Attempt α) (f : α → Attempt β) :
    (x >>= f).runIn c w = match x.runIn c w with
      | (.ok a, w') => (f a).runIn c w'
      | (.error e, w') => (.error e, w') := by
  simp only [Attempt.runIn, Work.runIn]
  show (StateT.run (ReaderT.run (ExceptT.run (x >>= f)) c) w) = _
  rw [ExceptT.run_bind]
  simp only [ReaderT.run_bind, StateT.run_bind]
  rcases (StateT.run (ReaderT.run (ExceptT.run x) c) w) with ⟨r, w'⟩
  cases r <;> rfl

/-- A step that succeeds passes its value on. -/
theorem runIn_bind_ok {x : Attempt α} {a : α} {w' : World} (f : α → Attempt β)
    (ran : x.runIn c w = (.ok a, w')) : (x >>= f).runIn c w = (f a).runIn c w' := by
  rw [runIn_bind, ran]

/-- A step that fails stops the job. -/
theorem runIn_bind_error {x : Attempt α} {e : Failure} {w' : World} (f : α → Attempt β)
    (ran : x.runIn c w = (.error e, w')) : (x >>= f).runIn c w = (.error e, w') := by
  rw [runIn_bind, ran]

@[simp] theorem runIn_lift (m : Work α) :
    (monadLift m : Attempt α).runIn c w = (.ok (m.runIn c w).1, (m.runIn c w).2) := rfl

@[simp] theorem runIn_fail (make : String → Failure) :
    (fail make : Attempt α).runIn c w = (.error (make c.now.rfc3339), w) := rfl

/-- A failure stops the job where it stands. -/
theorem runIn_fail_bind (make : String → Failure) (k : α → Attempt β) :
    (fail make >>= k).runIn c w = (.error (make c.now.rfc3339), w) :=
  runIn_bind_error c w k (runIn_fail c w make)

@[simp] theorem ofStore_ok (a : α) (onError : StoreError → String → Failure) :
    ofStore (.ok a) onError = pure a := rfl

@[simp] theorem ofStore_error (e : StoreError) (onError : StoreError → String → Failure) :
    (ofStore (.error e) onError : Attempt α) = fail (onError e) := rfl

/-- `always` runs its finishing step after the body, whatever the body's outcome, and keeps
that outcome. -/
theorem runIn_always (body : Attempt α) (finish : Work Unit) :
    (always body finish).runIn c w =
      ((body.runIn c w).1, (finish.runIn c (body.runIn c w).2).2) := by
  unfold always
  rw [runIn_bind, runIn_lift]
  simp only
  rw [runIn_bind, runIn_lift]
  simp only
  rw [show Work.runIn (ExceptT.run body) c w = body.runIn c w from rfl]
  rcases body.runIn c w with ⟨r, w'⟩
  cases r <;> rfl

end Attempt

namespace Work

variable {α : Type} (c : Conditions) (w : World)

@[simp] theorem runIn_pure (a : α) : (pure a : Work α).runIn c w = (a, w) := rfl

theorem runIn_bind {β : Type} (m : Work α) (f : α → Work β) :
    (m >>= f).runIn c w = (f (m.runIn c w).1).runIn c (m.runIn c w).2 := rfl

@[simp] theorem runIn_map {β : Type} (g : α → β) (m : Work α) :
    (g <$> m).runIn c w = (g (m.runIn c w).1, (m.runIn c w).2) := rfl

@[simp] theorem runIn_now : now.runIn c w = (c.now, w) := rfl

@[simp] theorem runIn_overdue : overdue.runIn c w = (c.faults.runOverdue, w) := rfl

@[simp] theorem runIn_newRunId :
    newRunId.runIn c w = ("run-" ++ toString (w.drawn + 1), { w with drawn := w.drawn + 1 }) := rfl

@[simp] theorem runIn_query (f : Database → StatementFaults → Except StoreError α) :
    (query f).runIn c w = (f w.db c.faults.statements, w) := rfl

@[simp] theorem runIn_change (f : Database → StatementFaults → Database × Except StoreError Unit) :
    (change f).runIn c w =
      ((f w.db c.faults.statements).2, { w with db := (f w.db c.faults.statements).1 }) := rfl

@[simp] theorem runIn_cacheRead (f : Cache → CacheFaults → Except String α) :
    (cacheRead f).runIn c w = (f w.cache c.faults.cache, w) := rfl

@[simp] theorem runIn_cacheChange (f : Cache → CacheFaults → Cache × Except String α) :
    (cacheChange f).runIn c w =
      ((f w.cache c.faults.cache).2, { w with cache := (f w.cache c.faults.cache).1 }) := rfl

end Work

/-! ## 2. Store operations that do not fail -/

/-- Neither the relational store nor the cache fails a call, and engine runs end in time. -/
structure Conditions.Clean (c : Conditions) : Prop where
  statements : c.faults.statements = Table.empty
  cache : c.faults.cache = {}
  onTime : c.faults.runOverdue = false

@[simp] theorem queryFault?_empty (s : Statement) : queryFault? Table.empty s = none := rfl

@[simp] theorem CacheFaults.failure?_none (name key : String) :
    CacheFaults.failure? {} name key = none := rfl

namespace Database

variable (db : Database) (id : String)

theorem loadBatch_clean : db.loadBatch Table.empty id =
    match db.batch? id with
    | some b => .ok b
    | none => .error (.notFound id) := by
  unfold loadBatch
  cases db.batch? id <;> rfl

@[simp] theorem loadProblem_clean : db.loadProblem Table.empty id =
    .ok ⟨some (db.storedPreferences id), some (db.storedCapacities id)⟩ := rfl

@[simp] theorem loadRows_clean : db.loadRows Table.empty id = .ok (db.batchRows id) := rfl

@[simp] theorem deleteRows_clean :
    db.deleteRows Table.empty id = .ok { db with rows := db.rows.filter (·.batch != id) } := rfl

/-- Rows are appended one by one, each tagged with its batch. -/
theorem insertRows_clean (describe : ApplicantId → String → String) (rows : List Row) :
    db.insertRows Table.empty id describe rows =
      .ok { db with rows := db.rows ++ rows.map fun r => ⟨id, r⟩ } := by
  induction rows generalizing db with
  | nil => simp [insertRows]
  | cons r rest ih =>
    simp only [insertRows, exec, Table.find?_empty]
    show insertRows { db with rows := db.rows ++ [⟨id, r⟩] } Table.empty id describe rest = _
    rw [ih]
    simp

/-- The batches after `id` moves to `status`, stamped with the store's time. -/
def restamp (db : Database) (id status : String) : List Batch :=
  db.batches.map fun b => if b.id == id then { b with status := status, updatedAt := db.now } else b

theorem updateStatus_clean (status : String) (found : (db.batch? id).isSome) :
    db.updateStatus Table.empty id status = .ok { db with batches := db.restamp id status } := by
  simp [updateStatus, found, restamp]

theorem transact_clean (body : Database → Except StoreError Database) :
    db.transact Table.empty body = match body db with
      | .ok after => (after, .ok ())
      | .error e => (db, .error e) := by
  unfold transact
  simp only [Table.find?_empty]
  cases body db <;> rfl

/-- Committing a run replaces the batch's rows by the run's and moves the batch to `status`. -/
theorem saveOutcome_clean (run status : String) (pairs : List (ApplicantId × SlotId × String))
    (found : (db.batch? id).isSome) :
    db.saveOutcome Table.empty id run status pairs =
      ({ db with
          rows := db.rows.filter (·.batch != id) ++
            (pairs.map fun (a, s, phase) => (⟨a, s, phase, run⟩ : Row)).map fun r => ⟨id, r⟩
          batches := db.restamp id status }, .ok ()) := by
  rw [saveOutcome, transact_clean]
  simp only [deleteRows_clean, bind, Except.bind, insertRows_clean]
  rw [updateStatus_clean _ _ _ (by simpa [batch?] using found)]
  rfl

/-- Appending forced pairs adds one forced row each and marks the batch force-filled. -/
theorem appendForced_clean (run : String) (forced : Pairing) (found : (db.batch? id).isSome) :
    db.appendForced Table.empty id run forced =
      ({ db with
          rows := db.rows ++
            (forced.entries.map fun (a, s) => (⟨a, s, Phase.forced.name, run⟩ : Row)).map
              fun r => ⟨id, r⟩
          batches := db.restamp id BatchStatus.forceFilled.name }, .ok ()) := by
  rw [appendForced, transact_clean]
  simp only [bind, Except.bind, insertRows_clean]
  rw [updateStatus_clean _ _ _ (by simpa [batch?] using found)]
  rfl

end Database

namespace Cache

variable (cache : Cache) (key : String)

@[simp] theorem get_clean : cache.get {} key = .ok (cache.entries.find? key) := rfl

@[simp] theorem set_clean (value : String) :
    cache.set {} key value = ({ cache with entries := cache.entries.insert key value }, .ok ()) := rfl

theorem setIfAbsent_clean (value : String) :
    cache.setIfAbsent {} key value =
      if cache.entries.contains key then (cache, .ok false)
      else ({ cache with entries := cache.entries.insert key value }, .ok true) := rfl

/-! Under faults that let a command through, the command does what it does on a cache that
never fails; a failed write leaves the cache as it was. -/

theorem setIfAbsent_through {f : CacheFaults} (through : f.failure? "set" key = none)
    (value : String) : cache.setIfAbsent f key value = cache.setIfAbsent {} key value := by
  simp [setIfAbsent, through]

theorem release_through {f : CacheFaults} (digest : f.failure? "evalsha" key = none)
    (script : f.failure? "eval" key = none) (token : String) :
    cache.release f key token = cache.release {} key token := by
  simp only [release, digest, script, CacheFaults.failure?_none]

/-- A release that does not fail runs the script, which the server then knows. -/
theorem release_clean (token : String) :
    cache.release {} key token = ({ cache.releaseScript key token with knowsScript := true }, .ok ()) := by
  obtain ⟨entries, known⟩ := cache
  cases known
  · simp [release]
  · simp only [release, CacheFaults.failure?_none, ite_true]
    unfold releaseScript
    split <;> rfl

end Cache

/-! ## 3. Worker steps whose cache commands go through or fail -/

namespace Work

section Faults

variable {c : Conditions} (w : World)

theorem runIn_acquire_through (batchId token : String)
    (through : c.faults.cache.failure? "set" (lockKey batchId) = none) :
    (acquire batchId token).runIn c w =
      if w.cache.entries.contains (lockKey batchId) then (.error .held, w)
      else (.ok (), { w with cache := { w.cache with
        entries := w.cache.entries.insert (lockKey batchId) token } }) := by
  by_cases held : w.cache.entries.contains (lockKey batchId) = true
  · simp [acquire, runIn_bind, Cache.setIfAbsent_through _ _ through, Cache.setIfAbsent_clean, held]
  · simp [acquire, runIn_bind, Cache.setIfAbsent_through _ _ through, Cache.setIfAbsent_clean, held]

theorem runIn_release_through (batchId token : String)
    (digest : c.faults.cache.failure? "evalsha" (lockKey batchId) = none)
    (script : c.faults.cache.failure? "eval" (lockKey batchId) = none) :
    (release batchId token).runIn c w =
      (.ok (), { w with cache := { w.cache.releaseScript (lockKey batchId) token with knowsScript := true } }) := by
  simp [release, context, Cache.release_through _ _ digest script, Cache.release_clean, Except.mapError]

end Faults

/-! Under clean conditions -/

variable {c : Conditions} (clean : c.Clean) (w : World)
include clean

theorem runIn_cachedSummary (batchId : String) :
    (cachedSummary batchId).runIn c w = (.ok (w.cache.entries.find? (resultKey batchId)), w) := by
  simp [cachedSummary, context, clean.cache, Except.mapError]

theorem runIn_putSummary (s : Summary) :
    (putSummary s).runIn c w =
      (.ok (), { w with cache := { w.cache with
        entries := w.cache.entries.insert (resultKey s.batchId) (s.toJson.render Layout.compact) } }) := by
  simp [putSummary, context, clean.cache, Except.mapError]

theorem runIn_acquire (batchId token : String) :
    (acquire batchId token).runIn c w =
      if w.cache.entries.contains (lockKey batchId) then (.error .held, w)
      else (.ok (), { w with cache := { w.cache with
        entries := w.cache.entries.insert (lockKey batchId) token } }) :=
  runIn_acquire_through w batchId token (by simp [clean.cache])

theorem runIn_release (batchId token : String) :
    (release batchId token).runIn c w =
      (.ok (), { w with cache := { w.cache.releaseScript (lockKey batchId) token with knowsScript := true } }) :=
  runIn_release_through w batchId token (by simp [clean.cache]) (by simp [clean.cache])

end Work

end SlotAllocation
