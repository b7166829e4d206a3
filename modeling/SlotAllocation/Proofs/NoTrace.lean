import SlotAllocation.Proofs.JobEffects

/-!
# Failed jobs leave no trace

A compute or force-fill job that fails leaves the store as it was, every cache entry but its
batch's lock as it was, a lock that some run held before still held, and, when the cache lets
the lock's release through, the lock as it was (`failed_jobs_leave_no_trace`). Dry runs and
previews of a compute job change neither store nor cache, whatever their outcome.

The work done under the lock is shown to undo its failures by composition: reading steps,
then one step whose failure changes nothing (the transaction that commits), then steps that
never fail. `Attempt.ReadOnly`, `Attempt.Sure` and `Attempt.Undone` name the three kinds, and
`Attempt.ReadOnly.bind` and `Attempt.Sure.bind` say how they compose. A cache write or a
status change placed before the last step that can fail would break the composition.

1. Computations that undo their failures.
2. Store changes that roll back.
3. The work under the lock undoes its failures.
4. Taking and releasing the lock under any faults.
5. Failed jobs, dry runs and previews.
-/

namespace SlotAllocation

/-! ## 1. Computations that undo their failures -/

namespace Attempt

variable {α β : Type}

/-- `x` leaves the world as it finds it, whatever its outcome. -/
def ReadOnly (x : Attempt α) : Prop := ∀ c w, (x.runIn c w).2 = w

/-- `x` never fails. -/
def Sure (x : Attempt α) : Prop := ∀ c w e, (x.runIn c w).1 ≠ .error e

/-- When `x` fails, it leaves the world as it found it. -/
def Undone (x : Attempt α) : Prop := ∀ c w e, (x.runIn c w).1 = .error e → (x.runIn c w).2 = w

theorem ReadOnly.undone {x : Attempt α} (ro : x.ReadOnly) : x.Undone :=
  fun c w _ _ => ro c w

theorem Sure.undone {x : Attempt α} (sure : x.Sure) : x.Undone :=
  fun c w e failed => absurd failed (sure c w e)

theorem readOnly_pure (a : α) : (pure a : Attempt α).ReadOnly := fun _ _ => rfl

theorem sure_pure (a : α) : (pure a : Attempt α).Sure := fun _ _ _ => by simp

theorem sure_lift (m : Work α) : (liftM m : Attempt α).Sure := fun _ _ _ => by simp

theorem readOnly_ofStore (r : Except StoreError α) (onError : StoreError → String → Failure) :
    (ofStore r onError).ReadOnly := by
  intro c w
  cases r <;> rfl

theorem readOnly_query (f : Database → StatementFaults → Except StoreError α) :
    (liftM (Work.query f) : Attempt (Except StoreError α)).ReadOnly := fun _ _ => rfl

theorem readOnly_now : (liftM Work.now : Attempt Instant).ReadOnly := fun _ _ => rfl

/-- A failure, whatever was to follow it, changes nothing. -/
theorem readOnly_fail_bind (make : String → Failure) (f : α → Attempt β) :
    (fail make >>= f).ReadOnly := by
  intro c w
  rw [runIn_bind, runIn_fail]

/-- Reading first, then undoing the failures of what follows, undoes every failure. -/
theorem ReadOnly.bind {x : Attempt α} {f : α → Attempt β} (ro : x.ReadOnly)
    (undone : ∀ a, (f a).Undone) : (x >>= f).Undone := by
  intro c w e failed
  have kept := ro c w
  rw [runIn_bind] at failed ⊢
  rcases ran : x.runIn c w with ⟨_ | a, w₁⟩
  · rw [ran] at kept
    simpa [ran] using kept
  · rw [ran] at kept failed
    subst kept
    exact undone a c _ e failed

theorem Sure.bind {x : Attempt α} {f : α → Attempt β} (first : x.Sure)
    (rest : ∀ a, (f a).Sure) : (x >>= f).Sure := by
  intro c w e failed
  rw [runIn_bind] at failed
  rcases ran : x.runIn c w with ⟨e' | a, w₁⟩
  · exact first c w e' (by rw [ran])
  · rw [ran] at failed
    exact rest a c w₁ e failed

end Attempt

/-! ## 2. Store changes that roll back -/

namespace Database

/-- A transaction that fails, in its body, its commit or its rollback, leaves the store as it
was when it began. -/
theorem transact_rollback (db : Database) (faults : StatementFaults)
    (body : Database → Except StoreError Database) {e : StoreError}
    (failed : (db.transact faults body).2 = .error e) : (db.transact faults body).1 = db := by
  unfold transact at failed ⊢
  rcases began : faults.find? Statement.begin.key with _ | m
  · rcases ran : body db with e' | after
    · dsimp only
      split <;> rfl
    · -- the body ran: the transaction fails only when its commit does
      rcases committed : faults.find? Statement.commit.key with _ | m
      · simp [began, ran, committed] at failed
      · rfl
  · rfl

theorem saveOutcome_rollback (db : Database) (faults : StatementFaults) (id run status : String)
    (pairs : List (ApplicantId × SlotId × String)) {e : StoreError}
    (failed : (db.saveOutcome faults id run status pairs).2 = .error e) :
    (db.saveOutcome faults id run status pairs).1 = db :=
  transact_rollback db faults _ failed

theorem appendForced_rollback (db : Database) (faults : StatementFaults) (id run : String)
    (forced : Pairing) {e : StoreError} (failed : (db.appendForced faults id run forced).2 = .error e) :
    (db.appendForced faults id run forced).1 = db :=
  transact_rollback db faults _ failed

end Database

namespace Attempt

variable {β : Type}

/-- A change of the store whose failures roll back, read through `ofStore`, then steps that
never fail: the whole fails only when the change does, and then nothing was changed. -/
theorem undone_change {f : Database → StatementFaults → Database × Except StoreError Unit}
    (rollback : ∀ db faults e, (f db faults).2 = .error e → (f db faults).1 = db)
    (onError : StoreError → String → Failure) {k : Unit → Attempt β} (sure : ∀ u, (k u).Sure) :
    (liftM (Work.change f) >>= fun r => ofStore r onError >>= k).Undone := by
  intro c w e failed
  rw [runIn_bind] at failed ⊢
  simp only [runIn_lift, Work.runIn_change] at failed ⊢
  rcases changed : f w.db c.faults.statements with ⟨db, _ | u⟩
  · have kept := rollback w.db c.faults.statements _ (by rw [changed])
    rw [changed] at kept
    simp only at kept
    subst kept
    simp [runIn_bind]
  · rw [changed] at failed
    simp only [ofStore_ok, pure_bind] at failed
    exact absurd failed (sure u c _ e)

end Attempt

/-! ## 3. The work under the lock undoes its failures -/

open Attempt

theorem runProblem_readOnly (t : Int) (p : Problem) (f : Bool) : (runProblem t p f).ReadOnly :=
  runProblem_world t p f

/-- Describing a committed batch fails only while reading it; the summary write after the
reads never fails. -/
theorem describeCommitted_undone (batch : Batch) : (describeCommitted batch).Undone := by
  unfold describeCommitted
  refine (readOnly_query _).bind fun _ => (readOnly_ofStore _ _).bind fun _ => ?_
  refine (readOnly_query _).bind fun _ => (readOnly_ofStore _ _).bind fun _ => ?_
  exact readOnly_now.bind fun _ => ((sure_lift _).bind fun _ => sure_pure _).undone

/-- The work of a compute job under its lock undoes its failures: it reads, runs the engine,
and the commit is its last step that can fail. -/
theorem computeStored_undone (t : Int) (r : ComputeRequest) (f : Bool) (rid : String) :
    (computeStored t r f rid).Undone := by
  unfold computeStored
  refine (readOnly_query _).bind fun _ => (readOnly_ofStore _ _).bind fun batch => ?_
  split
  · exact describeCommitted_undone batch
  · refine (readOnly_query _).bind fun _ => (readOnly_ofStore _ _).bind fun problem =>
      (runProblem_readOnly t problem f).bind fun o => ?_
    split
    · exact (readOnly_pure _).undone
    · exact undone_change (fun db faults _ failed => Database.saveOutcome_rollback db faults _ _ _ _ failed)
        _ fun _ => (sure_lift _).bind fun _ => (sure_lift _).bind fun _ => sure_pure _

/-- The work of a force-fill job under its lock undoes its failures: it reads, checks the
merged pairs against the seats, and appending the forced rows is its last step that can
fail; the summary write and the invalidation after it never fail. -/
theorem fillLocked_undone (b rid : String) : (fillLocked b rid).Undone := by
  unfold fillLocked
  dsimp only
  refine (readOnly_query _).bind fun _ => (readOnly_ofStore _ _).bind fun batch => ?_
  split
  · exact (readOnly_fail_bind _ _).undone
  · refine (readOnly_query _).bind fun _ => (readOnly_ofStore _ _).bind fun problem => ?_
    refine (readOnly_query _).bind fun _ => (readOnly_ofStore _ _).bind fun rows => ?_
    split
    · exact (readOnly_fail_bind _ _).undone
    · split
      · exact ((sure_pure _).bind fun _ => sure_pure _).undone
      · refine undone_change (fun db faults _ failed =>
          Database.appendForced_rollback db faults _ _ _ failed) _ fun _ => ?_
        refine (sure_lift _).bind fun _ => (sure_lift _).bind fun _ => ?_
        split
        · exact (sure_pure _).bind fun _ => sure_pure _
        · exact (sure_lift _).bind fun _ => (sure_pure _).bind fun _ => sure_pure _

/-! ## 4. Taking and releasing the lock under any faults -/

/-- The token that holds the lock of batch `b`, if any. -/
def World.lockHolder (w : World) (b : String) : Option String := w.cache.entries.find? (lockKey b)

/-- The faults `f` let the release of lock `key` through on every cache that knows the release
script exactly when `knows`, whatever its entries and the releasing token (which in fact
decide nothing). -/
def CacheFaults.Releases (f : CacheFaults) (knows : Bool) (key : String) : Prop :=
  ∀ entries token, ((⟨entries, knows⟩ : Cache).release f key token).2 = .ok ()

namespace Cache

variable (cache : Cache) (f : CacheFaults) (key token : String)

@[simp] theorem releaseScript_knowsScript : (cache.releaseScript key token).knowsScript = cache.knowsScript := by
  unfold releaseScript
  split <;> rfl

/-- A release either goes through, running the script, which the cache then knows, or fails
and leaves the cache as it was. -/
theorem release_cases :
    ((cache.release f key token).2 = .ok () ∧
      (cache.release f key token).1 = { cache.releaseScript key token with knowsScript := true }) ∨
    (∃ m, (cache.release f key token).2 = .error m ∧ (cache.release f key token).1 = cache) := by
  obtain ⟨entries, knows⟩ := cache
  rcases digest : f.failure? "evalsha" key with _ | m
  · cases knows
    · -- the cache does not know the script: the call by digest is refused and the script sent
      rcases script : f.failure? "eval" key with _ | m'
      · exact .inl ⟨by simp [release, digest, script], by simp [release, digest, script]⟩
      · exact .inr ⟨m', by simp [release, digest, script], by simp [release, digest, script]⟩
    · refine .inl ⟨by simp [release, digest], ?_⟩
      simp only [release, digest, if_true]
      unfold releaseScript
      split <;> rfl
  · by_cases noscript : m.startsWith "NOSCRIPT" = true
    · rcases script : f.failure? "eval" key with _ | m'
      · exact .inl ⟨by simp [release, digest, noscript, script], by simp [release, digest, noscript, script]⟩
      · exact .inr ⟨m', by simp [release, digest, noscript, script], by simp [release, digest, noscript, script]⟩
    · exact .inr ⟨m, by simp [release, digest, noscript], by simp [release, digest, noscript]⟩

end Cache

namespace Work

variable {c : Conditions} (w : World) (b token : String)

theorem runIn_acquire_failing {m : String} (failing : c.faults.cache.failure? "set" (lockKey b) = some m) :
    (acquire b token).runIn c w = (.error (.failed ("acquire lock: " ++ m)), w) := by
  simp [acquire, runIn_bind, Cache.setIfAbsent, failing]

/-- A lock that is not taken leaves the world as it was; one that is taken was free. -/
theorem acquire_cases :
    (∃ l, (acquire b token).runIn c w = (.error l, w)) ∨
      (w.cache.entries.contains (lockKey b) = false ∧
        (acquire b token).runIn c w = (.ok (), { w with cache := { w.cache with
          entries := w.cache.entries.insert (lockKey b) token } })) := by
  rcases through : c.faults.cache.failure? "set" (lockKey b) with _ | m
  · rw [runIn_acquire_through w b token through]
    by_cases held : w.cache.entries.contains (lockKey b) = true
    · exact .inl ⟨.held, by simp [held]⟩
    · have free : w.cache.entries.contains (lockKey b) = false := by simpa using held
      exact .inr ⟨free, by simp [free]⟩
  · exact .inl ⟨_, runIn_acquire_failing w b token through⟩

theorem runIn_release_any :
    (release b token).runIn c w =
      (context "release lock" (w.cache.release c.faults.cache (lockKey b) token).2,
        { w with cache := (w.cache.release c.faults.cache (lockKey b) token).1 }) := by
  simp [release]

end Work

/-! ## 5. Failed jobs, dry runs and previews -/

/-- What a failed job on batch `b`, run under conditions `c` from `w`, leaves in `w'`: the store
as it was; every cache entry but the batch's lock as it was, the cached summary among them; a
lock that some run held before still held by it; and, when the faults let the lock's release
through, the lock as it was. Run identifiers are fresh, so a lock as it was does not hold the
job's own run. -/
structure NoTrace (c : Conditions) (b : String) (w w' : World) : Prop where
  db : w'.db = w.db
  entries : ∀ k, k ≠ lockKey b → w'.cache.entries.find? k = w.cache.entries.find? k
  held : ∀ t, w.lockHolder b = some t → w'.lockHolder b = some t
  released : c.faults.cache.Releases w.cache.knowsScript (lockKey b) → w'.lockHolder b = w.lockHolder b

theorem NoTrace.refl (c : Conditions) (b : String) (w : World) : NoTrace c b w w :=
  ⟨rfl, fun _ _ => rfl, fun _ held => held, fun _ => rfl⟩

/-- The store and the cache of `w'` are those of `w`; what was sent and the run identifiers
drawn may differ. -/
def World.SameStores (w w' : World) : Prop := w'.db = w.db ∧ w'.cache = w.cache

theorem NoTrace.of_sameStores {c : Conditions} {b : String} {w w₁ w' : World}
    (same : World.SameStores w w₁) (rest : NoTrace c b w₁ w') : NoTrace c b w w' := by
  obtain ⟨db, cache⟩ := same
  obtain ⟨db', entries, held, released⟩ := rest
  simp only [World.lockHolder, cache, db] at db' entries held released
  exact ⟨db', entries, held, released⟩

namespace Attempt

variable {α β : Type}

/-- Every failure of `x` leaves no trace on batch `b`. -/
def Traceless (b : String) (x : Attempt α) : Prop :=
  ∀ c w e w', x.runIn c w = (.error e, w') → NoTrace c b w w'

/-- `x` changes neither store nor cache. -/
def KeepsStores (x : Attempt α) : Prop := ∀ c w, World.SameStores w (x.runIn c w).2

theorem Undone.traceless {x : Attempt α} (undone : x.Undone) (b : String) : x.Traceless b := by
  intro c w e w' failed
  have kept := undone c w e (by rw [failed])
  rw [failed] at kept
  subst kept
  exact NoTrace.refl c b _

/-- A step on an optional value fails without a trace when it does in both cases. -/
theorem Traceless.option {b : String} {k : Option β → Attempt α} (none_case : (k none).Traceless b)
    (some_case : ∀ s, (k (some s)).Traceless b) (o : Option β) : (k o).Traceless b := by
  cases o with
  | none => exact none_case
  | some s => exact some_case s

theorem ReadOnly.keepsStores {x : Attempt α} (ro : x.ReadOnly) : x.KeepsStores := by
  intro c w
  rw [ro c w]
  exact ⟨rfl, rfl⟩

theorem keepsStores_newRunId : (liftM Work.newRunId : Attempt String).KeepsStores :=
  fun _ _ => ⟨rfl, rfl⟩

/-- Steps that keep store and cache, then steps that fail without a trace, fail without a
trace. -/
theorem KeepsStores.bind {x : Attempt α} {f : α → Attempt β} {b : String} (keeps : x.KeepsStores)
    (rest : ∀ a, (f a).Traceless b) : (x >>= f).Traceless b := by
  intro c w e w' failed
  have same := keeps c w
  rw [runIn_bind] at failed
  rcases ran : x.runIn c w with ⟨e' | a, w₁⟩
  · rw [ran] at failed same
    cases failed
    exact NoTrace.of_sameStores same (NoTrace.refl c b _)
  · rw [ran] at failed same
    exact NoTrace.of_sameStores same (rest a c w₁ e w' failed)

theorem KeepsStores.bind_keeps {x : Attempt α} {f : α → Attempt β} (keeps : x.KeepsStores)
    (rest : ∀ a, (f a).KeepsStores) : (x >>= f).KeepsStores := by
  intro c w
  have same := keeps c w
  rw [runIn_bind]
  rcases ran : x.runIn c w with ⟨e' | a, w₁⟩
  · rw [ran] at same
    exact same
  · rw [ran] at same
    obtain ⟨db, cache⟩ := rest a c w₁
    exact ⟨db.trans same.1, cache.trans same.2⟩

/-- Takes the lock of batch `b` for `token`, runs `body` under it and releases the lock
whatever the outcome, as compute and force-fill jobs hold their batch. -/
def underLock (b token : String) (body : Attempt α) : Attempt α := do
  match ← Work.acquire b token with
  | .error .held => Attempt.fail (Failure.batchLocked b)
  | .error (.failed t) => Attempt.fail (Failure.externalService "redis" t)
  | .ok () => Attempt.always body (do let _ ← Work.release b token)

/-- A job that holds the lock of its batch while doing work that undoes its failures fails
without a trace: a lock it cannot take fails it at once, and a lock it took is released
whatever the work gave. -/
theorem underLock_traceless {b token : String} {body : Attempt α} (undone : body.Undone) :
    (underLock b token body).Traceless b := by
  intro c w e w' failed
  unfold underLock at failed
  rw [runIn_bind, runIn_lift] at failed
  rcases Work.acquire_cases w b token with ⟨l, refused⟩ | ⟨free, took⟩
  · -- the lock was not taken, and the job fails having changed nothing
    rw [refused] at failed
    have kept : w' = w := by
      simp only at failed
      split at failed <;> simp_all
    subst kept
    exact NoTrace.refl c b _
  · rw [took] at failed
    simp only [runIn_always, Work.runIn_bind, Work.runIn_release_any, Work.runIn_pure] at failed
    rcases ran : body.runIn c { w with cache := { w.cache with
        entries := w.cache.entries.insert (lockKey b) token } } with ⟨outcome, w₂⟩
    rw [ran] at failed
    obtain ⟨rfl, rfl⟩ := Prod.mk.inj failed
    -- the work failed, so it left the locked world as it found it
    have kept := undone c _ _ (by rw [ran])
    rw [ran] at kept
    subst kept
    have unheld : w.lockHolder b = none :=
      Table.find?_eq_none_iff.mpr fun listed => by simp [Table.contains_iff.mpr listed] at free
    rcases Cache.release_cases { w.cache with entries := w.cache.entries.insert (lockKey b) token }
      c.faults.cache (lockKey b) token with ⟨_, released⟩ | ⟨m, refused, kept⟩
    · -- the script finds the job's own token and drops the lock alone
      have dropped := Cache.releaseScript_held
        { w.cache with entries := w.cache.entries.insert (lockKey b) token } (lockKey b) token (by simp)
      refine ⟨rfl, fun k other => ?_, fun t held => by simp [unheld] at held, fun _ => ?_⟩
      · simp [released, dropped, Table.find?_filter_key _ _ other, other]
      · have gone : ((w.cache.entries.insert (lockKey b) token).filter fun k _ => k != lockKey b).find?
            (lockKey b) = none := Table.find?_eq_none_iff.mpr fun listed =>
          absurd (Table.contains_iff.mpr listed) (by simp [Table.contains_filter_key])
        simp only [World.lockHolder, released, dropped, gone]
        exact unheld.symm
    · -- the release failed, which the faults may not allow
      refine ⟨rfl, fun k other => by simp [kept, other], fun t held => by simp [unheld] at held,
        fun releases => ?_⟩
      have through := releases (w.cache.entries.insert (lockKey b) token) token
      rw [refused] at through
      cases through

end Attempt

theorem checkCompute_keepsStores (r : ComputeRequest) : (checkCompute r).KeepsStores := by
  intro c w
  rw [checkCompute_world]
  exact ⟨rfl, rfl⟩

theorem cachedSummary_readOnly (b : String) :
    (liftM (Work.cachedSummary b) : Attempt (Except String (Option String))).ReadOnly :=
  fun _ _ => rfl

/-- Once no cached summary answers a compute job, it draws its run identifier and either runs
dry, changing nothing, or works under the lock. -/
theorem computeUncached_traceless (t : Int) (r : ComputeRequest) (f : Bool) :
    (do
      let runId ← liftM Work.newRunId
      if r.dryRun = true then computeStored t r f runId
      else underLock r.batchId runId (computeStored t r f runId) : Attempt ComputeAnswer).Traceless
        r.batchId := by
  refine keepsStores_newRunId.bind fun runId => ?_
  split
  · exact (computeStored_undone t r f runId).traceless _
  · exact underLock_traceless (computeStored_undone t r f runId)

theorem computeBatch_traceless (settings : ComputeSettings) (r : ComputeRequest) :
    (computeBatch settings r).Traceless r.batchId := by
  unfold computeBatch
  refine (checkCompute_keepsStores r).bind fun _ => ?_
  split
  · -- a preview draws its run identifier and runs the engine in memory only
    exact keepsStores_newRunId.bind fun _ =>
      ((runProblem_readOnly _ _ _).bind fun _ => (readOnly_pure _).undone).traceless _
  · -- a cached summary answers the job; without one it goes on uncached
    have uncached := computeUncached_traceless settings.runTimeout r
      (r.forceFill.getD settings.forceFill)
    have answered : ∀ s : Summary,
        (pure (ComputeAnswer.ofSummary s) : Attempt ComputeAnswer).Traceless r.batchId :=
      fun _ => (readOnly_pure _).undone.traceless _
    dsimp only
    by_cases skip : (r.rerun || r.dryRun) = true
    · rw [if_pos skip]
      exact (readOnly_pure _).keepsStores.bind (Traceless.option uncached answered)
    · rw [if_neg skip]
      refine (cachedSummary_readOnly _).keepsStores.bind fun read => ?_
      split
      · exact (readOnly_pure _).keepsStores.bind (Traceless.option uncached answered)
      · exact (readOnly_pure _).keepsStores.bind (Traceless.option uncached answered)

theorem fillBatch_traceless (r : FillRequest) : (fillBatch r).Traceless r.batchId := by
  unfold fillBatch
  dsimp only
  by_cases valid : (fillSchema.validate (.obj [("batchId", .str r.batchId)])).valid = true
  · rw [if_neg (by simp [valid])]
    exact keepsStores_newRunId.bind fun runId => underLock_traceless (fillLocked_undone r.batchId runId)
  · rw [if_pos (by simpa using valid)]
    exact (readOnly_fail_bind _ _).undone.traceless _

/-- A dry run or a preview of a compute job changes neither store nor cache. -/
theorem computeBatch_keepsStores (settings : ComputeSettings) {r : ComputeRequest}
    (previewed : r.dryRun = true ∨ r.problem.isSome) : (computeBatch settings r).KeepsStores := by
  unfold computeBatch
  refine (checkCompute_keepsStores r).bind_keeps fun _ => ?_
  split
  · exact keepsStores_newRunId.bind_keeps fun _ =>
      (runProblem_readOnly _ _ _).keepsStores.bind_keeps fun _ => (readOnly_pure _).keepsStores
  · rename_i inline
    have dry : r.dryRun = true := by simpa [inline] using previewed
    dsimp only
    rw [if_pos (by simp [dry])]
    refine (readOnly_pure _).keepsStores.bind_keeps fun cached => ?_
    split
    · exact (readOnly_pure _).keepsStores
    · refine keepsStores_newRunId.bind_keeps fun runId => ?_
      rw [if_pos dry]
      intro c w
      rw [computeStored_dry_world _ _ _ _ _ _ dry]
      exact ⟨rfl, rfl⟩

/-- Failed jobs leave no trace. Under any faults and from any world, a compute or force-fill
job that fails leaves no trace on its batch (`NoTrace`): the store as it was, every cache
entry but the lock as it was, a lock held before still held, and the lock as it was when its
release goes through. A dry run or a preview of a compute job changes neither store nor
cache, whatever its outcome. -/
theorem failed_jobs_leave_no_trace :
    (∀ (settings : ComputeSettings) (r : ComputeRequest) (c : Conditions) (w w' : World) (e : Failure),
      (computeBatch settings r).runIn c w = (.error e, w') → NoTrace c r.batchId w w') ∧
    (∀ (r : FillRequest) (c : Conditions) (w w' : World) (e : Failure),
      (fillBatch r).runIn c w = (.error e, w') → NoTrace c r.batchId w w') ∧
    (∀ (settings : ComputeSettings) (r : ComputeRequest) (c : Conditions) (w : World),
      r.dryRun = true ∨ r.problem.isSome → World.SameStores w ((computeBatch settings r).runIn c w).2) :=
  ⟨fun settings r c w w' e failed => computeBatch_traceless settings r c w e w' failed,
   fun r c w w' e failed => fillBatch_traceless r c w e w' failed,
   fun settings _ c w previewed => computeBatch_keepsStores settings previewed c w⟩

/-- The world of `oneSeatWorld` with the lock of its batch held by another run. -/
def oneSeatHeld : World :=
  { oneSeatWorld with cache := { entries := Table.empty.insert (lockKey "b") "run-7" } }

/-- A force-fill job on a batch whose lock another run holds fails, and leaves no trace: the
other run still holds the lock. -/
theorem heldLock_fill_leaves_no_trace :
    ∃ e w', (fillBatch ⟨"b"⟩).runIn { now := Instant.zero } oneSeatHeld = (.error e, w') ∧
      NoTrace { now := Instant.zero } "b" oneSeatHeld w' ∧ w'.lockHolder "b" = some "run-7" := by
  have valid : (fillSchema.validate (.obj [("batchId", .str "b")])).valid = true := by
    decide +kernel
  have failed : (fillBatch ⟨"b"⟩).runIn { now := Instant.zero } oneSeatHeld =
      (.error (Failure.batchLocked "b" Instant.zero.rfc3339), { oneSeatHeld with drawn := 1 }) := by
    have clean : ({ now := Instant.zero } : Conditions).Clean := ⟨rfl, rfl, rfl⟩
    have held : (Table.empty.insert (lockKey "b") "run-7").contains (lockKey "b") = true := rfl
    simp [fillBatch, valid, Attempt.runIn_bind, Work.runIn_acquire clean, oneSeatHeld, oneSeatWorld, held]
  exact ⟨_, _, failed, failed_jobs_leave_no_trace.2.1 _ _ _ _ _ failed, rfl⟩

end SlotAllocation
