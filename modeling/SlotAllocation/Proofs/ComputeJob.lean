import SlotAllocation.Proofs.Committed

/-!
# A compute job on an open batch

Under clean conditions a compute job that names an open batch, with nothing readable cached
for it and its lock free, runs the built-in engine on the stored problem and commits the
outcome (`computeBatch_commits`): the store holds the run's rows and status
(`Database.commit`), the cache the outcome's summary, and the lock is dropped again.

1. Releasing the lock after the summary was cached drops the lock and nothing else
   (`Cache.releaseScript_after_put`, `Table.find?_filter_key`).
2. `computeStored_commits`, the commit path of the job on a batch that is open or that it
   reruns, whatever becomes of the summary write; `computeStored_runs`, the same path when the
   write succeeds; and `computeBatch_commits`, the whole job through the cache lookup, the lock
   and its release (`computeBatch_under_lock`).
-/

namespace SlotAllocation

/-! ## 1. Releasing a lock -/

namespace Table

variable {ν : Type} (t : Table ν) (key : String)

theorem find?_filter_key {k : String} (other : k ≠ key) :
    (t.filter fun j _ => j != key).find? k = t.find? k := by
  simp only [find?, filter, List.find?_filter]
  congr 2
  funext p
  by_cases hit : p.1 = k
  · simp [hit, other]
  · simp [hit]

theorem contains_filter_key : (t.filter fun j _ => j != key).contains key = false := by
  simp [contains, filter]

end Table

/-- The release script drops a lock that the token still holds. -/
theorem Cache.releaseScript_held (cache : Cache) (key token : String)
    (held : cache.entries.find? key = some token) :
    cache.releaseScript key token =
      { cache with entries := cache.entries.filter fun k _ => k != key } := by
  simp [releaseScript, held]

theorem lockKey_ne_resultKey (b : String) : lockKey b ≠ resultKey b :=
  fun same => absurd ((String.append_left_inj b).mp same) (by decide)

/-- A job that took the lock and then cached a summary still holds the lock, and its release
drops the lock alone. -/
theorem Cache.releaseScript_after_put (cache : Cache) (b token text : String) :
    { cache with
        entries := (cache.entries.insert (lockKey b) token).insert (resultKey b) text }.releaseScript
          (lockKey b) token =
      { cache with
        entries := ((cache.entries.insert (lockKey b) token).insert (resultKey b) text).filter
          fun k _ => k != lockKey b } := by
  apply Cache.releaseScript_held
  simp [lockKey_ne_resultKey]

/-! ## 2. A compute job on an open batch -/

/-- The request of a compute job whose variables name only the batch and the force-fill flag. -/
def plainCompute (b : String) (forceFill : Bool) : ComputeRequest :=
  ⟨b, some forceFill, false, false, none, ""⟩

/-- The run identifier the next job draws. -/
def World.nextRunId (w : World) : String := "run-" ++ toString (w.drawn + 1)

/-- The world once a job has drawn its run identifier and taken the lock of batch `b` with it. -/
def World.locked (w : World) (b : String) : World :=
  { w with
    cache := { w.cache with entries := w.cache.entries.insert (lockKey b) w.nextRunId }
    drawn := w.drawn + 1 }

/-- The world once the lock of batch `b` that `token` took is released. -/
def World.released (w : World) (b token : String) : World :=
  { w with cache := { w.cache.releaseScript (lockKey b) token with knowsScript := true } }

/-- The cached summary a compute job would answer with. -/
def World.cachedAnswer (w : World) (b : String) : Option Summary :=
  (w.cache.entries.find? (resultKey b)).bind readCachedSummary

/-- The outcome of the built-in engine on the stored problem of batch `b`. -/
def Database.engineOutcome (db : Database) (b : String) (forceFill : Bool) : Outcome :=
  stagedOutcome (db.storedPreferences b).normalize (db.storedCapacities b) forceFill
    (stableMatch (db.storedPreferences b).normalize (db.storedCapacities b))

/-- An engine run that outlasts the deadline fails with it; any other answers as the engine
does. Neither reads nor writes the world. -/
theorem runProblem_runIn (t : Int) (p : Problem) (f : Bool) (c : Conditions) (w : World) :
    (runProblem t p f).runIn c w =
      (if c.faults.runOverdue then .error (Failure.assignmentTimeout t c.now.rfc3339)
        else (runDefault p.prefs.normalize p.caps f).mapError (runFailure · c.now.rfc3339), w) := by
  unfold runProblem
  cases overdue : c.faults.runOverdue <;>
  simp only [Attempt.runIn_bind, Attempt.runIn_lift, Work.runIn_overdue, overdue] <;>
  cases runDefault p.prefs.normalize p.caps f <;> rfl

theorem runProblem_world (t : Int) (p : Problem) (f : Bool) (c : Conditions) (w : World) :
    ((runProblem t p f).runIn c w).2 = w := by
  rw [runProblem_runIn]

theorem runProblem_stored {c : Conditions} (onTime : c.faults.runOverdue = false) (t : Int)
    (w : World) (db : Database) (b : String) (f : Bool) :
    (runProblem t ⟨some (db.storedPreferences b), some (db.storedCapacities b)⟩ f).runIn c w =
      (.ok (db.engineOutcome b f), w) := by
  simp [runProblem_runIn, onTime, Problem.prefs, Problem.caps, runDefault_eq,
    Database.engineOutcome, Except.mapError]

theorem checkCompute_valid {r : ComputeRequest} (c : Conditions) (w : World)
    (valid : (computeSchema.validate r.toJson).valid = true) (inline : r.problem = none) :
    (checkCompute r).runIn c w = (.ok (), w) := by
  simp [checkCompute, valid, inline]

/-- A job that is no dry run, on a batch that is open or that it reruns, runs the engine on
the stored problem, commits the outcome and then writes its summary to the cache. Its answer
is the outcome's, whether that write succeeds or not. -/
theorem computeStored_commits {c : Conditions} (answers : c.faults.statements = Table.empty)
    (onTime : c.faults.runOverdue = false) (t : Int) (b : String) (f : Bool) (rid : String)
    {db : Database} {batch : Batch}
    (found : db.batch? b = some batch) (w : World) (current : w.db = db) (r : ComputeRequest)
    (named : r.batchId = b) (dry : r.dryRun = false)
    (runs : r.rerun = true ∨ batch.status = BatchStatus.openBatch.name) :
    (computeStored t r f rid).runIn c w =
      (.ok (ComputeAnswer.ofOutcome { batch with status := commitStatus (db.engineOutcome b f) }
          rid (db.engineOutcome b f) false),
        ((Work.putSummary (Summary.ofOutcome { batch with status := commitStatus (db.engineOutcome b f) }
            rid (db.engineOutcome b f) c.now)).runIn c
          { w with db := db.commit b rid (db.engineOutcome b f) }).2) := by
  have hid := Database.batch?_id _ _ found
  subst hid current
  have known : (w.db.batch? batch.id).isSome := by simp [found]
  -- the job describes the batch only when it neither reruns it nor finds it open
  have cond : (!r.rerun && batch.status != BatchStatus.openBatch.name) = false := by
    rcases runs with again | isOpen
    · simp [again]
    · simp [isOpen]
  unfold computeStored
  simp only [named, dry, Attempt.runIn_bind, Attempt.runIn_lift, Work.runIn_query,
    answers, Database.loadBatch_clean, found, Attempt.ofStore_ok, Attempt.runIn_pure,
    Bool.not_false, Bool.and_true, cond, Bool.false_eq_true, if_false, Database.loadProblem_clean,
    runProblem_stored onTime, Work.runIn_change, Database.saveOutcome_clean _ _ _ _ _ known,
    Work.runIn_now]
  simp only [Database.commit, commitStatus, runRows, List.map_map]
  rfl

/-- A job that is no dry run, on a batch that is open or that it reruns, runs the engine on
the stored problem, commits the outcome and caches its summary. -/
theorem computeStored_runs {c : Conditions} (clean : c.Clean) (t : Int) (b : String) (f : Bool)
    (rid : String) {db : Database} {batch : Batch} (found : db.batch? b = some batch) (w : World)
    (current : w.db = db) (r : ComputeRequest) (named : r.batchId = b) (dry : r.dryRun = false)
    (runs : r.rerun = true ∨ batch.status = BatchStatus.openBatch.name) :
    (computeStored t r f rid).runIn c w =
      (.ok (ComputeAnswer.ofOutcome { batch with status := commitStatus (db.engineOutcome b f) }
          rid (db.engineOutcome b f) false),
        { w with
          db := db.commit b rid (db.engineOutcome b f)
          cache := { w.cache with
            entries := w.cache.entries.insert (resultKey b)
              ((Summary.ofOutcome { batch with status := commitStatus (db.engineOutcome b f) }
                rid (db.engineOutcome b f) c.now).toJson.render Layout.compact) } }) := by
  rw [computeStored_commits clean.statements clean.onTime t b f rid found w current r named dry runs,
    Work.runIn_putSummary clean]
  -- the summary is cached under the batch's own key
  have hid := Database.batch?_id _ _ found
  subst hid
  rfl

/-- On an open batch, a job that is neither a dry run nor a rerun runs the engine on the
stored problem, commits the outcome and caches its summary. -/
theorem computeStored_open {c : Conditions} (clean : c.Clean) (t : Int) (b : String) (f : Bool)
    (rid : String) {db : Database} {batch : Batch} (found : db.batch? b = some batch)
    (isOpen : batch.status = BatchStatus.openBatch.name) (w : World) (current : w.db = db)
    (r : ComputeRequest) (named : r.batchId = b) (dry : r.dryRun = false) :
    (computeStored t r f rid).runIn c w =
      (.ok (ComputeAnswer.ofOutcome { batch with status := commitStatus (db.engineOutcome b f) }
          rid (db.engineOutcome b f) false),
        { w with
          db := db.commit b rid (db.engineOutcome b f)
          cache := { w.cache with
            entries := w.cache.entries.insert (resultKey b)
              ((Summary.ofOutcome { batch with status := commitStatus (db.engineOutcome b f) }
                rid (db.engineOutcome b f) c.now).toJson.render Layout.compact) } }) :=
  computeStored_runs clean t b f rid found w current r named dry (.inr isOpen)

/-- With nothing readable cached and its lock free, a compute job takes the lock, runs on the
stored batch under it and releases the lock, whatever the outcome. -/
theorem computeBatch_under_lock {c : Conditions} (clean : c.Clean) (settings : ComputeSettings)
    (w : World) {b : String} (f : Bool)
    (valid : (computeSchema.validate (plainCompute b f).toJson).valid = true)
    (missed : w.cachedAnswer b = none) (free : w.cache.entries.contains (lockKey b) = false) :
    (computeBatch settings (plainCompute b f)).runIn c w =
      (((computeStored settings.runTimeout (plainCompute b f) f w.nextRunId).runIn c
          (w.locked b)).1,
        ((computeStored settings.runTimeout (plainCompute b f) f w.nextRunId).runIn c
          (w.locked b)).2.released b w.nextRunId) := by
  unfold computeBatch
  rw [Attempt.runIn_bind_ok _ _ _ (checkCompute_valid c w valid rfl)]
  have unread : ∀ text, w.cache.entries.find? (resultKey b) = some text →
      readCachedSummary text = none := by
    intro text hit
    simpa [World.cachedAnswer, hit] using missed
  simp only [plainCompute, Option.getD_some, Bool.or_self, Bool.false_eq_true, if_false,
    Attempt.runIn_bind, Attempt.runIn_lift, Work.runIn_cachedSummary clean]
  -- whatever text is cached, none reads as a summary, and the job goes on to take the lock
  rcases hfind : w.cache.entries.find? (resultKey b) with _ | text <;>
  simp only [pure_bind, unread, hfind, Attempt.runIn_bind, Attempt.runIn_lift, Work.runIn_newRunId,
    Work.runIn_acquire clean, free, Bool.false_eq_true, if_false, Attempt.runIn_always,
    Work.runIn_bind, Work.runIn_release clean, Work.runIn_pure] <;>
  rfl

theorem computeBatch_commits {c : Conditions} (clean : c.Clean) (settings : ComputeSettings)
    (w : World) {b : String} (f : Bool)
    (valid : (computeSchema.validate (plainCompute b f).toJson).valid = true)
    (missed : w.cachedAnswer b = none) (free : w.cache.entries.contains (lockKey b) = false)
    {batch : Batch} (found : w.db.batch? b = some batch)
    (isOpen : batch.status = BatchStatus.openBatch.name) :
    ∃ w', (computeBatch settings (plainCompute b f)).runIn c w =
        (.ok (ComputeAnswer.ofOutcome { batch with status := commitStatus (w.db.engineOutcome b f) }
          w.nextRunId (w.db.engineOutcome b f) false), w') ∧
      w'.db = w.db.commit b w.nextRunId (w.db.engineOutcome b f) ∧
      w'.cache.entries.find? (resultKey b) =
        some ((Summary.ofOutcome { batch with status := commitStatus (w.db.engineOutcome b f) }
          w.nextRunId (w.db.engineOutcome b f) c.now).toJson.render Layout.compact) ∧
      w'.cache.entries.contains (lockKey b) = false := by
  rw [computeBatch_under_lock clean settings w f valid missed free,
    computeStored_open clean _ b f _ found isOpen (w.locked b) rfl (plainCompute b f) rfl rfl]
  -- the release finds the job's own token on the lock and drops the lock alone
  refine ⟨_, rfl, rfl, ?_, ?_⟩ <;>
  simp [World.released, World.locked, Cache.releaseScript_after_put,
    Table.find?_filter_key _ _ (lockKey_ne_resultKey b).symm, Table.contains_filter_key]

end SlotAllocation
