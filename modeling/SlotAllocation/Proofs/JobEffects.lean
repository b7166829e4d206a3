import SlotAllocation.Proofs.RetriedCompute

/-!
# What a job can do to a batch

Under clean conditions a compute job or a force-fill job on batch `b` changes the store and the
text cached for `b` in few ways. A compute job leaves both as they were, caches the summary
rebuilt from the rows of the committed batch, or commits a run of the built-in engine and caches
its summary (`computeBatch_effect`). A force-fill job leaves both as they were, or appends a
forced row for each pair it forces, marks the batch force-filled and caches the summary rebuilt
from the rows it holds (`fillBatch_effect`). The steps around the work (drawing a run
identifier, taking and releasing the lock) keep both (`World.Quiet`), so each effect is proved
once for the work under the lock and carried through them (`ComputeEffect.frame`,
`FillEffect.frame`).

1. Steps that keep the store and the cached text.
2. The compute job.
3. The force-fill job.
-/

namespace SlotAllocation

/-! ## 1. Steps that keep the store and the cached text -/

/-- The text cached as the summary of batch `b`. -/
def World.cachedText (w : World) (b : String) : Option String :=
  w.cache.entries.find? (resultKey b)

/-- Neither the store nor the text cached for batch `b` differ between the two worlds. -/
structure World.Quiet (b : String) (w w' : World) : Prop where
  db : w'.db = w.db
  cached : w'.cachedText b = w.cachedText b

namespace World.Quiet

variable {b : String} {w w₁ w₂ : World}

@[refl] theorem refl (w : World) : World.Quiet b w w := ⟨rfl, rfl⟩

theorem trans (first : World.Quiet b w w₁) (second : World.Quiet b w₁ w₂) :
    World.Quiet b w w₂ :=
  ⟨second.db.trans first.db, second.cached.trans first.cached⟩

end World.Quiet

theorem Cache.releaseScript_find?_other (cache : Cache) {key k : String} (token : String)
    (other : k ≠ key) : (cache.releaseScript key token).entries.find? k = cache.entries.find? k := by
  unfold Cache.releaseScript
  split
  · exact Table.find?_filter_key _ _ other
  · rfl

theorem World.quiet_drawn (w : World) (b : String) (n : Nat) :
    World.Quiet b w { w with drawn := n } := ⟨rfl, rfl⟩

theorem World.quiet_locked (w : World) (b : String) : World.Quiet b w (w.locked b) := by
  refine ⟨rfl, ?_⟩
  simp [World.locked, World.cachedText, Table.find?_insert, (lockKey_ne_resultKey b).symm]

theorem World.quiet_released (w : World) (b token : String) :
    World.Quiet b w (w.released b token) :=
  ⟨rfl, Cache.releaseScript_find?_other _ _ (lockKey_ne_resultKey b).symm⟩

/-! ## 2. The compute job -/

theorem Attempt.runIn_map {α β : Type} (g : α → β) (x : Attempt α) (c : Conditions) (w : World) :
    (g <$> x).runIn c w = ((x.runIn c w).1.map g, (x.runIn c w).2) := by
  rw [map_eq_pure_bind, Attempt.runIn_bind]
  rcases x.runIn c w with ⟨_ | _, _⟩ <;> rfl

/-- Checking a request neither reads nor writes the world. -/
theorem checkCompute_world (r : ComputeRequest) (c : Conditions) (w : World) :
    ((checkCompute r).runIn c w).2 = w := by
  unfold checkCompute
  cases valid : (computeSchema.validate r.toJson).valid <;> cases r.problem <;>
  simp [valid, Attempt.runIn_bind]
  all_goals split <;> simp

/-- A dry run reads the store and changes nothing. -/
theorem computeStored_dry_world (t : Int) (r : ComputeRequest) (f : Bool) (rid : String)
    (c : Conditions) (w : World) (dry : r.dryRun = true) :
    ((computeStored t r f rid).runIn c w).2 = w := by
  unfold computeStored
  simp only [Attempt.runIn_bind, Attempt.runIn_lift, Work.runIn_query, dry, Bool.not_true,
    Bool.and_false, Bool.false_and, Bool.false_eq_true, if_false, if_true]
  cases w.db.loadBatch c.faults.statements r.batchId with
  | error e => simp
  | ok batch =>
    rcases loaded : w.db.loadProblem c.faults.statements r.batchId with e | problem
    · simp [loaded]
    · have kept := runProblem_world t problem f c w
      rcases ran : (runProblem t problem f).runIn c w with ⟨_ | _, w'⟩ <;>
      simp_all

/-- What a compute job on batch `b`, run under conditions `c` from `w`, can leave in `w'`: the
store and the text cached for `b` as they were; or the summary rebuilt from the rows of the
committed batch cached; or a run of the built-in engine committed and its summary cached. -/
inductive ComputeEffect (c : Conditions) (b : String) (w w' : World) : Prop
  | quiet (kept : World.Quiet b w w')
  | described {batch : Batch} (found : w.db.batch? b = some batch)
      (committed : batch.status ≠ BatchStatus.openBatch.name) (db : w'.db = w.db)
      (cached : w'.cachedText b =
        some ((w.db.rebuiltSummary batch c.now).toJson.render Layout.compact))
  | committed {batch : Batch} (f : Bool) (run : String) (found : w.db.batch? b = some batch)
      (db : w'.db = w.db.commit b run (w.db.engineOutcome b f))
      (cached : w'.cachedText b =
        some ((Summary.ofOutcome { batch with status := commitStatus (w.db.engineOutcome b f) } run
          (w.db.engineOutcome b f) c.now).toJson.render Layout.compact))

/-- Steps that keep the store and the cached text of `b` before or after do not change what
a compute job did. -/
theorem ComputeEffect.frame {c : Conditions} {b : String} {w w₁ w₂ w' : World}
    (before : World.Quiet b w w₁) (effect : ComputeEffect c b w₁ w₂)
    (after : World.Quiet b w₂ w') : ComputeEffect c b w w' := by
  cases effect with
  | quiet kept => exact .quiet (before.trans (kept.trans after))
  | described found committed db cached =>
    rw [before.db] at found db cached
    exact .described found committed (after.db.trans db) (after.cached.trans cached)
  | committed f run found db cached =>
    rw [before.db] at found db cached
    exact .committed f run found (after.db.trans db) (after.cached.trans cached)

/-- Under clean conditions a compute job on batch `b` that is no dry run, with its lock taken,
fails on a missing batch, describes a committed batch it does not rerun, and otherwise
commits a run of the built-in engine. -/
theorem computeStored_effect {c : Conditions} (clean : c.Clean) (t : Int) (r : ComputeRequest)
    (f : Bool) (rid : String) (w : World) {b : String} (named : r.batchId = b)
    (dry : r.dryRun = false) :
    ComputeEffect c b w ((computeStored t r f rid).runIn c w).2 := by
  rcases found : w.db.batch? b with _ | batch
  · -- no batch to load: the job fails at once
    have failed : (computeStored t r f rid).runIn c w =
        (.error (Failure.batchNotFound r.batchId c.now.rfc3339), w) := by
      unfold computeStored
      simp [Attempt.runIn_bind, clean.statements, Database.loadBatch_clean, named, found]
    rw [failed]
    exact .quiet (.refl w)
  · by_cases described : r.rerun = false ∧ batch.status ≠ BatchStatus.openBatch.name
    · rw [computeStored_committed clean t b f rid w found described.2 r named described.1 dry]
      exact .described found described.2 rfl (by simp [World.cachedText, Table.find?_insert])
    · have runs : r.rerun = true ∨ batch.status = BatchStatus.openBatch.name := by
        cases again : r.rerun <;> simp_all
      rw [computeStored_runs clean t b f rid found w rfl r named dry runs]
      exact .committed f rid found rfl (by simp [World.cachedText, Table.find?_insert])

/-- The rest of a compute job once no cached summary answers it: a dry run reads and changes
nothing, a job that finds the lock held fails, and a job that takes the lock runs on the stored
batch and releases the lock. -/
theorem computeUncached_effect {c : Conditions} (clean : c.Clean) (t : Int) (r : ComputeRequest)
    (f : Bool) (w : World) {b : String} (named : r.batchId = b) :
    ComputeEffect c b w ((do
      let runId ← liftM Work.newRunId
      if r.dryRun = true then computeStored t r f runId
      else do
        let lock ← liftM (Work.acquire r.batchId runId)
        match lock with
        | .error .held => Attempt.fail (Failure.batchLocked r.batchId)
        | .error (.failed t) => Attempt.fail (Failure.externalService "redis" t)
        | .ok () =>
          (computeStored t r f runId).always do
            let _ ← Work.release r.batchId runId
            pure () : Attempt ComputeAnswer).runIn c w).2 := by
  simp only [Attempt.runIn_bind, Attempt.runIn_lift, Work.runIn_newRunId]
  by_cases dry : r.dryRun = true
  · rw [if_pos dry, computeStored_dry_world _ _ _ _ _ _ dry]
    exact .quiet (World.quiet_drawn _ _ _)
  · have live : r.dryRun = false := by simpa using dry
    simp only [live, Bool.false_eq_true, if_false, Attempt.runIn_bind, Attempt.runIn_lift,
      Work.runIn_acquire clean]
    by_cases held : w.cache.entries.contains (lockKey r.batchId) = true
    · -- the lock is held: the job fails having drawn its run identifier
      simp only [held, if_true, Attempt.runIn_fail]
      exact .quiet (World.quiet_drawn _ _ _)
    · simp only [held, Bool.false_eq_true, if_false, Attempt.runIn_always, Work.runIn_bind,
        Work.runIn_release clean, Work.runIn_pure]
      subst named
      have ran := computeStored_effect clean t r f w.nextRunId (w.locked r.batchId) rfl live
      exact ran.frame (World.quiet_locked w r.batchId) (World.quiet_released
        ((computeStored t r f w.nextRunId).runIn c (w.locked r.batchId)).2 r.batchId w.nextRunId)

/-- Under clean conditions a compute job on batch `b` leaves the store and the cached text of
`b` as they were, describes the committed batch, or commits a run of the built-in engine. -/
theorem computeBatch_effect {c : Conditions} (clean : c.Clean) (settings : ComputeSettings)
    (r : ComputeRequest) (w : World) {b : String} (named : r.batchId = b) :
    ComputeEffect c b w ((computeBatch settings r).runIn c w).2 := by
  unfold computeBatch
  rw [Attempt.runIn_bind]
  have checked := checkCompute_world r c w
  rcases hcheck : (checkCompute r).runIn c w with ⟨_ | _, w₁⟩
  all_goals rw [hcheck] at checked; subst checked
  · exact .quiet (.refl _)
  · cases hp : r.problem with
    | some p =>
      -- a problem given inline runs in memory only
      simp only [Attempt.runIn_bind, Attempt.runIn_lift, Work.runIn_newRunId]
      have kept := runProblem_world settings.runTimeout p (r.forceFill.getD settings.forceFill) c
        { w₁ with drawn := w₁.drawn + 1 }
      rcases ran : (runProblem settings.runTimeout p (r.forceFill.getD settings.forceFill)).runIn c
          { w₁ with drawn := w₁.drawn + 1 } with ⟨_ | _, w₂⟩ <;>
      rw [ran] at kept <;> subst kept <;>
      exact .quiet (World.quiet_drawn _ _ _)
    | none =>
      by_cases skip : (r.rerun || r.dryRun) = true
      · simp only [skip, if_true, pure_bind]
        exact computeUncached_effect clean _ r _ w₁ named
      · simp only [skip, Bool.false_eq_true, if_false, Attempt.runIn_bind, Attempt.runIn_lift,
          Work.runIn_cachedSummary clean]
        -- a readable cached summary answers the job; otherwise the job goes on as uncached
        rcases hfind : w₁.cache.entries.find? (resultKey r.batchId) with _ | text
        · simp only [pure_bind]
          exact computeUncached_effect clean _ r _ w₁ named
        · cases hread : readCachedSummary text with
          | none =>
            simp only [hread, pure_bind]
            exact computeUncached_effect clean _ r _ w₁ named
          | some s =>
            simp only [hread, pure_bind, Attempt.runIn_pure]
            exact .quiet (.refl _)

/-! ## 3. The force-fill job -/

@[simp] theorem Summary.ofRows_batchId (batch : Batch) (rows : List Row) (prefs : Preferences)
    (completed : Instant) : (Summary.ofRows batch rows prefs completed).batchId = batch.id := rfl

/-- What a force-fill job on batch `b`, run under conditions `c` from `w`, can leave in `w'`:
the store and the text cached for `b` as they were, or one forced row appended for each pair
it forces, the batch marked force-filled and the summary rebuilt from the rows cached. -/
inductive FillEffect (c : Conditions) (b : String) (w w' : World) : Prop
  | quiet (kept : World.Quiet b w w')
  | filled {batch : Batch} (run : String) (found : w.db.batch? b = some batch)
      (committed : batch.status ≠ BatchStatus.openBatch.name) (busy : (w.db.fillForced b).size ≠ 0)
      (db : w'.db = { w.db with
        rows := w.db.rows ++ (forcedRows run (w.db.fillForced b)).map fun row => ⟨b, row⟩
        batches := w.db.restamp b BatchStatus.forceFilled.name })
      (cached : w'.cachedText b = some ((Summary.ofRows
        { batch with status := BatchStatus.forceFilled.name }
        (w.db.batchRows b ++ waitingRows (w.db.fillCurrent b).waiting (w.db.fillForced b) run)
        (w.db.storedPreferences b).normalize c.now).toJson.render Layout.compact))

/-- Holding the lock, a force-fill job on a missing or open batch fails, one that overfills a
slot or forces nobody writes nothing, and otherwise it appends and caches. -/
theorem fillLocked_effect {c : Conditions} (clean : c.Clean) (w : World) (b run : String) :
    FillEffect c b w ((fillLocked b run).runIn c w).2 := by
  rcases found : w.db.batch? b with _ | batch
  · have failed : (fillLocked b run).runIn c w =
        (.error (Failure.batchNotFound b c.now.rfc3339), w) := by
      unfold fillLocked
      simp [Attempt.runIn_bind, clean.statements, Database.loadBatch_clean, found]
    rw [failed]
    exact .quiet (.refl w)
  · by_cases isOpen : batch.status = BatchStatus.openBatch.name
    · have failed : ((fillLocked b run).runIn c w).2 = w := by
        unfold fillLocked
        simp [Attempt.runIn_bind, clean.statements, Database.loadBatch_clean, found, isOpen]
      rw [failed]
      exact .quiet (.refl w)
    · rcases hcap : checkCapacity (some (mergeForced (some (w.db.fillCurrent b)) (w.db.fillForced b)
          (w.db.storedPreferences b).normalize)) (w.db.storedCapacities b) with _ | v
      -- the merged pairs fit the seats: the job writes exactly when it forces somebody
      · obtain ⟨a, ran⟩ := fillLocked_fits clean w b run found isOpen hcap
        rw [ran]
        by_cases nothing : (w.db.fillForced b).size = 0
        · rw [if_pos nothing]
          exact .quiet (.refl w)
        · rw [if_neg nothing]
          have named := Database.batch?_id _ _ found
          subst named
          exact .filled run found isOpen nothing rfl (by simp [World.cachedText, Table.find?_insert])
      -- a merge that overfills a slot stops the job before it writes
      · have notOpen : (batch.status == BatchStatus.openBatch.name) = false := by simpa using isOpen
        have failed : ((fillLocked b run).runIn c w).2 = w := by
          unfold fillLocked
          simp only [Attempt.runIn_bind, Attempt.runIn_lift, Work.runIn_query, clean.statements,
            Database.loadBatch_clean, found, Attempt.ofStore_ok, Attempt.runIn_pure, notOpen,
            Bool.false_eq_true, if_false, Database.loadProblem_clean, Database.loadRows_clean,
            Problem.prefs, Problem.caps, Option.getD_some]
          have current : summarize (splitRows (w.db.batchRows b)).1 (splitRows (w.db.batchRows b)).2
              (w.db.storedPreferences b).normalize = w.db.fillCurrent b := rfl
          have forced : force (w.db.fillCurrent b).waiting (w.db.storedCapacities b)
              (splitRows (w.db.batchRows b)).1.counts = w.db.fillForced b := rfl
          simp [current, forced, hcap, Attempt.runIn_bind]
        rw [failed]
        exact .quiet (.refl w)

/-- Steps that keep the store and the cached text of `b` before or after do not change what
a force-fill job did. -/
theorem FillEffect.frame {c : Conditions} {b : String} {w w₁ w₂ w' : World}
    (before : World.Quiet b w w₁) (effect : FillEffect c b w₁ w₂)
    (after : World.Quiet b w₂ w') : FillEffect c b w w' := by
  cases effect with
  | quiet kept => exact .quiet (before.trans (kept.trans after))
  | filled run found committed busy db cached =>
    rw [before.db] at found busy db cached
    exact .filled run found committed busy (after.db.trans db) (after.cached.trans cached)

/-- Under clean conditions a force-fill job on batch `b` leaves the store and the cached text
of `b` as they were, or appends the forced rows and caches the rebuilt summary. -/
theorem fillBatch_effect {c : Conditions} (clean : c.Clean) (r : FillRequest) (w : World)
    {b : String} (named : r.batchId = b) : FillEffect c b w ((fillBatch r).runIn c w).2 := by
  subst named
  unfold fillBatch
  by_cases valid : (fillSchema.validate (.obj [("batchId", .str r.batchId)])).valid = true
  · simp only [valid, Bool.not_true, Bool.false_eq_true, if_false, Attempt.runIn_bind,
      Attempt.runIn_lift, Work.runIn_newRunId, Work.runIn_acquire clean]
    by_cases held : w.cache.entries.contains (lockKey r.batchId) = true
    · -- the lock is held: the job fails having drawn its run identifier
      simp only [held, if_true, Attempt.runIn_fail]
      exact .quiet (World.quiet_drawn _ _ _)
    · simp only [held, Bool.false_eq_true, if_false, Attempt.runIn_always, Work.runIn_bind,
        Work.runIn_release clean, Work.runIn_pure]
      have ran := fillLocked_effect clean (w.locked r.batchId) r.batchId w.nextRunId
      exact ran.frame (World.quiet_locked w r.batchId) (World.quiet_released
        ((fillLocked r.batchId w.nextRunId).runIn c (w.locked r.batchId)).2 r.batchId w.nextRunId)
  · simp [valid, Attempt.runIn_bind]
    exact .quiet (.refl w)

end SlotAllocation
