import SlotAllocation.Proofs.JobEffects
import SlotAllocation.Proofs.ForcingLater

/-!
# The cached summary agrees with the stored rows

Under clean conditions, every run of compute and force-fill jobs on a batch that starts open,
without rows and without a cached summary, leaves a cached summary, when there is one, that
agrees with the summary rebuilt from the stored rows (`cached_summary_matches_rows`). The
invariant (`World.Kept`) has three parts: the stored rows have one of the shapes the jobs leave
(`Stored`), the capacities are 64-bit words, and the cached summary agrees with the rows
(`World.Coherent`). Each job keeps it (`World.Kept.after`), by the case analysis of what a job
can do (`computeBatch_effect`, `fillBatch_effect`), and a run keeps it by induction
(`World.Kept.run`).

1. Rows read back up to order: the summary rebuilt from rows of distinct applicants does not
   depend on their order, and neither does the committed run when one run wrote the unforced
   rows and one the forced rows (`ofRows_perm`, `committedRunId_perm`).
2. Forcing twice forces nobody (`force_after_forceStage`): after the forced phase either nobody
   waits or every slot is full.
3. The shapes of the stored rows; a force-fill job writes only after a commit without forced
   filling (`Stored.unforced_of_busy`).
4. The cached summary agrees with the rows after each kind of job.
5. Along every run of jobs.
-/

namespace SlotAllocation

/-! ## 1. Rows read back up to order -/

/-- Every unforced row was written by run `run` and every forced row by run `run'`. -/
def WrittenBy (rows : List Row) (run run' : String) : Prop :=
  ∀ x ∈ rows, x.run = if x.isForced then run' else run

/-- The committed run of rows written by two runs: the unforced rows' run when there is an
unforced row, and the forced rows' run otherwise. -/
theorem committedRunId_writtenBy {rows : List Row} {run run' : String}
    (written : WrittenBy rows run run') :
    committedRunId rows =
      if rows.any (fun x => !x.isForced) then run else if rows = [] then "" else run' := by
  unfold committedRunId
  cases found : rows.find? (fun x => !x.isForced) with
  | some x =>
    have listed := List.mem_of_find?_eq_some found
    have unforced : x.isForced = false := by simpa using List.find?_some found
    have some : rows.any (fun x => !x.isForced) = true := List.any_eq_true.mpr ⟨x, listed, by simp [unforced]⟩
    simp [written x listed, unforced, some]
  | none =>
    have forced : ∀ x ∈ rows, x.isForced = true := by simpa using List.find?_eq_none.mp found
    have none : rows.any (fun x => !x.isForced) = false := by simpa using forced
    cases rows with
    | nil => rfl
    | cons x rest => simp [none, written x List.mem_cons_self, forced x List.mem_cons_self]

theorem WrittenBy.perm {rows rows' : List Row} {run run' : String} (written : WrittenBy rows run run')
    (perm : rows.Perm rows') : WrittenBy rows' run run' :=
  fun x listed => written x (perm.mem_iff.mpr listed)

/-- Rows written by two runs name the same committed run in any order. -/
theorem committedRunId_perm {rows rows' : List Row} {run run' : String}
    (written : WrittenBy rows run run') (perm : rows.Perm rows') :
    committedRunId rows = committedRunId rows' := by
  have empty : rows = [] ↔ rows' = [] := by
    rw [← List.length_eq_zero_iff, ← List.length_eq_zero_iff, perm.length_eq]
  rw [committedRunId_writtenBy written, committedRunId_writtenBy (written.perm perm), perm.any_eq]
  simp only [empty]

/-- Rows of distinct applicants split into the same pairs and forced pairs in any order. -/
theorem splitRows_perm {rows rows' : List Row} (distinct : (rows.map Row.applicant).Nodup)
    (perm : rows.Perm rows') : splitRows rows = splitRows rows' := by
  obtain ⟨pairs, forced⟩ := splitRows_entries_perm distinct
  obtain ⟨pairs', forced'⟩ := splitRows_entries_perm ((perm.map _).nodup_iff.mp distinct)
  exact Prod.ext (Table.ext_of_perm (pairs.trans ((perm.map _).trans pairs'.symm)))
    (Table.ext_of_perm (forced.trans (((perm.filter _).map _).trans forced'.symm)))

/-- The summary rebuilt from rows of distinct applicants does not depend on their order, but
for the run identifier read off them. -/
theorem ofRows_perm {rows rows' : List Row} (distinct : (rows.map Row.applicant).Nodup)
    (perm : rows.Perm rows') (batch : Batch) (prefs : Preferences) (completed : Instant)
    (run : String) :
    { Summary.ofRows batch rows prefs completed with runId := run } =
      { Summary.ofRows batch rows' prefs completed with runId := run } := by
  simp only [Summary.ofRows, Summary.ofResult, splitRows_perm distinct perm,
    (perm.filter _).length_eq]

/-- Rebuilding a summary cleans the preferences itself. -/
theorem ofRows_normalize (batch : Batch) (rows : List Row) (prefs : Preferences)
    (completed : Instant) :
    Summary.ofRows batch rows prefs.normalize completed = Summary.ofRows batch rows prefs completed := by
  simp only [Summary.ofRows, Preferences.normalize_normalize]

/-- Rows appended for batch `b` come after its stored rows, up to order. -/
theorem Database.batchRows_append_perm (db : Database) (b : String) (rows : List Row)
    (batches : List Batch) :
    ({ db with rows := db.rows ++ rows.map fun row => ⟨b, row⟩, batches := batches } : Database).batchRows
      b |>.Perm (db.batchRows b ++ rows) := by
  have own : ((db.rows ++ rows.map fun row => (⟨b, row⟩ : StoredRow)).filter (·.batch == b)).map
      (·.row) = (db.rows.filter (·.batch == b)).map (·.row) ++ rows := by
    simp [List.filter_append, List.filter_map, Function.comp_def]
  unfold Database.batchRows
  dsimp only
  rw [own]
  exact (List.mergeSort_perm _ _).trans ((List.mergeSort_perm _ _).symm.append_right rows)

/-! ## 2. Forcing twice forces nobody -/

/-- After the forced phase of the built-in engine nobody more can be forced: either nobody
waits, or every slot is full. -/
theorem force_after_forceStage (prefs : Preferences) {caps : Capacities} (words : caps.Words) :
    (force (forceStage prefs caps true (stableMatch prefs caps)).waiting caps
      (forceStage prefs caps true (stableMatch prefs caps)).pairs.counts).size = 0 := by
  have summarized := forceStage_summarized prefs caps true (stableMatch_summarized prefs caps)
  have fits := forceStage_withinSeats prefs caps true (stableMatch_withinSeats prefs caps)
  rw [force_size _ _ _ summarized.waiting_nodup]
  by_cases nobody : (forceStage prefs caps true (stableMatch prefs caps)).waiting = []
  · simp [nobody]
  · -- somebody still waits, so every slot is full and no seat is left
    have noSeat : ∀ s ∈ caps.slots,
        seatsLeft caps (forceStage prefs caps true (stableMatch prefs caps)).pairs.counts s = 0 := by
      intro s listed
      have left := seatsLeft_eq words (fits s)
      have full := forceStage_full_of_waiting prefs caps words nobody listed
      omega
    have none : natSum (caps.slots.map (seatsLeft caps
        (forceStage prefs caps true (stableMatch prefs caps)).pairs.counts)) = 0 := by
      show (caps.slots.map _).sum = 0
      refine List.sum_eq_zero fun n counted => ?_
      obtain ⟨s, listed, rfl⟩ := List.mem_map.mp counted
      exact noSeat s listed
    simp [none]

/-! ## 3. The rows jobs leave -/

/-- The rows stored for batch `b` as compute and force-fill jobs leave them: none while the
batch is open; the rows of a run of the built-in engine after a commit; and after a commit
without forced filling, its rows with the forced rows of a force-fill job, in some order. -/
inductive Stored (db : Database) (b : String) : Prop
  | opened {batch : Batch} (found : db.batch? b = some batch)
      (isOpen : batch.status = BatchStatus.openBatch.name) (empty : db.batchRows b = [])
  | committed (f : Bool) (run : String) (rows : db.batchRows b = runRows run (db.engineOutcome b f))
  | filled (run run' : String)
      (rows : (db.batchRows b).Perm (runRows run (db.engineOutcome b false) ++
        forcedRows run' (forcedPairs (db.storedPreferences b).normalize (db.storedCapacities b))))

/-- A force-fill job reads back a result from rows that split into its pairs and forced pairs. -/
theorem Database.fill_of_split (db : Database) (b : String) {r : Result}
    (split : splitRows (db.batchRows b) = (r.pairs, r.forced))
    (summarized : Summarized (db.storedPreferences b).normalize r) :
    db.fillCurrent b = r ∧ db.fillForced b = force r.waiting (db.storedCapacities b) r.pairs.counts := by
  have current : db.fillCurrent b = r := by
    unfold Database.fillCurrent
    rw [split]
    exact summarized
  refine ⟨current, ?_⟩
  unfold Database.fillForced
  rw [current, split]

section Fill

variable (db : Database) (b : String)

/-- After a commit without forced filling, a force-fill job reads back the matcher's result
and forces the pairs the forced phase would. -/
theorem Database.fill_after_unforced {run : String}
    (rows : db.batchRows b = runRows run (db.engineOutcome b false)) :
    db.fillCurrent b = stableMatch (db.storedPreferences b).normalize (db.storedCapacities b) ∧
      db.fillForced b = forcedPairs (db.storedPreferences b).normalize (db.storedCapacities b) := by
  have split := splitRows_unforced (db.storedPreferences b).normalize (db.storedCapacities b) run
  rw [← stableMatch_forced (db.storedPreferences b).normalize (db.storedCapacities b)] at split
  exact db.fill_of_split b (rows ▸ split) (stableMatch_summarized _ _)

/-- Rows that split as the result of a run with forced filling leave nobody to force. -/
theorem Database.fillForced_of_forced (words : (db.storedCapacities b).Words)
    (split : splitRows (db.batchRows b) =
      ((db.engineOutcome b true).result.pairs, (db.engineOutcome b true).result.forced)) :
    (db.fillForced b).size = 0 := by
  have summarized := defaultOutcome_summarized (db.storedPreferences b).normalize
    (db.storedCapacities b) true
  rw [(db.fill_of_split b split summarized).2]
  unfold Database.engineOutcome
  rw [defaultOutcome_result]
  exact force_after_forceStage _ words

/-- A force-fill job forces somebody only after a commit without forced filling: after one
with it, or after an earlier force-fill job, every seat that could go is taken. -/
theorem Stored.unforced_of_busy {db : Database} {b : String} (stored : Stored db b)
    (words : (db.storedCapacities b).Words) {batch : Batch} (found : db.batch? b = some batch)
    (committed : batch.status ≠ BatchStatus.openBatch.name) (busy : (db.fillForced b).size ≠ 0) :
    ∃ run, db.batchRows b = runRows run (db.engineOutcome b false) := by
  cases stored with
  | opened found' isOpen _ =>
    rw [found] at found'
    cases found'
    exact absurd isOpen committed
  | committed f run rows =>
    cases f with
    | false => exact ⟨run, rows⟩
    | true =>
      have split := splitRows_commit (db.storedPreferences b).normalize (db.storedCapacities b) true run
      exact absurd (db.fillForced_of_forced b words (rows ▸ split)) busy
  | filled run run' rows =>
    have same : (runRows run (db.engineOutcome b false) ++ forcedRows run' (forcedPairs
        (db.storedPreferences b).normalize (db.storedCapacities b))).Perm
        (runRows run (db.engineOutcome b false) ++ waitingRows (stableMatch (db.storedPreferences b).normalize
          (db.storedCapacities b)).waiting (forcedPairs (db.storedPreferences b).normalize
            (db.storedCapacities b)) run') :=
      (waitingRows_perm run' (stableMatch_summarized _ _).waiting_nodup
        (forcedPairs_waiting _ _)).symm.append_left _
    have distinct := afterFill_distinct (db.storedPreferences b).normalize (db.storedCapacities b) run run'
    -- in any order, the rows split as the result of a run with forced filling
    have split : splitRows (db.batchRows b) =
        ((db.engineOutcome b true).result.pairs, (db.engineOutcome b true).result.forced) :=
      (splitRows_perm (((rows.trans same).symm.map Row.applicant).nodup_iff.mp distinct)
        (rows.trans same)).trans
        (splitRows_after_fill (db.storedPreferences b).normalize (db.storedCapacities b) run run')
    exact absurd (db.fillForced_of_forced b words split) busy

end Fill

/-- A force-fill job after a commit without forced filling leaves the run's rows and one forced
row for each forced pair, in some order. -/
theorem Database.batchRows_after_fill (db : Database) (b : String) {run : String}
    (rows : db.batchRows b = runRows run (db.engineOutcome b false)) (run' : String)
    (batches : List Batch) :
    ({ db with
        rows := db.rows ++ (forcedRows run' (db.fillForced b)).map fun row => ⟨b, row⟩
        batches := batches } : Database).batchRows b |>.Perm
      (runRows run (db.engineOutcome b false) ++
        forcedRows run' (forcedPairs (db.storedPreferences b).normalize (db.storedCapacities b))) := by
  rw [← rows, ← (db.fill_after_unforced b rows).2]
  exact db.batchRows_append_perm b _ batches

/-- After a commit without forced filling, the rows a force-fill job summarizes are the rows
it stores, in another order. -/
theorem Database.fill_rows_perm (db : Database) (b : String) (run run' : String) :
    (runRows run (db.engineOutcome b false) ++
      forcedRows run' (forcedPairs (db.storedPreferences b).normalize (db.storedCapacities b))).Perm
      (runRows run (db.engineOutcome b false) ++
        waitingRows (stableMatch (db.storedPreferences b).normalize (db.storedCapacities b)).waiting
          (forcedPairs (db.storedPreferences b).normalize (db.storedCapacities b)) run') :=
  (waitingRows_perm run' (stableMatch_summarized _ _).waiting_nodup
    (forcedPairs_waiting _ _)).symm.append_left _

/-- The rows after a force-fill job that follows a commit without forced filling: the stable
rows of the commit's run and the forced rows of the job's run. -/
theorem Database.fill_rows_writtenBy (db : Database) (b : String) (run run' : String) :
    WrittenBy (runRows run (db.engineOutcome b false) ++
      waitingRows (stableMatch (db.storedPreferences b).normalize (db.storedCapacities b)).waiting
        (forcedPairs (db.storedPreferences b).normalize (db.storedCapacities b)) run') run run' := by
  intro x listed
  rcases List.mem_append.mp listed with stable | forced
  · have phase := runRows_unforced_phase _ _ run x stable
    have unforced : x.isForced = false := by simp [Row.isForced, phase, Phase.name]
    simp only [unforced, Bool.false_eq_true, if_false]
    obtain ⟨p, _, rfl⟩ := List.mem_map.mp stable
    rfl
  · obtain ⟨a, _, found⟩ := List.mem_filterMap.mp forced
    obtain ⟨s, _, rfl⟩ := Option.map_eq_some_iff.mp found
    simp [Row.isForced]

/-! ## 4. The cached summary agrees with the rows -/

/-- The summary cached for batch `b`, when there is one, says what the stored rows say: it is
the summary rebuilt from the stored rows, the batch as stored and its stored preferences, up
to the run identifier, and that too once there are rows. -/
def World.Coherent (w : World) (b : String) : Prop :=
  ∀ text, w.cachedText b = some text → ∃ (batch : Batch) (s : Summary), w.db.batch? b = some batch ∧
    text = s.toJson.render Layout.compact ∧
    { s with runId := committedRunId (w.db.batchRows b) } =
      Summary.ofRows batch (w.db.batchRows b) (w.db.storedPreferences b) s.completedAt ∧
    (w.db.batchRows b ≠ [] → s.runId = committedRunId (w.db.batchRows b))

theorem World.Quiet.coherent {b : String} {w w' : World} (kept : World.Quiet b w w')
    (coherent : w.Coherent b) : w'.Coherent b := by
  intro text cached
  rw [kept.db]
  exact coherent text (kept.cached ▸ cached)

theorem pairs_size_pos_of_runRows {run : String} {o : Outcome} (nonempty : runRows run o ≠ []) :
    0 < o.result.pairs.size := by
  apply Nat.pos_of_ne_zero
  intro none
  apply nonempty
  simpa [runRows, Table.size] using none

/-- Every compute job keeps the cached summary in agreement with the rows: it caches either the
summary rebuilt from the rows or the summary of the run whose rows it commits. -/
theorem ComputeEffect.coherent {c : Conditions} {b : String} {w w' : World}
    (effect : ComputeEffect c b w w') (coherent : w.Coherent b) : w'.Coherent b := by
  cases effect with
  | quiet kept => exact kept.coherent coherent
  | @described batch found committed db cached =>
    intro text hit
    rw [cached, Option.some.injEq] at hit
    subst hit
    have named := Database.batch?_id _ _ found
    subst named
    rw [db]
    exact ⟨batch, _, found, rfl, rfl, fun _ => rfl⟩
  | @committed batch f run found db cached =>
    intro text hit
    rw [cached, Option.some.injEq] at hit
    subst hit
    rw [db, Database.batchRows_commit]
    refine ⟨_, _, Database.batch?_commit _ _ _ _ found, rfl, ?_,
      fun nonempty => (committedRunId_runRows run _ (pairs_size_pos_of_runRows nonempty)).symm⟩
    exact (ofRows_commit (w.db.storedCapacities b) (w.db.storedPreferences b) f
      { batch with status := commitStatus (w.db.engineOutcome b f), updatedAt := w.db.now } run
      c.now).symm

/-- Every force-fill job keeps the cached summary in agreement with the rows: it writes only
after a commit without forced filling, and the summary of the rows it holds is the summary of
the rows it stores, which differ only in order. -/
theorem FillEffect.coherent {c : Conditions} {b : String} {w w' : World}
    (effect : FillEffect c b w w') (stored : Stored w.db b) (words : (w.db.storedCapacities b).Words)
    (coherent : w.Coherent b) : w'.Coherent b := by
  cases effect with
  | quiet kept => exact kept.coherent coherent
  | @filled batch run' found committed busy db cached =>
    obtain ⟨run, rows⟩ := stored.unforced_of_busy words found committed busy
    obtain ⟨current, forced⟩ := w.db.fill_after_unforced b rows
    intro text hit
    rw [cached, Option.some.injEq] at hit
    subst hit
    have after := (w.db.batchRows_after_fill b rows run' (w.db.restamp b BatchStatus.forceFilled.name)).trans
      (w.db.fill_rows_perm b run run')
    rw [forced] at after
    have distinct := afterFill_distinct (w.db.storedPreferences b).normalize (w.db.storedCapacities b)
      run run'
    rw [db]
    refine ⟨_, _, Database.batch?_restamp _ _ _ _ found, rfl, ?_,
      fun _ => ?_⟩
    · rw [current, forced, rows, ofRows_normalize]
      exact (ofRows_perm distinct after.symm _ _ _ _).trans rfl
    · rw [current, forced, rows]
      exact committedRunId_perm (w.db.fill_rows_writtenBy b run run') after.symm

/-! ## 5. Along every run of jobs -/

theorem ComputeEffect.stored {c : Conditions} {b : String} {w w' : World}
    (effect : ComputeEffect c b w w') (stored : Stored w.db b) : Stored w'.db b := by
  cases effect with
  | quiet kept => exact kept.db ▸ stored
  | described _ _ db _ => exact db ▸ stored
  | committed f run _ db _ =>
    rw [db]
    exact .committed f run (Database.batchRows_commit _ _ _ _)

theorem FillEffect.stored {c : Conditions} {b : String} {w w' : World}
    (effect : FillEffect c b w w') (stored : Stored w.db b) (words : (w.db.storedCapacities b).Words) :
    Stored w'.db b := by
  cases effect with
  | quiet kept => exact kept.db ▸ stored
  | filled run' found committed busy db _ =>
    obtain ⟨run, rows⟩ := stored.unforced_of_busy words found committed busy
    rw [db]
    exact .filled run run' (w.db.batchRows_after_fill b rows run' _)

theorem ComputeEffect.storedCapacities {c : Conditions} {b : String} {w w' : World}
    (effect : ComputeEffect c b w w') : w'.db.storedCapacities b = w.db.storedCapacities b := by
  cases effect with
  | quiet kept => rw [kept.db]
  | described _ _ db _ => rw [db]
  | committed _ _ _ db _ => rw [db]; rfl

theorem FillEffect.storedCapacities {c : Conditions} {b : String} {w w' : World}
    (effect : FillEffect c b w w') : w'.db.storedCapacities b = w.db.storedCapacities b := by
  cases effect with
  | quiet kept => rw [kept.db]
  | filled _ _ _ _ db _ => rw [db]; rfl

/-- A run of one of the two jobs that write a batch's rows and its cached summary. -/
inductive Execution
  | compute (settings : ComputeSettings) (r : ComputeRequest)
  | fill (r : FillRequest)

/-- The batch an execution names. -/
def Execution.batchId : Execution → String
  | .compute _ r => r.batchId
  | .fill r => r.batchId

/-- The world after an execution under conditions `c`, whatever its answer. -/
def Execution.after (e : Execution) (c : Conditions) (w : World) : World :=
  match e with
  | .compute settings r => ((computeBatch settings r).runIn c w).2
  | .fill r => ((fillBatch r).runIn c w).2

theorem Execution.after_compute (settings : ComputeSettings) (r : ComputeRequest) (c : Conditions)
    (w : World) : (Execution.compute settings r).after c w = ((computeBatch settings r).runIn c w).2 :=
  rfl

theorem Execution.after_fill (r : FillRequest) (c : Conditions) (w : World) :
    (Execution.fill r).after c w = ((fillBatch r).runIn c w).2 :=
  rfl

/-- The world after executions one after another, each under its own conditions. -/
def runExecutions (runs : List (Conditions × Execution)) (w : World) : World :=
  runs.foldl (fun w step => step.2.after step.1 w) w

/-- What every execution on batch `b` keeps: the stored rows have a shape the jobs leave, the
capacities are 64-bit words, and the cached summary agrees with the rows. -/
structure World.Kept (w : World) (b : String) : Prop where
  stored : Stored w.db b
  words : (w.db.storedCapacities b).Words
  coherent : w.Coherent b

/-- One execution under clean conditions keeps the invariant. -/
theorem World.Kept.after {c : Conditions} (clean : c.Clean) {e : Execution} {b : String}
    (named : e.batchId = b) {w : World} (kept : w.Kept b) : (e.after c w).Kept b := by
  cases e with
  | compute settings r =>
    rw [Execution.after_compute]
    have effect := computeBatch_effect clean settings r w named
    have words : (((computeBatch settings r).runIn c w).2.db.storedCapacities b).Words := by
      rw [effect.storedCapacities]
      exact kept.words
    exact ⟨effect.stored kept.stored, words, effect.coherent kept.coherent⟩
  | fill r =>
    rw [Execution.after_fill]
    have effect := fillBatch_effect clean r w named
    have words : (((fillBatch r).runIn c w).2.db.storedCapacities b).Words := by
      rw [effect.storedCapacities]
      exact kept.words
    exact ⟨effect.stored kept.stored kept.words, words,
      effect.coherent kept.stored kept.words kept.coherent⟩

/-- Executions one after another under clean conditions keep the invariant. -/
theorem World.Kept.run {b : String} (runs : List (Conditions × Execution))
    (clean : ∀ step ∈ runs, step.1.Clean) (named : ∀ step ∈ runs, step.2.batchId = b) {w : World}
    (kept : w.Kept b) : (runExecutions runs w).Kept b := by
  induction runs generalizing w with
  | nil => exact kept
  | cons step rest ih =>
    exact ih (fun s listed => clean s (List.mem_cons_of_mem _ listed))
      (fun s listed => named s (List.mem_cons_of_mem _ listed))
      (kept.after (clean step List.mem_cons_self) (named step List.mem_cons_self))

end SlotAllocation
