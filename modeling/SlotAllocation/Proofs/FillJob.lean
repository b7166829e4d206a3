import SlotAllocation.Proofs.ComputeJob

/-!
# A force-fill job after a commit

A force-fill job reads a committed batch back from its stored rows: it splits them into
pairs and forced pairs, summarizes them against the cleaned preferences, hands the free seats
to the waiting applicants (`force`) and merges the new pairs in. After a run of the built-in
engine without forced filling, that reading gives back exactly the matcher's result, so the
job computes the forced pairs of `forcedPairs`, as a run with forced filling would:

1. `splitRows_unforced`: the stored rows read back as the matcher's pairs, none forced;
   `splitRows_after_fill`: with the forced rows added, as the pairs and forced pairs of the
   run with forced filling.
2. `ofRows_after_fill`: the summary rebuilt from those rows is that run's summary, but for
   its run identifier and completion time.
3. `fillLocked_fits`: on any batch that is not open, the job under its lock, once the merged
   pairs fit the seats, writes exactly when it forces somebody (`Database.fillForced`).
   `fillBatch_after_commit`: after a commit the job succeeds; it changes nothing when no seat
   is free, and otherwise appends one forced row per forced pair, marks the batch
   force-filled and caches the rebuilt summary.
-/

namespace SlotAllocation

/-! ## 1. Reading back the rows of a commit -/

/-- The forced rows a force-fill job summarizes: the forced pair of each waiting applicant,
in the order they wait. -/
def waitingRows (waiting : List ApplicantId) (forced : Pairing) (run : String) : List Row :=
  waiting.filterMap fun a => (forced.find? a).map fun s => ⟨a, s, Phase.forced.name, run⟩

/-- The rows a force-fill job appends: one forced row for each forced pair. -/
def forcedRows (run : String) (forced : Pairing) : List Row :=
  forced.entries.map fun (a, s) => ⟨a, s, Phase.forced.name, run⟩

theorem waitingRows_phase (waiting : List ApplicantId) (forced : Pairing) (run : String) :
    ∀ r ∈ waitingRows waiting forced run, r.phase = Phase.forced.name := by
  intro r listed
  obtain ⟨a, _, found⟩ := List.mem_filterMap.mp listed
  obtain ⟨s, _, rfl⟩ := Option.map_eq_some_iff.mp found
  rfl

/-- Items that all carry one tag (rows and their phase, say) are kept whole by a filter on
that tag, and dropped by a filter on another. -/
theorem filter_phase {α : Type} {l : List α} {tag : α → String} {phase : String}
    (all : ∀ x ∈ l, tag x = phase) (wanted : String) :
    l.filter (fun x => tag x == wanted) = if phase = wanted then l else [] := by
  split
  · rename_i same
    exact List.filter_eq_self.mpr fun x listed => by simp [all x listed, same]
  · rename_i other
    exact List.filter_eq_nil_iff.mpr fun x listed => by simp [all x listed, other]

theorem waitingRows_pairs_perm {waiting : List ApplicantId} {forced : Pairing} (run : String)
    (distinct : waiting.Nodup) (covered : ∀ a ∈ forced.keys, a ∈ waiting) :
    ((waitingRows waiting forced run).map Row.pair).Perm forced.entries := by
  have rows : (waitingRows waiting forced run).map Row.pair =
      waiting.filterMap fun a => (forced.find? a).map fun s => (a, s) := by
    simp [waitingRows, List.map_filterMap, Row.pair, Option.map_map, Function.comp_def]
  have nodup : (waiting.filterMap fun a => (forced.find? a).map fun s => (a, s)).Nodup := by
    apply distinct.filterMap
    intro a a' p mine theirs
    simp only [Option.mem_def, Option.map_eq_some_iff] at mine theirs
    obtain ⟨_, _, rfl⟩ := mine
    obtain ⟨_, _, same⟩ := theirs
    exact (congrArg Prod.fst same).symm
  rw [rows]
  apply (List.perm_ext_iff_of_nodup nodup ((Table.keys_nodup forced).of_map _)).mpr
  rintro ⟨a, s⟩
  simp only [List.mem_filterMap, Option.map_eq_some_iff, Prod.mk.injEq]
  constructor
  · rintro ⟨a', _, s', hit, rfl, rfl⟩
    exact Table.find?_eq_some_iff.mp hit
  · intro held
    exact ⟨a, covered a (List.mem_map_of_mem held), s, Table.find?_eq_some_iff.mpr held, rfl, rfl⟩


/-- The forced rows a force-fill job summarizes are the rows it appends, in another order. -/
theorem waitingRows_perm {waiting : List ApplicantId} {forced : Pairing} (run : String)
    (distinct : waiting.Nodup) (covered : ∀ a ∈ forced.keys, a ∈ waiting) :
    (waitingRows waiting forced run).Perm (forcedRows run forced) := by
  -- each such row is the forced row of its own pair
  have rebuilt : ((waitingRows waiting forced run).map Row.pair).map
      (fun p => (⟨p.1, p.2, Phase.forced.name, run⟩ : Row)) = waitingRows waiting forced run := by
    conv_rhs => rw [← List.map_id (waitingRows waiting forced run)]
    rw [List.map_map]
    apply List.map_congr_left
    intro r listed
    obtain ⟨a, _, found⟩ := List.mem_filterMap.mp listed
    obtain ⟨s, _, rfl⟩ := Option.map_eq_some_iff.mp found
    rfl
  rw [← rebuilt]
  exact (waitingRows_pairs_perm run distinct covered).map _

section Reading

variable (prefs : Preferences) (caps : Capacities)

theorem forcedPairs_waiting : ∀ a ∈ (forcedPairs prefs caps).keys, a ∈ (stableMatch prefs caps).waiting :=
  fun _ handed => force_key _ _ _ handed

theorem runRows_unforced_phase (run : String) :
    ∀ r ∈ runRows run (stagedOutcome prefs caps false (stableMatch prefs caps)),
      r.phase = Phase.stable.name := by
  rw [runRows_unforced]
  intro r listed
  obtain ⟨p, _, rfl⟩ := List.mem_map.mp listed
  rfl

theorem runRows_unforced_filter (run : String) :
    (runRows run (stagedOutcome prefs caps false (stableMatch prefs caps))).filter Row.isForced = [] := by
  rw [List.filter_eq_nil_iff]
  intro r listed
  simp [Row.isForced, runRows_unforced_phase prefs caps run r listed, Phase.name]

/-- The rows of a run without forced filling read back as the matcher's pairs, none forced. -/
theorem splitRows_unforced (run : String) :
    splitRows (runRows run (stagedOutcome prefs caps false (stableMatch prefs caps))) =
      ((stableMatch prefs caps).pairs, Table.empty) := by
  have distinct : ((runRows run (stagedOutcome prefs caps false (stableMatch prefs caps))).map
      Row.applicant).Nodup := by
    rw [runRows_applicants]
    exact Table.keys_nodup _
  obtain ⟨pairs, forced⟩ := splitRows_entries_perm distinct
  refine Prod.ext (Table.ext_of_perm ?_) (Table.ext_of_perm ?_)
  · simpa [defaultOutcome_false_result] using pairs
  · simpa [runRows_unforced_filter] using forced

/-- The rows of a run without forced filling and the forced rows of the applicants it leaves
waiting name each applicant once. -/
theorem afterFill_distinct (run run' : String) :
    ((runRows run (stagedOutcome prefs caps false (stableMatch prefs caps)) ++
      waitingRows (stableMatch prefs caps).waiting (forcedPairs prefs caps) run').map
        Row.applicant).Nodup := by
  have added := waitingRows_pairs_perm run'
    (stableMatch_summarized prefs caps).waiting_nodup (forcedPairs_waiting prefs caps)
  have keys : ((waitingRows (stableMatch prefs caps).waiting (forcedPairs prefs caps) run').map
      Row.applicant).Perm (forcedPairs prefs caps).keys := by
    simpa [Table.keys, Function.comp_def, Row.pair] using added.map Prod.fst
  rw [List.map_append, runRows_applicants, defaultOutcome_false_result, List.nodup_append]
  refine ⟨Table.keys_nodup _, keys.nodup_iff.mpr (Table.keys_nodup _), ?_⟩
  intro a placed a' handed same
  subst same
  exact forcedPairs_fresh prefs caps a (keys.mem_iff.mp handed) placed

/-- After the forced rows of the waiting applicants, the rows of a run without forced filling
read back as the pairs and forced pairs of the run with it. -/
theorem splitRows_after_fill (run run' : String) :
    splitRows (runRows run (stagedOutcome prefs caps false (stableMatch prefs caps)) ++
        waitingRows (stableMatch prefs caps).waiting (forcedPairs prefs caps) run') =
      ((stagedOutcome prefs caps true (stableMatch prefs caps)).result.pairs,
        (stagedOutcome prefs caps true (stableMatch prefs caps)).result.forced) := by
  have added := waitingRows_pairs_perm run'
    (stableMatch_summarized prefs caps).waiting_nodup (forcedPairs_waiting prefs caps)
  have merged := mergeForced_entries_perm (stableMatch prefs caps) (forcedPairs prefs caps) prefs
    (forcedPairs_fresh prefs caps)
  have recorded := mergeForced_forced_perm (stableMatch prefs caps) (forcedPairs prefs caps) prefs
    (forcedPairs_fresh prefs caps) (by simp)
  have distinct := afterFill_distinct prefs caps run run'
  have allForced : (waitingRows (stableMatch prefs caps).waiting (forcedPairs prefs caps) run').filter
      Row.isForced = waitingRows (stableMatch prefs caps).waiting (forcedPairs prefs caps) run' := by
    have kept := filter_phase (waitingRows_phase (stableMatch prefs caps).waiting
      (forcedPairs prefs caps) run') Phase.forced.name
    rw [if_pos rfl] at kept
    exact kept
  obtain ⟨pairs, forced⟩ := splitRows_entries_perm distinct
  rw [defaultOutcome_true_result]
  refine Prod.ext (Table.ext_of_perm ?_) (Table.ext_of_perm ?_)
  · refine pairs.trans ?_
    rw [List.map_append, runRows_pairs, defaultOutcome_false_result]
    exact (added.append_left _).trans merged.symm
  · refine forced.trans ?_
    rw [List.filter_append, runRows_unforced_filter, allForced, List.nil_append]
    simpa using added.trans recorded.symm

/-- The summary a force-fill job caches after a run without forced filling is the summary that
a run with forced filling caches, but for the run identifier and the completion time: the
counts by phase, the waiting applicants and the rank statistics all agree. -/
theorem ofRows_after_fill (normalized : prefs.normalize = prefs) (batch : Batch) (stamp : Instant)
    (run run' run'' : String) (now now' : Instant) :
    Summary.ofRows { batch with status := BatchStatus.forceFilled.name, updatedAt := stamp }
        (runRows run (stagedOutcome prefs caps false (stableMatch prefs caps)) ++
          waitingRows (stableMatch prefs caps).waiting (forcedPairs prefs caps) run') prefs now' =
      { Summary.ofOutcome { batch with status := BatchStatus.forceFilled.name } run''
          (stagedOutcome prefs caps true (stableMatch prefs caps)) now with
        runId := committedRunId (runRows run (stagedOutcome prefs caps false (stableMatch prefs caps)) ++
          waitingRows (stableMatch prefs caps).waiting (forcedPairs prefs caps) run')
        completedAt := now' } := by
  have summarized : summarize (stagedOutcome prefs caps true (stableMatch prefs caps)).result.pairs
      (stagedOutcome prefs caps true (stableMatch prefs caps)).result.forced prefs =
        (stagedOutcome prefs caps true (stableMatch prefs caps)).result := by
    rw [defaultOutcome_result]
    exact forceStage_summarized prefs caps true (stableMatch_summarized prefs caps)
  have stable := filter_phase (runRows_unforced_phase prefs caps run)
  have forced := filter_phase (waitingRows_phase (stableMatch prefs caps).waiting
    (forcedPairs prefs caps) run')
  have stableCount : (stagedOutcome prefs caps true (stableMatch prefs caps)).stableAssigned =
      (runRows run (stagedOutcome prefs caps false (stableMatch prefs caps))).length := by
    rw [defaultOutcome_eq, labelNew_empty_count, runRows_unforced]
    simp [Table.size]
  have forcedCount : (stagedOutcome prefs caps true (stableMatch prefs caps)).forcedAssigned =
      (stagedOutcome prefs caps true (stableMatch prefs caps)).result.forced.size := by
    have recorded := mergeForced_forced_perm (stableMatch prefs caps) (forcedPairs prefs caps) prefs
      (forcedPairs_fresh prefs caps) (by simp)
    rw [defaultOutcome_true_forcedAssigned, defaultOutcome_true_result]
    simpa [Table.size] using recorded.length_eq.symm
  simp only [Summary.ofRows, Summary.ofOutcome, Summary.ofResult, splitRows_after_fill, normalized,
    summarized, List.filter_append, stable, forced, stableCount, forcedCount,
    defaultOutcome_cascadeAssigned]
  simp [Phase.name]

end Reading

section Matched

variable (prefs : Preferences) (caps : Capacities)

@[simp] theorem summarize_stableMatch :
    summarize (stableMatch prefs caps).pairs Table.empty prefs = stableMatch prefs caps := by
  have summarized := stableMatch_summarized prefs caps
  rwa [Summarized, stableMatch_forced] at summarized

@[simp] theorem force_stableMatch :
    force (stableMatch prefs caps).waiting caps (stableMatch prefs caps).pairs.counts =
      forcedPairs prefs caps := rfl

/-- The matcher's pairs with the forced pairs fit the seats. -/
@[simp] theorem checkCapacity_forced :
    checkCapacity (some (mergeForced (some (stableMatch prefs caps)) (forcedPairs prefs caps) prefs))
      caps = none := by
  apply (checkCapacity_eq_none_iff _ caps).mpr
  have fits := forceStage_withinSeats prefs caps true (stableMatch_withinSeats prefs caps)
  rwa [forceStage_true_eq caps (stableMatch_summarized prefs caps)] at fits

end Matched

/-! ## 2. A force-fill job after a commit without forced filling -/

/-- What a force-fill job reads from the stored rows of batch `b`: their pairs and forced
pairs, summarized against the cleaned preferences. -/
def Database.fillCurrent (db : Database) (b : String) : Result :=
  summarize (splitRows (db.batchRows b)).1 (splitRows (db.batchRows b)).2
    (db.storedPreferences b).normalize

/-- The pairs a force-fill job forces on batch `b`: the free seats handed to the applicants
the stored rows leave waiting. -/
def Database.fillForced (db : Database) (b : String) : Pairing :=
  force (db.fillCurrent b).waiting (db.storedCapacities b) (splitRows (db.batchRows b)).1.counts

/-- Holding the lock, a force-fill job on a batch that is not open, whose merged pairs fit the
seats, writes nothing when it forces nobody. Otherwise it appends one forced row for each pair
it forces, marks the batch force-filled and caches the summary of all the batch's rows. -/
theorem fillLocked_fits {c : Conditions} (clean : c.Clean) (w : World) (b run : String)
    {batch : Batch} (found : w.db.batch? b = some batch)
    (committed : batch.status ≠ BatchStatus.openBatch.name)
    (fits : checkCapacity (some (mergeForced (some (w.db.fillCurrent b)) (w.db.fillForced b)
      (w.db.storedPreferences b).normalize)) (w.db.storedCapacities b) = none) :
    ∃ a, (fillLocked b run).runIn c w =
      (.ok a, if (w.db.fillForced b).size = 0 then w
        else { w with
          db := { w.db with
            rows := w.db.rows ++ (forcedRows run (w.db.fillForced b)).map fun row => ⟨b, row⟩
            batches := w.db.restamp b BatchStatus.forceFilled.name }
          cache := { w.cache with
            entries := w.cache.entries.insert (resultKey b)
              ((Summary.ofRows { batch with status := BatchStatus.forceFilled.name }
                (w.db.batchRows b ++ waitingRows (w.db.fillCurrent b).waiting (w.db.fillForced b) run)
                (w.db.storedPreferences b).normalize c.now).toJson.render Layout.compact) } }) := by
  have notOpen : (batch.status == BatchStatus.openBatch.name) = false := by simpa using committed
  unfold fillLocked
  simp only [Attempt.runIn_bind, Attempt.runIn_lift, Work.runIn_query, clean.statements,
    Database.loadBatch_clean, found, Attempt.ofStore_ok, Attempt.runIn_pure, notOpen,
    Bool.false_eq_true, if_false, Database.loadProblem_clean, Database.loadRows_clean,
    Problem.prefs, Problem.caps, Option.getD_some]
  have current : summarize (splitRows (w.db.batchRows b)).1 (splitRows (w.db.batchRows b)).2
      (w.db.storedPreferences b).normalize = w.db.fillCurrent b := rfl
  have forced : force (w.db.fillCurrent b).waiting (w.db.storedCapacities b)
      (splitRows (w.db.batchRows b)).1.counts = w.db.fillForced b := rfl
  simp only [current, forced, fits]
  by_cases nothing : (w.db.fillForced b).size = 0
  · simp only [nothing, beq_self_eq_true, if_true, pure_bind, Attempt.runIn_pure]
    exact ⟨_, rfl⟩
  · have known : (w.db.batch? b).isSome := by simp [found]
    have named := Database.batch?_id _ _ found
    simp only [nothing, beq_iff_eq, if_false, pure_bind, Attempt.runIn_bind, Attempt.runIn_lift,
      Work.runIn_change, clean.statements, Database.appendForced_clean _ _ _ _ known,
      Attempt.ofStore_ok, Attempt.runIn_pure, Work.runIn_now, Work.runIn_putSummary clean,
      Except.toBool, if_true]
    subst named
    exact ⟨_, rfl⟩

/-- Holding the lock, the job reads back the matcher's result from the rows and hands the free
seats to the waiting applicants; it writes only when somebody is placed. -/
theorem fillLocked_after_commit {c : Conditions} (clean : c.Clean) (w : World) {db : Database}
    {b run : String} {batch : Batch} (found : db.batch? b = some batch)
    (committed : w.db = db.commit b run (db.engineOutcome b false)) (run' : String) :
    ∃ a, (fillLocked b run').runIn c w =
      (.ok a, if (forcedPairs (db.storedPreferences b).normalize (db.storedCapacities b)).size = 0 then w
        else { w with
          db := { w.db with
            rows := w.db.rows ++ (forcedRows run' (forcedPairs (db.storedPreferences b).normalize
              (db.storedCapacities b))).map fun row => ⟨b, row⟩
            batches := w.db.restamp b BatchStatus.forceFilled.name }
          cache := { w.cache with
            entries := w.cache.entries.insert (resultKey b)
              ((Summary.ofRows { batch with status := BatchStatus.forceFilled.name, updatedAt := db.now }
                (runRows run (db.engineOutcome b false) ++
                  waitingRows (stableMatch (db.storedPreferences b).normalize (db.storedCapacities b)).waiting
                    (forcedPairs (db.storedPreferences b).normalize (db.storedCapacities b)) run')
                (db.storedPreferences b).normalize c.now).toJson.render Layout.compact) } }) := by
  have loaded : w.db.batch? b =
      some { batch with status := commitStatus (db.engineOutcome b false), updatedAt := db.now } := by
    rw [committed]
    exact Database.batch?_commit db b run _ found
  have notOpen : commitStatus (db.engineOutcome b false) ≠ BatchStatus.openBatch.name := by
    rw [commitStatus, Database.engineOutcome, defaultOutcome_false_forcedAssigned]
    decide
  have rows : w.db.batchRows b = runRows run (db.engineOutcome b false) := by
    rw [committed, Database.batchRows_commit]
  have prefs : w.db.storedPreferences b = db.storedPreferences b := by rw [committed]; rfl
  have caps : w.db.storedCapacities b = db.storedCapacities b := by rw [committed]; rfl
  -- the rows read back as the matcher's result, so the job forces what a run with forced
  -- filling would, and the merged pairs fit the seats
  have split : splitRows (w.db.batchRows b) =
      ((stableMatch (db.storedPreferences b).normalize (db.storedCapacities b)).pairs, Table.empty) := by
    rw [rows]
    exact splitRows_unforced _ _ run
  have current : w.db.fillCurrent b =
      stableMatch (db.storedPreferences b).normalize (db.storedCapacities b) := by
    simp only [Database.fillCurrent, split, prefs, summarize_stableMatch]
  have forced : w.db.fillForced b =
      forcedPairs (db.storedPreferences b).normalize (db.storedCapacities b) := by
    simp only [Database.fillForced, current, caps, split, force_stableMatch]
  obtain ⟨a, ran⟩ := fillLocked_fits clean w b run' loaded notOpen
    (by rw [current, forced, prefs, caps]; exact checkCapacity_forced _ _)
  refine ⟨a, ?_⟩
  rw [ran, forced, current, rows, prefs]

/-- With its lock free, a force-fill job takes the lock, fills under it and releases the lock,
whatever the outcome. -/
theorem fillBatch_under_lock {c : Conditions} (clean : c.Clean) (w : World) {b : String}
    (valid : (fillSchema.validate (.obj [("batchId", .str b)])).valid = true)
    (free : w.cache.entries.contains (lockKey b) = false) :
    (fillBatch ⟨b⟩).runIn c w =
      (((fillLocked b w.nextRunId).runIn c (w.locked b)).1,
        ((fillLocked b w.nextRunId).runIn c (w.locked b)).2.released b w.nextRunId) := by
  unfold fillBatch
  simp only [valid, Bool.not_true, Bool.false_eq_true, if_false, Attempt.runIn_bind,
    Attempt.runIn_lift, Work.runIn_newRunId, Work.runIn_acquire clean, free, Attempt.runIn_always,
    Work.runIn_bind, Work.runIn_release clean, Work.runIn_pure]
  rfl

/-- A force-fill job after a commit without forced filling succeeds. When no seat is free for
the waiting applicants it changes neither store nor cached summary; otherwise it appends one
forced row for each forced pair, marks the batch force-filled and caches the summary rebuilt
from the rows. -/
theorem fillBatch_after_commit {c : Conditions} (clean : c.Clean) (w : World) {db : Database}
    {b run : String} {batch : Batch} (found : db.batch? b = some batch)
    (committed : w.db = db.commit b run (db.engineOutcome b false))
    (valid : (fillSchema.validate (.obj [("batchId", .str b)])).valid = true)
    (free : w.cache.entries.contains (lockKey b) = false) :
    ∃ a w', (fillBatch ⟨b⟩).runIn c w = (.ok a, w') ∧
      ((forcedPairs (db.storedPreferences b).normalize (db.storedCapacities b)).size = 0 →
        w'.db = w.db ∧ w'.cache.entries.find? (resultKey b) = w.cache.entries.find? (resultKey b)) ∧
      ((forcedPairs (db.storedPreferences b).normalize (db.storedCapacities b)).size ≠ 0 →
        w'.db = { w.db with
          rows := w.db.rows ++ (forcedRows w.nextRunId (forcedPairs (db.storedPreferences b).normalize
            (db.storedCapacities b))).map fun row => ⟨b, row⟩
          batches := w.db.restamp b BatchStatus.forceFilled.name } ∧
        w'.cache.entries.find? (resultKey b) =
          some ((Summary.ofRows { batch with status := BatchStatus.forceFilled.name, updatedAt := db.now }
            (runRows run (db.engineOutcome b false) ++
              waitingRows (stableMatch (db.storedPreferences b).normalize (db.storedCapacities b)).waiting
                (forcedPairs (db.storedPreferences b).normalize (db.storedCapacities b)) w.nextRunId)
            (db.storedPreferences b).normalize c.now).toJson.render Layout.compact)) := by
  obtain ⟨a, ran⟩ := fillLocked_after_commit clean (w.locked b) found committed w.nextRunId
  have other := (lockKey_ne_resultKey b).symm
  rw [fillBatch_under_lock clean w valid free, ran]
  -- the release finds the job's own token on the lock and drops the lock alone
  by_cases nothing : (forcedPairs (db.storedPreferences b).normalize (db.storedCapacities b)).size = 0
  · simp only [nothing, if_true, World.released, World.locked]
    rw [Cache.releaseScript_held _ _ _ (by simp)]
    refine ⟨_, _, rfl, fun _ => ⟨rfl, ?_⟩, fun busy => (busy rfl).elim⟩
    simp [Table.find?_filter_key _ _ other, other]
  · simp only [nothing, if_false, World.released, World.locked, Cache.releaseScript_after_put]
    refine ⟨_, _, rfl, fun idle => idle.elim, fun _ => ⟨rfl, ?_⟩⟩
    simp [Table.find?_filter_key _ _ other]

end SlotAllocation
