import SlotAllocation.Proofs.NotifyOnce
import SlotAllocation.Proofs.SummaryStatistics
import SlotAllocation.Service.Indexing

/-!
# The report of a committed batch

A report repeats its statistics: once per row (the row's rank under the cleaned preferences,
0 for a forced row) and once in its summary, rebuilt from the rows with the preferences
cleaned a second time. For rows of distinct applicants, each placed by one of the three phases,
the two agree:

1. the summary is the one rebuilt from the rows with the problem's own preferences, credited to
   the report's run (`buildReport_summary`, through `ofRows_normalize`);
2. it counts every row once, and each by its phase (`ofRows_assignedCount`,
   `ofRows_phase_counts`);
3. its rank histogram and mean are those of the rows' non-zero ranks, in any order
   (`ofRows_rankDistribution_rows`, `ofRows_averageRank_rows`, through `histogram_perm` and
   `meanRank_perm`);
4. the load of each slot of the problem is the number of rows on it (`splitRows_load`).

`indexReport_documents` says what a report job indexes when its loads and the indexer answer,
and `report_agrees_with_summary` gathers these.
-/

namespace SlotAllocation

/-! ## 1. Statistics that do not depend on order -/

theorem natSum_perm {l l' : List Nat} (perm : l.Perm l') : natSum l = natSum l' := by
  induction perm with
  | nil => rfl
  | cons x _ ih => rw [natSum_cons, natSum_cons, ih]
  | swap x y l => simp only [natSum_cons]; omega
  | trans _ _ ih ih' => exact ih.trans ih'

/-- The histogram of ranks does not depend on their order: it records each rank with its
number of occurrences, in ascending order of rank. -/
theorem histogram_perm {rs rs' : List Nat} (perm : rs.Perm rs') : histogram rs = histogram rs' := by
  have sorted : ∀ l : List Nat, (histogram l).Pairwise (fun p q => p.1 < q.1) :=
    fun l => List.pairwise_map.mp (histogram_sorted l)
  have distinct : ∀ l : List Nat, (histogram l).Nodup :=
    fun l => (sorted l).imp fun {p q} below same => by
      subst same
      exact Nat.lt_irrefl p.1 below
  have same : ∀ p, p ∈ histogram rs ↔ p ∈ histogram rs' := by
    rintro ⟨k, n⟩
    rw [mem_histogram_iff, mem_histogram_iff, perm.count_eq]
  refine List.Perm.eq_of_pairwise ?_ (sorted rs) (sorted rs')
    ((List.perm_ext_iff_of_nodup (distinct rs) (distinct rs')).mpr same)
  intro p q _ _ below above
  exact absurd (Nat.lt_trans below above) (Nat.lt_irrefl _)

theorem meanRank_perm {rs rs' : List Nat} (perm : rs.Perm rs') : meanRank rs = meanRank rs' := by
  unfold meanRank
  rw [perm.isEmpty_eq, natSum_perm perm, perm.length_eq]

/-! ## 2. Reading the rows back -/

section Rows

variable {rows : List Row}

/-- The rank a report gives a row under cleaned preferences `prefs`: 0 for a forced row. -/
theorem buildReport_rows (batch : Batch) (runId : String) (problem : Problem) (now : Instant) :
    (buildReport batch runId rows problem now).rows =
      rows.map fun row => ⟨row.applicant, row.slot, row.phase,
        if row.isForced then 0 else problem.prefs.normalize.rank row.applicant row.slot⟩ := rfl

/-- The report's summary is the summary rebuilt from the rows, credited to the report's run:
cleaning the preferences before rebuilding it changes nothing. -/
theorem buildReport_summary (batch : Batch) (runId : String) (problem : Problem) (now : Instant) :
    (buildReport batch runId rows problem now).summary =
      { Summary.ofRows batch rows problem.prefs now with runId := runId } := by
  simp only [buildReport, ofRows_normalize]

/-- With one row per applicant, a row is recorded as forced to its own slot exactly when it is
a forced row. -/
theorem splitRows_forced_find? (distinct : (rows.map Row.applicant).Nodup) {row : Row}
    (listed : row ∈ rows) :
    (splitRows rows).2.find? row.applicant = some row.slot ↔ row.isForced = true := by
  rw [Table.find?_eq_some_iff, (splitRows_entries_perm distinct).2.mem_iff]
  simp only [List.mem_map, List.mem_filter, Row.pair, Prod.mk.injEq]
  constructor
  · rintro ⟨other, ⟨otherListed, forced⟩, sameApplicant, -⟩
    rwa [← List.inj_on_of_nodup_map distinct otherListed listed sameApplicant]
  · intro forced
    exact ⟨row, ⟨listed, forced⟩, rfl, rfl⟩

/-- The ranks a summary rebuilt from rows of distinct applicants counts are, up to order, the
non-zero ranks the rows get when forced rows rank 0. -/
theorem countedRanks_splitRows_perm (distinct : (rows.map Row.applicant).Nodup) (prefs : Preferences) :
    (countedRanks (splitRows rows).1 (splitRows rows).2 prefs).Perm
      ((rows.map fun row => if row.isForced then 0 else prefs.rank row.applicant row.slot).filter
        (· != 0)) := by
  unfold countedRanks
  refine ((splitRows_entries_perm distinct).1.filterMap _).trans ?_
  rw [List.filterMap_map, ← List.filterMap_eq_filter, List.filterMap_map]
  -- row by row, the summary skips exactly the forced rows and the unranked ones
  refine (List.filterMap_congr fun row listed => ?_).symm ▸ List.Perm.refl _
  by_cases forced : row.isForced = true
  · have recorded := (splitRows_forced_find? distinct listed).mpr forced
    simp [Row.pair, recorded, forced, Option.guard]
  · have unrecorded : (splitRows rows).2.find? row.applicant ≠ some row.slot :=
      fun recorded => forced ((splitRows_forced_find? distinct listed).mp recorded)
    by_cases unranked : prefs.rank row.applicant row.slot = 0
    · simp [Row.pair, unrecorded, forced, unranked, Option.guard]
    · simp [Row.pair, unrecorded, forced, unranked, Option.guard]

theorem ofRows_assignedCount (distinct : (rows.map Row.applicant).Nodup) (batch : Batch)
    (prefs : Preferences) (now : Instant) :
    (Summary.ofRows batch rows prefs now).assignedCount = rows.length := by
  show ((splitRows rows).1.size : Int) = rows.length
  rw [Table.size, (splitRows_entries_perm distinct).1.length_eq, List.length_map]

/-- Rows each placed by one of the three phases are counted once each, by phase. -/
theorem ofRows_phase_counts (distinct : (rows.map Row.applicant).Nodup)
    (phased : ∀ row ∈ rows, ∃ p : Phase, row.phase = p.name) (batch : Batch) (prefs : Preferences)
    (now : Instant) :
    (Summary.ofRows batch rows prefs now).stableAssigned +
        (Summary.ofRows batch rows prefs now).cascadeAssigned +
        (Summary.ofRows batch rows prefs now).forcedAssigned = rows.length := by
  show ((rows.filter fun row => row.phase == Phase.stable.name).length : Int) +
      (rows.filter fun row => row.phase == Phase.cascade.name).length + (splitRows rows).2.size =
    rows.length
  rw [Table.size, (splitRows_entries_perm distinct).2.length_eq, List.length_map]
  clear distinct
  induction rows with
  | nil => rfl
  | cons row rest ih =>
    obtain ⟨p, named⟩ := phased row List.mem_cons_self
    have counted := ih fun other listed => phased other (List.mem_cons_of_mem _ listed)
    cases p <;> simp [named, Row.isForced, Phase.name] at counted ⊢ <;> omega

/-- The rank histogram of a summary rebuilt from rows of distinct applicants is that of the
rows' non-zero ranks under the cleaned preferences. -/
theorem ofRows_rankDistribution_rows (distinct : (rows.map Row.applicant).Nodup) (batch : Batch)
    (prefs : Preferences) (now : Instant) :
    (Summary.ofRows batch rows prefs now).rankDistribution =
      (histogram ((rows.map fun row =>
          if row.isForced then 0 else prefs.normalize.rank row.applicant row.slot).filter (· != 0))).map
        fun p => ((p.1 : Int), (p.2 : Int)) := by
  show (histogram (countedRanks (splitRows rows).1 (splitRows rows).2 prefs.normalize)).map _ = _
  rw [histogram_perm (countedRanks_splitRows_perm distinct prefs.normalize)]

/-- The mean rank of a summary rebuilt from rows of distinct applicants is that of the rows'
non-zero ranks under the cleaned preferences. -/
theorem ofRows_averageRank_rows (distinct : (rows.map Row.applicant).Nodup) (batch : Batch)
    (prefs : Preferences) (now : Instant) :
    (Summary.ofRows batch rows prefs now).averageRank =
      meanRank ((rows.map fun row =>
        if row.isForced then 0 else prefs.normalize.rank row.applicant row.slot).filter (· != 0)) := by
  show meanRank (countedRanks (splitRows rows).1 (splitRows rows).2 prefs.normalize) = _
  rw [meanRank_perm (countedRanks_splitRows_perm distinct prefs.normalize)]

/-- With one row per applicant, the load of a slot is the number of rows on it. -/
theorem splitRows_load (distinct : (rows.map Row.applicant).Nodup) (s : SlotId) :
    (splitRows rows).1.load s = (rows.filter fun row => row.slot == s).length := by
  have slots : (splitRows rows).1.values.Perm (rows.map Row.slot) := by
    simpa [Table.values, Function.comp_def, Row.pair] using
      (splitRows_entries_perm distinct).1.map Prod.snd
  rw [Pairing.load, slots.count_eq, List.count_eq_countP, List.countP_map,
    List.countP_eq_length_filter]
  rfl

end Rows

/-! ## 3. The report job -/

namespace Attempt

variable {α β : Type} {c : Conditions} {w : World}

/-- A store read that succeeds passes its value on and changes nothing. -/
theorem runIn_read_ok {f : Database → StatementFaults → Except StoreError α} {a : α}
    {onError : StoreError → String → Failure} (k : α → Attempt β)
    (read : f w.db c.faults.statements = .ok a) :
    (liftM (Work.query f) >>= fun r => ofStore r onError >>= k).runIn c w = (k a).runIn c w := by
  rw [runIn_bind, runIn_lift, Work.runIn_query]
  dsimp only
  rw [read, ofStore_ok, pure_bind]

end Attempt

/-- When its loads and the indexer answer, a report job indexes the report of the stored rows
and problem under the run's identifier exactly when the request passes its check, the batch is
not open, and the run wrote one of the rows or there are none; otherwise it indexes nothing. -/
theorem indexReport_documents (index : String) (r : ReportRequest) {c : Conditions} {w : World}
    {batch : Batch} {problem : Problem} {rows : List Row}
    (batchLoaded : w.db.loadBatch c.faults.statements r.batchId = .ok batch)
    (problemLoaded : w.db.loadProblem c.faults.statements r.batchId = .ok problem)
    (rowsLoaded : w.db.loadRows c.faults.statements r.batchId = .ok rows)
    (indexerUp : c.faults.index = none) :
    ((indexReport index r).runIn c w).2.outbox.documents =
      w.outbox.documents ++
        if (reportSchema.validate (.obj [("batchId", .str r.batchId), ("runId", .str r.runId)])).valid = true ∧
            batch.status ≠ BatchStatus.openBatch.name ∧ (rows = [] ∨ hasRun rows r.runId = true)
        then [⟨index, r.runId, (buildReport batch r.runId rows problem c.now).toJson⟩] else [] := by
  unfold indexReport
  dsimp only
  by_cases valid : (reportSchema.validate
    (.obj [("batchId", .str r.batchId), ("runId", .str r.runId)])).valid = true
  case neg =>
    rw [if_pos (by simpa using valid), Attempt.runIn_fail_bind, if_neg (by simp [valid])]
    simp
  rw [if_neg (by simp [valid]), Attempt.runIn_read_ok _ batchLoaded]
  by_cases opened : batch.status = BatchStatus.openBatch.name
  case pos =>
    rw [if_pos (by simp [opened]), Attempt.runIn_fail_bind, if_neg (by simp [opened])]
    simp
  rw [if_neg (by simp [opened]), Attempt.runIn_read_ok _ problemLoaded,
    Attempt.runIn_read_ok _ rowsLoaded]
  -- the run must have written a row, unless there is none
  have unwritten : (!rows.isEmpty && !hasRun rows r.runId) = true ↔
      ¬ (rows = [] ∨ hasRun rows r.runId = true) := by
    cases rows <;> simp
  by_cases written : rows = [] ∨ hasRun rows r.runId = true
  case neg =>
    rw [if_pos (unwritten.mpr written), Attempt.runIn_fail_bind, if_neg (by simp [written])]
    simp
  rw [if_neg (mt unwritten.mp (not_not_intro written)), if_pos ⟨valid, opened, written⟩]
  simp only [Attempt.runIn_bind, Attempt.runIn_lift, Work.runIn_now, Work.indexDocument,
    Work.runIn_send, indexerUp]
  rfl

/-- The indexed report agrees with itself and with the summary. For rows of distinct applicants,
each placed by one of the three phases, the report's summary is the one rebuilt from the rows,
credited to the report's run; it counts every row once, and each by its phase; each report row
carries its rank under the cleaned preferences, 0 when forced; the rank histogram and mean are
those of the report rows' non-zero ranks; the slot loads list the problem's slots once each,
ascending, with their seats and the number of rows on them. When its loads and the indexer
answer, a report job run at the report's time indexes exactly this report under the run's
identifier when the request passes its check, the batch is not open, and the run wrote one of
the rows or there are none, and nothing otherwise. -/
theorem report_agrees_with_summary (batch : Batch) (runId : String) (problem : Problem)
    (rows : List Row) (now : Instant) (distinct : (rows.map Row.applicant).Nodup)
    (phased : ∀ row ∈ rows, ∃ p : Phase, row.phase = p.name) :
    (buildReport batch runId rows problem now).summary =
        { Summary.ofRows batch rows problem.prefs now with runId := runId } ∧
      (buildReport batch runId rows problem now).summary.assignedCount = rows.length ∧
      (buildReport batch runId rows problem now).summary.stableAssigned +
          (buildReport batch runId rows problem now).summary.cascadeAssigned +
          (buildReport batch runId rows problem now).summary.forcedAssigned = rows.length ∧
      (buildReport batch runId rows problem now).rows =
        rows.map (fun row => ⟨row.applicant, row.slot, row.phase,
          if row.isForced then 0 else problem.prefs.normalize.rank row.applicant row.slot⟩) ∧
      (buildReport batch runId rows problem now).summary.rankDistribution =
        (histogram (((buildReport batch runId rows problem now).rows.map ReportRow.rank).filter
          (· != 0))).map (fun p => ((p.1 : Int), (p.2 : Int))) ∧
      (buildReport batch runId rows problem now).summary.averageRank =
        meanRank (((buildReport batch runId rows problem now).rows.map ReportRow.rank).filter
          (· != 0)) ∧
      (buildReport batch runId rows problem now).slotLoad =
        problem.caps.slots.map (fun s =>
          ⟨s, problem.caps.seats s, ((rows.filter fun row => row.slot == s).length : Int)⟩) ∧
      problem.caps.slots.Pairwise (· < ·) ∧
      ∀ (index : String) (r : ReportRequest) (c : Conditions) (w : World),
        r.runId = runId → c.now = now →
        w.db.loadBatch c.faults.statements r.batchId = .ok batch →
        w.db.loadProblem c.faults.statements r.batchId = .ok problem →
        w.db.loadRows c.faults.statements r.batchId = .ok rows →
        c.faults.index = none →
        ((indexReport index r).runIn c w).2.outbox.documents =
          w.outbox.documents ++
            if (reportSchema.validate
                  (.obj [("batchId", .str r.batchId), ("runId", .str runId)])).valid = true ∧
                batch.status ≠ BatchStatus.openBatch.name ∧ (rows = [] ∨ hasRun rows runId = true)
            then [⟨index, runId, (buildReport batch runId rows problem now).toJson⟩] else [] := by
  have summary := @buildReport_summary rows batch runId problem now
  have ranks : (buildReport batch runId rows problem now).rows.map ReportRow.rank =
      rows.map fun row => if row.isForced then 0 else problem.prefs.normalize.rank row.applicant row.slot := by
    rw [buildReport_rows, List.map_map]
    rfl
  refine ⟨summary, ?counted, ?phases, buildReport_rows batch runId problem now, ?histogram, ?mean,
    ?load, ?ascending, ?job⟩
  case counted =>
    rw [summary]
    exact ofRows_assignedCount distinct batch problem.prefs now
  case phases =>
    rw [summary]
    exact ofRows_phase_counts distinct phased batch problem.prefs now
  case histogram =>
    rw [summary, ranks]
    exact ofRows_rankDistribution_rows distinct batch problem.prefs now
  case mean =>
    rw [summary, ranks]
    exact ofRows_averageRank_rows distinct batch problem.prefs now
  case load =>
    simp only [buildReport, Pairing.counts_get, splitRows_load distinct]
  case ascending =>
    exact List.pairwise_map.mpr problem.caps.ascending
  case job =>
    rintro index r c w rfl rfl batchLoaded problemLoaded rowsLoaded indexerUp
    exact indexReport_documents index r batchLoaded problemLoaded rowsLoaded indexerUp

/-- Two rows of batch `b1`, both written by `run-1`: `A` on its first choice, `B` forced. -/
def stableAndForcedRows : List Row :=
  [⟨"A", "S", Phase.stable.name, "run-1"⟩, ⟨"B", "T", Phase.forced.name, "run-1"⟩]

/-- The problem of batch `b1`: `A` ranks `S` then `T`, `B` ranks `S`; one seat each. -/
def twoSlotProblem : Problem :=
  ⟨some ((Table.empty.insert "A" ["S", "T"]).insert "B" ["S"]), some ((Table.empty.insert "S" 1).insert "T" 1)⟩

/-- Batch `b1` once committed. -/
def assignedBatch : Batch := ⟨"b1", kindSubjects, BatchStatus.assigned.name, ⟨0, 0⟩⟩

/-- A store holding batch `b1`, its problem and its two rows, with an empty cache. -/
def reportedWorld : World :=
  { db := { now := ⟨0, 0⟩, batches := [assignedBatch], problems := Table.empty.insert "b1" twoSlotProblem
            rows := stableAndForcedRows.map fun row => ⟨"b1", row⟩ }
    cache := ⟨Table.empty, false⟩ }

/-- The report of a stable and a forced row counts both, and the job reporting `run-1` indexes
exactly it. -/
theorem stableAndForced_report_indexed :
    (stableAndForcedRows.map Row.applicant).Nodup ∧
      (∀ row ∈ stableAndForcedRows, ∃ p : Phase, row.phase = p.name) ∧
      reportedWorld.db.loadBatch Table.empty "b1" = .ok assignedBatch ∧
      reportedWorld.db.loadProblem Table.empty "b1" = .ok twoSlotProblem ∧
      reportedWorld.db.loadRows Table.empty "b1" = .ok stableAndForcedRows ∧
      (buildReport assignedBatch "run-1" stableAndForcedRows twoSlotProblem ⟨0, 0⟩).summary.assignedCount = 2 ∧
      ((indexReport "reports" ⟨"b1", "run-1"⟩).runIn ⟨⟨0, 0⟩, {}⟩ reportedWorld).2.outbox.documents =
        [⟨"reports", "run-1",
          (buildReport assignedBatch "run-1" stableAndForcedRows twoSlotProblem ⟨0, 0⟩).toJson⟩] := by
  have distinct : (stableAndForcedRows.map Row.applicant).Nodup := by decide
  have phased : ∀ row ∈ stableAndForcedRows, ∃ p : Phase, row.phase = p.name := by
    intro row listed
    simp only [stableAndForcedRows, List.mem_cons, List.not_mem_nil, or_false] at listed
    rcases listed with rfl | rfl
    · exact ⟨.stable, rfl⟩
    · exact ⟨.forced, rfl⟩
  have batchLoaded : reportedWorld.db.loadBatch Table.empty "b1" = .ok assignedBatch := rfl
  have problemLoaded : reportedWorld.db.loadProblem Table.empty "b1" = .ok twoSlotProblem := rfl
  have rowsLoaded : reportedWorld.db.loadRows Table.empty "b1" = .ok stableAndForcedRows := by
    -- the stored rows are already in applicant order, so the sort leaves them as they are
    show Except.ok (stableAndForcedRows.mergeSort _) = _
    rw [List.mergeSort_of_pairwise (by decide)]
  have valid : (reportSchema.validate
      (.obj [("batchId", .str "b1"), ("runId", .str "run-1")])).valid = true := by decide +kernel
  have agrees := report_agrees_with_summary assignedBatch "run-1" twoSlotProblem stableAndForcedRows
    ⟨0, 0⟩ distinct phased
  refine ⟨distinct, phased, batchLoaded, problemLoaded, rowsLoaded, agrees.2.1, ?_⟩
  rw [agrees.2.2.2.2.2.2.2.2 "reports" ⟨"b1", "run-1"⟩ ⟨⟨0, 0⟩, {}⟩ reportedWorld rfl rfl batchLoaded
    problemLoaded rowsLoaded rfl, if_pos ⟨valid, by decide, Or.inr (by decide)⟩]
  rfl

end SlotAllocation
