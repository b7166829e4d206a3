import SlotAllocation.Proofs.FillJob

/-!
# Forced filling later is forced filling at once

A batch can be filled up in one compute job with forced filling on, or in a compute job
without it followed by a force-fill job. The first way runs the forced phase on the
matcher's result in memory; the second reads the committed rows back and runs it on what
they give. Both ways end in the same state (`forcing_later_matches_forcing_at_once`): the same
stored rows up to order and run, the same batch statuses, and cached summaries that agree in
everything but the run identifier and the completion time.
-/

namespace SlotAllocation

/-- The batch, applicant, slot and phase a stored row records. -/
def StoredRow.placement (r : StoredRow) : String × ApplicantId × SlotId × String :=
  (r.batch, r.row.placement)

section Later

variable (db : Database) (b : String)

theorem commitStatus_forced
    (busy : (forcedPairs (db.storedPreferences b).normalize (db.storedCapacities b)).size ≠ 0) :
    commitStatus (db.engineOutcome b true) = BatchStatus.forceFilled.name := by
  have placed := defaultOutcome_true_forcedAssigned (db.storedPreferences b).normalize
    (db.storedCapacities b)
  rw [commitStatus, Database.engineOutcome, placed, if_pos (Nat.pos_of_ne_zero busy)]

/-- Committing with forced filling stores, up to order, the rows that committing without it
and then appending the forced rows stores. -/
theorem commit_forced_placements_perm (run run' run'' : String) :
    ((db.commit b run (db.engineOutcome b true)).rows.map StoredRow.placement).Perm
      (((db.commit b run' (db.engineOutcome b false)).rows ++
        (forcedRows run''
          (forcedPairs (db.storedPreferences b).normalize (db.storedCapacities b))).map
          fun row => (⟨b, row⟩ : StoredRow)).map StoredRow.placement) := by
  have forced := runRows_forced_perm (db.storedPreferences b).normalize (db.storedCapacities b) run
  have tagged : ∀ rows : List Row,
      (rows.map fun row => (⟨b, row⟩ : StoredRow)).map StoredRow.placement =
        (rows.map Row.placement).map fun p => (b, p) := by
    intro rows
    simp [StoredRow.placement, Function.comp_def]
  simp only [Database.commit, List.map_append, List.append_assoc, tagged]
  apply List.Perm.append_left
  rw [← List.map_append]
  refine (forced.map _).trans (List.Perm.of_eq ?_)
  simp [Database.engineOutcome, runRows_unforced, forcedRows, Row.placement, Function.comp_def]

end Later


/-- Forced filling later is forced filling at once. From a world where batch `b` is open, with
no readable summary cached for it and its lock free, under clean conditions: a compute job with
forced filling, and a compute job without it followed by a force-fill job, all succeed. Both
ways store the same rows (batch, applicant, slot and phase) up to order and leave the same
batches, and the summaries they cache differ at most in their run identifier and completion
time. -/
theorem forcing_later_matches_forcing_at_once {c₁ c₂ c₃ : Conditions} (clean₁ : c₁.Clean)
    (clean₂ : c₂.Clean) (clean₃ : c₃.Clean) (settings : ComputeSettings) (w : World) {b : String}
    {batch : Batch} (found : w.db.batch? b = some batch)
    (isOpen : batch.status = BatchStatus.openBatch.name) (missed : w.cachedAnswer b = none)
    (free : w.cache.entries.contains (lockKey b) = false)
    (validAtOnce : (computeSchema.validate (plainCompute b true).toJson).valid = true)
    (validLater : (computeSchema.validate (plainCompute b false).toJson).valid = true)
    (validFill : (fillSchema.validate (.obj [("batchId", .str b)])).valid = true) :
    ∃ a₁ w₁ a₂ w₂ a₃ w₃,
      (computeBatch settings (plainCompute b true)).runIn c₁ w = (.ok a₁, w₁) ∧
      (computeBatch settings (plainCompute b false)).runIn c₂ w = (.ok a₂, w₂) ∧
      (fillBatch ⟨b⟩).runIn c₃ w₂ = (.ok a₃, w₃) ∧
      (w₁.db.rows.map StoredRow.placement).Perm (w₃.db.rows.map StoredRow.placement) ∧
      w₁.db.batches = w₃.db.batches ∧
      ∃ s₁ s₃ : Summary,
        w₁.cache.entries.find? (resultKey b) = some (s₁.toJson.render Layout.compact) ∧
        w₃.cache.entries.find? (resultKey b) = some (s₃.toJson.render Layout.compact) ∧
        s₃ = { s₁ with runId := s₃.runId, completedAt := s₃.completedAt } := by
  obtain ⟨w₁, ran₁, db₁, cached₁, -⟩ :=
    computeBatch_commits clean₁ settings w true validAtOnce missed free found isOpen
  obtain ⟨w₂, ran₂, db₂, cached₂, free₂⟩ :=
    computeBatch_commits clean₂ settings w false validLater missed free found isOpen
  obtain ⟨a₃, w₃, ran₃, idle, busy⟩ := fillBatch_after_commit clean₃ w₂ found db₂ validFill free₂
  refine ⟨_, w₁, _, w₂, a₃, w₃, ran₁, ran₂, ran₃, ?_⟩
  by_cases nothing :
      (forcedPairs (w.db.storedPreferences b).normalize (w.db.storedCapacities b)).size = 0
  · -- no seat is free for the waiting applicants: both ways commit the same outcome
    obtain ⟨kept, cached₃⟩ := idle nothing
    have same : w.db.engineOutcome b true = w.db.engineOutcome b false :=
      defaultOutcome_true_of_nothing_forced _ _ nothing
    rw [same] at db₁ cached₁
    refine ⟨?_, ?_, _, _, cached₁, cached₃.trans cached₂, rfl⟩
    · rw [db₁, kept, db₂]
    · rw [db₁, kept, db₂]
  · -- the force-fill job appends the forced rows and rebuilds the summary from the rows
    obtain ⟨appended, cached₃⟩ := busy nothing
    have status := commitStatus_forced w.db b nothing
    refine ⟨?_, ?_, _, _, cached₁, cached₃, ?_⟩
    · rw [db₁, appended, db₂]
      exact commit_forced_placements_perm w.db b _ _ _
    · rw [db₁, appended, db₂, Database.restamp_commit]
      show w.db.restamp b (commitStatus (w.db.engineOutcome b true)) = _
      rw [status]
    · have agree := ofRows_after_fill (w.db.storedPreferences b).normalize (w.db.storedCapacities b)
        (Preferences.normalize_normalize _) batch w.db.now w.nextRunId w₂.nextRunId w.nextRunId
        c₁.now c₃.now
      simp only [Database.engineOutcome] at agree status ⊢
      rw [agree, status]

/-- One open batch with one slot of one seat and one applicant who ranks nothing: only the
forced phase places the applicant. -/
def oneSeatWorld : World where
  db := { now := Instant.zero
          batches := [⟨"b", kindSubjects, BatchStatus.openBatch.name, Instant.zero⟩]
          problems := Table.empty.insert "b"
            ⟨some (Table.empty.insert "A" []), some (Table.empty.insert "S" 1)⟩
          rows := [] }
  cache := { entries := Table.empty }

/-- In the world `oneSeatWorld` the hypotheses hold, so the three jobs succeed and agree. -/
theorem oneSeat_forcing_later :
    ({ now := Instant.zero } : Conditions).Clean ∧
    oneSeatWorld.db.batch? "b" = some ⟨"b", kindSubjects, BatchStatus.openBatch.name, Instant.zero⟩ ∧
    Batch.status ⟨"b", kindSubjects, BatchStatus.openBatch.name, Instant.zero⟩ = BatchStatus.openBatch.name ∧
    oneSeatWorld.cachedAnswer "b" = none ∧
    oneSeatWorld.cache.entries.contains (lockKey "b") = false ∧
    (computeSchema.validate (plainCompute "b" true).toJson).valid = true ∧
    (computeSchema.validate (plainCompute "b" false).toJson).valid = true ∧
    (fillSchema.validate (.obj [("batchId", .str "b")])).valid = true ∧
    ∃ a₁ w₁ a₂ w₂ a₃ w₃,
      (computeBatch ⟨300, 120, 60, 3600, false, 3, 5⟩ (plainCompute "b" true)).runIn
        { now := Instant.zero } oneSeatWorld = (.ok a₁, w₁) ∧
      (computeBatch ⟨300, 120, 60, 3600, false, 3, 5⟩ (plainCompute "b" false)).runIn
        { now := Instant.zero } oneSeatWorld = (.ok a₂, w₂) ∧
      (fillBatch ⟨"b"⟩).runIn { now := Instant.zero } w₂ = (.ok a₃, w₃) ∧
      (w₁.db.rows.map StoredRow.placement).Perm (w₃.db.rows.map StoredRow.placement) ∧
      w₁.db.batches = w₃.db.batches ∧
      ∃ s₁ s₃ : Summary,
        w₁.cache.entries.find? (resultKey "b") = some (s₁.toJson.render Layout.compact) ∧
        w₃.cache.entries.find? (resultKey "b") = some (s₃.toJson.render Layout.compact) ∧
        s₃ = { s₁ with runId := s₃.runId, completedAt := s₃.completedAt } := by
  have clean : ({ now := Instant.zero } : Conditions).Clean := ⟨rfl, rfl, rfl⟩
  have found : oneSeatWorld.db.batch? "b" =
      some ⟨"b", kindSubjects, BatchStatus.openBatch.name, Instant.zero⟩ := rfl
  have missed : oneSeatWorld.cachedAnswer "b" = none := rfl
  have free : oneSeatWorld.cache.entries.contains (lockKey "b") = false := rfl
  have validAtOnce : (computeSchema.validate (plainCompute "b" true).toJson).valid = true := by
    decide +kernel
  have validLater : (computeSchema.validate (plainCompute "b" false).toJson).valid = true := by
    decide +kernel
  have validFill : (fillSchema.validate (.obj [("batchId", .str "b")])).valid = true := by
    decide +kernel
  exact ⟨clean, found, rfl, missed, free, validAtOnce, validLater, validFill,
    forcing_later_matches_forcing_at_once clean clean clean _ oneSeatWorld found rfl missed free
      validAtOnce validLater validFill⟩

end SlotAllocation
