import Mathlib.Data.String.Basic
import SlotAllocation.Proofs.FreeSeats
import SlotAllocation.Proofs.Work

/-!
# What a committed run stores

A run that commits replaces its batch's rows by one row per pair, each with the phase that
placed it, and sets the batch's status (`Database.commit`). A force-fill job later reads
those rows back, so this module states what reading them gives:

1. `Preferences.normalize_normalize`: cleaning preferences twice is cleaning them once, so
   a summary rebuilt from the cleaned preferences ranks as the run did.
2. `splitRows_entries_perm`: rows with one applicant each read back as their pairs, and the
   forced rows as the forced pairs.
3. `Database.batchRows_commit`: a batch's stored rows after a commit are the run's rows.
4. With the built-in engine, a run without forced filling stores the matcher's pairs as
   stable rows (`runRows_unforced`); with it, the forced pairs `forcedPairs` as forced rows
   besides (`runRows_forced_perm`), and nothing else changes when no seat is handed out
   (`defaultOutcome_true_of_nothing_forced`).
-/

namespace SlotAllocation

/-! ## 1. Cleaning preferences twice -/

/-- A cleaned list is clean: cleaning it again changes nothing. -/
theorem cleanList_cleanList (l : List SlotId) : cleanList (cleanList l) = cleanList l := by
  have named : ∀ s ∈ cleanList l, (s != "") = true := by
    intro s listed
    rw [cleanList, List.mem_eraseDups, List.mem_filter] at listed
    exact listed.2
  rw [cleanList, List.filter_eq_self.mpr named]
  exact eraseDups_of_nodup (nodup_eraseDups _)

/-- Normalizing preferences twice is normalizing them once. -/
theorem Preferences.normalize_normalize (p : Preferences) :
    p.normalize.normalize = p.normalize := by
  apply Table.ext_of_perm
  simp [Preferences.normalize, Table.map, Function.comp_def, cleanList_cleanList]


/-! ## 2. Reading rows back -/

/-- The applicant and slot a row records. -/
def Row.pair (r : Row) : ApplicantId × SlotId := (r.applicant, r.slot)

theorem splitRows_fold (rows : List Row) (acc : Pairing × Pairing) :
    rows.foldl (fun acc r => (acc.1.insert r.applicant r.slot,
        if r.isForced then acc.2.insert r.applicant r.slot else acc.2)) acc =
      ((rows.map Row.pair).foldl (fun t p => t.insert p.1 p.2) acc.1,
        ((rows.filter Row.isForced).map Row.pair).foldl (fun t p => t.insert p.1 p.2) acc.2) := by
  induction rows generalizing acc with
  | nil => rfl
  | cons r rest ih =>
    rw [List.foldl_cons, ih]
    by_cases forced : r.isForced = true
    · simp [forced, Row.pair]
    · simp [forced, Row.pair]

/-- With one row per applicant, the pairs read back are the rows' pairs, and the forced ones
those of the forced rows. -/
theorem splitRows_entries_perm {rows : List Row} (distinct : (rows.map Row.applicant).Nodup) :
    (splitRows rows).1.entries.Perm (rows.map Row.pair) ∧
      (splitRows rows).2.entries.Perm ((rows.filter Row.isForced).map Row.pair) := by
  have keys : ∀ l : List Row, (l.map Row.pair).map Prod.fst = l.map Row.applicant := by
    intro l
    simp [Function.comp_def, Row.pair]
  have forcedDistinct : ((rows.filter Row.isForced).map Row.applicant).Nodup :=
    ((show (rows.filter Row.isForced).Sublist rows from List.filter_sublist).map _).nodup distinct
  rw [splitRows, splitRows_fold]
  constructor
  · simpa using Table.entries_foldl_insert_perm (rows.map Row.pair) Table.empty
      ((keys rows).symm ▸ distinct) (by simp)
  · simpa using Table.entries_foldl_insert_perm ((rows.filter Row.isForced).map Row.pair)
      Table.empty ((keys _).symm ▸ forcedDistinct) (by simp)


/-! ## 3. What a committed run stores -/

/-- The rows a run stores for its outcome: one for each pair, in ascending order of
applicant, with the name of the phase that placed it. -/
def runRows (run : String) (o : Outcome) : List Row :=
  o.result.pairs.entries.map fun (a, s) =>
    ⟨a, s, ((o.phases.find? a).map Phase.name).getD "", run⟩

/-- The status a run commits: force-filled when the forced phase placed anybody. -/
def commitStatus (o : Outcome) : String :=
  if o.forcedAssigned > 0 then BatchStatus.forceFilled.name else BatchStatus.assigned.name

/-- The store after run `run` commits outcome `o` for batch `b`: the batch's rows are the
run's, and its status the committed one. -/
def Database.commit (db : Database) (b run : String) (o : Outcome) : Database :=
  { db with
    rows := db.rows.filter (·.batch != b) ++ (runRows run o).map fun row => ⟨b, row⟩
    batches := db.restamp b (commitStatus o) }

@[simp] theorem runRows_pairs (run : String) (o : Outcome) :
    (runRows run o).map Row.pair = o.result.pairs.entries := by
  simp [runRows, Row.pair, Function.comp_def]

theorem runRows_applicants (run : String) (o : Outcome) :
    (runRows run o).map Row.applicant = o.result.pairs.keys := by
  simp [runRows, Table.keys, Function.comp_def]

/-- The stored rows of a batch after a commit are the run's rows, in the order written. -/
theorem Database.batchRows_commit (db : Database) (b run : String) (o : Outcome) :
    (db.commit b run o).batchRows b = runRows run o := by
  have gone : (db.rows.filter (·.batch != b)).filter (·.batch == b) = [] := by
    rw [List.filter_eq_nil_iff]
    intro r listed
    simpa using (List.mem_filter.mp listed).2
  have kept : ((runRows run o).map fun row => (⟨b, row⟩ : StoredRow)).filter (·.batch == b) =
      (runRows run o).map fun row => ⟨b, row⟩ :=
    List.filter_eq_self.mpr (by simp)
  have own : ((db.commit b run o).rows.filter (·.batch == b)).map (·.row) = runRows run o := by
    simp [Database.commit, List.filter_append, gone, kept, Function.comp_def]
  have sorted : (runRows run o).Pairwise fun x y =>
      decide (x.applicant ≤ y.applicant) = true := by
    unfold runRows
    rw [List.pairwise_map]
    exact o.result.pairs.ascending.imp fun below => by simpa using le_of_lt below
  rw [Database.batchRows, own]
  exact List.mergeSort_of_pairwise sorted


namespace Database

variable (db : Database) (b : String)

/-- The batch found under an identifier carries that identifier. -/
theorem batch?_id {batch : Batch} (found : db.batch? b = some batch) : batch.id = b := by
  simpa using List.find?_some found

/-- After a restamp the batch carries the new status and the store's time, whatever rows are
stored beside it. -/
theorem batch?_restamp (rows : List StoredRow) (status : String) {batch : Batch}
    (found : db.batch? b = some batch) :
    ({ db with rows := rows, batches := db.restamp b status } : Database).batch? b =
      some { batch with status := status, updatedAt := db.now } := by
  have named := batch?_id db b found
  have kept : (fun x : Batch => (if x.id == b then
      { x with status := status, updatedAt := db.now } else x).id == b) =
        fun x => x.id == b := by
    funext x
    split <;> rfl
  simp only [batch?, restamp, List.find?_map, Function.comp_def, kept]
  rw [show db.batches.find? (·.id == b) = some batch from found]
  simp [named]

/-- After a commit the batch carries the committed status and the store's time. -/
theorem batch?_commit (run : String) (o : Outcome) {batch : Batch}
    (found : db.batch? b = some batch) :
    (db.commit b run o).batch? b =
      some { batch with status := commitStatus o, updatedAt := db.now } :=
  batch?_restamp db b _ (commitStatus o) found

/-- A restamp after a commit overrides the committed status. -/
theorem restamp_commit (run : String) (o : Outcome) (status : String) :
    (db.commit b run o).restamp b status = db.restamp b status := by
  simp only [restamp, commit, List.map_map]
  apply List.map_congr_left
  intro x _
  by_cases same : x.id = b
  · simp [same]
  · simp [same]

@[simp] theorem commit_now (run : String) (o : Outcome) : (db.commit b run o).now = db.now := rfl

end Database


/-! ## 4. The built-in engine with and without forced filling -/

/-- The pairs the forced phase adds to the matcher's result: the free seats handed out to the
applicants left waiting. -/
def forcedPairs (prefs : Preferences) (caps : Capacities) : Pairing :=
  force (stableMatch prefs caps).waiting caps (stableMatch prefs caps).pairs.counts

/-- The applicant, slot and phase a row records. -/
def Row.placement (r : Row) : ApplicantId × SlotId × String := (r.applicant, r.slot, r.phase)

section Runs

variable (prefs : Preferences) (caps : Capacities)

theorem forcedPairs_fresh :
    ∀ a ∈ (forcedPairs prefs caps).keys, a ∉ (stableMatch prefs caps).pairs.keys :=
  force_fresh caps (stableMatch_summarized prefs caps)

theorem defaultOutcome_false_result :
    (stagedOutcome prefs caps false (stableMatch prefs caps)).result = stableMatch prefs caps := by
  rw [defaultOutcome_result, forceStage_false]

theorem defaultOutcome_false_forcedAssigned :
    (stagedOutcome prefs caps false (stableMatch prefs caps)).forcedAssigned = 0 := by
  have placed := defaultOutcome_forcedAssigned prefs caps false
  rw [forceStage_false] at placed
  omega

/-- Without forced filling a run stores one stable row for each of the matcher's pairs. -/
theorem runRows_unforced (run : String) :
    runRows run (stagedOutcome prefs caps false (stableMatch prefs caps)) =
      (stableMatch prefs caps).pairs.entries.map fun p =>
        ⟨p.1, p.2, Phase.stable.name, run⟩ := by
  unfold runRows
  rw [defaultOutcome_false_result]
  apply List.map_congr_left
  rintro ⟨a, s⟩ listed
  have placed : a ∈ (stableMatch prefs caps).pairs.keys := List.mem_map_of_mem listed
  simp only [defaultOutcome_label, if_pos placed]
  rfl

theorem defaultOutcome_true_result :
    (stagedOutcome prefs caps true (stableMatch prefs caps)).result =
      mergeForced (some (stableMatch prefs caps)) (forcedPairs prefs caps) prefs := by
  rw [defaultOutcome_result, forceStage_true_eq caps (stableMatch_summarized prefs caps)]
  rfl

theorem defaultOutcome_true_forcedAssigned :
    (stagedOutcome prefs caps true (stableMatch prefs caps)).forcedAssigned =
      (forcedPairs prefs caps).size := by
  have placed := defaultOutcome_forcedAssigned prefs caps true
  rw [← defaultOutcome_result, defaultOutcome_true_result,
    mergeForced_size prefs (forcedPairs_fresh prefs caps)] at placed
  omega

/-- With forced filling on, the matcher's pairs are labelled stable and the forced pairs
forced. -/
theorem defaultOutcome_true_label (a : ApplicantId) :
    (stagedOutcome prefs caps true (stableMatch prefs caps)).phases.find? a =
      if a ∈ (stableMatch prefs caps).pairs.keys then some .stable
      else if a ∈ (forcedPairs prefs caps).keys then some .forced
      else none := by
  have perm := (mergeForced_entries_perm (stableMatch prefs caps) (forcedPairs prefs caps) prefs
    (forcedPairs_fresh prefs caps)).map Prod.fst
  have keys : a ∈ (forceStage prefs caps true (stableMatch prefs caps)).pairs.keys ↔
      a ∈ (stableMatch prefs caps).pairs.keys ∨ a ∈ (forcedPairs prefs caps).keys := by
    rw [← defaultOutcome_result, defaultOutcome_true_result]
    simpa [Table.keys] using perm.mem_iff
  rw [defaultOutcome_label]
  by_cases matched : a ∈ (stableMatch prefs caps).pairs.keys
  · simp [matched]
  · simp [matched, keys]

/-- With forced filling on, a run stores, up to order, a stable row for each of the matcher's
pairs and a forced row for each forced pair. -/
theorem runRows_forced_perm (run : String) :
    ((runRows run (stagedOutcome prefs caps true (stableMatch prefs caps))).map Row.placement).Perm
      ((stableMatch prefs caps).pairs.entries.map (fun p => (p.1, p.2, Phase.stable.name)) ++
        (forcedPairs prefs caps).entries.map (fun p => (p.1, p.2, Phase.forced.name))) := by
  have perm := mergeForced_entries_perm (stableMatch prefs caps) (forcedPairs prefs caps) prefs
    (forcedPairs_fresh prefs caps)
  let placement : ApplicantId × SlotId → ApplicantId × SlotId × String := fun p =>
    (p.1, p.2, (((stagedOutcome prefs caps true (stableMatch prefs caps)).phases.find? p.1).map
      Phase.name).getD "")
  have stored : (runRows run (stagedOutcome prefs caps true (stableMatch prefs caps))).map
      Row.placement = (mergeForced (some (stableMatch prefs caps)) (forcedPairs prefs caps)
        prefs).pairs.entries.map placement := by
    simp [runRows, Row.placement, placement, defaultOutcome_true_result, Function.comp_def]
  have matched : (stableMatch prefs caps).pairs.entries.map placement =
      (stableMatch prefs caps).pairs.entries.map (fun p => (p.1, p.2, Phase.stable.name)) := by
    apply List.map_congr_left
    intro p listed
    have placed : p.1 ∈ (stableMatch prefs caps).pairs.keys := List.mem_map_of_mem listed
    simp [placement, defaultOutcome_true_label, placed]
  have forced : (forcedPairs prefs caps).entries.map placement =
      (forcedPairs prefs caps).entries.map (fun p => (p.1, p.2, Phase.forced.name)) := by
    apply List.map_congr_left
    intro p listed
    have handed : p.1 ∈ (forcedPairs prefs caps).keys := List.mem_map_of_mem listed
    simp [placement, defaultOutcome_true_label, handed, forcedPairs_fresh prefs caps p.1 handed]
  rw [stored, ← matched, ← forced, ← List.map_append]
  exact perm.map placement

/-- When no seat is handed out, forced filling changes nothing about the outcome. -/
theorem defaultOutcome_true_of_nothing_forced (nothing : (forcedPairs prefs caps).size = 0) :
    stagedOutcome prefs caps true (stableMatch prefs caps) =
      stagedOutcome prefs caps false (stableMatch prefs caps) := by
  have empty : (forcedPairs prefs caps).entries = [] := List.eq_nil_of_length_eq_zero nothing
  have same : forceStage prefs caps true (stableMatch prefs caps) = stableMatch prefs caps := by
    rw [forceStage_true_eq caps (stableMatch_summarized prefs caps), mergeForced_eq]
    rw [show force (stableMatch prefs caps).waiting caps (stableMatch prefs caps).pairs.counts =
      forcedPairs prefs caps from rfl, empty]
    exact stableMatch_summarized prefs caps
  rw [defaultOutcome_eq, defaultOutcome_eq, same, forceStage_false]

end Runs

end SlotAllocation
