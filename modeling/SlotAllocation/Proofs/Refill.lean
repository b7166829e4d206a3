import SlotAllocation.Proofs.NoTrace
import SlotAllocation.Proofs.CacheCoherence

/-!
# Force-filling twice

A force-fill job hands the free seats of a committed batch to the applicants its stored rows
leave waiting. Once it has succeeded, a second job finds nothing to do: the first either
placed everyone who waited or took every seat that was left, so the second forces nobody,
writes nothing and answers as the first did.

1. `force_after_mergeForced`: after the forced pairs are merged into a result, forcing again
   places nobody. When somebody still waits, fewer were forced than waited, so the seats were
   scarce and each slot took all it had left (`seatsLeft_after_taking`, in 64-bit arithmetic).
2. `Database.afterFill`, `Database.fillAnswer`: the store a force-fill job leaves and the answer
   it gives. After the job the stored rows read back as its answer's result
   (`Database.fillCurrent_afterFill`), and nobody is left to force
   (`Database.fillForced_afterFill`).
3. The store calls a job makes, when they succeed under any faults, do what they do when
   nothing fails.
4. `fillLocked_ok`, `fillBatch_eq_ok`: a force-fill job that succeeds, under any faults, read
   a committed batch, answered with `fillAnswer` and left `afterFill` (`FillSucceeded`).
5. `second_fill_changes_nothing`: a second job after a successful one succeeds, changes
   neither store nor cached summary and answers as the first did, forcing nobody.
-/

namespace SlotAllocation

/-! ## 1. Forcing after a force-fill -/

/-- A slot that received all the seats it had left has none left: either the count already
filled it, or the 64-bit difference of seats and count, taken away from itself, wraps to zero. -/
theorem seatsLeft_after_taking {caps : Capacities} {counts counts' : Counts} {s : SlotId}
    (taken : counts'.get s = counts.get s + seatsLeft caps counts s) :
    seatsLeft caps counts' s = 0 := by
  unfold seatsLeft at *
  have rest : caps.seats s - counts'.get s =
      (caps.seats s - counts.get s) - (wrap64 (caps.seats s - counts.get s)).toNat := by
    rw [taken]
    omega
  rw [rest]
  generalize caps.seats s - counts.get s = x
  unfold wrap64
  rw [Int.bmod_def, Int.bmod_def]
  split <;> split <;> omega

/-- With no seat left on any slot, `force` places nobody. -/
theorem force_of_full {waiting : List ApplicantId} {caps : Capacities} {counts : Counts}
    (distinct : waiting.Nodup) (full : ∀ s ∈ caps.slots, seatsLeft caps counts s = 0) :
    (force waiting caps counts).size = 0 := by
  have none : natSum (caps.slots.map (seatsLeft caps counts)) = 0 := by
    show (caps.slots.map _).sum = 0
    refine List.sum_eq_zero fun n counted => ?_
    obtain ⟨s, listed, rfl⟩ := List.mem_map.mp counted
    exact full s listed
  rw [force_size _ _ _ distinct, none, Nat.min_zero]

/-- A waiting applicant that `force` leaves out shows it placed fewer than waited. -/
theorem force_size_lt {waiting : List ApplicantId} {caps : Capacities} {counts : Counts}
    {a : ApplicantId} (listed : a ∈ waiting) (unforced : a ∉ (force waiting caps counts).keys) :
    (force waiting caps counts).size < waiting.length := by
  have within : (force waiting caps counts).keys.Subperm (waiting.erase a) :=
    (Table.keys_nodup _).subperm fun x forced =>
      (List.mem_erase_of_ne (ne_of_mem_of_not_mem forced unforced)).mpr (force_key _ _ _ forced)
  have shorter := within.length_le
  rw [List.length_erase_of_mem listed] at shorter
  have pos := List.length_pos_of_mem listed
  simp only [Table.keys, List.length_map] at shorter
  simp only [Table.size]
  omega

section Refill

variable {prefs : Preferences} (caps : Capacities) {r : Result} (summarized : Summarized prefs r)
include summarized

/-- An applicant still waiting after the forced pairs are merged waited before and was not
forced. -/
theorem mergeForced_waiting_of_force {a : ApplicantId}
    (waits : a ∈ (mergeForced (some r) (force r.waiting caps r.pairs.counts) prefs).waiting) :
    a ∈ r.waiting ∧ a ∉ (force r.waiting caps r.pairs.counts).keys := by
  have keys : (mergeForced (some r) (force r.waiting caps r.pairs.counts) prefs).pairs.keys.Perm
      (r.pairs.keys ++ (force r.waiting caps r.pairs.counts).keys) := by
    simpa [Table.keys] using
      (mergeForced_entries_perm r _ prefs (force_fresh caps summarized)).map Prod.fst
  rw [(mergeForced_summarized r _ prefs).waiting, List.mem_filter] at waits
  obtain ⟨known, unplaced⟩ := waits
  have unkept : a ∉ r.pairs.keys ∧ a ∉ (force r.waiting caps r.pairs.counts).keys := by
    rw [← not_or, ← List.mem_append, ← keys.mem_iff, ← Table.contains_iff]
    simpa using unplaced
  refine ⟨?_, unkept.2⟩
  rw [summarized.waiting, List.mem_filter]
  have free : r.pairs.contains a = false :=
    Bool.eq_false_iff.mpr fun placed => unkept.1 (Table.contains_iff.mp placed)
  simp [known, free]

/-- After the waiting applicants of a result are forced into its free seats and merged in,
forcing again places nobody: either nobody waits any more, or the free seats were fewer than
the waiting applicants and every one of them is taken. -/
theorem force_after_mergeForced :
    (force (mergeForced (some r) (force r.waiting caps r.pairs.counts) prefs).waiting caps
      (mergeForced (some r) (force r.waiting caps r.pairs.counts) prefs).pairs.counts).size = 0 := by
  have merged := mergeForced_summarized r (force r.waiting caps r.pairs.counts) prefs
  by_cases nobody : (mergeForced (some r) (force r.waiting caps r.pairs.counts) prefs).waiting = []
  · rw [nobody, force_nobody]
    rfl
  · obtain ⟨a, waits⟩ := List.exists_mem_of_ne_nil _ nobody
    obtain ⟨before, unforced⟩ := mergeForced_waiting_of_force caps summarized waits
    -- fewer applicants were forced than waited, so the free seats were fewer than the
    -- waiting applicants and all of them went
    have scarce : natSum (caps.slots.map (seatsLeft caps r.pairs.counts)) ≤ r.waiting.length := by
      have sized := force_size r.waiting caps r.pairs.counts summarized.waiting_nodup
      have fewer := force_size_lt before unforced
      omega
    apply force_of_full merged.waiting_nodup
    intro s listed
    have taken : (mergeForced (some r) (force r.waiting caps r.pairs.counts) prefs).pairs.counts.get s =
        r.pairs.counts.get s + seatsLeft caps r.pairs.counts s := by
      rw [Pairing.counts_get, Pairing.counts_get, mergeForced_load prefs (force_fresh caps summarized),
        force_load_of_scarce _ _ _ summarized.waiting_nodup scarce listed]
      push_cast
      rfl
    exact seatsLeft_after_taking taken

end Refill

/-- Forcing nobody merges nothing in. -/
theorem mergeForced_idle {prefs : Preferences} {r : Result} (summarized : Summarized prefs r)
    {forced : Pairing} (idle : forced.size = 0) : mergeForced (some r) forced prefs = r := by
  have empty : forced.entries = [] := List.eq_nil_of_length_eq_zero idle
  rw [mergeForced_eq, empty]
  exact summarized

/-! ## 2. The store after a force-fill job -/

/-- The forced rows appended for the pairs `forced` read back as those pairs, all forced, after
the rows before them. -/
theorem splitRows_append_forced (rows : List Row) (run : String) (forced : Pairing) :
    splitRows (rows ++ forcedRows run forced) =
      (forced.entries.foldl (fun t p => t.insert p.1 p.2) (splitRows rows).1,
        forced.entries.foldl (fun t p => t.insert p.1 p.2) (splitRows rows).2) := by
  have pairs : (forcedRows run forced).map Row.pair = forced.entries := by
    simp [forcedRows, Row.pair, Function.comp_def]
  have allForced : (forcedRows run forced).filter Row.isForced = forcedRows run forced :=
    List.filter_eq_self.mpr fun row listed => by
      obtain ⟨p, _, rfl⟩ := List.mem_map.mp listed
      rfl
  rw [splitRows, List.foldl_append, ← splitRows, splitRows_fold, allForced, pairs]

namespace Database

variable (db : Database) (b : String)

/-- The result a force-fill job on batch `b` answers with: what the stored rows say, with the
pairs it forces merged in. -/
def fillResult : Result :=
  mergeForced (some (db.fillCurrent b)) (db.fillForced b) (db.storedPreferences b).normalize

/-- The store once a force-fill job of run `run` on batch `b` has appended its forced rows and
marked the batch force-filled. -/
def appendFill (run : String) : Database :=
  { db with
    rows := db.rows ++ (forcedRows run (db.fillForced b)).map fun row => ⟨b, row⟩
    batches := db.restamp b BatchStatus.forceFilled.name }

/-- The store after a force-fill job of run `run` on batch `b` succeeds: as it was when the job
forces nobody, and otherwise with the forced rows appended and the batch force-filled. -/
def afterFill (run : String) : Database :=
  if (db.fillForced b).size = 0 then db else db.appendFill b run

/-- What a force-fill job of run `run` on batch `b`, which it reads as `batch`, answers. -/
def fillAnswer (run : String) (batch : Batch) : FillAnswer :=
  { batchId := b, runId := run
    status := if (db.fillForced b).size = 0 then batch.status else BatchStatus.forceFilled.name
    forced := db.fillForced b
    unassigned := (db.fillResult b).unassigned
    assignedCount := (db.fillResult b).assignedCount
    averageRank := (db.fillResult b).averageRank }

theorem problems_afterFill (run : String) : (db.afterFill b run).problems = db.problems := by
  unfold afterFill
  split <;> rfl

theorem storedPreferences_afterFill (run : String) :
    (db.afterFill b run).storedPreferences b = db.storedPreferences b := by
  unfold storedPreferences
  rw [problems_afterFill]

theorem storedCapacities_afterFill (run : String) :
    (db.afterFill b run).storedCapacities b = db.storedCapacities b := by
  unfold storedCapacities
  rw [problems_afterFill]

theorem fillCurrent_summarized : Summarized (db.storedPreferences b).normalize (db.fillCurrent b) :=
  summarize_summarized _ _ _

theorem fillForced_eq :
    db.fillForced b = force (db.fillCurrent b).waiting (db.storedCapacities b) (db.fillCurrent b).pairs.counts :=
  rfl

/-- The rows of the batch, the forced rows of the job among them, have distinct applicants when
the stored ones do: the job forces only applicants the rows leave waiting. -/
theorem fillRows_distinct (distinct : ((db.batchRows b).map Row.applicant).Nodup) (run : String) :
    ((db.batchRows b ++ forcedRows run (db.fillForced b)).map Row.applicant).Nodup := by
  have forcedKeys : (forcedRows run (db.fillForced b)).map Row.applicant = (db.fillForced b).keys := by
    simp [forcedRows, Table.keys, Function.comp_def]
  have stored : ((splitRows (db.batchRows b)).1.keys).Perm ((db.batchRows b).map Row.applicant) := by
    simpa [Table.keys, Row.pair, Function.comp_def] using
      (splitRows_entries_perm distinct).1.map Prod.fst
  rw [List.map_append, forcedKeys, List.nodup_append]
  refine ⟨distinct, Table.keys_nodup _, fun a listed a' forced same => ?_⟩
  subst same
  have unplaced := force_fresh (db.storedCapacities b) (db.fillCurrent_summarized b) (a := a) forced
  exact unplaced (stored.mem_iff.mpr listed)

/-- The appended forced rows read back as the forced pairs merged into the stored result. -/
theorem fillCurrent_appendFill (distinct : ((db.batchRows b).map Row.applicant).Nodup) (run : String) :
    (db.appendFill b run).fillCurrent b = db.fillResult b := by
  have reread : splitRows ((db.appendFill b run).batchRows b) =
      splitRows (db.batchRows b ++ forcedRows run (db.fillForced b)) :=
    (splitRows_perm (db.fillRows_distinct b distinct run)
      (db.batchRows_append_perm b _ (db.restamp b BatchStatus.forceFilled.name)).symm).symm
  have merged := mergeFold_fresh_both (db.fillForced b).entries
    ((db.fillCurrent b).pairs, (db.fillCurrent b).forced) (Table.keys_nodup _)
    (force_fresh (db.storedCapacities b) (db.fillCurrent_summarized b))
  unfold fillCurrent
  rw [reread, splitRows_append_forced, fillResult, mergeForced_eq, merged]
  rfl

/-- After a force-fill job the stored rows read back as the result the job answered with. -/
theorem fillCurrent_afterFill (distinct : ((db.batchRows b).map Row.applicant).Nodup) (run : String) :
    (db.afterFill b run).fillCurrent b = db.fillResult b := by
  unfold afterFill
  by_cases idle : (db.fillForced b).size = 0
  · rw [if_pos idle, fillResult, mergeForced_idle (db.fillCurrent_summarized b) idle]
  · rw [if_neg idle]
    exact db.fillCurrent_appendFill b distinct run

/-- After a force-fill job nobody is left to force. -/
theorem fillForced_afterFill (distinct : ((db.batchRows b).map Row.applicant).Nodup) (run : String) :
    ((db.afterFill b run).fillForced b).size = 0 := by
  rw [fillForced_eq, fillCurrent_afterFill db b distinct run, storedCapacities_afterFill]
  exact force_after_mergeForced (db.storedCapacities b) (db.fillCurrent_summarized b)

/-- After a force-fill job, a second one answers with the same result. -/
theorem fillResult_afterFill (distinct : ((db.batchRows b).map Row.applicant).Nodup) (run : String) :
    (db.afterFill b run).fillResult b = db.fillResult b := by
  have summarized : Summarized ((db.afterFill b run).storedPreferences b).normalize
      ((db.afterFill b run).fillCurrent b) := fillCurrent_summarized _ b
  rw [fillResult, mergeForced_idle summarized (fillForced_afterFill db b distinct run),
    fillCurrent_afterFill db b distinct run]

/-- After a force-fill job the batch carries the status the job answered with. -/
theorem batch?_afterFill {batch : Batch} (found : db.batch? b = some batch) (run : String) :
    ∃ batch', (db.afterFill b run).batch? b = some batch' ∧
      batch'.status = (db.fillAnswer b run batch).status := by
  unfold afterFill fillAnswer
  by_cases idle : (db.fillForced b).size = 0
  · simp only [if_pos idle]
    exact ⟨batch, found, rfl⟩
  · simp only [if_neg idle]
    exact ⟨_, db.batch?_restamp b _ _ found, rfl⟩

end Database

/-! ## 3. Store calls that succeed under any faults -/

namespace Database

variable {db db' : Database} {faults : StatementFaults} {id : String}

/-! Loads that succeed read what is stored, whatever the faults. -/

theorem loadBatch_ok {batch : Batch} (loaded : db.loadBatch faults id = .ok batch) :
    db.batch? id = some batch := by
  unfold loadBatch at loaded
  split at loaded <;> simp_all

theorem query_ok {α : Type} {s : Statement} {what : String} {v a : α}
    (ran : query faults s what v = .ok a) : a = v := by
  unfold query at ran
  split at ran <;> simp_all

theorem loadProblem_ok {p : Problem} (loaded : db.loadProblem faults id = .ok p) :
    p = ⟨some (db.storedPreferences id), some (db.storedCapacities id)⟩ := by
  unfold loadProblem at loaded
  rcases prefs : db.loadPreferences faults id with e | ps
  · simp [prefs, bind, Except.bind] at loaded
  · rcases caps : db.loadCapacities faults id with e | cs
    · simp [prefs, caps, bind, Except.bind] at loaded
    · simp only [prefs, caps, bind, Except.bind, pure, Except.pure, Except.ok.injEq] at loaded
      rw [← loaded, query_ok prefs, query_ok caps]

theorem loadRows_ok {rows : List Row} (loaded : db.loadRows faults id = .ok rows) :
    rows = db.batchRows id :=
  query_ok loaded

/-! Changes that succeed change the store as they do when nothing fails. -/

theorem insertRows_ok {describe : ApplicantId → String → String} {rows : List Row}
    (ran : db.insertRows faults id describe rows = .ok db') :
    db' = { db with rows := db.rows ++ rows.map fun r => ⟨id, r⟩ } := by
  induction rows generalizing db with
  | nil =>
    simp only [insertRows, Except.ok.injEq] at ran
    simp [ran]
  | cons r rest ih =>
    unfold insertRows at ran
    rcases inserted : exec faults .insertAssignment (describe r.applicant) with e | u
    · simp [inserted, bind, Except.bind] at ran
    · simp only [inserted, bind, Except.bind] at ran
      rw [ih ran]
      simp

theorem updateStatus_ok {status : String} (ran : db.updateStatus faults id status = .ok db') :
    db' = { db with batches := db.restamp id status } := by
  unfold updateStatus at ran
  split at ran
  · cases ran
  · cases ran
  · split at ran
    · cases ran
      rfl
    · cases ran

theorem transact_ok {body : Database → Except StoreError Database}
    (ran : (db.transact faults body).2 = .ok ()) : body db = .ok (db.transact faults body).1 := by
  unfold transact at ran ⊢
  rcases began : faults.find? Statement.begin.key with _ | m
  · rcases done : body db with e | after
    · simp only [began, done] at ran
      split at ran <;> cases ran
    · rcases committed : faults.find? Statement.commit.key with _ | m
      · rfl
      · simp [began, done, committed] at ran
  · simp [began] at ran

/-- Appending forced pairs that succeeds, under any faults, adds one forced row each and marks the
batch force-filled. -/
theorem appendForced_ok {run : String} {forced : Pairing}
    (ran : (db.appendForced faults id run forced).2 = .ok ()) :
    (db.appendForced faults id run forced).1 =
      { db with
        rows := db.rows ++ (forcedRows run forced).map fun row => ⟨id, row⟩
        batches := db.restamp id BatchStatus.forceFilled.name } := by
  have body := transact_ok ran
  simp only [bind, Except.bind] at body
  -- the rows went in, or the transaction would have failed
  split at body
  · cases body
  · rename_i db₁ inserted
    have result := updateStatus_ok body
    rw [insertRows_ok inserted] at result
    exact result

end Database

/-! ## 4. Steps of a job that succeed under any faults -/

/-- `w'` is `w` with at most the cache entry under `key` changed. -/
def World.ChangedAt (key : String) (w w' : World) : Prop :=
  ∃ entries : Table String, w' = { w with cache := { w.cache with entries := entries } } ∧
    ∀ k, k ≠ key → entries.find? k = w.cache.entries.find? k

namespace World.ChangedAt

variable {key : String} {w w₁ w₂ : World}

theorem refl (w : World) : World.ChangedAt key w w := ⟨w.cache.entries, rfl, fun _ _ => rfl⟩

theorem trans (first : World.ChangedAt key w w₁) (second : World.ChangedAt key w₁ w₂) :
    World.ChangedAt key w w₂ := by
  obtain ⟨entries, rfl, kept⟩ := first
  obtain ⟨entries', rfl, kept'⟩ := second
  exact ⟨entries', rfl, fun k other => (kept' k other).trans (kept k other)⟩

theorem set (f : CacheFaults) (value : String) :
    World.ChangedAt key w { w with cache := (w.cache.set f key value).1 } := by
  unfold Cache.set
  split
  · exact refl w
  · exact ⟨_, rfl, fun k other => by simp [Table.find?_insert, other]⟩

theorem delete (f : CacheFaults) :
    World.ChangedAt key w { w with cache := (w.cache.delete f key).1 } := by
  unfold Cache.delete
  split
  · exact refl w
  · exact ⟨_, rfl, fun k other => Table.find?_filter_key _ _ other⟩

end World.ChangedAt

namespace Attempt

variable {α β : Type} {c : Conditions} {w w' : World}

theorem runIn_fail_bind_ne_ok (make : String → Failure) (f : α → Attempt β) (b : β) :
    (fail make >>= f).runIn c w ≠ (.ok b, w') := by
  rw [runIn_fail_bind]
  simp

/-- A store read that succeeds read a value and changed nothing. -/
theorem runIn_read_eq_ok {f : Database → StatementFaults → Except StoreError α}
    {onError : StoreError → String → Failure} {k : α → Attempt β} {b : β}
    (ran : (liftM (Work.query f) >>= fun r => ofStore r onError >>= k).runIn c w = (.ok b, w')) :
    ∃ a, f w.db c.faults.statements = .ok a ∧ (k a).runIn c w = (.ok b, w') := by
  rw [runIn_bind, runIn_lift, Work.runIn_query] at ran
  dsimp only at ran
  rcases read : f w.db c.faults.statements with e | a
  · rw [read, ofStore_error] at ran
    exact absurd ran (runIn_fail_bind_ne_ok _ _ _)
  · rw [read, ofStore_ok, pure_bind] at ran
    exact ⟨a, rfl, ran⟩

/-- A store change that succeeds went through. -/
theorem runIn_change_eq_ok {f : Database → StatementFaults → Database × Except StoreError Unit}
    {onError : StoreError → String → Failure} {k : Unit → Attempt β} {b : β}
    (ran : (liftM (Work.change f) >>= fun r => ofStore r onError >>= k).runIn c w = (.ok b, w')) :
    (f w.db c.faults.statements).2 = .ok () ∧
      (k ()).runIn c { w with db := (f w.db c.faults.statements).1 } = (.ok b, w') := by
  rw [runIn_bind, runIn_lift, Work.runIn_change] at ran
  dsimp only at ran
  rcases changed : (f w.db c.faults.statements).2 with e | u
  · rw [changed, ofStore_error] at ran
    exact absurd ran (runIn_fail_bind_ne_ok _ _ _)
  · rw [changed, ofStore_ok, pure_bind] at ran
    exact ⟨rfl, ran⟩

end Attempt

/-- What a force-fill job of run `run` on batch `b` did when it succeeded from `w`, reading
`batch`: the batch was not open and the merged pairs fit the seats; the job answered with
`fillAnswer` and left the store as `afterFill` says, with nothing else changed but the batch's
cached summary. -/
structure FillSucceeded (w : World) (b run : String) (batch : Batch) (a : FillAnswer)
    (w' : World) : Prop where
  found : w.db.batch? b = some batch
  committed : batch.status ≠ BatchStatus.openBatch.name
  fits : checkCapacity (some (w.db.fillResult b)) (w.db.storedCapacities b) = none
  answer : a = w.db.fillAnswer b run batch
  changed : World.ChangedAt (resultKey b) { w with db := w.db.afterFill b run } w'
  quiet : (w.db.fillForced b).size = 0 → w' = w

/-- A force-fill job that succeeds under its lock, under any faults, did what `FillSucceeded`
says. -/
theorem fillLocked_ok {c : Conditions} {w w' : World} {b run : String} {a : FillAnswer}
    (ran : (fillLocked b run).runIn c w = (.ok a, w')) : ∃ batch, FillSucceeded w b run batch a w' := by
  unfold fillLocked at ran
  dsimp only at ran
  obtain ⟨batch, loaded, ran⟩ := Attempt.runIn_read_eq_ok ran
  have found := Database.loadBatch_ok loaded
  split at ran
  · exact absurd ran (Attempt.runIn_fail_bind_ne_ok _ _ _)
  rename_i notOpen
  have committed : batch.status ≠ BatchStatus.openBatch.name := by simpa using notOpen
  obtain ⟨problem, problemLoaded, ran⟩ := Attempt.runIn_read_eq_ok ran
  obtain ⟨rows, rowsLoaded, ran⟩ := Attempt.runIn_read_eq_ok ran
  obtain rfl := Database.loadProblem_ok problemLoaded
  obtain rfl := Database.loadRows_ok rowsLoaded
  -- the job reads the rows as `fillCurrent` and forces `fillForced`
  have current : summarize (splitRows (w.db.batchRows b)).1 (splitRows (w.db.batchRows b)).2
      (w.db.storedPreferences b).normalize = w.db.fillCurrent b := rfl
  have forced : force (w.db.fillCurrent b).waiting (w.db.storedCapacities b)
      (splitRows (w.db.batchRows b)).1.counts = w.db.fillForced b := rfl
  simp only [Problem.prefs, Problem.caps, Option.getD_some, current, forced] at ran
  split at ran
  · exact absurd ran (Attempt.runIn_fail_bind_ne_ok _ _ _)
  rename_i fits
  split at ran
  · -- nobody to force: the job answers and writes nothing
    rename_i idle
    have idle' : (w.db.fillForced b).size = 0 := by simpa using idle
    simp only [Attempt.runIn_bind, Attempt.runIn_pure, Prod.mk.injEq, Except.ok.injEq] at ran
    obtain ⟨rfl, rfl⟩ := ran
    have kept : { w with db := w.db.afterFill b run } = w := by
      rw [Database.afterFill, if_pos idle']
    refine ⟨batch, found, committed, fits, by simp [Database.fillAnswer, Database.fillResult, idle'],
      ?_, fun _ => rfl⟩
    rw [kept]
    exact .refl w
  · -- the forced rows are appended, then the summary cached, or dropped if that fails
    rename_i busy
    have busy' : (w.db.fillForced b).size ≠ 0 := by simpa using busy
    obtain ⟨appended, ran⟩ := Attempt.runIn_change_eq_ok ran
    have stored : w.db.afterFill b run = (w.db.appendForced c.faults.statements b run (w.db.fillForced b)).1 := by
      rw [Database.afterFill, if_neg busy', Database.appendForced_ok appended]
      rfl
    have named := Database.batch?_id _ _ found
    simp only [Attempt.runIn_bind, Attempt.runIn_lift, Work.runIn_now, Work.putSummary, Work.runIn_map,
      Work.runIn_cacheChange, named] at ran
    split at ran
    · simp only [Attempt.runIn_bind, Attempt.runIn_pure, Prod.mk.injEq, Except.ok.injEq] at ran
      obtain ⟨rfl, rfl⟩ := ran
      refine ⟨batch, found, committed, fits, by simp [Database.fillAnswer, Database.fillResult, busy'],
        ?_, fun idle => absurd idle busy'⟩
      rw [stored]
      exact .set _ _
    · simp only [Attempt.runIn_bind, Attempt.runIn_lift, Work.invalidate, Work.runIn_cacheChange,
        Attempt.runIn_pure, Prod.mk.injEq, Except.ok.injEq] at ran
      obtain ⟨rfl, rfl⟩ := ran
      refine ⟨batch, found, committed, fits, by simp [Database.fillAnswer, Database.fillResult, busy'],
        ?_, fun idle => absurd idle busy'⟩
      rw [stored]
      exact (World.ChangedAt.set _ _).trans (.delete _)

/-- A force-fill job that succeeds had a valid request and found the lock of its batch free; it
succeeded under the lock, and released it after, whatever the release gave. -/
theorem fillBatch_eq_ok {c : Conditions} {w w' : World} {b : String} {a : FillAnswer}
    (ran : (fillBatch ⟨b⟩).runIn c w = (.ok a, w')) :
    (fillSchema.validate (.obj [("batchId", .str b)])).valid = true ∧
      w.cache.entries.contains (lockKey b) = false ∧
      ∃ w₁, (fillLocked b w.nextRunId).runIn c (w.locked b) = (.ok a, w₁) ∧
        w' = { w₁ with cache := (w₁.cache.release c.faults.cache (lockKey b) w.nextRunId).1 } := by
  unfold fillBatch at ran
  by_cases valid : (fillSchema.validate (.obj [("batchId", .str b)])).valid = true
  · simp only [valid, Bool.not_true, Bool.false_eq_true, if_false, Attempt.runIn_bind,
      Attempt.runIn_lift, Work.runIn_newRunId] at ran
    rcases Work.acquire_cases { w with drawn := w.drawn + 1 } b ("run-" ++ toString (w.drawn + 1))
      with ⟨l, refused⟩ | ⟨free, took⟩
    · rw [refused] at ran
      cases l <;> simp at ran
    · rw [took] at ran
      simp only [Attempt.runIn_always, Work.runIn_bind, Work.runIn_release_any, Work.runIn_pure,
        Prod.mk.injEq] at ran
      exact ⟨valid, free, _, Prod.ext ran.1 rfl, ran.2.symm⟩
  · simp [valid, Attempt.runIn_bind] at ran

/-- A release that goes through while `token` holds the lock frees it. -/
theorem Cache.release_frees {cache : Cache} {f : CacheFaults} {key token : String}
    (holds : cache.entries.find? key = some token) (through : (cache.release f key token).2 = .ok ()) :
    (cache.release f key token).1.entries.contains key = false := by
  rcases Cache.release_cases cache f key token with ⟨_, released⟩ | ⟨m, refused, _⟩
  · rw [released, Cache.releaseScript_held cache key token holds]
    exact Table.contains_filter_key _ _
  · rw [refused] at through
    cases through

/-- Releasing a lock, whether it goes through or not, leaves the cached summary alone. -/
theorem World.cachedText_release (w : World) (f : CacheFaults) (b token : String) :
    ({ w with cache := (w.cache.release f (lockKey b) token).1 } : World).cachedText b = w.cachedText b := by
  rcases Cache.release_cases w.cache f (lockKey b) token with ⟨_, released⟩ | ⟨_, _, kept⟩
  · simp only [World.cachedText, released]
    exact Cache.releaseScript_find?_other _ _ (lockKey_ne_resultKey b).symm
  · simp [World.cachedText, kept]

/-- What a force-fill job that succeeds leaves, under faults that let its lock's release
through: the store as `afterFill` says, and the lock free. -/
theorem fillBatch_ok_leaves {c : Conditions} {w w' : World} {b : String} {a : FillAnswer}
    (releases : c.faults.cache.Releases w.cache.knowsScript (lockKey b))
    (ran : (fillBatch ⟨b⟩).runIn c w = (.ok a, w')) :
    ∃ batch w₁, (fillSchema.validate (.obj [("batchId", .str b)])).valid = true ∧
      FillSucceeded (w.locked b) b w.nextRunId batch a w₁ ∧
      w'.db = w.db.afterFill b w.nextRunId ∧ w'.cache.entries.contains (lockKey b) = false := by
  obtain ⟨valid, -, w₁, locked, rfl⟩ := fillBatch_eq_ok ran
  obtain ⟨batch, succeeded⟩ := fillLocked_ok locked
  refine ⟨batch, w₁, valid, succeeded, ?_⟩
  obtain ⟨entries, rfl, kept⟩ := succeeded.changed
  refine ⟨rfl, ?_⟩
  -- the job's own token still holds the lock, so the release frees it
  have holds : entries.find? (lockKey b) = some w.nextRunId := by
    rw [kept _ (lockKey_ne_resultKey b)]
    simp [World.locked]
  exact Cache.release_frees holds (releases entries w.nextRunId)

/-! ## 5. Force-filling twice -/

theorem Table.eq_empty_of_size {ν : Type} {t : Table ν} (empty : t.size = 0) : t = Table.empty :=
  Table.ext_of_perm (by rw [List.eq_nil_of_length_eq_zero empty]; rfl)

/-- Force-filling twice changes nothing. Let a force-fill job on batch `b` succeed from `w`,
under any faults that let the release of its lock through, and leave `w₁`. A second job on `b`
from `w₁` succeeds when nothing fails; whenever it succeeds, it leaves the store (rows and batch
status) and the cached summary of `b` as they were, forces nobody and answers with the first
job's status, waiting applicants, placed count and mean rank. The rows stored for a batch have
one applicant each, as the store keys them by batch and applicant. -/
theorem second_fill_changes_nothing {b : String} {c₁ : Conditions} {w w₁ : World} {a₁ : FillAnswer}
    (distinct : ((w.db.batchRows b).map Row.applicant).Nodup)
    (releases : c₁.faults.cache.Releases w.cache.knowsScript (lockKey b))
    (first : (fillBatch ⟨b⟩).runIn c₁ w = (.ok a₁, w₁)) :
    (∀ c₂ : Conditions, c₂.Clean → ∃ a₂ w₂, (fillBatch ⟨b⟩).runIn c₂ w₁ = (.ok a₂, w₂)) ∧
    ∀ (c₂ : Conditions) (a₂ : FillAnswer) (w₂ : World), (fillBatch ⟨b⟩).runIn c₂ w₁ = (.ok a₂, w₂) →
      w₂.db = w₁.db ∧ w₂.cachedText b = w₁.cachedText b ∧ a₂.forced = Table.empty ∧
      a₂.status = a₁.status ∧ a₂.unassigned = a₁.unassigned ∧
      a₂.assignedCount = a₁.assignedCount ∧ a₂.averageRank = a₁.averageRank := by
  obtain ⟨batch, filled, valid, succeeded, stored, free⟩ := fillBatch_ok_leaves releases first
  -- after the first job the rows read back as its answer, and nobody is left to force
  have idle : (w₁.db.fillForced b).size = 0 := by
    rw [stored]
    exact w.db.fillForced_afterFill b distinct _
  have same : w₁.db.fillResult b = w.db.fillResult b := by
    rw [stored]
    exact w.db.fillResult_afterFill b distinct _
  obtain ⟨batch₁, found, status⟩ := w.db.batch?_afterFill b succeeded.found w.nextRunId
  rw [← stored] at found
  have firstStatus : a₁.status = batch₁.status := by rw [status, succeeded.answer]; rfl
  constructor
  · -- the batch is still committed and its pairs still fit the seats
    intro c₂ clean
    have committed : batch₁.status ≠ BatchStatus.openBatch.name := by
      rw [← firstStatus, succeeded.answer]
      unfold Database.fillAnswer
      split
      · exact succeeded.committed
      · show BatchStatus.forceFilled.name ≠ BatchStatus.openBatch.name
        decide
    have fits : checkCapacity (some ((w₁.locked b).db.fillResult b)) ((w₁.locked b).db.storedCapacities b) = none := by
      show checkCapacity (some (w₁.db.fillResult b)) (w₁.db.storedCapacities b) = none
      rw [same, stored, Database.storedCapacities_afterFill]
      exact succeeded.fits
    obtain ⟨a₂, ran⟩ := fillLocked_fits clean (w₁.locked b) b w₁.nextRunId found committed fits
    rw [fillBatch_under_lock clean w₁ valid free, ran]
    exact ⟨a₂, _, rfl⟩
  · intro c₂ a₂ w₂ second
    obtain ⟨-, -, w₃, locked, rfl⟩ := fillBatch_eq_ok second
    obtain ⟨batch₂, succeeded₂⟩ := fillLocked_ok locked
    have kept : w₃ = w₁.locked b := succeeded₂.quiet idle
    subst kept
    have batch₂_eq : batch₂ = batch₁ := Option.some.inj (succeeded₂.found.symm.trans found)
    subst batch₂_eq
    have answer := succeeded₂.answer
    -- the second job answers from the same result, forcing nobody
    have sameStatus : a₂.status = a₁.status := by
      rw [firstStatus, answer]
      exact if_pos idle
    rw [answer, succeeded.answer] at sameStatus ⊢
    refine ⟨rfl, ?_, Table.eq_empty_of_size idle, sameStatus, congrArg Result.unassigned same,
      congrArg Result.assignedCount same, congrArg Result.averageRank same⟩
    rw [World.cachedText_release]
    exact (World.quiet_locked w₁ b).cached

/-- The world of `oneSeatWorld` with its batch committed and nobody placed: its applicant waits
for the one free seat. -/
def oneSeatCommitted : World :=
  { oneSeatWorld with
    db := { oneSeatWorld.db with batches := [⟨"b", kindSubjects, BatchStatus.assigned.name, Instant.zero⟩] } }

/-- On `oneSeatCommitted` the first force-fill job places the waiting applicant; a second one
succeeds, forces nobody, leaves the store as it was and answers with the same status. -/
theorem oneSeat_second_fill_changes_nothing :
    ∃ a₁ w₁, ((oneSeatCommitted.db.batchRows "b").map Row.applicant).Nodup ∧
      ({ now := Instant.zero } : Conditions).faults.cache.Releases oneSeatCommitted.cache.knowsScript
        (lockKey "b") ∧
      (fillBatch ⟨"b"⟩).runIn { now := Instant.zero } oneSeatCommitted = (.ok a₁, w₁) ∧
      a₁.forced.size = 1 ∧
      ∃ a₂ w₂, (fillBatch ⟨"b"⟩).runIn { now := Instant.zero } w₁ = (.ok a₂, w₂) ∧
        w₂.db = w₁.db ∧ a₂.forced = Table.empty ∧ a₂.status = a₁.status := by
  have clean : ({ now := Instant.zero } : Conditions).Clean := ⟨rfl, rfl, rfl⟩
  have valid : (fillSchema.validate (.obj [("batchId", .str "b")])).valid = true := by
    decide +kernel
  have fits : checkCapacity (some (oneSeatCommitted.db.fillResult "b"))
      (oneSeatCommitted.db.storedCapacities "b") = none := by
    decide +kernel
  obtain ⟨a₁, ran⟩ := fillLocked_fits clean (oneSeatCommitted.locked "b") "b" oneSeatCommitted.nextRunId
    rfl (by decide) fits
  have first := fillBatch_under_lock clean oneSeatCommitted valid rfl
  rw [ran] at first
  dsimp only at first
  have distinct : ((oneSeatCommitted.db.batchRows "b").map Row.applicant).Nodup := by
    decide +kernel
  have releases : ({ now := Instant.zero } : Conditions).faults.cache.Releases
      oneSeatCommitted.cache.knowsScript (lockKey "b") := fun entries token => by
    rw [show ({ now := Instant.zero } : Conditions).faults.cache = {} from rfl, Cache.release_clean]
  obtain ⟨succeeds, same⟩ := second_fill_changes_nothing distinct releases first
  obtain ⟨a₂, w₂, second⟩ := succeeds _ clean
  obtain ⟨db, -, empty, status, -⟩ := same _ _ _ second
  have placed : a₁.forced.size = 1 := by
    obtain ⟨batch, succeeded⟩ := fillLocked_ok ran
    rw [succeeded.answer]
    show (oneSeatCommitted.db.fillForced "b").size = 1
    decide +kernel
  exact ⟨a₁, _, distinct, releases, first, placed, a₂, w₂, second, db, empty, status⟩

end SlotAllocation
