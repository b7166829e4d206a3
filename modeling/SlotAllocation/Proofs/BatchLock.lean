import SlotAllocation.Proofs.NoTrace

/-!
# The batch lock excludes concurrent runs

A batch's lock is one cache key. A run takes it by setting the key to its token unless the key
is present, and gives it back through the release script, which deletes the key only while it
holds the run's token. The cache server also drops the key when its time to live runs out.

Runs do not wait for one another: the steps of many runs interleave. `LockEvent` names what can
happen to the key: a run takes or gives the lock (under whatever faults the cache shows), the
key expires, or some other command leaves the key alone. `LockRun` is an interleaving of such
steps, each run moving from `ready` to `inside` (its take succeeded) or `done` (refused), and
from `inside` to `done` by giving the lock back.

1. `setIfAbsent_taken_iff`, `release_only_own`: taking succeeds exactly when the key is absent,
   and a release deletes the key only from its own token.
2. `LockRun.holder_kept`: in every interleaving, expiry included, a lock stays with the run that
   took it until that run gives it back or the key expires, whatever the other runs do.
3. `LockRun.exclusive`: without expiry, every run inside holds the key, so with distinct tokens
   at most one run is inside at any time.
4. `computeBatch_lock_run`, `fillBatch_lock_run`: a compute job and a force-fill job act on
   their batch's lock as one run of the protocol with the run identifier they draw, and end
   outside the lock.
5. `batchLock_excludes_runs` gathers these: no run releases another's lock, and at most one
   job per batch works under the lock at a time.
-/

namespace SlotAllocation

/-! ## 1. The lock commands on one key -/

namespace Cache

variable (c : Cache) (f : CacheFaults) (key token : String)

/-- Taking the lock sets the key to the token and reports it, or leaves the cache as it was. -/
theorem setIfAbsent_cases :
    ((c.setIfAbsent f key token).2 = .ok true ∧ c.entries.find? key = none ∧
        (c.setIfAbsent f key token).1 = { c with entries := c.entries.insert key token }) ∨
      ((c.setIfAbsent f key token).2 ≠ .ok true ∧ (c.setIfAbsent f key token).1 = c) := by
  unfold setIfAbsent
  rcases failing : f.failure? "set" key with _ | m
  · by_cases held : c.entries.contains key = true
    · exact .inr ⟨by simp [held], by simp [held]⟩
    · refine .inl ⟨by simp [held], ?_, by simp [held]⟩
      rw [Table.find?_eq_none_iff, ← Table.contains_iff]
      exact held
  · exact .inr ⟨by simp, rfl⟩

/-- When the set command goes through, taking the lock succeeds exactly when the key is
absent. -/
theorem setIfAbsent_taken_iff (through : f.failure? "set" key = none) :
    (c.setIfAbsent f key token).2 = .ok true ↔ c.entries.find? key = none := by
  rw [Table.find?_eq_none_iff, ← Table.contains_iff]
  unfold setIfAbsent
  rw [through]
  by_cases held : c.entries.contains key = true <;> simp [held]

/-- A release changes the key only when it holds the releasing token, and then deletes it. -/
theorem release_key_cases :
    (c.release f key token).1.entries.find? key = c.entries.find? key ∨
      (c.entries.find? key = some token ∧ (c.release f key token).1.entries.find? key = none) := by
  rcases Cache.release_cases c f key token with ⟨_, released⟩ | ⟨_, _, kept⟩
  · rw [released]
    unfold releaseScript
    by_cases holds : c.entries.find? key = some token
    · refine .inr ⟨holds, ?_⟩
      rw [if_pos (by simp [holds]), Table.find?_eq_none_iff]
      exact fun listed => absurd (Table.contains_iff.mpr listed) (by simp [Table.contains_filter_key])
    · left
      rw [if_neg (by simpa using holds)]
  · exact .inl (by rw [kept])

/-- A release deletes the key only from its own token. -/
theorem release_only_own
    (changed : (c.release f key token).1.entries.find? key ≠ c.entries.find? key) :
    c.entries.find? key = some token := by
  rcases release_key_cases c f key token with kept | ⟨holds, _⟩
  · exact absurd kept changed
  · exact holds

end Cache

/-! ## 2. Interleaved runs -/

/-- Where a run stands with the lock. -/
inductive LockPhase where
  /-- It has not asked for the lock yet. -/
  | ready
  /-- Its take succeeded and it has not given the lock back. -/
  | inside
  /-- It was refused, or gave the lock back. -/
  | done
deriving DecidableEq

/-- The phase after a take with this answer. -/
def LockPhase.afterTake : Except String Bool → LockPhase
  | .ok true => .inside
  | _ => .done

/-- The cache, and where each run stands. -/
structure LockState (ι : Type) where
  cache : Cache
  phase : ι → LockPhase

/-- The cache before any run has asked for the lock. -/
def LockState.start {ι : Type} (c : Cache) : LockState ι := ⟨c, fun _ => .ready⟩

/-- What can happen to the lock. -/
inductive LockEvent (ι : Type) where
  /-- `run` takes the lock, under the faults the cache shows. -/
  | take (run : ι) (faults : CacheFaults)
  /-- `run` gives the lock back through the release script. -/
  | give (run : ι) (faults : CacheFaults)
  /-- The key's time to live runs out. -/
  | expire
  /-- A command on other keys leaves the cache as `cache`. -/
  | other (cache : Cache)

section Protocol

variable {ι : Type} [DecidableEq ι] (key : String) (token : ι → String)

/-- Whether an event can happen: a run takes the lock once, gives it back only from inside,
and other commands leave the key alone. -/
def LockEvent.Enabled (st : LockState ι) : LockEvent ι → Prop
  | .take i _ => st.phase i = .ready
  | .give i _ => st.phase i = .inside
  | .expire => True
  | .other c => c.entries.find? key = st.cache.entries.find? key

/-- The state after an event. -/
def LockState.next (st : LockState ι) : LockEvent ι → LockState ι
  | .take i f => ⟨(st.cache.setIfAbsent f key (token i)).1,
      Function.update st.phase i (LockPhase.afterTake (st.cache.setIfAbsent f key (token i)).2)⟩
  | .give i f => ⟨(st.cache.release f key (token i)).1, Function.update st.phase i .done⟩
  | .expire => ⟨(st.cache.delete {} key).1, st.phase⟩
  | .other c => ⟨c, st.phase⟩

/-- An interleaving of enabled events leading from one state to another. -/
inductive LockRun : LockState ι → List (LockEvent ι) → LockState ι → Prop
  | nil (st : LockState ι) : LockRun st [] st
  | step {st st' : LockState ι} {e : LockEvent ι} {events : List (LockEvent ι)} :
      e.Enabled key st → LockRun (st.next key token e) events st' → LockRun st (e :: events) st'

/-- The token that holds the lock. -/
def LockState.holder (st : LockState ι) : Option String := st.cache.entries.find? key

/-- Whether an event ends a holding of run `i`: its own give, or expiry. -/
def LockEvent.Ends (i : ι) : LockEvent ι → Prop
  | .give j _ => j = i
  | .expire => True
  | _ => False

end Protocol

/-! ## 3. A lock stays with the run that took it -/

section Holder

variable {ι : Type} [DecidableEq ι] {key : String} {token : ι → String}

/-- The step lemma: an event that does not end `i`'s holding leaves the lock with `i`. -/
theorem LockEvent.holder_kept (distinct : Function.Injective token) {st : LockState ι}
    {e : LockEvent ι} (enabled : e.Enabled key st) {i : ι} (keeps : ¬ e.Ends i)
    (held : st.holder key = some (token i)) : (st.next key token e).holder key = some (token i) := by
  unfold LockState.holder at held ⊢
  cases e with
  | take j f =>
    -- the key is present, so the take is refused and changes nothing
    rcases Cache.setIfAbsent_cases st.cache f key (token j) with ⟨_, absent, _⟩ | ⟨_, kept⟩
    · rw [held] at absent
      cases absent
    · simp only [LockState.next, kept]
      exact held
  | give j f =>
    have other : j ≠ i := keeps
    rcases Cache.release_key_cases st.cache f key (token j) with kept | ⟨holds, _⟩
    · simp only [LockState.next, kept]
      exact held
    · rw [held] at holds
      exact absurd (distinct (Option.some.inj holds)).symm other
  | expire => exact absurd trivial keeps
  | other c =>
    simp only [LockState.next]
    rw [← held]
    exact enabled

/-- The run lemma: a lock stays with the run that took it until that run gives it back or the
key expires, whatever the other runs do. -/
theorem LockRun.holder_kept (distinct : Function.Injective token) {st st' : LockState ι}
    {events : List (LockEvent ι)} (run : LockRun key token st events st') {i : ι}
    (keeps : ∀ e ∈ events, ¬ e.Ends i) (held : st.holder key = some (token i)) :
    st'.holder key = some (token i) := by
  induction run with
  | nil => exact held
  | step enabled _ ih =>
    exact ih (fun e listed => keeps e (List.mem_cons_of_mem _ listed))
      (LockEvent.holder_kept distinct enabled (keeps _ List.mem_cons_self) held)

end Holder

/-! ## 4. Exclusion without expiry -/

section Exclusion

variable {ι : Type} [DecidableEq ι] {key : String} {token : ι → String}

/-- Every run inside holds the key. -/
def LockState.Exclusive (key : String) (token : ι → String) (st : LockState ι) : Prop :=
  ∀ i, st.phase i = .inside → st.holder key = some (token i)

omit [DecidableEq ι] in
theorem LockState.start_exclusive (c : Cache) : (LockState.start c : LockState ι).Exclusive key token :=
  fun _ ready => by simp [LockState.start] at ready

omit [DecidableEq ι] in
/-- With distinct tokens, at most one run of an exclusive state is inside. -/
theorem LockState.Exclusive.unique (distinct : Function.Injective token) {st : LockState ι}
    (exclusive : st.Exclusive key token) {i j : ι} (insideI : st.phase i = .inside)
    (insideJ : st.phase j = .inside) : i = j :=
  distinct (Option.some.inj ((exclusive i insideI).symm.trans (exclusive j insideJ)))

/-- The step lemma: every event but expiry keeps every run inside holding the key. -/
theorem LockEvent.exclusive (distinct : Function.Injective token) {st : LockState ι}
    {e : LockEvent ι} (enabled : e.Enabled key st) (lasting : e ≠ .expire)
    (exclusive : st.Exclusive key token) : (st.next key token e).Exclusive key token := by
  intro i inside
  cases e with
  | take j f =>
    rcases Cache.setIfAbsent_cases st.cache f key (token j) with
      ⟨taken, absent, set⟩ | ⟨refused, kept⟩
    · -- the key was free, so nobody was inside; now only `j` is, holding it
      by_cases same : i = j
      · subst same
        simp [LockState.holder, LockState.next, set]
      · simp only [LockState.next, Function.update_of_ne same] at inside
        have := exclusive i inside
        simp [LockState.holder, absent] at this
    · have other : i ≠ j := by
        rintro rfl
        simp only [LockState.next, Function.update_self] at inside
        revert refused inside
        cases (st.cache.setIfAbsent f key (token i)).2 with
        | error m => simp [LockPhase.afterTake]
        | ok b => cases b <;> simp [LockPhase.afterTake]
      simp only [LockState.next, Function.update_of_ne other] at inside
      simpa [LockState.holder, LockState.next, kept] using exclusive i inside
  | give j f =>
    have other : i ≠ j := by
      rintro rfl
      simp [LockState.next] at inside
    simp only [LockState.next, Function.update_of_ne other] at inside
    -- `j` was inside too, so it held the key: both tokens are one, and `i = j`
    have held := exclusive i inside
    have heldJ := exclusive j enabled
    exact absurd (distinct (Option.some.inj (held.symm.trans heldJ))) other
  | expire => exact absurd rfl lasting
  | other c =>
    simp only [LockState.holder, LockState.next] at inside ⊢
    rw [enabled]
    exact exclusive i inside

/-- The run lemma: without expiry, every run inside holds the key all along. -/
theorem LockRun.exclusive (distinct : Function.Injective token) {st st' : LockState ι}
    {events : List (LockEvent ι)} (run : LockRun key token st events st')
    (lasting : LockEvent.expire ∉ events) (exclusive : st.Exclusive key token) :
    st'.Exclusive key token := by
  induction run with
  | nil => exact exclusive
  | step enabled _ ih =>
    simp only [List.mem_cons, not_or] at lasting
    exact ih lasting.2 (LockEvent.exclusive distinct enabled (Ne.symm lasting.1) exclusive)

end Exclusion

/-! ## 5. The jobs follow the protocol

A job runs alone against the world, but on the lock key it does no more than one run of the
protocol: it takes the lock, lets commands on other keys run, and gives it back; or its take
is refused; or it never asks. So its steps can be interleaved with other runs' as the protocol
allows, and what sections 3 and 4 prove of every interleaving holds of the jobs. -/

section Participant

variable {ι : Type} [DecidableEq ι] {key : String} {tokens : ι → String} {i : ι}

/-- Whether an event is a step of run `i` under the faults `f`, or a command that leaves the
key alone. -/
def LockEvent.By (i : ι) (f : CacheFaults) : LockEvent ι → Prop
  | .take j g => j = i ∧ g = f
  | .give j g => j = i ∧ g = f
  | .expire => False
  | .other _ => True

/-- A run that has not asked lets a command on other keys run and stays where it is. -/
theorem LockRun.quiet {phase : ι → LockPhase} (ready : phase i = .ready) {c c' : Cache}
    (kept : c'.entries.find? key = c.entries.find? key) :
    LockRun key tokens ⟨c, phase⟩ [.other c'] ⟨c', Function.update phase i .ready⟩ := by
  rw [← ready, Function.update_eq_self]
  exact .step kept (.nil _)

/-- A run whose take is refused is done with the lock. -/
theorem LockRun.take_refused {phase : ι → LockPhase} (ready : phase i = .ready) (c : Cache)
    (f : CacheFaults) :
    LockRun key tokens ⟨c, phase⟩ [.take i f] ⟨(c.setIfAbsent f key (tokens i)).1,
      Function.update phase i (LockPhase.afterTake (c.setIfAbsent f key (tokens i)).2)⟩ :=
  .step ready (.nil _)

/-- A run that takes the lock, lets commands on other keys leave the cache as `c₂`, and gives
the lock back under the same faults. -/
theorem LockRun.take_give {phase : ι → LockPhase} (ready : phase i = .ready) {c c₂ : Cache}
    {f : CacheFaults} (taken : (c.setIfAbsent f key (tokens i)).2 = .ok true)
    (kept : c₂.entries.find? key = (c.setIfAbsent f key (tokens i)).1.entries.find? key) :
    LockRun key tokens ⟨c, phase⟩ [.take i f, .other c₂, .give i f]
      ⟨(c₂.release f key (tokens i)).1, Function.update phase i .done⟩ := by
  refine .step ready (.step kept (.step ?inside ?done))
  case inside => simp [LockEvent.Enabled, LockState.next, taken, LockPhase.afterTake]
  case done =>
    simp only [LockState.next, Function.update_idem]
    exact .nil _

end Participant

namespace Cache

variable (c : Cache) (f : CacheFaults) {key k : String}

theorem set_find?_other (value : String) (other : k ≠ key) :
    (c.set f key value).1.entries.find? k = c.entries.find? k := by
  unfold set
  split <;> simp [other]

theorem delete_find?_other (other : k ≠ key) :
    (c.delete f key).1.entries.find? k = c.entries.find? k := by
  unfold delete
  split
  · rfl
  · exact Table.find?_filter_key _ _ other

end Cache

/-- A lock key is never a result key, of whatever batches. -/
theorem lockKey_ne_resultKey_of (b b' : String) : lockKey b ≠ resultKey b' := by
  intro same
  have chars : ("assignment:lock:" ++ b).toList = ("assignment:result:" ++ b').toList :=
    congrArg String.toList same
  rw [String.toList_append, String.toList_append] at chars
  have lock : "assignment:lock:".toList =
      ['a', 's', 's', 'i', 'g', 'n', 'm', 'e', 'n', 't', ':', 'l', 'o', 'c', 'k', ':'] := by simp
  have result : "assignment:result:".toList =
      ['a', 's', 's', 'i', 'g', 'n', 'm', 'e', 'n', 't', ':', 'r', 'e', 's', 'u', 'l', 't', ':'] := by
    simp
  rw [lock, result] at chars
  simp at chars

namespace Attempt

variable {α β : Type}

/-- `x` leaves the cache entry at `key` as it finds it. -/
def KeepsKey (key : String) (x : Attempt α) : Prop :=
  ∀ c w, (x.runIn c w).2.cache.entries.find? key = w.cache.entries.find? key

theorem ReadOnly.keepsKey {x : Attempt α} (ro : x.ReadOnly) (key : String) : x.KeepsKey key :=
  fun c w => by rw [ro c w]

theorem KeepsStores.keepsKey {x : Attempt α} (keeps : x.KeepsStores) (key : String) :
    x.KeepsKey key :=
  fun c w => by rw [(keeps c w).2]

theorem KeepsKey.bind {key : String} {x : Attempt α} {f : α → Attempt β} (first : x.KeepsKey key)
    (rest : ∀ a, (f a).KeepsKey key) : (x >>= f).KeepsKey key := by
  intro c w
  have kept := first c w
  rw [runIn_bind]
  rcases ran : x.runIn c w with ⟨_ | a, w₁⟩
  · rw [ran] at kept
    exact kept
  · rw [ran] at kept
    exact (rest a c w₁).trans kept

theorem keepsKey_change (g : Database → StatementFaults → Database × Except StoreError Unit)
    (key : String) : (liftM (Work.change g) : Attempt (Except StoreError Unit)).KeepsKey key :=
  fun _ _ => rfl

theorem keepsKey_putSummary (s : Summary) (b : String) :
    (liftM (Work.putSummary s) : Attempt (Except String Unit)).KeepsKey (lockKey b) :=
  fun c w => Cache.set_find?_other w.cache c.faults.cache _ (lockKey_ne_resultKey_of b s.batchId)

theorem keepsKey_invalidate (b b' : String) :
    (liftM (Work.invalidate b') : Attempt (Except String Unit)).KeepsKey (lockKey b) :=
  fun c w => Cache.delete_find?_other w.cache c.faults.cache (lockKey_ne_resultKey_of b b')

/-- `x`, run under `c` from `w`, acts on the lock of batch `b` as run `i` of the protocol
holding `token`, whatever the other runs: from any state where `i` has not asked yet, its
steps are `i`'s own, under the faults `c` shows the cache, or leave the key alone; and they
leave `i` outside the lock and every other run where it stood. -/
def LocksAs (b token : String) (x : Attempt α) (c : Conditions) (w : World) : Prop :=
  ∀ (ι : Type) [DecidableEq ι] (tokens : ι → String) (i : ι) (phase : ι → LockPhase),
    tokens i = token → phase i = .ready →
    ∃ events final, LockRun (lockKey b) tokens ⟨w.cache, phase⟩ events
        ⟨(x.runIn c w).2.cache, Function.update phase i final⟩ ∧
      (∀ e ∈ events, e.By i c.faults.cache) ∧ final ≠ .inside

/-- A run that leaves the lock key alone never asks for the lock. -/
theorem locksAs_of_kept {b token : String} {x : Attempt α} {c : Conditions} {w : World}
    (kept : (x.runIn c w).2.cache.entries.find? (lockKey b) = w.cache.entries.find? (lockKey b)) :
    x.LocksAs b token c w := by
  intro ι _ tokens i phase _ ready
  exact ⟨[.other (x.runIn c w).2.cache], .ready, LockRun.quiet ready kept, by simp [LockEvent.By],
    by decide⟩

theorem KeepsKey.locksAs {b : String} {x : Attempt α} (keeps : x.KeepsKey (lockKey b))
    (token : String) (c : Conditions) (w : World) : x.LocksAs b token c w :=
  locksAs_of_kept (keeps c w)

/-- Steps that change nothing, then a run of the protocol. -/
theorem LocksAs.readOnly_bind {b token : String} {x : Attempt α} {f : α → Attempt β}
    {c : Conditions} {w : World} (ro : x.ReadOnly) (rest : ∀ a, (f a).LocksAs b token c w) :
    (x >>= f).LocksAs b token c w := by
  have unchanged := ro c w
  rcases ran : x.runIn c w with ⟨e | a, w₁⟩
  · rw [ran] at unchanged
    subst unchanged
    apply locksAs_of_kept
    rw [runIn_bind, ran]
  · rw [ran] at unchanged
    subst unchanged
    have same : (x >>= f).runIn c w₁ = (f a).runIn c w₁ := by rw [runIn_bind, ran]
    unfold LocksAs
    rw [same]
    exact rest a

/-- A step on an optional value runs the protocol when it does in both cases. -/
theorem LocksAs.option {b token : String} {k : Option β → Attempt α} {c : Conditions} {w : World}
    (none_case : (k none).LocksAs b token c w) (some_case : ∀ s, (k (some s)).LocksAs b token c w)
    (o : Option β) : (k o).LocksAs b token c w := by
  cases o with
  | none => exact none_case
  | some s => exact some_case s

/-- A job that draws its run identifier and then runs the protocol holding it. -/
theorem locksAs_newRunId_bind {b : String} {f : String → Attempt β} {c : Conditions} {w : World}
    (rest : (f w.nextRunId).LocksAs b w.nextRunId c { w with drawn := w.drawn + 1 }) :
    (liftM Work.newRunId >>= f).LocksAs b w.nextRunId c w := by
  have same : (liftM Work.newRunId >>= f).runIn c w =
      (f w.nextRunId).runIn c { w with drawn := w.drawn + 1 } := by
    rw [runIn_bind, runIn_lift]
    rfl
  unfold LocksAs
  rw [same]
  exact rest

/-- Working under the lock is one run of the protocol, when the work leaves the lock key
alone: a refused take ends the run, and a take that succeeds is followed by the work and by
the release, whatever the work gave. -/
theorem underLock_locksAs {b token : String} {body : Attempt α} (keeps : body.KeepsKey (lockKey b))
    (c : Conditions) (w : World) : (underLock b token body).LocksAs b token c w := by
  intro ι _ tokens i phase own ready
  subst own
  unfold underLock
  rw [runIn_bind, runIn_lift]
  simp only [Work.acquire, Work.runIn_bind, Work.runIn_cacheChange]
  rcases answer : (w.cache.setIfAbsent c.faults.cache (lockKey b) (tokens i)).2 with m | _ | _
  · -- the cache failed the take
    refine ⟨_, _, LockRun.take_refused ready w.cache c.faults.cache, by simp [LockEvent.By],
      by simp [answer, LockPhase.afterTake]⟩
  · -- another run holds the lock
    refine ⟨_, _, LockRun.take_refused ready w.cache c.faults.cache, by simp [LockEvent.By],
      by simp [answer, LockPhase.afterTake]⟩
  · -- the lock is taken: the work, then the release
    simp only [Work.runIn_pure, runIn_always, Work.runIn_bind, Work.runIn_release_any]
    exact ⟨_, .done, LockRun.take_give ready answer (keeps c _), by simp [LockEvent.By],
      by decide⟩

end Attempt

open Attempt

/-- Describing a committed batch writes its summary, never a lock. -/
theorem describeCommitted_keepsLock (batch : Batch) (b : String) :
    (describeCommitted batch).KeepsKey (lockKey b) := by
  unfold describeCommitted
  refine ((readOnly_query _).keepsKey _).bind fun _ => ((readOnly_ofStore _ _).keepsKey _).bind
    fun _ => ?_
  refine ((readOnly_query _).keepsKey _).bind fun _ => ((readOnly_ofStore _ _).keepsKey _).bind
    fun _ => ?_
  exact (readOnly_now.keepsKey _).bind fun _ => (keepsKey_putSummary _ b).bind fun _ =>
    (readOnly_pure _).keepsKey _

/-- The work of a compute job leaves every lock alone. -/
theorem computeStored_keepsLock (t : Int) (r : ComputeRequest) (f : Bool) (rid b : String) :
    (computeStored t r f rid).KeepsKey (lockKey b) := by
  unfold computeStored
  refine ((readOnly_query _).keepsKey _).bind fun _ => ((readOnly_ofStore _ _).keepsKey _).bind
    fun batch => ?_
  split
  · exact describeCommitted_keepsLock batch b
  · refine ((readOnly_query _).keepsKey _).bind fun _ => ((readOnly_ofStore _ _).keepsKey _).bind
      fun problem => ((runProblem_readOnly t problem f).keepsKey _).bind fun o => ?_
    split
    · exact (readOnly_pure _).keepsKey _
    · refine (keepsKey_change _ _).bind fun _ => ((readOnly_ofStore _ _).keepsKey _).bind
        fun _ => ?_
      exact (readOnly_now.keepsKey _).bind fun _ => (keepsKey_putSummary _ b).bind fun _ =>
        (readOnly_pure _).keepsKey _

/-- The work of a force-fill job leaves every lock alone. -/
theorem fillLocked_keepsLock (b' rid b : String) : (fillLocked b' rid).KeepsKey (lockKey b) := by
  unfold fillLocked
  dsimp only
  refine ((readOnly_query _).keepsKey _).bind fun _ => ((readOnly_ofStore _ _).keepsKey _).bind
    fun batch => ?_
  split
  · exact (readOnly_fail_bind _ _).keepsKey _
  · refine ((readOnly_query _).keepsKey _).bind fun _ => ((readOnly_ofStore _ _).keepsKey _).bind
      fun problem => ?_
    refine ((readOnly_query _).keepsKey _).bind fun _ => ((readOnly_ofStore _ _).keepsKey _).bind
      fun rows => ?_
    split
    · exact (readOnly_fail_bind _ _).keepsKey _
    · split
      · exact ((readOnly_pure _).keepsKey _).bind fun _ => (readOnly_pure _).keepsKey _
      · refine (keepsKey_change _ _).bind fun _ => ((readOnly_ofStore _ _).keepsKey _).bind
          fun _ => ?_
        refine (readOnly_now.keepsKey _).bind fun _ => (keepsKey_putSummary _ b).bind fun _ => ?_
        split
        · exact ((readOnly_pure _).keepsKey _).bind fun _ => (readOnly_pure _).keepsKey _
        · exact (keepsKey_invalidate b b').bind fun _ => ((readOnly_pure _).keepsKey _).bind
            fun _ => (readOnly_pure _).keepsKey _

theorem checkCompute_readOnly (r : ComputeRequest) : (checkCompute r).ReadOnly :=
  checkCompute_world r

/-- Once no cached summary answers a compute job, it draws its run identifier and either runs
dry, leaving the lock alone, or works under the lock. -/
theorem computeUncached_lock_run (t : Int) (r : ComputeRequest) (f : Bool) (c : Conditions)
    (w : World) :
    (do
      let runId ← liftM Work.newRunId
      if r.dryRun = true then computeStored t r f runId
      else underLock r.batchId runId (computeStored t r f runId) : Attempt ComputeAnswer).LocksAs
        r.batchId w.nextRunId c w := by
  refine locksAs_newRunId_bind ?_
  split
  · exact KeepsKey.locksAs (computeStored_keepsLock _ _ _ _ _) _ c _
  · exact underLock_locksAs (computeStored_keepsLock _ _ _ _ _) c _

/-- A compute job acts on its batch's lock as one run of the protocol, holding the run
identifier it draws: a preview, a dry run and a cached answer never ask for the lock, and a
run on the stored batch takes it around its work. -/
theorem computeBatch_lock_run (settings : ComputeSettings) (r : ComputeRequest) (c : Conditions)
    (w : World) : (computeBatch settings r).LocksAs r.batchId w.nextRunId c w := by
  unfold computeBatch
  refine LocksAs.readOnly_bind (checkCompute_readOnly r) fun _ => ?_
  split
  · exact KeepsKey.locksAs ((keepsStores_newRunId.bind_keeps fun _ =>
      (runProblem_readOnly _ _ _).keepsStores.bind_keeps fun _ =>
        (readOnly_pure _).keepsStores).keepsKey _) _ c w
  · -- a cached summary answers the job; without one it goes on uncached
    have uncached := computeUncached_lock_run settings.runTimeout r
      (r.forceFill.getD settings.forceFill) c w
    have answered : ∀ s : Summary,
        (pure (ComputeAnswer.ofSummary s) : Attempt ComputeAnswer).LocksAs r.batchId w.nextRunId c w :=
      fun _ => KeepsKey.locksAs ((readOnly_pure _).keepsKey _) _ c w
    dsimp only
    by_cases skip : (r.rerun || r.dryRun) = true
    · rw [if_pos skip]
      exact LocksAs.readOnly_bind (readOnly_pure _) (LocksAs.option uncached answered)
    · rw [if_neg skip]
      refine LocksAs.readOnly_bind (cachedSummary_readOnly _) fun read => ?_
      split
      · exact LocksAs.readOnly_bind (readOnly_pure _) (LocksAs.option uncached answered)
      · exact LocksAs.readOnly_bind (readOnly_pure _) (LocksAs.option uncached answered)

/-- A force-fill job acts on its batch's lock as one run of the protocol, holding the run
identifier it draws: a request that fails validation never asks for the lock. -/
theorem fillBatch_lock_run (r : FillRequest) (c : Conditions) (w : World) :
    (fillBatch r).LocksAs r.batchId w.nextRunId c w := by
  unfold fillBatch
  dsimp only
  by_cases valid : (fillSchema.validate (.obj [("batchId", .str r.batchId)])).valid = true
  · rw [if_neg (by simp [valid])]
    exact locksAs_newRunId_bind (underLock_locksAs (fillLocked_keepsLock _ _ _) c _)
  · rw [if_pos (by simpa using valid)]
    exact KeepsKey.locksAs ((readOnly_fail_bind _ _).keepsKey _) _ c w

/-! ## 6. The batch lock -/

/-- The batch lock never lets one run release another's lock. When the cache lets the set
command through, taking the lock succeeds exactly when the key is absent; a release deletes
the key only when it holds the releasing token. In every interleaving of takes, gives and
expiries by runs with distinct tokens, a lock stays with the run that took it until that run
gives it back or the key expires: no run frees a lock another run took, even once its own lock
expired. Without expiry, at most one run is inside the lock at any time. A compute job and a
force-fill job act on their batch's lock as runs of this protocol, each holding the run
identifier it draws, so at most one of them works under a batch's lock at a time. -/
theorem batchLock_excludes_runs :
    (∀ (c : Cache) (f : CacheFaults) (key token : String), f.failure? "set" key = none →
        ((c.setIfAbsent f key token).2 = .ok true ↔ c.entries.find? key = none)) ∧
      (∀ (c : Cache) (f : CacheFaults) (key token : String),
        (c.release f key token).1.entries.find? key ≠ c.entries.find? key →
          c.entries.find? key = some token) ∧
      (∀ (ι : Type) [DecidableEq ι] (key : String) (tokens : ι → String),
        Function.Injective tokens → ∀ st events st' i, LockRun key tokens st events st' →
          (∀ e ∈ events, ¬ e.Ends i) → st.holder key = some (tokens i) →
            st'.holder key = some (tokens i)) ∧
      (∀ (ι : Type) [DecidableEq ι] (key : String) (tokens : ι → String),
        Function.Injective tokens → ∀ c events st', LockRun key tokens (LockState.start c) events st' →
          LockEvent.expire ∉ events → ∀ i j, st'.phase i = .inside → st'.phase j = .inside → i = j) ∧
      (∀ settings r c w, (computeBatch settings r).LocksAs r.batchId w.nextRunId c w) ∧
      ∀ r c w, (fillBatch r).LocksAs r.batchId w.nextRunId c w := by
  refine ⟨fun c f key token through => Cache.setIfAbsent_taken_iff c f key token through,
    fun c f key token changed => Cache.release_only_own c f key token changed, ?_, ?_,
    computeBatch_lock_run, fillBatch_lock_run⟩
  · intro ι _ key tokens distinct st events st' i run keeps held
    exact run.holder_kept distinct keeps held
  · intro ι _ key tokens distinct c events st' run lasting i j insideI insideJ
    have exclusive := run.exclusive distinct lasting (LockState.start_exclusive c)
    exact exclusive.unique distinct insideI insideJ

/-- Two runs of a batch, holding the first two run identifiers. -/
def twoRuns (first : Bool) : String := if first then "run-1" else "run-2"

/-- Both runs ask for the free lock of batch `b1`, the first one first. -/
def bothAsked : LockState Bool :=
  ((LockState.start { entries := Table.empty }).next (lockKey "b1") twoRuns (.take true {})).next
    (lockKey "b1") twoRuns (.take false {})

/-- When two runs ask for a free lock one after the other, the first is inside and the second
is refused, so they are never inside together. -/
theorem firstRun_inside_second_refused :
    Function.Injective twoRuns ∧
      LockRun (lockKey "b1") twoRuns (LockState.start { entries := Table.empty })
        [.take true {}, .take false {}] bothAsked ∧
      LockEvent.expire ∉ [LockEvent.take true {}, .take false {}] ∧
      bothAsked.phase true = .inside ∧ bothAsked.phase false = .done ∧
      (bothAsked.phase true = .inside → bothAsked.phase false = .inside → true = false) := by
  have distinct : Function.Injective twoRuns := by
    intro a b same
    cases a <;> cases b <;> simp_all [twoRuns]
  have run : LockRun (lockKey "b1") twoRuns (LockState.start { entries := Table.empty })
      [.take true {}, .take false {}] bothAsked := .step rfl (.step rfl (.nil _))
  have lasting : LockEvent.expire ∉ [LockEvent.take true {}, .take false {}] := by simp
  exact ⟨distinct, run, lasting, by decide, by decide,
    batchLock_excludes_runs.2.2.2.1 Bool (lockKey "b1") twoRuns distinct _ _ _ run lasting true false⟩

end SlotAllocation
