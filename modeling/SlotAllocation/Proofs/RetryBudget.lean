import SlotAllocation.Service.Job

/-!
# A failing job is retried a bounded number of times

When an attempt of a job fails, the worker throws the failure into the process or fails the
job with the retries it may still use (`retryDecision`): the job's own count less one,
bounded by the failure code's budget, itself lowered to the worker's cap when that cap is
positive (`retryAllowance`). The broker then hands the job out again with the count the worker
reported, so a run of failed attempts is a fold over the failures (`afterFailures`).

1. `retryDecision_eq`: the decision in closed form.
2. `retried_retries`: a job handed out again has at least one retry, fewer than before, and no
   more than the allowance of the failure that sent it back.
3. `afterFailures_thrown`: a job handed out with `r` retries is thrown by its attempt
   `max r 1`, however its attempts fail; after a failure with code `c` it is attempted at
   most `retryAllowance maxRetries c` more times (`afterFailures_cons_thrown`).
-/

namespace SlotAllocation

/-- The most retries a failure with `code` may leave a job: the code's budget, lowered to the
worker's cap `maxRetries` when the cap is positive and smaller. This is the smaller of the
budget and the cap when the cap is positive, and the budget otherwise. -/
def retryAllowance (maxRetries : Int) (code : String) : Int :=
  if 0 < maxRetries && maxRetries < (retryBudget code : Int) then maxRetries else retryBudget code

section Decision

variable (maxRetries : Int) (e : Failure) (r : Int)

theorem retryDecision_eq :
    retryDecision maxRetries e r =
      if e.retryable = false ∨ min (r - 1) (retryAllowance maxRetries e.code) ≤ 0 then ⟨true, 0⟩
      else ⟨false, min (r - 1) (retryAllowance maxRetries e.code)⟩ := by
  unfold retryDecision retryAllowance
  cases e.retryable with
  | false => simp
  | true => simp

theorem retryDecision_throw_iff :
    (retryDecision maxRetries e r).throw = true ↔
      e.retryable = false ∨ min (r - 1) (retryAllowance maxRetries e.code) ≤ 0 := by
  rw [retryDecision_eq]
  split <;> simp_all

/-- A failure that is not thrown leaves the job the smaller of its own count less one and the
allowance, which is at least one. -/
theorem retryDecision_retries (kept : (retryDecision maxRetries e r).throw = false) :
    (retryDecision maxRetries e r).retries = min (r - 1) (retryAllowance maxRetries e.code) ∧
      1 ≤ (retryDecision maxRetries e r).retries ∧ (retryDecision maxRetries e r).retries ≤ r - 1 := by
  rw [retryDecision_eq] at kept ⊢
  by_cases thrown : e.retryable = false ∨ min (r - 1) (retryAllowance maxRetries e.code) ≤ 0
  · rw [if_pos thrown] at kept
    cases kept
  · rw [if_neg thrown]
    simp only [not_or, Int.not_le] at thrown
    refine ⟨rfl, ?_, ?_⟩ <;> dsimp only <;> omega

end Decision

/-! ## Runs of failed attempts -/

/-- The job the broker hands out again after the worker's command for a failed attempt: a
failed job comes back with the retries the command leaves it, a thrown one never. -/
def Command.retried (job : Job) : Command → Option Job
  | .fail _ retries _ _ _ => some { job with retries := retries }
  | _ => none

/-- The job after attempts that fail with `es` in turn, each attempt after the first handed
out with the retries the previous failure reported; `none` once a failure is thrown. -/
def afterFailures (maxRetries backoff : Int) (job : Job) : List Failure → Option Job
  | [] => some job
  | e :: es =>
    match (failureCommand maxRetries backoff job e).retried job with
    | some next => afterFailures maxRetries backoff next es
    | none => none

section Runs

variable {maxRetries backoff : Int}

theorem retried_failureCommand (job : Job) (e : Failure) :
    (failureCommand maxRetries backoff job e).retried job =
      if (retryDecision maxRetries e job.retries).throw then none
      else some { job with retries := (retryDecision maxRetries e job.retries).retries } := by
  by_cases thrown : (retryDecision maxRetries e job.retries).throw = true
  · simp [failureCommand, Command.retried, thrown]
  · simp [failureCommand, Command.retried, thrown]

/-- The step lemma: a job handed out again has at least one retry, fewer than before, and no
more than the allowance of the failure that sent it back. -/
theorem retried_retries {job next : Job} {e : Failure}
    (again : (failureCommand maxRetries backoff job e).retried job = some next) :
    1 ≤ next.retries ∧ next.retries ≤ job.retries - 1 ∧
      next.retries ≤ retryAllowance maxRetries e.code := by
  rw [retried_failureCommand] at again
  split at again
  · cases again
  · rename_i kept
    cases again
    obtain ⟨remaining, atLeastOne, below⟩ :=
      retryDecision_retries maxRetries e job.retries (Bool.eq_false_iff.mpr kept)
    refine ⟨atLeastOne, below, ?_⟩
    rw [remaining]
    exact Int.min_le_right _ _

@[simp] theorem afterFailures_nil (job : Job) : afterFailures maxRetries backoff job [] = some job := rfl

theorem afterFailures_cons (job : Job) (e : Failure) (es : List Failure) :
    afterFailures maxRetries backoff job (e :: es) =
      ((failureCommand maxRetries backoff job e).retried job).bind
        fun next => afterFailures maxRetries backoff next es := by
  simp only [afterFailures]
  cases (failureCommand maxRetries backoff job e).retried job <;> rfl

/-- The run lemma: a job handed out with `r` retries is thrown by its attempt `max r 1`,
whatever failures its attempts meet. -/
theorem afterFailures_thrown (job : Job) (es : List Failure)
    (long : max job.retries 1 ≤ es.length) : afterFailures maxRetries backoff job es = none := by
  induction es generalizing job with
  | nil => simp only [List.length_nil] at long; omega
  | cons e es ih =>
    rw [afterFailures_cons]
    cases again : (failureCommand maxRetries backoff job e).retried job with
    | none => rfl
    | some next =>
      -- the count falls by at least one while staying positive, so the rest is long enough
      obtain ⟨atLeastOne, below, -⟩ := retried_retries again
      have rest : max next.retries 1 ≤ es.length := by
        simp only [List.length_cons] at long
        omega
      exact ih next rest

/-- After a failure with code `c`, a job is attempted at most `retryAllowance maxRetries c`
more times. -/
theorem afterFailures_cons_thrown (job : Job) (e : Failure) (es : List Failure)
    (long : retryAllowance maxRetries e.code ≤ es.length) :
    afterFailures maxRetries backoff job (e :: es) = none := by
  rw [afterFailures_cons]
  cases again : (failureCommand maxRetries backoff job e).retried job with
  | none => rfl
  | some next =>
    obtain ⟨atLeastOne, -, allowed⟩ := retried_retries again
    exact afterFailures_thrown next es (by omega)

end Runs

/-- The retry budget is bounded. The worker throws a failure exactly when it is not retryable
or the smaller of the job's count less one and the allowance is not positive; otherwise it
fails the job with that many retries, between one and the count less one. Along any run of
failed attempts the counts fall, the job is thrown by attempt `max r 1`, and after a failure
with code `c` it is attempted at most `retryAllowance maxRetries c` more times. -/
theorem retry_budget_bounded (maxRetries backoff : Int) :
    (∀ e r, ((retryDecision maxRetries e r).throw = true ↔
        e.retryable = false ∨ min (r - 1) (retryAllowance maxRetries e.code) ≤ 0) ∧
      ((retryDecision maxRetries e r).throw = false →
        (retryDecision maxRetries e r).retries = min (r - 1) (retryAllowance maxRetries e.code) ∧
        1 ≤ (retryDecision maxRetries e r).retries ∧ (retryDecision maxRetries e r).retries ≤ r - 1)) ∧
    (∀ job e next, (failureCommand maxRetries backoff job e).retried job = some next →
      next.retries < job.retries) ∧
    (∀ job es, max job.retries 1 ≤ es.length → afterFailures maxRetries backoff job es = none) ∧
    (∀ job e es, retryAllowance maxRetries e.code ≤ es.length →
      afterFailures maxRetries backoff job (e :: es) = none) := by
  refine ⟨fun e r => ⟨retryDecision_throw_iff maxRetries e r, retryDecision_retries maxRetries e r⟩,
    ?_, afterFailures_thrown, afterFailures_cons_thrown⟩
  intro job e next again
  have fewer := (retried_retries again).2.1
  omega

/-- A job with three retries whose attempts all find the batch locked: the first failure is
not thrown and leaves it two retries, and the job is thrown by its third attempt. -/
theorem lockedJob_thrown_by_third_attempt :
    (retryDecision 3 (Failure.batchLocked "b1" "") 3).throw = false ∧
      (retryDecision 3 (Failure.batchLocked "b1" "") 3).retries = 2 ∧
      (failureCommand 3 0 ⟨7, 3, "{}"⟩ (Failure.batchLocked "b1" "")).retried ⟨7, 3, "{}"⟩ =
        some ⟨7, 2, "{}"⟩ ∧
      max (3 : Int) 1 ≤ (List.replicate 3 (Failure.batchLocked "b1" "")).length ∧
      afterFailures 3 0 ⟨7, 3, "{}"⟩ (List.replicate 3 (Failure.batchLocked "b1" "")) = none ∧
      retryAllowance 3 (Failure.batchLocked "b1" "").code ≤
        (List.replicate 3 (Failure.batchLocked "b1" "")).length ∧
      afterFailures 3 0 ⟨7, 3, "{}"⟩
        (Failure.batchLocked "b1" "" :: List.replicate 3 (Failure.batchLocked "b1" "")) = none := by
  have bounded := retry_budget_bounded 3 0
  have kept : (retryDecision 3 (Failure.batchLocked "b1" "") 3).throw = false := by decide
  have left : (retryDecision 3 (Failure.batchLocked "b1" "") 3).retries = 2 := by
    rw [((bounded.1 _ _).2 kept).1]
    decide
  have again : (failureCommand 3 0 ⟨7, 3, "{}"⟩ (Failure.batchLocked "b1" "")).retried ⟨7, 3, "{}"⟩ =
      some ⟨7, 2, "{}"⟩ := by
    rw [retried_failureCommand, if_neg (by rw [kept]; decide), left]
  have long : max (3 : Int) 1 ≤ (List.replicate 3 (Failure.batchLocked "b1" "")).length := by decide
  have allowed : retryAllowance 3 (Failure.batchLocked "b1" "").code ≤
      (List.replicate 3 (Failure.batchLocked "b1" "")).length := by decide
  exact ⟨kept, left, again, long, bounded.2.2.1 _ _ long, allowed, bounded.2.2.2 _ _ _ allowed⟩

end SlotAllocation
