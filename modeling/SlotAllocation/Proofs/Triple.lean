import Mathlib.Order.Defs.Unbundled
import SlotAllocation.Proofs.NoTrace

/-!
# Triples for jobs

`Attempt.Triple c P R x Q`: run under conditions `c` from a world where `P` holds, the job
`x` leaves a world that `R` relates to the one it started from, whether it succeeds or fails,
and a value `a` it gives holds `Q a` of the world it leaves.

The relation `R` says what a job may do at all (keep the store, send each message at most once);
it is a preorder, so it composes along a job's steps (`Triple.bind`) and holds of the steps that
change nothing (`triple_pure`, `ReadOnly.triple`, `triple_fail_bind`). The post-condition is
only owed by a job that succeeds. A job's proof unfolds it into its steps and chains their
triples.
-/

namespace SlotAllocation

namespace Attempt

variable {α β : Type}

/-- Reading, then reading again, only reads. -/
theorem readOnly_bind {x : Attempt α} {f : α → Attempt β} (ro : x.ReadOnly)
    (rest : ∀ a, (f a).ReadOnly) : (x >>= f).ReadOnly := by
  intro c w
  have kept := ro c w
  rw [runIn_bind]
  rcases ran : x.runIn c w with ⟨_ | a, w₁⟩
  · rw [ran] at kept
    exact kept
  · rw [ran] at kept
    subst kept
    exact rest a c _

variable (c : Conditions)

/-- Run under `c` from a world where `P` holds, `x` leaves a world that `R` relates to the one
it started from, whatever its outcome, and a value `a` it gives holds `Q a` of the world it
leaves. -/
def Triple (P : World → Prop) (R : World → World → Prop) (x : Attempt α)
    (Q : α → World → Prop) : Prop :=
  ∀ w, P w → R w (x.runIn c w).2 ∧ ∀ a, (x.runIn c w).1 = .ok a → Q a (x.runIn c w).2

variable {c} {P P' : World → Prop} {R : World → World → Prop} {Q Q' : α → World → Prop}

theorem Triple.conseq {x : Attempt α} (t : Triple c P R x Q) (pre : ∀ w, P' w → P w)
    (post : ∀ a w, Q a w → Q' a w) : Triple c P' R x Q' := by
  intro w hold
  obtain ⟨related, ok⟩ := t w (pre w hold)
  exact ⟨related, fun a ran => post _ _ (ok a ran)⟩

/-- A fact the precondition carries may be assumed. -/
theorem Triple.assume {φ : Prop} {x : Attempt α} (t : φ → Triple c P R x Q) :
    Triple c (fun w => φ ∧ P w) R x Q :=
  fun w ⟨fact, hold⟩ => t fact w hold

theorem triple_pure [Std.Refl R] (a : α) :
    Triple c P R (pure a) (fun a' w => a' = a ∧ P w) := by
  intro w hold
  refine ⟨refl_of R w, fun a' ran => ⟨?_, hold⟩⟩
  simp only [runIn_pure, Except.ok.injEq] at ran
  exact ran.symm

theorem ReadOnly.triple [Std.Refl R] {x : Attempt α} (ro : x.ReadOnly) :
    Triple c P R x (fun _ w => P w) := by
  intro w hold
  rw [ro c w]
  exact ⟨refl_of R w, fun _ _ => hold⟩

theorem triple_fail_bind [Std.Refl R] (make : String → Failure) (f : α → Attempt β)
    {S : β → World → Prop} : Triple c P R (fail make >>= f) S := by
  intro w _
  simp [runIn_bind, refl_of R w]

/-- The rule of composition: the worlds compose along `R`, and what the first part gives is
what the rest starts from. -/
theorem Triple.bind [IsTrans World R] {x : Attempt α}
    {f : α → Attempt β} {S : β → World → Prop} (first : Triple c P R x Q)
    (rest : ∀ a, Triple c (Q a) R (f a) S) : Triple c P R (x >>= f) S := by
  intro w hold
  obtain ⟨related, ok⟩ := first w hold
  rw [runIn_bind]
  rcases ran : x.runIn c w with ⟨_ | a, w₁⟩
  · -- a failed first part: the rest never runs
    rw [ran] at related
    exact ⟨related, fun _ failed => by cases failed⟩
  · rw [ran] at related ok
    obtain ⟨related', ok'⟩ := rest a w₁ (ok a rfl)
    exact ⟨trans_of R related related', ok'⟩

end Attempt

end SlotAllocation
