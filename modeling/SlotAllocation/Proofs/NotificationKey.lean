import SlotAllocation.Proofs.NotifyOnce
import Mathlib.Data.String.Basic

/-!
# The key of a notification

A notification's identifier is the name-based identifier of one text, its key: the batch, the
run and the applicants sorted and joined by commas, on three lines. The key is read back by
cutting at the first two line breaks and then at every comma, so it tells notifications apart
exactly when no cut falls inside an identifier:

1. `append_sep_inj`, `intercalate_inj`: a separator absent from the parts cuts the text into
   those parts.
2. `notificationKey_eq_iff`: for batch and run identifiers without a line break and applicant
   identifiers non-empty and without a comma (`KeyReadable`), two keys are equal exactly when
   the batch and the run are, and the applicants are up to order.
3. `comma_applicant_shares_notificationId`: the request schema lets an applicant identifier
   hold a comma, and then two notifications about different applicants share one identifier.
-/

namespace SlotAllocation

/-! ## 1. Cutting at a separator -/

section Cut

variable {α : Type}

/-- A separator absent from two first parts cuts two equal texts at the same place. -/
theorem append_sep_inj {c : α} {x x' y y' : List α} (absent : c ∉ x) (absent' : c ∉ x')
    (same : x ++ c :: y = x' ++ c :: y') : x = x' ∧ y = y' := by
  induction x generalizing x' with
  | nil =>
    cases x' with
    | nil => simpa using same
    | cons d rest =>
      simp only [List.nil_append, List.cons_append, List.cons.injEq] at same
      exact absurd (by rw [same.1]; exact List.mem_cons_self) absent'
  | cons d rest ih =>
    cases x' with
    | nil =>
      simp only [List.nil_append, List.cons_append, List.cons.injEq] at same
      exact absurd (by rw [← same.1]; exact List.mem_cons_self) absent
    | cons d' rest' =>
      simp only [List.cons_append, List.cons.injEq] at same
      obtain ⟨rfl, tail⟩ := same
      obtain ⟨rfl, rfl⟩ := ih (fun inRest => absent (List.mem_cons_of_mem _ inRest))
        (fun inRest => absent' (List.mem_cons_of_mem _ inRest)) tail
      exact ⟨rfl, rfl⟩

variable [BEq α] [LawfulBEq α]

/-- Non-empty parts without the separator are read back from their joined text. -/
theorem intercalate_inj {c : α} {ls ls' : List (List α)} (absent : ∀ l ∈ ls, c ∉ l)
    (absent' : ∀ l ∈ ls', c ∉ l) (filled : ∀ l ∈ ls, l ≠ []) (filled' : ∀ l ∈ ls', l ≠ [])
    (same : [c].intercalate ls = [c].intercalate ls') : ls = ls' := by
  -- an empty join would be read back as one empty part
  have nonempty : ∀ {ks : List (List α)}, (∀ l ∈ ks, c ∉ l) → (∀ l ∈ ks, l ≠ []) → ks ≠ [] →
      [c].intercalate ks ≠ [] := by
    intro ks absentK filledK present joined
    have back := List.splitOn_intercalate c absentK present
    rw [joined, List.splitOn_nil] at back
    exact filledK [] (by rw [← back]; exact List.mem_singleton_self _) rfl
  by_cases empty : ls = []
  · subst empty
    by_contra differ
    exact nonempty absent' filled' (Ne.symm differ) same.symm
  · by_cases empty' : ls' = []
    · subst empty'
      exact absurd same (nonempty absent filled empty)
    · rw [← List.splitOn_intercalate c absent empty, same, List.splitOn_intercalate c absent' empty']

end Cut

/-! ## 2. Keys of notifications -/

/-- The text a notification's identifier is made from: the batch, the run and the applicants
in ascending order joined by commas, on lines of their own. -/
def notificationKey (batchId runId : String) (unassigned : List String) : String :=
  batchId ++ "\n" ++ runId ++ "\n" ++ ",".intercalate (unassigned.mergeSort fun a b => decide (a ≤ b))

theorem notificationId_eq_ofName (batchId runId : String) (unassigned : List String) :
    notificationId batchId runId unassigned = NameId.ofName (notificationKey batchId runId unassigned) :=
  rfl

theorem notificationKey_toList (batchId runId : String) (unassigned : List String) :
    (notificationKey batchId runId unassigned).toList =
      batchId.toList ++ '\n' :: (runId.toList ++ '\n' ::
        [','].intercalate ((unassigned.mergeSort fun a b => decide (a ≤ b)).map String.toList)) := by
  have line : ("\n" : String).toList = ['\n'] := by decide
  have comma : ("," : String).toList = [','] := by decide
  simp [notificationKey, String.toList_append, String.toList_intercalate, line, comma]

/-- A notification whose key reads back: no line break in its batch or run identifier, and its
applicant identifiers non-empty (as the request schema requires) and free of commas. -/
structure KeyReadable (batchId runId : String) (unassigned : List String) : Prop where
  batchLine : '\n' ∉ batchId.toList
  runLine : '\n' ∉ runId.toList
  named : ∀ a ∈ unassigned, a ≠ ""
  noComma : ∀ a ∈ unassigned, ',' ∉ a.toList

/-- The sorted applicants of a readable notification, as texts, are the parts its key joins. -/
theorem KeyReadable.parts {b r : String} {u : List String} (readable : KeyReadable b r u) :
    (∀ l ∈ (u.mergeSort fun a b => decide (a ≤ b)).map String.toList, ',' ∉ l) ∧
      ∀ l ∈ (u.mergeSort fun a b => decide (a ≤ b)).map String.toList, l ≠ [] := by
  constructor
  · intro l listed
    obtain ⟨a, member, rfl⟩ := List.mem_map.mp listed
    exact readable.noComma a (List.mem_mergeSort.mp member)
  · intro l listed
    obtain ⟨a, member, rfl⟩ := List.mem_map.mp listed
    exact fun empty => readable.named a (List.mem_mergeSort.mp member) (String.toList_eq_nil_iff.mp empty)

/-- Readable notifications share a key exactly when they have the same batch, the same run
and the same applicants up to order. -/
theorem notificationKey_eq_iff {b b' r r' : String} {u u' : List String}
    (readable : KeyReadable b r u) (readable' : KeyReadable b' r' u') :
    notificationKey b r u = notificationKey b' r' u' ↔ b = b' ∧ r = r' ∧ u.Perm u' := by
  constructor
  · intro same
    have chars := congrArg String.toList same
    rw [notificationKey_toList, notificationKey_toList] at chars
    -- the first line break ends the batch, the second the run
    obtain ⟨batch, rest⟩ := append_sep_inj readable.batchLine readable'.batchLine chars
    obtain ⟨run, joined⟩ := append_sep_inj readable.runLine readable'.runLine rest
    have parts := intercalate_inj readable.parts.1 readable'.parts.1 readable.parts.2
      readable'.parts.2 joined
    have sorted := (List.map_inj_right fun _ _ => String.toList_inj.mp).mp parts
    refine ⟨String.toList_inj.mp batch, String.toList_inj.mp run, ?_⟩
    exact (List.mergeSort_perm u _).symm.trans (sorted ▸ List.mergeSort_perm u' _)
  · rintro ⟨rfl, rfl, perm⟩
    unfold notificationKey
    rw [mergeSort_perm_eq perm]

/-- Two readable notifications of one batch about the same applicants for different runs have
different keys. -/
theorem rerun_notificationKey_differs :
    KeyReadable "b1" "run-1" ["A3", "A4"] ∧ KeyReadable "b1" "run-2" ["A3", "A4"] ∧
      notificationKey "b1" "run-1" ["A3", "A4"] ≠ notificationKey "b1" "run-2" ["A3", "A4"] := by
  have first : KeyReadable "b1" "run-1" ["A3", "A4"] := ⟨by decide, by decide, by decide, by decide⟩
  have second : KeyReadable "b1" "run-2" ["A3", "A4"] := ⟨by decide, by decide, by decide, by decide⟩
  refine ⟨first, second, fun same => ?_⟩
  have runs := ((notificationKey_eq_iff first second).mp same).2.1
  exact absurd runs (by decide)

/-! ## 3. A comma inside an applicant identifier -/

/-- The notify schema accepts any non-empty applicant identifier, so one applicant `A,B` and
the two applicants `B` and `A` of one batch and run get the same notification identifier. -/
theorem comma_applicant_shares_notificationId :
    notificationId "b1" "r1" ["A,B"] = notificationId "b1" "r1" ["B", "A"] ∧
      ¬ (["A,B"] : List String).Perm ["B", "A"] := by
  have sorted : (["A", "B"] : List String).mergeSort (fun a b => decide (a ≤ b)) = ["A", "B"] :=
    List.mergeSort_eq_self (fun a b : String => a ≤ b) (by decide)
  refine ⟨?_, fun perm => by simpa using perm.length_eq⟩
  rw [notificationId_perm "b1" "r1" (List.Perm.swap "A" "B" []), notificationId_eq_ofName,
    notificationId_eq_ofName]
  have joined : ",".intercalate ["A,B"] = ",".intercalate ["A", "B"] := by decide
  unfold notificationKey
  rw [List.mergeSort_singleton, sorted, joined]

end SlotAllocation
