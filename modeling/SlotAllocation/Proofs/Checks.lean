import SlotAllocation.Assignment.Summary
import SlotAllocation.Assignment.Verify
import SlotAllocation.Proofs.Table
import Mathlib.Data.List.Basic

/-!
# Seat loads and the checks on a result

The load of a slot under a pairing is the number of applicants that hold it. Both checks on
a result are read back as properties of the pairs:

1. `checkCapacity_eq_none_iff`: the capacity check passes exactly when no slot's load
   exceeds its seats (`Pairing.WithinSeats`).
2. `checkPreferences_eq_none_iff`: the preference check passes exactly when every pair is
   forced to that slot or names a slot of the applicant's own list.
3. `summarize_tally`: when every paired applicant is one of the problem's, the placed and
   the waiting applicants add up to all of them.
-/

namespace SlotAllocation

namespace Pairing

/-- How many applicants hold `s`. -/
def load (m : Pairing) (s : SlotId) : Nat := m.values.count s

/-- No slot holds more applicants than it has seats. -/
def WithinSeats (caps : Capacities) (m : Pairing) : Prop :=
  ∀ s, (m.load s : Int) ≤ caps.seats s

/-- `m'` keeps every pair of `m`. -/
def Extends (m' m : Pairing) : Prop :=
  ∀ a s, m.find? a = some s → m'.find? a = some s

theorem Extends.refl (m : Pairing) : m.Extends m := fun _ _ h => h

theorem Extends.trans {m₁ m₂ m₃ : Pairing} (h₂₁ : m₂.Extends m₁) (h₃₂ : m₃.Extends m₂) :
    m₃.Extends m₁ := fun a s h => h₃₂ a s (h₂₁ a s h)

theorem Extends.keys {m' m : Pairing} (h : m'.Extends m) {a : ApplicantId}
    (ha : a ∈ m.keys) : a ∈ m'.keys := by
  obtain ⟨s, hs⟩ := Table.mem_keys_iff.mp ha
  exact Table.mem_keys_iff.mpr ⟨s, h a s hs⟩

@[simp] theorem load_empty (s : SlotId) : load Table.empty s = 0 := rfl

/-- A new applicant on `s` adds one to the load of `s` and nothing elsewhere. -/
theorem load_insert_of_not_mem {m : Pairing} {a : ApplicantId} (s t : SlotId)
    (ha : a ∉ m.keys) :
    load (m.insert a s) t = m.load t + if s = t then 1 else 0 := by
  have perm := Table.values_insert_perm m a s
  rw [Table.find?_eq_none_iff.mpr ha] at perm
  simp only [Option.toList_none, List.append_nil] at perm
  unfold load
  rw [perm.count_eq, List.count_cons]
  simp

theorem counts_foldl_get (l : List SlotId) (c : Counts) (s : SlotId) :
    (l.foldl Counts.bump c).get s = c.get s + l.count s := by
  induction l generalizing c with
  | nil => simp
  | cons x rest ih =>
    rw [List.foldl_cons, ih, List.count_cons]
    unfold Counts.bump Counts.get
    rw [Table.findD_insert]
    by_cases hx : s = x
    · subst hx
      simp
      omega
    · simp [hx, Ne.symm hx]

/-- The running counts of a pairing are its loads. -/
@[simp] theorem counts_get (m : Pairing) (s : SlotId) : m.counts.get s = m.load s := by
  unfold counts
  rw [counts_foldl_get]
  simp [Counts.get, Table.findD, load]

end Pairing

open Pairing

theorem checkCapacity_eq_none_iff (r : Result) (caps : Capacities) :
    checkCapacity (some r) caps = none ↔ r.pairs.WithinSeats caps := by
  simp only [checkCapacity, Option.map_eq_none_iff, List.find?_eq_none, decide_eq_true_eq,
    Int.not_lt]
  constructor
  · intro fits s
    rw [← counts_get]
    cases hs : r.pairs.counts.find? s with
    | none => simp [Counts.get, Table.findD, hs, Capacities.seats_nonneg]
    | some n =>
      have hmem := Table.find?_eq_some_iff.mp hs
      simpa [Counts.get, Table.findD, hs] using fits (s, n) hmem
  · intro fits p hp
    have hget : r.pairs.counts.get p.1 = p.2 := by
      simp [Counts.get, Table.findD, Table.find?_eq_some_iff.mpr hp]
    rw [← hget, counts_get]
    exact fits p.1

theorem checkPreferences_eq_none_iff (r : Result) (prefs : Preferences) :
    checkPreferences (some r) prefs = none ↔
      ∀ a s, r.pairs.find? a = some s → r.forced.find? a = some s ∨ s ∈ prefs.list a := by
  simp only [checkPreferences, Option.map_eq_none_iff, List.find?_eq_none, Bool.and_eq_true,
    Bool.not_eq_true', beq_eq_false_iff_ne, beq_iff_eq, not_and]
  constructor
  · intro fits a s hs
    by_cases hf : r.forced.find? a = some s
    · exact Or.inl hf
    · have hrank := fits (a, s) (Table.find?_eq_some_iff.mp hs) hf
      exact Or.inr ((rankIn_pos_iff _ _).mp (Nat.pos_of_ne_zero hrank))
  · intro fits p hp hf
    rcases fits p.1 p.2 (Table.find?_eq_some_iff.mpr hp) with hforced | hlisted
    · exact absurd hforced hf
    · exact Nat.pos_iff_ne_zero.mp ((rankIn_pos_iff _ _).mpr hlisted)

section Summaries

variable (m forced : Pairing) (prefs : Preferences)

@[simp] theorem summarize_pairs : (summarize m forced prefs).pairs = m := rfl

@[simp] theorem summarize_forced : (summarize m forced prefs).forced = forced := rfl

@[simp] theorem summarize_waiting :
    (summarize m forced prefs).waiting = prefs.applicants.filter (fun a => !m.contains a) := rfl

@[simp] theorem summarize_total : (summarize m forced prefs).total = prefs.size := rfl

@[simp] theorem summarize_assignedCount :
    (summarize m forced prefs).assignedCount = m.size := rfl

/-- `r` is the summary of its own pairs and forced pairs against `prefs`. -/
def Summarized (prefs : Preferences) (r : Result) : Prop :=
  summarize r.pairs r.forced prefs = r

theorem summarize_summarized : Summarized prefs (summarize m forced prefs) := rfl

theorem Summarized.waiting {r : Result} (h : Summarized prefs r) :
    r.waiting = prefs.applicants.filter (fun a => !r.pairs.contains a) := by
  rw [← h]
  rfl

theorem Summarized.total {r : Result} (h : Summarized prefs r) : r.total = prefs.size := by
  rw [← h]
  rfl

theorem Summarized.assignedCount {r : Result} (h : Summarized prefs r) :
    r.assignedCount = r.pairs.size := by
  rw [← h]
  rfl

theorem Summarized.averageRank {r : Result} (h : Summarized prefs r) :
    r.averageRank = meanRank (countedRanks r.pairs r.forced prefs) := by
  rw [← h]
  rfl

theorem Summarized.rankDistribution {r : Result} (h : Summarized prefs r) :
    r.rankDistribution =
      (histogram (countedRanks r.pairs r.forced prefs)).map (fun p => ((p.1 : Int), (p.2 : Int))) := by
  rw [← h]
  rfl

/-- Placed and waiting applicants add up to all applicants, when only applicants of the
problem are placed. -/
theorem summarize_tally (placed : ∀ a ∈ m.keys, a ∈ prefs.applicants) :
    (m.size : Int) + (prefs.applicants.filter (fun a => !m.contains a)).length = prefs.size := by
  have split : prefs.applicants.length = (prefs.applicants.filter (m.contains ·)).length +
      (prefs.applicants.filter (fun a => !m.contains a)).length :=
    List.length_eq_length_filter_add _
  have same : (prefs.applicants.filter (m.contains ·)).Perm m.keys := by
    apply (List.perm_ext_iff_of_nodup ((Table.keys_nodup prefs).filter _) m.keys_nodup).mpr
    intro a
    rw [List.mem_filter, Table.contains_iff]
    exact ⟨fun h => h.2, fun h => ⟨placed a h, h⟩⟩
  have hsize : m.size = m.keys.length := by simp [Table.size, Table.keys]
  have hprefs : prefs.size = prefs.applicants.length := by
    simp [Table.size, Preferences.applicants, Table.keys]
  rw [hsize, hprefs, split, same.length_eq]
  push_cast
  rfl

end Summaries

end SlotAllocation
