import SlotAllocation.Proofs.Stability
import Mathlib.Data.Prod.Lex

/-!
# The proposal loop ends within its bound

Each turn of deferred acceptance pops the applicant at the front of the queue
(`Proposals.advance`). `Proposals.Reaches prefs caps n st st'` says that the loop goes from `st`
to `st'` in `n` turns, and the statements here hold of every state the loop reaches from its
start:

1. `Reaches.add_measure_le`: a run of `n` turns lowers `Proposals.measure` (queue length plus
   the list entries not yet proposed to) by at least `n`, and at the start that measure is the
   number of applicants plus the length of all their lists (`initial_measure`); the loop's
   final state is reached in some number of turns (`reaches_run`).
2. `Reaches.invariant`: every state reached keeps `Proposals.Invariant`, so the queue has no
   repeat and no seated applicant, no applicant is seated twice, and no slot holds more than
   its seats.
3. `worstHolding_key_le`: the holding a full slot gives up is one of greatest rank, and among
   those of greatest order: the greatest in the lexicographic order of `Holding.key`.
4. `proposal_loop_bounded` gathers these, with the final holdings read as pairs, one pair per
   holding.
-/

namespace SlotAllocation

/-! ## 1. The holding a full slot gives up -/

/-- Where a holding stands in the order in which a full slot gives holdings up: by rank, then
by applicant order, the greatest first. -/
def Holding.key (h : Holding) : Lex (Nat × Nat) := toLex (h.rank, h.order)

/-- Being worse for a slot is coming later in the order of keys. -/
theorem Holding.worseThan_iff {h w : Holding} : h.worseThan w = true ↔ w.key < h.key := by
  simp only [Holding.worseThan, Holding.key, Prod.Lex.toLex_lt_toLex, Bool.or_eq_true,
    decide_eq_true_eq, Bool.and_eq_true, beq_iff_eq]
  constructor
  · rintro (below | ⟨same, before⟩)
    · exact Or.inl below
    · exact Or.inr ⟨same.symm, before⟩
  · rintro (below | ⟨same, before⟩)
    · exact Or.inl below
    · exact Or.inr ⟨same.symm, before⟩

/-- No holding comes after the worst holding found. -/
theorem worstHolding_key_le {hs : List Holding} {w : Nat} {worst : Holding}
    (found : worstHolding hs = some (w, worst)) {h : Holding} (held : h ∈ hs) :
    h.key ≤ worst.key := by
  obtain ⟨p, indexed, rfl⟩ : ∃ p ∈ hs.zipIdx, p.1 = h := by
    rw [← List.mem_map, List.zipIdx_map_fst]
    exact held
  rw [worstHolding_eq] at found
  -- keys are totally ordered, so a holding that is not worse comes no later
  have notWorse : ∀ {h w : Holding}, ¬h.worseThan w = true → h.key ≤ w.key :=
    fun kept => not_lt.mp (mt Holding.worseThan_iff.mpr kept)
  exact (scanWorst_le (fun h w => h.key ≤ w.key) (fun h => le_refl h.key) le_trans
    (fun worse => le_of_lt (Holding.worseThan_iff.mp worse)) notWorse _ none found).1 p indexed

/-! ## 2. Runs of the loop -/

namespace Proposals

/-- The loop goes from `st` to `st'` in `n` turns, each taken by the applicant at the front of
the queue. -/
inductive Reaches (prefs : Preferences) (caps : Capacities) : Nat → Proposals → Proposals → Prop
  | done (st : Proposals) : Reaches prefs caps 0 st st
  | turn {n : Nat} {st st' : Proposals} {a : ApplicantId} {q : List ApplicantId}
      (front : st.queue = a :: q) (rest : Reaches prefs caps n (advance prefs caps st a q) st') :
      Reaches prefs caps (n + 1) st st'

variable {prefs : Preferences} {caps : Capacities}

/-- Every turn lowers the measure, so `n` turns lower it by at least `n`. -/
theorem Reaches.add_measure_le {n : Nat} {st st' : Proposals} (reach : Reaches prefs caps n st st') :
    n + st'.measure ≤ st.measure := by
  induction reach with
  | done st => simp
  | turn front rest ih =>
    have lower := measure_advance_lt prefs caps _ _ _ front
    omega

/-- The run lemma for the invariant: it holds of every state a run reaches. -/
theorem Reaches.invariant {n : Nat} {st st' : Proposals} (reach : Reaches prefs caps n st st')
    (inv : Invariant prefs caps st) : Invariant prefs caps st' := by
  induction reach with
  | done st => exact inv
  | turn front rest ih => exact ih (advance_invariant inv front)

/-- The loop's final state is reached in some number of turns. -/
theorem reaches_run (st : Proposals) : ∃ n, Reaches prefs caps n st (run prefs caps st) := by
  fun_induction run prefs caps st with
  | case1 st empty => exact ⟨0, .done st⟩
  | case2 st a q front ih =>
    obtain ⟨n, reach⟩ := ih
    exact ⟨n + 1, .turn front reach⟩

/-- At the start, the measure counts the applicants and all their list entries. -/
theorem initial_measure (prefs : Preferences) :
    (initial prefs).measure = prefs.size + natSum (prefs.values.map List.length) := by
  simp [measure, initial, Preferences.applicants, Table.keys, Table.size]

/-- The queue holds no applicant twice and no seated applicant, and no applicant is seated
twice. -/
theorem Invariant.queue_seated {st : Proposals} (inv : Invariant prefs caps st) :
    st.queue.Nodup ∧ (∀ a ∈ st.queue, a ∉ seatedIn st.held) ∧ (seatedIn st.held).Nodup := by
  obtain ⟨queued, seated, apart⟩ := List.nodup_append.mp inv.nodup
  exact ⟨queued, fun a inQueue inSeats => apart a inQueue a inSeats rfl, seated⟩

end Proposals

/-! ## 3. The final holdings as pairs -/

/-- Read as pairs, the final holdings keep every holder: each applicant's pair is its holding,
and there are as many pairs as holdings. -/
theorem heldPairs_size {held : Table (List Holding)} (nodup : (seatedIn held).Nodup) :
    (heldPairs held).size = (seatedIn held).length := by
  rw [Table.size, (heldPairs_perm nodup).length_eq, ← heldList_map_fst, List.length_map]

/-- The proposal loop ends within its bound and keeps its bookkeeping. From the start, every
run of `n` turns leaves a measure no greater than the number of applicants plus the length of
their lists less `n`, and the loop ends after at most that many turns; each turn lowers the
measure; throughout, the queue has no repeat and no seated applicant, no applicant is seated
twice, and no slot holds more than its seats. A full slot gives up a holding of greatest
(rank, order), and the final holdings read as pairs lose no holder. -/
theorem proposal_loop_bounded (prefs : Preferences) (caps : Capacities) :
    (∃ n, n ≤ prefs.size + natSum (prefs.values.map List.length) ∧
      Proposals.Reaches prefs caps n (Proposals.initial prefs)
        (Proposals.run prefs caps (Proposals.initial prefs))) ∧
    (∀ n st, Proposals.Reaches prefs caps n (Proposals.initial prefs) st →
      n + st.measure ≤ prefs.size + natSum (prefs.values.map List.length) ∧
      (∀ a q, st.queue = a :: q → (Proposals.advance prefs caps st a q).measure < st.measure) ∧
      st.queue.Nodup ∧ (∀ a ∈ st.queue, a ∉ seatedIn st.held) ∧ (seatedIn st.held).Nodup ∧
      ∀ s, ((st.held.findD s []).length : Int) ≤ caps.seats s) ∧
    (∀ hs : List Holding, hs ≠ [] → ∃ w worst, worstHolding hs = some (w, worst) ∧
      hs[w]? = some worst ∧ ∀ h ∈ hs, h.key ≤ worst.key) ∧
    (∀ a s, (heldPairs (Proposals.run prefs caps (Proposals.initial prefs)).held).find? a = some s ↔
      HoldsAt (Proposals.run prefs caps (Proposals.initial prefs)).held a s) ∧
    (heldPairs (Proposals.run prefs caps (Proposals.initial prefs)).held).size =
      (seatedIn (Proposals.run prefs caps (Proposals.initial prefs)).held).length := by
  have nodup := final_seated_nodup prefs caps
  refine ⟨?ends, ?reached, ?worst, fun a s => heldPairs_find?_eq_some_iff nodup,
    heldPairs_size nodup⟩
  case ends =>
    obtain ⟨n, reach⟩ := @Proposals.reaches_run prefs caps (Proposals.initial prefs)
    have bound := reach.add_measure_le
    rw [Proposals.initial_measure] at bound
    exact ⟨n, by omega, reach⟩
  case reached =>
    intro n st reach
    have inv := reach.invariant (Proposals.initial_invariant prefs caps)
    have bound := reach.add_measure_le
    rw [Proposals.initial_measure] at bound
    obtain ⟨queued, apart, seated⟩ := inv.queue_seated
    exact ⟨bound, fun a q front => Proposals.measure_advance_lt prefs caps st a q front, queued,
      apart, seated, inv.within⟩
  case worst =>
    intro hs nonempty
    obtain ⟨w, worst, found⟩ := worstHolding_isSome nonempty
    exact ⟨w, worst, found, worstHolding_get found, fun h held => worstHolding_key_le found held⟩


/-- Two applicants want the one seat of `S`: `A`'s turn seats it and leaves `B` alone in the
queue, `B`'s turn lowers the measure again, and of two holdings of equal rank the one of the
later applicant is given up. -/
theorem contestedSeat_loop_bounded :
    Proposals.Reaches ((Table.empty.insert "A" ["S"]).insert "B" ["S"]) (Table.empty.insert "S" 1) 1
        (Proposals.initial ((Table.empty.insert "A" ["S"]).insert "B" ["S"]))
        (Proposals.advance ((Table.empty.insert "A" ["S"]).insert "B" ["S"]) (Table.empty.insert "S" 1)
          (Proposals.initial ((Table.empty.insert "A" ["S"]).insert "B" ["S"])) "A" ["B"]) ∧
      (Proposals.advance ((Table.empty.insert "A" ["S"]).insert "B" ["S"]) (Table.empty.insert "S" 1)
          (Proposals.initial ((Table.empty.insert "A" ["S"]).insert "B" ["S"])) "A" ["B"]).queue =
        ["B"] ∧
      (Proposals.advance ((Table.empty.insert "A" ["S"]).insert "B" ["S"]) (Table.empty.insert "S" 1)
          (Proposals.advance ((Table.empty.insert "A" ["S"]).insert "B" ["S"]) (Table.empty.insert "S" 1)
            (Proposals.initial ((Table.empty.insert "A" ["S"]).insert "B" ["S"])) "A" ["B"]) "B" []).measure <
        (Proposals.advance ((Table.empty.insert "A" ["S"]).insert "B" ["S"]) (Table.empty.insert "S" 1)
          (Proposals.initial ((Table.empty.insert "A" ["S"]).insert "B" ["S"])) "A" ["B"]).measure ∧
      ([⟨"A", 1, 0⟩, ⟨"B", 1, 1⟩] : List Holding) ≠ [] ∧
      worstHolding [⟨"A", 1, 0⟩, ⟨"B", 1, 1⟩] = some (1, ⟨"B", 1, 1⟩) ∧
      ∀ h ∈ ([⟨"A", 1, 0⟩, ⟨"B", 1, 1⟩] : List Holding), h.key ≤ Holding.key ⟨"B", 1, 1⟩ := by
  have bounded := proposal_loop_bounded ((Table.empty.insert "A" ["S"]).insert "B" ["S"])
    (Table.empty.insert "S" 1)
  have front : (Proposals.initial ((Table.empty.insert "A" ["S"]).insert "B" ["S"])).queue =
      "A" :: ["B"] := by decide +kernel
  have reach : Proposals.Reaches ((Table.empty.insert "A" ["S"]).insert "B" ["S"])
      (Table.empty.insert "S" 1) 1 (Proposals.initial ((Table.empty.insert "A" ["S"]).insert "B" ["S"]))
      (Proposals.advance ((Table.empty.insert "A" ["S"]).insert "B" ["S"]) (Table.empty.insert "S" 1)
        (Proposals.initial ((Table.empty.insert "A" ["S"]).insert "B" ["S"])) "A" ["B"]) :=
    .turn front (.done _)
  have waiting : (Proposals.advance ((Table.empty.insert "A" ["S"]).insert "B" ["S"])
      (Table.empty.insert "S" 1) (Proposals.initial ((Table.empty.insert "A" ["S"]).insert "B" ["S"]))
      "A" ["B"]).queue = "B" :: [] := by decide +kernel
  have nonempty : ([⟨"A", 1, 0⟩, ⟨"B", 1, 1⟩] : List Holding) ≠ [] := by simp
  have found : worstHolding [⟨"A", 1, 0⟩, ⟨"B", 1, 1⟩] = some (1, ⟨"B", 1, 1⟩) := rfl
  obtain ⟨w, worst, found', -, greatest⟩ := bounded.2.2.1 _ nonempty
  rw [found] at found'
  cases found'
  exact ⟨reach, waiting, ((bounded.2.1 _ _ reach).2.1 "B" [] waiting), nonempty, found, greatest⟩

end SlotAllocation
