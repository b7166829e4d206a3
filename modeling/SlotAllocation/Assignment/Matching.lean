import SlotAllocation.Assignment.Summary

/-!
# Deferred acceptance

Applicants propose, slots hold. Free applicants wait in a first-in first-out queue, seeded
with all applicants in ascending order. The applicant at the front proposes down its own
list, from where it last stopped. A slot without seats refuses. A slot with a free seat
keeps the proposal. A full slot gives up its worst holder (greatest rank, and among equal
ranks the one latest in applicant order) only for a proposer that ranks it strictly better;
the displaced applicant goes to the back of the queue. The proposer's turn ends at the first
slot that keeps it, or at the end of its list.

Each turn removes an applicant from the queue and consumes at least as many list entries as
it puts applicants back, so `Proposals.measure` (queue length plus the entries not yet
proposed to) falls by at least one per turn: `Proposals.measure_advance_lt`.
-/

namespace SlotAllocation

/-- A proposal a slot keeps: who made it, at which rank, and the proposer's position in
ascending applicant order. -/
structure Holding where
  applicant : ApplicantId
  rank : Nat
  order : Nat

/-- Whether `h` is worse for its slot than `w`: a greater rank, or an equal rank and a later
applicant. -/
def Holding.worseThan (h w : Holding) : Bool :=
  w.rank < h.rank || (h.rank == w.rank && w.order < h.order)

/-- The position and value of the worst holding, scanning left to right and moving only to
a strictly worse one. -/
def worstHolding (hs : List Holding) : Option (Nat × Holding) :=
  (hs.zipIdx).foldl (fun acc p =>
    match acc with
    | none => some (p.2, p.1)
    | some (_, w) => if p.1.worseThan w then some (p.2, p.1) else acc) none

/-- The outcome of one applicant's turn: the list entries it has not proposed to yet, what
the slots hold afterwards, and the applicant it displaced, if any. -/
structure Turn where
  rest : List SlotId
  held : Table (List Holding)
  displaced : Option ApplicantId

/-- Applicant `a` (at position `order`) proposes down `slots`. -/
def takeTurn (prefs : Preferences) (caps : Capacities) (a : ApplicantId) (order : Nat)
    (held : Table (List Holding)) : List SlotId → Turn
  | [] => ⟨[], held, none⟩
  | s :: rest =>
    let seats := caps.seats s
    if seats = 0 then takeTurn prefs caps a order held rest
    else
      let offer : Holding := ⟨a, prefs.rank a s, order⟩
      let holders := held.findD s []
      if (holders.length : Int) < seats then ⟨rest, held.insert s (holders ++ [offer]), none⟩
      else match worstHolding holders with
        | some (w, worst) =>
          if offer.rank < worst.rank then
            ⟨rest, held.insert s (holders.set w offer), some worst.applicant⟩
          else takeTurn prefs caps a order held rest
        | none => takeTurn prefs caps a order held rest

theorem takeTurn_rest_length (prefs : Preferences) (caps : Capacities) (a : ApplicantId)
    (order : Nat) (held : Table (List Holding)) (slots : List SlotId) :
    (takeTurn prefs caps a order held slots).rest.length + (takeTurn prefs caps a order held slots).displaced.toList.length
      ≤ slots.length := by
  induction slots with
  | nil => simp [takeTurn]
  | cons s rest ih =>
    unfold takeTurn
    simp only
    split
    · simp at ih ⊢; omega
    · split
      · simp
      · split
        · split
          · simp
          · simp at ih ⊢; omega
        · simp at ih ⊢; omega

/-- The state of the proposal loop: the queue of free applicants, each applicant's list
entries not yet proposed to, and what each slot holds. -/
structure Proposals where
  queue : List ApplicantId
  pending : Table (List SlotId)
  held : Table (List Holding)

namespace Proposals

/-- Queue length plus the list entries not yet proposed to. -/
def measure (st : Proposals) : Nat :=
  st.queue.length + natSum (st.pending.values.map List.length)

/-- The loop before the first turn. -/
def initial (prefs : Preferences) : Proposals :=
  ⟨prefs.applicants, prefs, Table.empty⟩

theorem sum_insertEntry (k : String) (v : List SlotId) (l : List (String × List SlotId))
    (hl : Ascending l) :
    natSum ((Table.insertEntry k v l).map (fun p => p.2.length))
      + (((l.find? (fun p => p.1 == k)).map Prod.snd).getD []).length
      = natSum (l.map (fun p => p.2.length)) + v.length := by
  induction l with
  | nil => simp [Table.insertEntry]
  | cons q rest ih =>
    obtain ⟨k', v'⟩ := q
    have hq : ∀ p ∈ rest, k' < p.1 := fun p hp => (List.pairwise_cons.1 hl).1 p hp
    have ih := ih (List.pairwise_cons.1 hl).2
    unfold Table.insertEntry
    split
    · rename_i hlt
      have hne : ¬ k' = k := fun e => String.lt_irrefl k (e ▸ hlt)
      have hnone : rest.find? (fun p => p.1 == k) = none := by
        rw [List.find?_eq_none]
        intro p hp
        have h1 := String.lt_trans hlt (hq p hp)
        have h2 : p.1 ≠ k := fun e => String.lt_irrefl k (e ▸ h1)
        simp [h2]
      simp [hne, hnone]
      omega
    · split
      · rename_i heq
        subst heq
        simp
        omega
      · rename_i hne
        have hne' : ¬ k' = k := fun e => hne e.symm
        simp [hne'] at ih ⊢
        omega

theorem measure_insert (st : Proposals) (a : ApplicantId) (v : List SlotId) :
    natSum ((st.pending.insert a v).values.map List.length) + (st.pending.findD a []).length
      = natSum (st.pending.values.map List.length) + v.length := by
  have := sum_insertEntry a v st.pending.entries st.pending.ascending
  simp only [Table.values, Table.insert, Table.findD, Table.find?, List.map_map] at this ⊢
  exact this

/-- One turn of the applicant at the front of the queue, `a`, with the rest `q`. -/
def advance (prefs : Preferences) (caps : Capacities) (st : Proposals) (a : ApplicantId)
    (q : List ApplicantId) : Proposals :=
  let t := takeTurn prefs caps a (prefs.applicants.idxOf a) st.held (st.pending.findD a [])
  ⟨q ++ t.displaced.toList, st.pending.insert a t.rest, t.held⟩

theorem measure_advance_lt (prefs : Preferences) (caps : Capacities) (st : Proposals)
    (a : ApplicantId) (q : List ApplicantId) (h : st.queue = a :: q) :
    (advance prefs caps st a q).measure < st.measure := by
  unfold advance measure
  simp only
  have hi := measure_insert st a
    (takeTurn prefs caps a (prefs.applicants.idxOf a) st.held (st.pending.findD a [])).rest
  have ht := takeTurn_rest_length prefs caps a (prefs.applicants.idxOf a) st.held
    (st.pending.findD a [])
  rw [h]
  simp only [List.length_append, List.length_cons]
  omega

/-- Runs turns until the queue is empty. -/
def run (prefs : Preferences) (caps : Capacities) (st : Proposals) : Proposals :=
  match _hq : st.queue with
  | [] => st
  | a :: q => run prefs caps (advance prefs caps st a q)
termination_by st.measure
decreasing_by exact measure_advance_lt prefs caps st a q _hq

end Proposals

/-- The pairs of every holding. -/
def heldPairs (held : Table (List Holding)) : Pairing :=
  held.entries.foldl (fun m p => p.2.foldl (fun m h => m.insert h.applicant p.1) m) Table.empty

/-- Deferred acceptance on `prefs` and `caps`, summarized with no forced pair. -/
def stableMatch (prefs : Preferences) (caps : Capacities) : Result :=
  summarize (heldPairs (Proposals.run prefs caps (Proposals.initial prefs)).held) Table.empty prefs

end SlotAllocation
