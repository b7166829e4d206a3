import SlotAllocation.Assignment.Matching
import SlotAllocation.Proofs.Checks
import Mathlib.Data.List.Perm.Basic

/-!
# What deferred acceptance guarantees

The proposal loop runs from `Proposals.initial` until its queue is empty. Every state it
passes through satisfies `Proposals.Invariant`: no applicant is queued or seated twice, no
slot holds more than its seats, a holding belongs to an applicant that listed the slot, the
entries an applicant has not proposed to yet end its list while every earlier entry with
seats is full or holds it, and an applicant neither queued nor seated has nothing left.

`takeTurn_cases` says everything one turn can do. `advance_invariant` is the step lemma and
`run_invariant` the run lemma. Reading the final holdings as pairs gives:

1. `stableMatch_withinSeats`: no slot holds more applicants than its seats.
2. `stableMatch_listed`: every pair names a slot of the applicant's own list.
3. `stableMatch_placed_known`: only applicants of the problem are placed.
4. `stableMatch_unplaced_full`: every slot with seats on the list of an applicant left
   without a slot is full.
-/

namespace SlotAllocation

/-! ## 1. One turn -/

/-- One step of the scan of `worstHolding`: the next holding becomes the candidate when there is
none yet or when it is strictly worse. -/
def scanWorst (acc : Option (Nat × Holding)) (p : Holding × Nat) : Option (Nat × Holding) :=
  match acc with
  | none => some (p.2, p.1)
  | some (_, w) => if p.1.worseThan w then some (p.2, p.1) else acc

theorem worstHolding_eq (hs : List Holding) :
    worstHolding hs = hs.zipIdx.foldl scanWorst none := rfl

/-- A step of the scan takes the next holding or keeps its candidate. -/
theorem scanWorst_cases (acc : Option (Nat × Holding)) (p : Holding × Nat) :
    scanWorst acc p = some (p.2, p.1) ∨ scanWorst acc p = acc := by
  unfold scanWorst
  split
  · exact .inl rfl
  · split
    · exact .inl rfl
    · exact .inr rfl

/-- The worst holding is one of the holdings, at the position reported. -/
theorem worstHolding_get {hs : List Holding} {w : Nat} {worst : Holding}
    (found : worstHolding hs = some (w, worst)) : hs[w]? = some worst := by
  -- the scan only ever keeps an entry of `hs` together with its position
  have kept : ∀ i x, hs.zipIdx.foldl scanWorst none = some (i, x) → hs[i]? = some x := by
    apply List.foldlRecOn (motive := fun acc => ∀ i x, acc = some (i, x) → hs[i]? = some x)
    · simp
    · intro acc earlier p hp i x step
      rcases scanWorst_cases acc p with taken | same
      · rw [taken, Option.some.injEq, Prod.mk.injEq] at step
        obtain ⟨rfl, rfl⟩ := step
        exact List.mem_zipIdx_iff_getElem?.mp hp
      · rw [same] at step
        exact earlier i x step
  rw [worstHolding_eq] at found
  exact kept w worst found

/-- Slot `s` turns `offer` away: it has no seats, or its seats are taken by holdings the offer
does not beat. -/
def Refuses (caps : Capacities) (held : Table (List Holding)) (offer : Holding)
    (s : SlotId) : Prop :=
  caps.seats s = 0 ∨
    (caps.seats s ≤ (held.findD s []).length ∧
      ∀ w worst, worstHolding (held.findD s []) = some (w, worst) → worst.rank ≤ offer.rank)

/-- Slot `s` seats `offer`, leaving the holdings `held'` and displacing `out`. -/
inductive Seating (caps : Capacities) (held : Table (List Holding)) (offer : Holding)
    (s : SlotId) : Table (List Holding) → Option ApplicantId → Prop
  /-- A free seat takes the offer. -/
  | free : ((held.findD s []).length : Int) < caps.seats s →
      Seating caps held offer s (held.insert s (held.findD s [] ++ [offer])) none
  /-- The offer replaces the worst holding of a full slot. -/
  | swap {w : Nat} {worst : Holding} : caps.seats s ≤ (held.findD s []).length →
      worstHolding (held.findD s []) = some (w, worst) → offer.rank < worst.rank →
      Seating caps held offer s (held.insert s ((held.findD s []).set w offer))
        (some worst.applicant)

/-- How a turn over `slots` can end: refused at every entry, or refused at some first
entries and seated at the next one. -/
def TurnEnds (prefs : Preferences) (caps : Capacities) (a : ApplicantId) (order : Nat)
    (held : Table (List Holding)) (slots : List SlotId) (t : Turn) : Prop :=
  (t.rest = [] ∧ t.held = held ∧ t.displaced = none ∧
      ∀ s ∈ slots, Refuses caps held ⟨a, prefs.rank a s, order⟩ s) ∨
    ∃ pre s, slots = pre ++ s :: t.rest ∧
      (∀ s' ∈ pre, Refuses caps held ⟨a, prefs.rank a s', order⟩ s') ∧
      Seating caps held ⟨a, prefs.rank a s, order⟩ s t.held t.displaced

section TurnEnds

variable {prefs : Preferences} {caps : Capacities} {a : ApplicantId} {order : Nat}
  {held : Table (List Holding)}

theorem TurnEnds.cons_refused {s : SlotId} {rest : List SlotId} {t : Turn}
    (refusal : Refuses caps held ⟨a, prefs.rank a s, order⟩ s)
    (ends : TurnEnds prefs caps a order held rest t) :
    TurnEnds prefs caps a order held (s :: rest) t := by
  rcases ends with ⟨hrest, hheld, hout, refused⟩ | ⟨pre, s', hslots, refused, seated⟩
  · refine Or.inl ⟨hrest, hheld, hout, ?_⟩
    intro s' hs'
    rcases List.mem_cons.mp hs' with rfl | hs'
    · exact refusal
    · exact refused s' hs'
  · refine Or.inr ⟨s :: pre, s', by rw [hslots]; rfl, ?_, seated⟩
    intro s'' hs''
    rcases List.mem_cons.mp hs'' with rfl | hs''
    · exact refusal
    · exact refused s'' hs''

theorem TurnEnds.seated_here {s : SlotId} {rest : List SlotId} {t : Turn}
    (hrest : t.rest = rest)
    (seated : Seating caps held ⟨a, prefs.rank a s, order⟩ s t.held t.displaced) :
    TurnEnds prefs caps a order held (s :: rest) t :=
  Or.inr ⟨[], s, by rw [hrest]; rfl, by simp, seated⟩

end TurnEnds

/-- Everything one turn can do. -/
theorem takeTurn_ends (prefs : Preferences) (caps : Capacities) (a : ApplicantId)
    (order : Nat) (held : Table (List Holding)) (slots : List SlotId) :
    TurnEnds prefs caps a order held slots (takeTurn prefs caps a order held slots) := by
  induction slots with
  | nil => exact Or.inl ⟨rfl, rfl, rfl, by simp⟩
  | cons s rest ih =>
    -- a refusal at `s` leaves the turn to `rest`
    by_cases hzero : caps.seats s = 0
    · have same : takeTurn prefs caps a order held (s :: rest) =
          takeTurn prefs caps a order held rest := by simp [takeTurn, hzero]
      exact same ▸ ih.cons_refused (Or.inl hzero)
    by_cases hfree : ((held.findD s []).length : Int) < caps.seats s
    · apply TurnEnds.seated_here (by simp [takeTurn, hzero, hfree])
      simpa [takeTurn, hzero, hfree] using
        (Seating.free hfree : Seating caps held ⟨a, prefs.rank a s, order⟩ s _ _)
    have hfull : caps.seats s ≤ (held.findD s []).length := by omega
    cases hworst : worstHolding (held.findD s []) with
    | none =>
      have same : takeTurn prefs caps a order held (s :: rest) =
          takeTurn prefs caps a order held rest := by simp [takeTurn, hzero, hfree, hworst]
      exact same ▸ ih.cons_refused (Or.inr ⟨hfull, by simp [hworst]⟩)
    | some found =>
      obtain ⟨w, worst⟩ := found
      by_cases hbeat : prefs.rank a s < worst.rank
      · apply TurnEnds.seated_here (by simp [takeTurn, hzero, hfree, hworst, hbeat])
        simpa [takeTurn, hzero, hfree, hworst, hbeat] using
          (Seating.swap hfull hworst hbeat : Seating caps held ⟨a, prefs.rank a s, order⟩ s _ _)
      · have same : takeTurn prefs caps a order held (s :: rest) =
            takeTurn prefs caps a order held rest := by
          simp [takeTurn, hzero, hfree, hworst, hbeat]
        refine same ▸ ih.cons_refused (Or.inr ⟨hfull, ?_⟩)
        intro w' worst' hsome
        rw [hworst] at hsome
        cases hsome
        exact Nat.le_of_not_lt hbeat

/-! ## 2. Holdings -/

/-- The applicants holding a seat, slot by slot. -/
def seatedIn (held : Table (List Holding)) : List ApplicantId :=
  held.values.flatMap (fun hs => hs.map Holding.applicant)

/-- `a` holds a seat at `s`. -/
def HoldsAt (held : Table (List Holding)) (a : ApplicantId) (s : SlotId) : Prop :=
  ∃ h ∈ held.findD s [], h.applicant = a

/-- Every seat of `s` is taken. -/
def Full (caps : Capacities) (held : Table (List Holding)) (s : SlotId) : Prop :=
  ((held.findD s []).length : Int) = caps.seats s

@[simp] theorem seatedIn_empty : seatedIn Table.empty = [] := rfl

theorem mem_seatedIn_of_holdsAt {held : Table (List Holding)} {a : ApplicantId} {s : SlotId}
    (holds : HoldsAt held a s) : a ∈ seatedIn held := by
  obtain ⟨h, hmem, rfl⟩ := holds
  cases hs : held.find? s with
  | none => simp [Table.findD, hs] at hmem
  | some old =>
    have hval : old ∈ held.values :=
      List.mem_map.mpr ⟨(s, old), Table.find?_eq_some_iff.mp hs, rfl⟩
    simp only [Table.findD, hs, Option.getD_some] at hmem
    exact List.mem_flatMap.mpr ⟨old, hval, List.mem_map_of_mem hmem⟩

/-- Writing the holdings of `s` trades its old holders for the new ones. -/
theorem seatedIn_insert_perm (held : Table (List Holding)) (s : SlotId) (l : List Holding) :
    (seatedIn (held.insert s l) ++ (held.findD s []).map Holding.applicant).Perm
      (l.map Holding.applicant ++ seatedIn held) := by
  have perm := (Table.values_insert_perm held s l).flatMap_right
    (fun hs => hs.map Holding.applicant)
  cases hs : held.find? s with
  | none => simpa [seatedIn, Table.findD, hs] using perm
  | some old => simpa [seatedIn, Table.findD, hs] using perm

/-- Replacing the entry at `w` by `x` and adding the old entry back adds `x`. -/
theorem set_append_perm {l : List Holding} {w : Nat} {y : Holding} (x : Holding)
    (hw : l[w]? = some y) : (l.set w x ++ [y]).Perm (x :: l) := by
  obtain ⟨hlt, rfl⟩ := List.getElem?_eq_some_iff.mp hw
  refine (List.perm_append_singleton _ _).trans ?_
  refine ((List.set_perm_cons_eraseIdx hlt x).cons _).trans ?_
  refine (List.Perm.swap _ _ _).trans ?_
  exact (List.getElem_cons_eraseIdx_perm hlt).cons _

/-- A full slot refuses only offers that do not beat its worst holding. -/
theorem Refuses.full {caps : Capacities} {held : Table (List Holding)} {offer : Holding}
    {s : SlotId} (refusal : Refuses caps held offer s) (pos : 0 < caps.seats s)
    (within : ((held.findD s []).length : Int) ≤ caps.seats s) : Full caps held s := by
  rcases refusal with zero | ⟨taken, _⟩
  · omega
  · unfold Full
    omega

namespace Seating

variable {caps : Capacities} {held held' : Table (List Holding)} {offer : Holding}
  {s : SlotId} {out : Option ApplicantId}

theorem findD_of_ne (seat : Seating caps held offer s held' out) {s' : SlotId} (hne : s' ≠ s) :
    held'.findD s' [] = held.findD s' [] := by
  cases seat <;> simp [Table.findD_insert, hne]

theorem mem_at (seat : Seating caps held offer s held' out) {h : Holding}
    (hh : h ∈ held'.findD s []) : h ∈ held.findD s [] ∨ h = offer := by
  cases seat with
  | free _ => simpa [Table.findD_insert] using hh
  | swap _ _ _ =>
    simp only [Table.findD_insert, if_true] at hh
    exact List.mem_or_eq_of_mem_set hh

theorem offer_mem (seat : Seating caps held offer s held' out) : offer ∈ held'.findD s [] := by
  cases seat with
  | free _ => simp [Table.findD_insert]
  | swap _ hworst _ =>
    obtain ⟨hlt, _⟩ := List.getElem?_eq_some_iff.mp (worstHolding_get hworst)
    simpa [Table.findD_insert] using List.mem_set hlt offer

theorem within_at (seat : Seating caps held offer s held' out)
    (within : ((held.findD s []).length : Int) ≤ caps.seats s) :
    ((held'.findD s []).length : Int) ≤ caps.seats s := by
  cases seat with
  | free hfree =>
    simp only [Table.findD_insert, if_true, List.length_append, List.length_singleton]
    omega
  | swap _ _ _ => simpa [Table.findD_insert] using within

/-- A full slot stays full, and a holder keeps its seat unless its slot is full afterwards. -/
theorem keeps (seat : Seating caps held offer s held' out)
    (within : ((held.findD s []).length : Int) ≤ caps.seats s) {b : ApplicantId} {s' : SlotId}
    (before : Full caps held s' ∨ HoldsAt held b s') :
    Full caps held' s' ∨ HoldsAt held' b s' := by
  by_cases hs : s' = s
  · subst hs
    cases seat with
    | free hfree =>
      rcases before with full | ⟨h, hh, rfl⟩
      · unfold Full at full
        omega
      · exact Or.inr ⟨h, by simp [Table.findD_insert, hh], rfl⟩
    | swap hfull _ _ =>
      left
      unfold Full
      simp only [Table.findD_insert, if_true, List.length_set]
      omega
  · unfold Full HoldsAt
    rw [seat.findD_of_ne hs]
    exact before

/-- The offer's applicant takes a seat and the displaced one, if any, loses its own. -/
theorem seated_perm (seat : Seating caps held offer s held' out) :
    (seatedIn held' ++ out.toList).Perm (offer.applicant :: seatedIn held) := by
  rw [List.perm_iff_count]
  intro x
  cases seat with
  | free _ =>
    have trade := List.perm_iff_count.mp
      (seatedIn_insert_perm held s (held.findD s [] ++ [offer])) x
    simp only [List.count_append, List.map_append, List.map_cons, List.map_nil] at trade
    simp only [Option.toList_none, List.append_nil, List.count_cons, List.count_nil] at trade ⊢
    omega
  | @swap w worst _ hworst _ =>
    have trade := List.perm_iff_count.mp
      (seatedIn_insert_perm held s ((held.findD s []).set w offer)) x
    have swapped := List.perm_iff_count.mp
      ((set_append_perm offer (worstHolding_get hworst)).map Holding.applicant) x
    simp only [List.count_append, List.map_append, List.map_cons, List.map_nil,
      List.count_cons, List.count_nil, Option.toList_some] at trade swapped ⊢
    omega

end Seating

/-! ## 3. The invariant of the proposal loop -/

namespace Proposals

/-- The queued applicants followed by the seated ones. -/
def roster (st : Proposals) : List ApplicantId := st.queue ++ seatedIn st.held

/-- What every state of the loop satisfies. -/
structure Invariant (prefs : Preferences) (caps : Capacities) (st : Proposals) : Prop where
  /-- No applicant is queued or seated twice. -/
  nodup : st.roster.Nodup
  /-- Only applicants of the problem are queued or seated. -/
  known : ∀ a ∈ st.roster, a ∈ prefs.applicants
  /-- No slot holds more than its seats. -/
  within : ∀ s, ((st.held.findD s []).length : Int) ≤ caps.seats s
  /-- A holding at `s` belongs to an applicant that listed `s`. -/
  listed : ∀ s, ∀ h ∈ st.held.findD s [], s ∈ prefs.list h.applicant
  /-- The entries not proposed to yet end the list; each earlier entry with seats is full or
  holds the applicant. -/
  passed : ∀ a, ∃ pre, prefs.list a = pre ++ st.pending.findD a [] ∧
    ∀ s ∈ pre, 0 < caps.seats s → Full caps st.held s ∨ HoldsAt st.held a s
  /-- An applicant neither queued nor seated has nothing left to propose to. -/
  settled : ∀ a ∈ prefs.applicants, a ∈ st.roster ∨ st.pending.findD a [] = []

theorem initial_invariant (prefs : Preferences) (caps : Capacities) :
    Invariant prefs caps (initial prefs) where
  nodup := by simpa [roster, initial, Preferences.applicants] using Table.keys_nodup prefs
  known := by simp [roster, initial]
  within s := by simpa [initial, Table.findD] using Capacities.seats_nonneg caps s
  listed s := by simp [initial, Table.findD]
  passed a := ⟨[], by simp [initial, Preferences.list], by simp⟩
  settled a ha := Or.inl (by simpa [roster, initial] using ha)

section Step

variable {prefs : Preferences} {caps : Capacities} {st : Proposals} {a : ApplicantId}
  {q : List ApplicantId} {order : Nat}

/-- The applicant at the front of the queue holds no seat. -/
theorem Invariant.front_unseated (inv : Invariant prefs caps st) (hq : st.queue = a :: q) :
    a ∉ seatedIn st.held := by
  have nodup := inv.nodup
  rw [roster, hq, List.cons_append, List.nodup_cons] at nodup
  exact fun hs => nodup.1 (List.mem_append_right _ hs)

/-- Every slot with seats that the front applicant has passed is full. -/
theorem Invariant.front_passed_full (inv : Invariant prefs caps st) (hq : st.queue = a :: q)
    {pre : List SlotId} (hpre : prefs.list a = pre ++ st.pending.findD a []) :
    ∀ s ∈ pre, 0 < caps.seats s → Full caps st.held s := by
  obtain ⟨pre', hpre', passed⟩ := inv.passed a
  have same : pre' = pre := List.append_cancel_right (hpre'.symm.trans hpre)
  subst same
  intro s hs pos
  rcases passed s hs pos with full | holds
  · exact full
  · exact absurd (mem_seatedIn_of_holdsAt holds) (inv.front_unseated hq)

/-- A turn refused everywhere drops its applicant from the queue with nothing left. -/
theorem Invariant.after_refusals (inv : Invariant prefs caps st) (hq : st.queue = a :: q)
    (refused : ∀ s ∈ st.pending.findD a [], Refuses caps st.held ⟨a, prefs.rank a s, order⟩ s) :
    Invariant prefs caps ⟨q, st.pending.insert a [], st.held⟩ := by
  have tail : (roster ⟨q, st.pending.insert a [], st.held⟩).Sublist st.roster := by
    simp only [roster, hq, List.cons_append]
    exact List.sublist_cons_self _ _
  refine ⟨inv.nodup.sublist tail, fun b hb => inv.known b (tail.subset hb), inv.within,
    inv.listed, ?_, ?_⟩
  · intro b
    by_cases hb : b = a
    · subst hb
      obtain ⟨pre, hpre, _⟩ := inv.passed b
      refine ⟨prefs.list b, by simp [Table.findD_insert], ?_⟩
      intro s hs pos
      left
      rw [hpre] at hs
      rcases List.mem_append.mp hs with hs | hs
      · exact inv.front_passed_full hq hpre s hs pos
      · exact (refused s hs).full pos (inv.within s)
    · simpa [Table.findD_insert, hb] using inv.passed b
  · intro b hb
    by_cases hba : b = a
    · exact Or.inr (by simp [Table.findD_insert, hba])
    · rcases inv.settled b hb with inRoster | done
      · left
        simp only [roster, hq, List.cons_append, List.mem_cons, hba, false_or] at inRoster
        exact inRoster
      · exact Or.inr (by simp [Table.findD_insert, hba, done])

/-- A turn seated at `s` after refusals keeps the invariant. -/
theorem Invariant.after_seating (inv : Invariant prefs caps st) (hq : st.queue = a :: q)
    {pre rest : List SlotId} {s : SlotId} {held' : Table (List Holding)}
    {out : Option ApplicantId} (hslots : st.pending.findD a [] = pre ++ s :: rest)
    (refused : ∀ s' ∈ pre, Refuses caps st.held ⟨a, prefs.rank a s', order⟩ s')
    (seat : Seating caps st.held ⟨a, prefs.rank a s, order⟩ s held' out) :
    Invariant prefs caps ⟨q ++ out.toList, st.pending.insert a rest, held'⟩ := by
  -- the displaced applicant trades its seat for a place in the queue, `a` the other way
  have trade : (roster ⟨q ++ out.toList, st.pending.insert a rest, held'⟩).Perm st.roster := by
    simp only [roster, hq, List.cons_append, List.append_assoc]
    exact ((List.perm_append_comm.append_left q).trans (seat.seated_perm.append_left q)).trans
      List.perm_middle
  obtain ⟨done, hdone, _⟩ := inv.passed a
  have hlist : prefs.list a = (done ++ pre ++ [s]) ++ rest := by simp [hdone, hslots]
  have listedHere : s ∈ prefs.list a := by simp [hlist]
  have keeps : ∀ {b s'}, Full caps st.held s' ∨ HoldsAt st.held b s' →
      Full caps held' s' ∨ HoldsAt held' b s' := seat.keeps (inv.within s)
  refine ⟨trade.nodup_iff.mpr inv.nodup, fun b hb => inv.known b (trade.subset hb), ?_, ?_, ?_, ?_⟩
  · intro s'
    by_cases hs : s' = s
    · subst hs
      exact seat.within_at (inv.within s')
    · rw [seat.findD_of_ne hs]
      exact inv.within s'
  · intro s' h hh
    by_cases hs : s' = s
    · subst hs
      rcases seat.mem_at hh with old | rfl
      · exact inv.listed s' h old
      · exact listedHere
    · rw [seat.findD_of_ne hs] at hh
      exact inv.listed s' h hh
  · intro b
    by_cases hba : b = a
    · subst hba
      refine ⟨done ++ pre ++ [s], by simpa [Table.findD_insert] using hlist, ?_⟩
      intro s' hs' pos
      simp only [List.mem_append, List.mem_singleton] at hs'
      rcases hs' with (early | refusedHere) | rfl
      · exact keeps (Or.inl (inv.front_passed_full hq hdone s' early pos))
      · exact keeps (Or.inl ((refused s' refusedHere).full pos (inv.within s')))
      · exact Or.inr ⟨_, seat.offer_mem, rfl⟩
    · obtain ⟨pre', hpre', passed⟩ := inv.passed b
      refine ⟨pre', by simpa [Table.findD_insert, hba] using hpre', ?_⟩
      intro s' hs' pos
      exact keeps (passed s' hs' pos)
  · intro b hb
    by_cases hba : b = a
    · subst hba
      left
      exact List.mem_append_right _ (mem_seatedIn_of_holdsAt ⟨_, seat.offer_mem, rfl⟩)
    · rcases inv.settled b hb with inRoster | done
      · exact Or.inl (trade.mem_iff.mpr inRoster)
      · exact Or.inr (by simp [Table.findD_insert, hba, done])

end Step

/-- The step lemma: one turn keeps the invariant. -/
theorem advance_invariant {prefs : Preferences} {caps : Capacities} {st : Proposals}
    {a : ApplicantId} {q : List ApplicantId} (inv : Invariant prefs caps st)
    (hq : st.queue = a :: q) : Invariant prefs caps (advance prefs caps st a q) := by
  unfold advance
  dsimp only
  rcases takeTurn_ends prefs caps a (prefs.applicants.idxOf a) st.held (st.pending.findD a [])
    with ⟨hrest, hheld, hout, refused⟩ | ⟨pre, s, hslots, refused, seat⟩
  · rw [hrest, hheld, hout, Option.toList_none, List.append_nil]
    exact inv.after_refusals hq refused
  · exact inv.after_seating hq hslots refused seat

/-- The run lemma: every state the loop reaches keeps the invariant. -/
theorem run_invariant {prefs : Preferences} {caps : Capacities} {st : Proposals}
    (inv : Invariant prefs caps st) : Invariant prefs caps (run prefs caps st) := by
  fun_induction run prefs caps st with
  | case1 st hq => exact inv
  | case2 st a q hq ih => exact ih (advance_invariant inv hq)

/-- The loop stops only with an empty queue. -/
theorem run_queue (prefs : Preferences) (caps : Capacities) (st : Proposals) :
    (run prefs caps st).queue = [] := by
  fun_induction run prefs caps st with
  | case1 st hq => exact hq
  | case2 st a q hq ih => exact ih

end Proposals

/-! ## 4. The final holdings as pairs -/

/-- One pair per holding: its applicant and its slot. -/
def heldList (held : Table (List Holding)) : List (ApplicantId × SlotId) :=
  held.entries.flatMap (fun p => p.2.map (fun h => (h.applicant, p.1)))

theorem heldPairs_eq (held : Table (List Holding)) :
    heldPairs held = (heldList held).foldl (fun m p => m.insert p.1 p.2) Table.empty := by
  simp only [heldPairs, heldList, List.foldl_flatMap, List.foldl_map]

theorem heldList_map_fst (held : Table (List Holding)) :
    (heldList held).map Prod.fst = seatedIn held := by
  simp [heldList, seatedIn, Table.values, List.map_flatMap, List.flatMap_map, Function.comp_def]

section Final

variable {held : Table (List Holding)}

/-- With every applicant seated once, the pairs are exactly the holdings. -/
theorem heldPairs_perm (nodup : (seatedIn held).Nodup) :
    (heldPairs held).entries.Perm (heldList held) := by
  rw [heldPairs_eq]
  simpa using Table.entries_foldl_insert_perm (heldList held) Table.empty
    (by rwa [heldList_map_fst]) (by simp)

theorem heldPairs_find?_eq_some_iff (nodup : (seatedIn held).Nodup) {a : ApplicantId}
    {s : SlotId} : (heldPairs held).find? a = some s ↔ HoldsAt held a s := by
  rw [Table.find?_eq_some_iff, (heldPairs_perm nodup).mem_iff]
  simp only [heldList, List.mem_flatMap, List.mem_map, Prod.mk.injEq]
  constructor
  · rintro ⟨p, hp, h, hh, rfl, rfl⟩
    have found : held.find? p.1 = some p.2 := Table.find?_eq_some_iff.mpr hp
    exact ⟨h, by simp [Table.findD, found, hh], rfl⟩
  · rintro ⟨h, hh, rfl⟩
    cases found : held.find? s with
    | none => simp [Table.findD, found] at hh
    | some l =>
      simp only [Table.findD, found, Option.getD_some] at hh
      exact ⟨(s, l), Table.find?_eq_some_iff.mp found, h, hh, rfl, rfl⟩

theorem mem_heldPairs_keys_iff (nodup : (seatedIn held).Nodup) {a : ApplicantId} :
    a ∈ (heldPairs held).keys ↔ a ∈ seatedIn held := by
  rw [← heldList_map_fst]
  exact ((heldPairs_perm nodup).map Prod.fst).mem_iff

/-- The load of a slot is the number of its holdings. -/
theorem heldPairs_load (nodup : (seatedIn held).Nodup) (s : SlotId) :
    (heldPairs held).load s = (held.findD s []).length := by
  -- split the holdings into those of `s` and the others, whose pairs never name `s`
  have split := (Table.entries_perm_split held s).flatMap_right
    (fun p => p.2.map (fun h => (h.applicant, p.1)))
  have perm := ((heldPairs_perm nodup).trans split).map Prod.snd
  have others : List.count s (((held.entries.filter (fun p => !(p.1 == s))).flatMap
      (fun p => p.2.map (fun h => (h.applicant, p.1)))).map Prod.snd) = 0 := by
    apply List.count_eq_zero.mpr
    simp only [List.mem_map, List.mem_flatMap, List.mem_filter, not_exists, not_and]
    rintro ⟨_, s'⟩ ⟨p, ⟨_, hne⟩, h, _, heq⟩ rfl
    simp only [Prod.mk.injEq] at heq
    simp [← heq.2] at hne
  unfold Pairing.load Table.values
  rw [perm.count_eq, List.flatMap_append, List.map_append, List.count_append, others]
  cases found : held.find? s with
  | none => simp [Table.findD, found]
  | some l => simp [Table.findD, found, Function.comp_def, List.map_const', List.count_replicate_self]

end Final

section Stable

variable (prefs : Preferences) (caps : Capacities)

/-- The holdings deferred acceptance ends with. -/
theorem stableMatch_pairs :
    (stableMatch prefs caps).pairs =
      heldPairs (Proposals.run prefs caps (Proposals.initial prefs)).held := rfl

@[simp] theorem stableMatch_forced : (stableMatch prefs caps).forced = Table.empty := rfl

theorem final_invariant :
    Proposals.Invariant prefs caps (Proposals.run prefs caps (Proposals.initial prefs)) :=
  Proposals.run_invariant (Proposals.initial_invariant prefs caps)

theorem final_seated_nodup :
    (seatedIn (Proposals.run prefs caps (Proposals.initial prefs)).held).Nodup := by
  have nodup := (final_invariant prefs caps).nodup
  rwa [Proposals.roster, Proposals.run_queue, List.nil_append] at nodup

theorem stableMatch_withinSeats : (stableMatch prefs caps).pairs.WithinSeats caps := by
  intro s
  rw [stableMatch_pairs, heldPairs_load (final_seated_nodup prefs caps)]
  exact (final_invariant prefs caps).within s

theorem stableMatch_listed {a : ApplicantId} {s : SlotId}
    (paired : (stableMatch prefs caps).pairs.find? a = some s) : s ∈ prefs.list a := by
  rw [stableMatch_pairs, heldPairs_find?_eq_some_iff (final_seated_nodup prefs caps)] at paired
  obtain ⟨h, hh, rfl⟩ := paired
  exact (final_invariant prefs caps).listed s h hh

theorem stableMatch_placed_known {a : ApplicantId}
    (placed : a ∈ (stableMatch prefs caps).pairs.keys) : a ∈ prefs.applicants := by
  rw [stableMatch_pairs, mem_heldPairs_keys_iff (final_seated_nodup prefs caps)] at placed
  apply (final_invariant prefs caps).known a
  simpa [Proposals.roster, Proposals.run_queue] using placed

/-- An applicant left without a slot finds every slot with seats on its list full. -/
theorem stableMatch_unplaced_full {a : ApplicantId} (known : a ∈ prefs.applicants)
    (unplaced : a ∉ (stableMatch prefs caps).pairs.keys) {s : SlotId} (listed : s ∈ prefs.list a)
    (pos : 0 < caps.seats s) : ((stableMatch prefs caps).pairs.load s : Int) = caps.seats s := by
  have inv := final_invariant prefs caps
  have nodup := final_seated_nodup prefs caps
  rw [stableMatch_pairs, mem_heldPairs_keys_iff nodup] at unplaced
  rw [stableMatch_pairs, heldPairs_load nodup]
  -- outside the queue and unseated, the applicant has proposed to its whole list
  have exhausted : (Proposals.run prefs caps (Proposals.initial prefs)).pending.findD a [] = [] := by
    rcases inv.settled a known with inRoster | done
    · simp [Proposals.roster, Proposals.run_queue, unplaced] at inRoster
    · exact done
  obtain ⟨pre, hpre, passed⟩ := inv.passed a
  rw [exhausted, List.append_nil] at hpre
  rcases passed s (hpre ▸ listed) pos with full | holds
  · exact full
  · exact absurd (mem_seatedIn_of_holdsAt holds) unplaced

end Stable

end SlotAllocation
