import SlotAllocation.Proofs.DeferredAcceptance

/-!
# Deferred acceptance leaves no blocking pair

A slot that turned an applicant away, or gave its seat to someone else, stays full, and the
worst rank among its holders never grows. So every slot with seats that an applicant has passed
on its way down its list is full of holders that rank it no worse than the applicant does.
`Proposals.Stable` states this of every state of the proposal loop, together with two facts
that carry it: each holding records the rank its applicant gives the slot, and the slot an
applicant holds is among the entries it has passed.

1. `worstHolding_rank_le`, `worstHolding_isSome`: the scan finds a holding of the greatest
   rank whenever there is a holding.
2. `Seating.keeps_block`: a seating keeps every slot that blocks an applicant blocking, and a
   holder it displaces finds its slot blocking in turn.
3. `advance_stable` is the step lemma and `run_stable` the run lemma.
4. `stableMatch_no_blocking_pair`: every slot with seats ahead of an applicant's own slot in
   its list, or anywhere in its list when it has none, is full, and each of its holders ranks
   it at least as well as the applicant; every pair is ranked, no slot exceeds its seats, and
   no pair is forced.
-/

namespace SlotAllocation

/-! ## 1. The worst holding -/

/-- A holding worse than another ranks the slot at least as badly. -/
theorem Holding.rank_le_of_worseThan {h w : Holding} (worse : h.worseThan w = true) :
    w.rank ≤ h.rank := by
  simp only [Holding.worseThan, Bool.or_eq_true, decide_eq_true_eq, Bool.and_eq_true,
    beq_iff_eq] at worse
  omega

/-- A holding that is not worse than another ranks the slot at most as badly. -/
theorem Holding.rank_le_of_not_worseThan {h w : Holding} (notWorse : ¬h.worseThan w = true) :
    h.rank ≤ w.rank := by
  simp only [Holding.worseThan, Bool.or_eq_true, decide_eq_true_eq, Bool.and_eq_true,
    beq_iff_eq, not_or, not_and] at notWorse
  omega

/-- The scan of `worstHolding` ends on a candidate that is at least every holding it passed,
and the candidate it started from, in any order `le` in which a worse holding is above and a
holding that is not worse is below. -/
theorem scanWorst_le (le : Holding → Holding → Prop) (refl : ∀ h, le h h)
    (trans : ∀ {a b c}, le a b → le b c → le a c)
    (worse : ∀ {h w}, h.worseThan w = true → le w h)
    (notWorse : ∀ {h w}, ¬h.worseThan w = true → le h w)
    (l : List (Holding × Nat)) (acc : Option (Nat × Holding)) {i : Nat} {x : Holding}
    (found : l.foldl scanWorst acc = some (i, x)) :
    (∀ p ∈ l, le p.1 x) ∧ ∀ j y, acc = some (j, y) → le y x := by
  induction l generalizing acc with
  | nil =>
    refine ⟨by simp, fun j y start => ?_⟩
    rw [List.foldl_nil, start] at found
    cases found
    exact refl _
  | cons p rest ih =>
    obtain ⟨later, kept⟩ := ih _ found
    refine ⟨?_, ?_⟩
    · intro q hq
      rcases List.mem_cons.mp hq with rfl | hq
      · -- the step keeps either the new holding or a candidate it is not worse than
        cases acc with
        | none => exact kept _ _ rfl
        | some c =>
          obtain ⟨j, y⟩ := c
          by_cases taken : q.1.worseThan y = true
          · exact kept q.2 q.1 (by simp [scanWorst, taken])
          · exact trans (notWorse taken) (kept j y (by simp [scanWorst, taken]))
      · exact later q hq
    · intro j y start
      subst start
      by_cases taken : p.1.worseThan y = true
      · exact trans (worse taken) (kept p.2 p.1 (by simp [scanWorst, taken]))
      · exact kept j y (by simp [scanWorst, taken])

/-- No holding ranks its slot worse than the worst holding found. -/
theorem worstHolding_rank_le {hs : List Holding} {w : Nat} {worst : Holding}
    (found : worstHolding hs = some (w, worst)) {h : Holding} (held : h ∈ hs) :
    h.rank ≤ worst.rank := by
  obtain ⟨p, indexed, rfl⟩ : ∃ p ∈ hs.zipIdx, p.1 = h := by
    rw [← List.mem_map, List.zipIdx_map_fst]
    exact held
  rw [worstHolding_eq] at found
  exact (scanWorst_le (fun h w => h.rank ≤ w.rank) (fun h => Nat.le_refl h.rank) Nat.le_trans
    Holding.rank_le_of_worseThan Holding.rank_le_of_not_worseThan _ none found).1 p indexed

/-- The scan finds a holding whenever there is one. -/
theorem worstHolding_isSome {hs : List Holding} (nonempty : hs ≠ []) :
    ∃ w worst, worstHolding hs = some (w, worst) := by
  -- once the scan holds a candidate it keeps one
  have keeps : ∀ (l : List (Holding × Nat)) (c : Nat × Holding), ∃ w worst,
      l.foldl scanWorst (some c) = some (w, worst) := by
    intro l
    induction l with
    | nil => exact fun c => ⟨c.1, c.2, rfl⟩
    | cons p rest ih =>
      intro c
      rcases scanWorst_cases (some c) p with taken | same
      · rw [List.foldl_cons, taken]
        exact ih (p.2, p.1)
      · rw [List.foldl_cons, same]
        exact ih c
  obtain ⟨h, rest, rfl⟩ := List.exists_cons_of_ne_nil nonempty
  rw [worstHolding_eq]
  exact keeps _ (0, h)

/-! ## 2. Slots that block -/

/-- Slot `s` is full, and none of its holdings ranks it worse than `r`. -/
def Blocks (caps : Capacities) (held : Table (List Holding)) (s : SlotId) (r : Nat) : Prop :=
  Full caps held s ∧ ∀ h ∈ held.findD s [], h.rank ≤ r

/-- A slot with seats that refuses an offer blocks it. -/
theorem Refuses.blocks {caps : Capacities} {held : Table (List Holding)} {offer : Holding}
    {s : SlotId} (refusal : Refuses caps held offer s) (pos : 0 < caps.seats s)
    (within : ((held.findD s []).length : Int) ≤ caps.seats s) : Blocks caps held s offer.rank := by
  refine ⟨refusal.full pos within, fun h hh => ?_⟩
  rcases refusal with zero | ⟨_, beaten⟩
  · omega
  · obtain ⟨w, worst, found⟩ := worstHolding_isSome (List.ne_nil_of_mem hh)
    exact Nat.le_trans (worstHolding_rank_le found hh) (beaten w worst found)

namespace Seating

variable {caps : Capacities} {held held' : Table (List Holding)} {offer : Holding}
  {s : SlotId} {out : Option ApplicantId}

/-- A slot that blocks keeps blocking: a free seat never opens at a full slot, and a swap only
brings in a better rank. -/
theorem blocks (seat : Seating caps held offer s held' out)
    {s' : SlotId} {r : Nat} (blocked : Blocks caps held s' r) : Blocks caps held' s' r := by
  by_cases hs : s' = s
  · subst hs
    obtain ⟨full, ranks⟩ := blocked
    cases seat with
    | free hfree =>
      unfold Full at full
      omega
    | swap _ hworst hbeat =>
      have worstHeld := List.mem_of_getElem? (worstHolding_get hworst)
      refine ⟨by simpa [Full, Table.findD_insert] using full, fun h hh => ?_⟩
      simp only [Table.findD_insert, if_true] at hh
      rcases List.mem_or_eq_of_mem_set hh with old | rfl
      · exact ranks h old
      · exact Nat.le_of_lt (Nat.lt_of_lt_of_le hbeat (ranks _ worstHeld))
  · unfold Blocks Full
    rw [seat.findD_of_ne hs]
    exact blocked

/-- A holder keeps its seat, or it is the one displaced and its slot now blocks it. -/
theorem holdsAt_or_blocks (seat : Seating caps held offer s held' out) (prefs : Preferences)
    (within : ((held.findD s []).length : Int) ≤ caps.seats s)
    (ranked : ∀ h ∈ held.findD s [], h.rank = prefs.rank h.applicant s) {c : ApplicantId}
    {s' : SlotId} (holds : HoldsAt held c s') :
    HoldsAt held' c s' ∨ Blocks caps held' s' (prefs.rank c s') := by
  by_cases hs : s' = s
  · subst hs
    obtain ⟨h, hh, rfl⟩ := holds
    cases seat with
    | free _ => exact Or.inl ⟨h, by simp [Table.findD_insert, hh], rfl⟩
    | @swap w worst hfull hworst hbeat =>
      obtain ⟨i, hi, rfl⟩ := List.getElem_of_mem hh
      by_cases same : i = w
      · -- the holder is the worst holding, displaced by a strictly better offer
        subst same
        have isWorst : (held.findD s' [])[i] = worst := by
          simpa [hi] using worstHolding_get hworst
        right
        refine ⟨by simp only [Full, Table.findD_insert, if_true, List.length_set]; omega,
          fun h' hh' => ?_⟩
        rw [← ranked _ hh, isWorst]
        simp only [Table.findD_insert, if_true] at hh'
        rcases List.mem_or_eq_of_mem_set hh' with old | rfl
        · exact worstHolding_rank_le hworst old
        · exact Nat.le_of_lt hbeat
      · left
        refine ⟨(held.findD s' [])[i], ?_, rfl⟩
        simp only [Table.findD_insert, if_true]
        rw [List.mem_iff_getElem]
        exact ⟨i, by simpa using hi, List.getElem_set_ne (Ne.symm same) _⟩
  · left
    unfold HoldsAt
    rw [seat.findD_of_ne hs]
    exact holds

/-- The disjunction `Stable` carries for each passed entry survives a seating. -/
theorem keeps_block (seat : Seating caps held offer s held' out) (prefs : Preferences)
    (within : ((held.findD s []).length : Int) ≤ caps.seats s)
    (ranked : ∀ h ∈ held.findD s [], h.rank = prefs.rank h.applicant s) {c : ApplicantId}
    {s' : SlotId} (before : HoldsAt held c s' ∨ Blocks caps held s' (prefs.rank c s')) :
    HoldsAt held' c s' ∨ Blocks caps held' s' (prefs.rank c s') := by
  rcases before with holds | blocked
  · exact seat.holdsAt_or_blocks prefs within ranked holds
  · exact Or.inr (seat.blocks blocked)

/-- After a seating, a holder held the same seat before, or it is the offer just seated. -/
theorem holdsAt_before (seat : Seating caps held offer s held' out) {c : ApplicantId}
    {s' : SlotId} (holds : HoldsAt held' c s') :
    HoldsAt held c s' ∨ (c = offer.applicant ∧ s' = s) := by
  obtain ⟨h, hh, rfl⟩ := holds
  by_cases hs : s' = s
  · subst hs
    rcases seat.mem_at hh with old | rfl
    · exact Or.inl ⟨h, old, rfl⟩
    · exact Or.inr ⟨rfl, rfl⟩
  · rw [seat.findD_of_ne hs] at hh
    exact Or.inl ⟨h, hh, rfl⟩

end Seating

/-! ## 3. The invariant of the proposal loop -/

namespace Proposals

/-- What every state of the loop satisfies besides `Invariant`. -/
structure Stable (prefs : Preferences) (caps : Capacities) (st : Proposals) : Prop where
  /-- A holding records the rank its applicant gives the slot. -/
  ranked : ∀ s, ∀ h ∈ st.held.findD s [], h.rank = prefs.rank h.applicant s
  /-- The slot an applicant holds is among the entries it has passed; each passed entry with
  seats holds it or blocks it. -/
  blocked : ∀ a, ∃ pre, prefs.list a = pre ++ st.pending.findD a [] ∧
    (∀ s, HoldsAt st.held a s → s ∈ pre) ∧
    ∀ s ∈ pre, 0 < caps.seats s → HoldsAt st.held a s ∨ Blocks caps st.held s (prefs.rank a s)

theorem initial_stable (prefs : Preferences) (caps : Capacities) :
    Stable prefs caps (initial prefs) where
  ranked s := by simp [initial, Table.findD]
  blocked a := ⟨[], by simp [initial, Preferences.list],
    fun s ⟨_, hh, _⟩ => by simp [initial, Table.findD] at hh, by simp⟩

section Step

variable {prefs : Preferences} {caps : Capacities} {st : Proposals} {a : ApplicantId}
  {q : List ApplicantId} {order : Nat}

/-- A turn refused everywhere leaves the holdings alone and has the applicant pass its whole
list, every slot with seats it just tried blocking it. -/
theorem Stable.after_refusals (inv : Invariant prefs caps st) (stable : Stable prefs caps st)
    (refused : ∀ s ∈ st.pending.findD a [], Refuses caps st.held ⟨a, prefs.rank a s, order⟩ s) :
    Stable prefs caps ⟨q, st.pending.insert a [], st.held⟩ := by
  refine ⟨stable.ranked, fun b => ?_⟩
  obtain ⟨pre, hpre, holdsPassed, passed⟩ := stable.blocked b
  by_cases hb : b = a
  · subst hb
    refine ⟨prefs.list b, by simp [Table.findD_insert], fun s holds => ?_, fun s hs pos => ?_⟩
    · rw [hpre]
      exact List.mem_append_left _ (holdsPassed s holds)
    · rw [hpre] at hs
      rcases List.mem_append.mp hs with early | tried
      · exact passed s early pos
      · exact Or.inr ((refused s tried).blocks pos (inv.within s))
  · exact ⟨pre, by simpa [Table.findD_insert, hb] using hpre, holdsPassed, passed⟩

/-- A turn seated at `s` after refusals keeps the invariant. -/
theorem Stable.after_seating (inv : Invariant prefs caps st) (stable : Stable prefs caps st)
    {pre rest : List SlotId} {s : SlotId} {held' : Table (List Holding)}
    {out : Option ApplicantId} (hslots : st.pending.findD a [] = pre ++ s :: rest)
    (refused : ∀ s' ∈ pre, Refuses caps st.held ⟨a, prefs.rank a s', order⟩ s')
    (seat : Seating caps st.held ⟨a, prefs.rank a s, order⟩ s held' out) :
    Stable prefs caps ⟨q ++ out.toList, st.pending.insert a rest, held'⟩ := by
  have keeps : ∀ {c s'}, HoldsAt st.held c s' ∨ Blocks caps st.held s' (prefs.rank c s') →
      HoldsAt held' c s' ∨ Blocks caps held' s' (prefs.rank c s') :=
    seat.keeps_block prefs (inv.within s) (stable.ranked s)
  refine ⟨fun s' h hh => ?_, fun b => ?_⟩
  · by_cases hs : s' = s
    · subst hs
      rcases seat.mem_at hh with old | rfl
      · exact stable.ranked s' h old
      · rfl
    · rw [seat.findD_of_ne hs] at hh
      exact stable.ranked s' h hh
  obtain ⟨done, hdone, holdsPassed, passed⟩ := stable.blocked b
  by_cases hb : b = a
  · subst hb
    refine ⟨done ++ pre ++ [s], by simp [Table.findD_insert, hdone, hslots], ?_, ?_⟩
    · intro s' holds
      rcases seat.holdsAt_before holds with old | ⟨_, rfl⟩
      · simp [holdsPassed s' old]
      · simp
    · intro s' hs' pos
      simp only [List.mem_append, List.mem_singleton] at hs'
      rcases hs' with (early | tried) | rfl
      · exact keeps (passed s' early pos)
      · exact Or.inr (seat.blocks ((refused s' tried).blocks pos (inv.within s')))
      · exact Or.inl ⟨_, seat.offer_mem, rfl⟩
  · refine ⟨done, by simpa [Table.findD_insert, hb] using hdone, fun s' holds => ?_,
      fun s' hs' pos => keeps (passed s' hs' pos)⟩
    rcases seat.holdsAt_before holds with old | ⟨same, _⟩
    · exact holdsPassed s' old
    · exact absurd same hb

end Step

/-- The step lemma: one turn keeps the invariant. -/
theorem advance_stable {prefs : Preferences} {caps : Capacities} {st : Proposals}
    {a : ApplicantId} {q : List ApplicantId} (inv : Invariant prefs caps st)
    (stable : Stable prefs caps st) : Stable prefs caps (advance prefs caps st a q) := by
  unfold advance
  dsimp only
  rcases takeTurn_ends prefs caps a (prefs.applicants.idxOf a) st.held (st.pending.findD a [])
    with ⟨hrest, hheld, hout, refused⟩ | ⟨pre, s, hslots, refused, seat⟩
  · rw [hrest, hheld, hout, Option.toList_none, List.append_nil]
    exact stable.after_refusals inv refused
  · exact stable.after_seating inv hslots refused seat

/-- The run lemma: every state the loop reaches keeps the invariant. -/
theorem run_stable {prefs : Preferences} {caps : Capacities} {st : Proposals}
    (inv : Invariant prefs caps st) (stable : Stable prefs caps st) :
    Stable prefs caps (run prefs caps st) := by
  fun_induction run prefs caps st with
  | case1 st hq => exact stable
  | case2 st a q hq ih => exact ih (advance_invariant inv hq) (advance_stable inv stable)

end Proposals

/-! ## 4. No blocking pair -/

/-- The entries of `a`'s list ahead of the slot `t` it holds: those before the first occurrence
of `t`, or the whole list when it holds none. -/
def Preferences.ahead (p : Preferences) (a : ApplicantId) : Option SlotId → List SlotId
  | none => p.list a
  | some t => (p.list a).take ((p.list a).idxOf t)

/-- A slot does not stand ahead of its own first occurrence. -/
theorem not_mem_take_idxOf (l : List SlotId) (t : SlotId) : t ∉ l.take (l.idxOf t) := by
  induction l with
  | nil => simp
  | cons x rest ih =>
    by_cases same : x = t
    · subst same
      simp
    · have other : (x == t) = false := by simpa using same
      rw [List.idxOf_cons, other, cond_false, List.take_succ_cons, List.mem_cons, not_or]
      exact ⟨Ne.symm same, ih⟩

/-- The entries ahead of a passed slot were passed. -/
theorem mem_of_mem_take_idxOf {pre rest : List SlotId} {t s : SlotId} (passed : t ∈ pre)
    (ahead : s ∈ (pre ++ rest).take ((pre ++ rest).idxOf t)) : s ∈ pre := by
  rw [List.idxOf_append, if_pos passed,
    List.take_append_of_le_length (Nat.le_of_lt (List.idxOf_lt_length_of_mem passed))] at ahead
  exact List.mem_of_mem_take ahead

section Final

variable (prefs : Preferences) (caps : Capacities)

theorem final_stable :
    Proposals.Stable prefs caps (Proposals.run prefs caps (Proposals.initial prefs)) :=
  Proposals.run_stable (Proposals.initial_invariant prefs caps)
    (Proposals.initial_stable prefs caps)

/-- Every slot with seats ahead of an applicant's own slot blocks it in the final holdings. -/
theorem stableMatch_ahead_blocks {a : ApplicantId} {s : SlotId}
    (ahead : s ∈ prefs.ahead a ((stableMatch prefs caps).pairs.find? a)) (pos : 0 < caps.seats s) :
    Blocks caps (Proposals.run prefs caps (Proposals.initial prefs)).held s (prefs.rank a s) := by
  have inv := final_invariant prefs caps
  have nodup := final_seated_nodup prefs caps
  obtain ⟨pre, hpre, holdsPassed, passed⟩ := (final_stable prefs caps).blocked a
  rw [stableMatch_pairs] at ahead
  cases paired : (heldPairs (Proposals.run prefs caps (Proposals.initial prefs)).held).find? a with
  | none =>
    rw [paired, Preferences.ahead] at ahead
    have unseated : a ∉ seatedIn (Proposals.run prefs caps (Proposals.initial prefs)).held := by
      rw [← mem_heldPairs_keys_iff nodup, ← Table.find?_eq_none_iff]
      exact paired
    -- outside the queue and unseated, the applicant has passed its whole list
    have known : a ∈ prefs.applicants := by
      by_contra unknown
      have none : prefs.find? a = none := Table.find?_eq_none_iff.mpr unknown
      simp [Preferences.list, Table.findD, none] at ahead
    have exhausted : (Proposals.run prefs caps (Proposals.initial prefs)).pending.findD a [] = [] := by
      rcases inv.settled a known with inRoster | done
      · simp [Proposals.roster, Proposals.run_queue, unseated] at inRoster
      · exact done
    rw [exhausted, List.append_nil] at hpre
    rcases passed s (hpre ▸ ahead) pos with holds | blocked
    · exact absurd (mem_seatedIn_of_holdsAt holds) unseated
    · exact blocked
  | some t =>
    rw [paired, Preferences.ahead] at ahead
    have holdsOwn := (heldPairs_find?_eq_some_iff nodup).mp paired
    rw [hpre] at ahead
    rcases passed s (mem_of_mem_take_idxOf (holdsPassed t holdsOwn) ahead) pos with holds | blocked
    · -- an applicant holds one slot, and its own slot is not ahead of itself
      have same := (heldPairs_find?_eq_some_iff nodup).mpr holds
      rw [paired, Option.some.injEq] at same
      subst same
      exact absurd ahead (not_mem_take_idxOf _ _)
    · exact blocked

/-- Deferred acceptance leaves no blocking pair. Every slot with seats that an applicant lists
ahead of its own slot (anywhere, when it has none) is full, and each of its holders ranks it
at least as well as the applicant. Every pair names a slot its applicant ranked, no slot holds
more applicants than its seats, and no pair is forced. -/
theorem stableMatch_no_blocking_pair :
    (∀ a, ∀ s ∈ prefs.ahead a ((stableMatch prefs caps).pairs.find? a), 0 < caps.seats s →
        ((stableMatch prefs caps).pairs.load s : Int) = caps.seats s ∧
          ∀ h, (stableMatch prefs caps).pairs.find? h = some s → prefs.rank h s ≤ prefs.rank a s) ∧
      (∀ a t, (stableMatch prefs caps).pairs.find? a = some t → 0 < prefs.rank a t) ∧
      (stableMatch prefs caps).pairs.WithinSeats caps ∧
      (stableMatch prefs caps).forced = Table.empty := by
  have nodup := final_seated_nodup prefs caps
  refine ⟨fun a s ahead pos => ?_, fun a t paired => ?_, stableMatch_withinSeats prefs caps,
    stableMatch_forced prefs caps⟩
  · obtain ⟨full, ranks⟩ := stableMatch_ahead_blocks prefs caps ahead pos
    refine ⟨by rw [stableMatch_pairs, heldPairs_load nodup]; exact full, fun h held => ?_⟩
    rw [stableMatch_pairs, heldPairs_find?_eq_some_iff nodup] at held
    obtain ⟨hh, mem, rfl⟩ := held
    rw [← (final_stable prefs caps).ranked s hh mem]
    exact ranks hh mem
  · exact (rankIn_pos_iff _ _).mpr (stableMatch_listed prefs caps paired)

end Final

/-- `A` proposes first and keeps `S1`; `X` ranks `S1` as well as `A` does, so `X` is turned
away and takes `S2`, with `S1` full ahead of it. -/
theorem sharedFirstChoice_no_blocking_pair :
    "S1" ∈ Preferences.ahead ((Table.empty.insert "A" ["S1"]).insert "X" ["S1", "S2"]) "X"
        ((stableMatch ((Table.empty.insert "A" ["S1"]).insert "X" ["S1", "S2"])
          ((Table.empty.insert "S1" 1).insert "S2" 1)).pairs.find? "X") ∧
      0 < Capacities.seats ((Table.empty.insert "S1" 1).insert "S2" 1) "S1" ∧
      ((stableMatch ((Table.empty.insert "A" ["S1"]).insert "X" ["S1", "S2"])
          ((Table.empty.insert "S1" 1).insert "S2" 1)).pairs.load "S1" : Int) =
        Capacities.seats ((Table.empty.insert "S1" 1).insert "S2" 1) "S1" ∧
      ∀ h, (stableMatch ((Table.empty.insert "A" ["S1"]).insert "X" ["S1", "S2"])
          ((Table.empty.insert "S1" 1).insert "S2" 1)).pairs.find? h = some "S1" →
        Preferences.rank ((Table.empty.insert "A" ["S1"]).insert "X" ["S1", "S2"]) h "S1" ≤
          Preferences.rank ((Table.empty.insert "A" ["S1"]).insert "X" ["S1", "S2"]) "X" "S1" :=
  have ahead : "S1" ∈ Preferences.ahead ((Table.empty.insert "A" ["S1"]).insert "X" ["S1", "S2"])
      "X" ((stableMatch ((Table.empty.insert "A" ["S1"]).insert "X" ["S1", "S2"])
        ((Table.empty.insert "S1" 1).insert "S2" 1)).pairs.find? "X") := by decide +kernel
  have pos : 0 < Capacities.seats ((Table.empty.insert "S1" 1).insert "S2" 1) "S1" := by decide
  ⟨ahead, pos, (stableMatch_no_blocking_pair ((Table.empty.insert "A" ["S1"]).insert "X" ["S1", "S2"])
    ((Table.empty.insert "S1" 1).insert "S2" 1)).1 "X" "S1" ahead pos⟩

end SlotAllocation
