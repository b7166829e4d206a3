import Mathlib.Algebra.BigOperators.Ring.Finset
import SlotAllocation.Proofs.DefaultEngine

/-!
# The forced phase fills every free seat

`force` lays the seats left on each slot out in ascending slot order and hands them to the
waiting applicants in turn. Since the applicants waiting after the stable phase are distinct
and hold no slot, the hand-out stops only when the applicants or the seats run out:

1. `handOut_size`, `handOut_load_of_scarce`: the new applicants receive as many seats as
   there are applicants or seats, whichever is fewer; when the seats are the fewer, every
   seat of the pool is taken.
2. `mergeForced_entries_perm`: the forced pairs of applicants without a slot are all kept
   by the merge.
3. `forced_phase_fills_free_seats`: with forced filling on, the built-in engine places
   `min (waiting, free seats)` applicants in the forced phase; if anybody is still waiting,
   every slot is full; and the number placed in all is `min (applicants, seats)`, in exact
   integers.

Capacities are 64-bit words, as the service's integers are; the free seats of a slot are
computed in that arithmetic, which is exact once the stable phase fits the seats.
-/

namespace SlotAllocation

open Pairing

/-! ## 1. Handing out a pool of seats -/

theorem poolAt_le_size (ss : List (SlotId × Nat)) (t : SlotId) :
    poolAt ss t ≤ natSum (ss.map Prod.snd) := by
  induction ss with
  | nil => simp [poolAt]
  | cons p more ih =>
    obtain ⟨s, n⟩ := p
    rw [poolAt_cons, List.map_cons, natSum_cons]
    split <;> omega

section HandOut

variable {out : Pairing} {as : List ApplicantId}

/-- The applicants of `rest` stay new once `a`, which is not among them, gets a slot. -/
theorem fresh_after_insert {a : ApplicantId} {rest : List ApplicantId} (s : SlotId)
    (distinct : (a :: rest).Nodup) (fresh : ∀ b ∈ a :: rest, b ∉ out.keys) :
    ∀ b ∈ rest, b ∉ (out.insert a s).keys := by
  intro b listed inserted
  rcases (Table.mem_keys_insert out a b).mp inserted with rfl | old
  · exact (List.nodup_cons.mp distinct).1 listed
  · exact fresh b (List.mem_cons_of_mem _ listed) old

/-- New applicants, each listed once, receive seats until they or the seats run out. -/
theorem handOut_size (ss : List (SlotId × Nat)) (distinct : as.Nodup)
    (fresh : ∀ a ∈ as, a ∉ out.keys) :
    (handOut out as ss).size = out.size + min as.length (natSum (ss.map Prod.snd)) := by
  fun_induction handOut out as ss with
  | case1 out ss => simp
  | case2 out as => simp
  | case3 out a rest s n more placed ih =>
    exact absurd (Table.contains_iff.mp placed) (fresh a List.mem_cons_self)
  | case4 out a rest s more placed ih =>
    simpa using ih distinct fresh
  | case5 out a rest s more placed n ih =>
    have seated := Table.size_insert_of_not_mem s (fresh a List.mem_cons_self)
    rw [ih (List.nodup_cons.mp distinct).2 (fresh_after_insert s distinct fresh), seated]
    simp only [List.length_cons, List.map_cons, natSum_cons]
    omega

/-- When the seats are no more than the new applicants, every seat of the pool is taken. -/
theorem handOut_load_of_scarce (ss : List (SlotId × Nat)) (distinct : as.Nodup)
    (fresh : ∀ a ∈ as, a ∉ out.keys) (scarce : natSum (ss.map Prod.snd) ≤ as.length)
    (t : SlotId) : (handOut out as ss).load t = out.load t + poolAt ss t := by
  fun_induction handOut out as ss with
  | case1 out ss =>
    have empty := poolAt_le_size ss t
    simp only [List.length_nil] at scarce
    omega
  | case2 out as => simp [poolAt]
  | case3 out a rest s n more placed ih =>
    exact absurd (Table.contains_iff.mp placed) (fresh a List.mem_cons_self)
  | case4 out a rest s more placed ih =>
    rw [poolAt_cons, ih distinct fresh (by simpa using scarce)]
    simp
  | case5 out a rest s more placed n ih =>
    have fewer : natSum (((s, n) :: more).map Prod.snd) ≤ rest.length := by
      simp only [List.map_cons, natSum_cons, List.length_cons] at scarce ⊢
      omega
    rw [ih (List.nodup_cons.mp distinct).2 (fresh_after_insert s distinct fresh) fewer,
      load_insert_of_not_mem s t (fresh a List.mem_cons_self), poolAt_cons, poolAt_cons]
    split <;> omega

end HandOut

section Force

variable (waiting : List ApplicantId) (caps : Capacities) (counts : Counts)

theorem force_pool_size :
    natSum (((caps.slots.map fun s => (s, seatsLeft caps counts s))).map Prod.snd) =
      natSum (caps.slots.map (seatsLeft caps counts)) := by
  rw [List.map_map]
  rfl

/-- `force` places as many waiting applicants as there are applicants or free seats. -/
theorem force_size (distinct : waiting.Nodup) :
    (force waiting caps counts).size =
      min waiting.length (natSum (caps.slots.map (seatsLeft caps counts))) := by
  unfold force
  rw [handOut_size _ distinct (by simp), force_pool_size]
  simp [Table.size]

/-- When the free seats are no more than the waiting applicants, `force` takes them all. -/
theorem force_load_of_scarce (distinct : waiting.Nodup)
    (scarce : natSum (caps.slots.map (seatsLeft caps counts)) ≤ waiting.length)
    {s : SlotId} (listed : s ∈ caps.slots) :
    (force waiting caps counts).load s = seatsLeft caps counts s := by
  unfold force
  rw [handOut_load_of_scarce _ distinct (by simp) (by rwa [force_pool_size]),
    poolAt_slots _ (show caps.slots.Nodup from Table.keys_nodup caps), if_pos listed, load_empty,
    Nat.zero_add]

theorem force_nobody : force [] caps counts = Table.empty := by
  simp [force, handOut]

end Force

/-! ## 2. Merging pairs of applicants without a slot -/

/-- A merge step on a new applicant is an insertion into both tables. -/
theorem mergeFold_fresh_both (l : List (ApplicantId × SlotId)) (acc : Pairing × Pairing)
    (distinct : (l.map Prod.fst).Nodup) (fresh : ∀ a ∈ l.map Prod.fst, a ∉ acc.1.keys) :
    l.foldl mergeStep acc =
      (l.foldl (fun t p => t.insert p.1 p.2) acc.1, l.foldl (fun t p => t.insert p.1 p.2) acc.2) := by
  induction l generalizing acc with
  | nil => rfl
  | cons p rest ih =>
    simp only [List.map_cons, List.nodup_cons, List.mem_cons, forall_eq_or_imp] at distinct fresh
    have step : mergeStep acc p = (acc.1.insert p.1 p.2, acc.2.insert p.1 p.2) := by
      unfold mergeStep
      rw [if_neg (fun placed => fresh.1 (Table.contains_iff.mp placed))]
    rw [List.foldl_cons, List.foldl_cons, List.foldl_cons, step, ih _ distinct.2]
    intro a listed inserted
    rcases (Table.mem_keys_insert acc.1 p.1 a).mp inserted with rfl | old
    · exact distinct.1 listed
    · exact fresh.2 a listed old

theorem mergeFold_fresh (l : List (ApplicantId × SlotId)) (acc : Pairing × Pairing)
    (distinct : (l.map Prod.fst).Nodup) (fresh : ∀ a ∈ l.map Prod.fst, a ∉ acc.1.keys) :
    (l.foldl mergeStep acc).1 = l.foldl (fun t p => t.insert p.1 p.2) acc.1 := by
  rw [mergeFold_fresh_both l acc distinct fresh]

/-- Forced pairs of applicants without a slot are all added, and nothing else changes. -/
theorem mergeForced_entries_perm (r : Result) (forced : Pairing) (prefs : Preferences)
    (fresh : ∀ a ∈ forced.keys, a ∉ r.pairs.keys) :
    (mergeForced (some r) forced prefs).pairs.entries.Perm (r.pairs.entries ++ forced.entries) := by
  rw [mergeForced_eq, summarize_pairs,
    mergeFold_fresh forced.entries (r.pairs, r.forced) (Table.keys_nodup forced) fresh]
  exact Table.entries_foldl_insert_perm _ _ (Table.keys_nodup forced) fresh

/-- The merged pairs of new applicants are all recorded as forced, besides the old records. -/
theorem mergeForced_forced_perm (r : Result) (forced : Pairing) (prefs : Preferences)
    (fresh : ∀ a ∈ forced.keys, a ∉ r.pairs.keys) (unrecorded : ∀ a ∈ forced.keys, a ∉ r.forced.keys) :
    (mergeForced (some r) forced prefs).forced.entries.Perm (r.forced.entries ++ forced.entries) := by
  rw [mergeForced_eq, summarize_forced,
    mergeFold_fresh_both forced.entries (r.pairs, r.forced) (Table.keys_nodup forced) fresh]
  exact Table.entries_foldl_insert_perm _ _ (Table.keys_nodup forced) unrecorded

section Merge

variable {r : Result} {forced : Pairing} (prefs : Preferences)
  (fresh : ∀ a ∈ forced.keys, a ∉ r.pairs.keys)
include fresh

theorem mergeForced_size :
    (mergeForced (some r) forced prefs).pairs.size = r.pairs.size + forced.size := by
  have perm := mergeForced_entries_perm r forced prefs fresh
  simpa [Table.size] using perm.length_eq

theorem mergeForced_load (t : SlotId) :
    (mergeForced (some r) forced prefs).pairs.load t = r.pairs.load t + forced.load t := by
  have perm := (mergeForced_entries_perm r forced prefs fresh).map Prod.snd
  simp only [List.map_append] at perm
  simp [load, Table.values, perm.count_eq, List.count_append]

end Merge

/-! ## 3. Seats and loads -/

/-- Every capacity entry is a signed 64-bit word. -/
def Capacities.Words (caps : Capacities) : Prop := ∀ p ∈ caps.entries, isWord p.2 = true

instance (caps : Capacities) : Decidable caps.Words :=
  inferInstanceAs (Decidable (∀ p ∈ caps.entries, isWord p.2 = true))

theorem Capacities.seats_le_maxWord {caps : Capacities} (words : caps.Words) (s : SlotId) :
    caps.seats s ≤ maxWord := by
  unfold Capacities.seats Table.findD
  cases found : caps.find? s with
  | none => simp [maxWord]
  | some n =>
    have word := words (s, n) (Table.find?_eq_some_iff.mp found)
    simp only [isWord, Bool.and_eq_true, decide_eq_true_eq] at word
    simp only [Option.getD_some]
    split
    · exact word.2
    · simp [maxWord]

/-- A slot that fits its seats has exactly its seats less its load left: the 64-bit
subtraction cannot wrap. -/
theorem seatsLeft_eq {caps : Capacities} {m : Pairing} (words : caps.Words)
    {s : SlotId} (fits : (m.load s : Int) ≤ caps.seats s) :
    (seatsLeft caps m.counts s : Int) = caps.seats s - m.load s := by
  have bounded := caps.seats_le_maxWord words s
  have exact : wrap64 (caps.seats s - m.load s) = caps.seats s - m.load s :=
    wrap64_of_le (by unfold minWord; omega) (by omega)
  unfold seatsLeft
  rw [counts_get, exact]
  omega

theorem sum_indicator_eq_count (l : List SlotId) (v : SlotId) :
    (l.map fun s => if v = s then 1 else 0).sum = l.count v := by
  induction l with
  | nil => simp
  | cons x rest ih =>
    rw [List.map_cons, List.sum_cons, ih, List.count_cons]
    by_cases same : v = x
    · simp [same]
      omega
    · simp [same, Ne.symm same]

/-- A slot without seats holds nobody in a pairing that fits the seats, so the loads of the
slots with an entry add up to all the pairs. -/
theorem sum_load_slots {caps : Capacities} {m : Pairing} (fits : m.WithinSeats caps) :
    (caps.slots.map m.load).sum = m.size := by
  have covered : ∀ v ∈ m.values, v ∈ caps.slots := by
    intro v held
    by_contra unlisted
    have noSeats : caps.seats v = 0 := by
      have absent : caps.find? v = none := Table.find?_eq_none_iff.mpr unlisted
      simp [Capacities.seats, Table.findD, absent]
    have loaded : 0 < m.load v := List.count_pos_iff.mpr held
    have := fits v
    omega
  have counted : ∀ vs : List SlotId, (∀ v ∈ vs, v ∈ caps.slots) →
      (caps.slots.map fun s => vs.count s).sum = vs.length := by
    intro vs
    induction vs with
    | nil => simp
    | cons v rest ih =>
      intro listed
      simp only [List.mem_cons, forall_eq_or_imp] at listed
      have once : (caps.slots.map fun s => if v = s then 1 else 0).sum = 1 := by
        rw [sum_indicator_eq_count,
          List.count_eq_one_of_mem (show caps.slots.Nodup from Table.keys_nodup caps) listed.1]
      simp only [List.count_cons, beq_iff_eq, List.sum_map_add, ih listed.2, once,
        List.length_cons]
  calc (caps.slots.map m.load).sum = (caps.slots.map fun s => m.values.count s).sum := rfl
    _ = m.values.length := counted m.values covered
    _ = m.size := by simp [Table.values, Table.size]

/-! ## 4. The forced phase on a result that fits the seats -/

section Stage

variable {prefs : Preferences} (caps : Capacities) {r : Result}
  (summarized : Summarized prefs r)
include summarized

theorem Summarized.waiting_nodup : r.waiting.Nodup := by
  rw [summarized.waiting]
  exact (show prefs.applicants.Nodup from Table.keys_nodup prefs).filter _

theorem Summarized.waiting_unplaced {a : ApplicantId} (waiting : a ∈ r.waiting) :
    a ∉ r.pairs.keys := by
  rw [summarized.waiting, List.mem_filter] at waiting
  exact fun placed => by simp [Table.contains_iff.mpr placed] at waiting

/-- With forced filling on, the forced phase merges what `force` hands out; when nobody
waits, `force` hands out nothing and the merge gives the result back. -/
theorem forceStage_true_eq :
    forceStage prefs caps true r = mergeForced (some r) (force r.waiting caps r.pairs.counts) prefs := by
  unfold forceStage
  split
  · rfl
  · rename_i idle
    have nobody : r.waiting = [] := by simpa using idle
    rw [nobody, force_nobody]
    exact summarized.symm

theorem force_fresh : ∀ a ∈ (force r.waiting caps r.pairs.counts).keys, a ∉ r.pairs.keys :=
  fun _ handed => summarized.waiting_unplaced (force_key _ _ _ handed)

/-- The forced phase places as many applicants as wait or as there are free seats. -/
theorem forceStage_true_size :
    (forceStage prefs caps true r).pairs.size =
      r.pairs.size + min r.waiting.length (natSum (caps.slots.map (seatsLeft caps r.pairs.counts))) := by
  rw [forceStage_true_eq caps summarized, mergeForced_size prefs (force_fresh caps summarized),
    force_size _ _ _ summarized.waiting_nodup]

/-- When the free seats are no more than the waiting applicants, the forced phase fills every
slot to its seats. -/
theorem forceStage_true_full (words : caps.Words) (fits : r.pairs.WithinSeats caps)
    (scarce : natSum (caps.slots.map (seatsLeft caps r.pairs.counts)) ≤ r.waiting.length)
    {s : SlotId} (listed : s ∈ caps.slots) :
    ((forceStage prefs caps true r).pairs.load s : Int) = caps.seats s := by
  rw [forceStage_true_eq caps summarized, mergeForced_load prefs (force_fresh caps summarized),
    force_load_of_scarce _ _ _ summarized.waiting_nodup scarce listed]
  have left := seatsLeft_eq words (fits s)
  push_cast
  omega

end Stage

/-- The free seats of a pairing that fits the seats, counted in 64-bit words, are the seats
less the load, summed in exact integers. -/
theorem freeSeats_eq {caps : Capacities} {m : Pairing} (words : caps.Words)
    (fits : m.WithinSeats caps) :
    (natSum (caps.slots.map (seatsLeft caps m.counts)) : Int) =
      (caps.slots.map fun s => caps.seats s - m.load s).sum := by
  rw [show natSum (caps.slots.map (seatsLeft caps m.counts)) =
      (caps.slots.map (seatsLeft caps m.counts)).sum from rfl, Nat.cast_list_sum, List.map_map]
  exact congrArg List.sum (List.map_congr_left fun s _ => seatsLeft_eq words (fits s))

/-- Summed over the slots, the free seats and the load make up the seats. -/
theorem freeSeats_add_size {caps : Capacities} {m : Pairing} (fits : m.WithinSeats caps) :
    (caps.slots.map fun s => caps.seats s - m.load s).sum + m.size = (caps.slots.map caps.seats).sum := by
  have loads := congrArg (Nat.cast : Nat → Int) (sum_load_slots fits)
  rw [Nat.cast_list_sum, List.map_map] at loads
  rw [← loads, ← List.sum_map_add]
  simp

/-! ## 5. The built-in engine with forced filling -/

/-- Labelling a result from scratch counts each of its applicants. -/
theorem labelNew_empty_count (r : Result) (phase : Phase) :
    (labelNew Table.empty r phase).2 = r.pairs.size := by
  have sized := labelNew_size Table.empty r phase
  have same : (labelNew Table.empty r phase).1.size = r.pairs.size :=
    Table.size_eq_of_keys_iff fun a => by simp [labelNew_keys]
  rw [same] at sized
  simpa [Table.size] using sized.symm

section Default

variable (prefs : Preferences) (caps : Capacities)

/-- The forced phase places exactly the applicants it adds to the matcher's pairs. -/
theorem defaultOutcome_forcedAssigned (forceFill : Bool) :
    (stagedOutcome prefs caps forceFill (stableMatch prefs caps)).forcedAssigned + (stableMatch prefs caps).pairs.size =
      (forceStage prefs caps forceFill (stableMatch prefs caps)).pairs.size := by
  have counted := stagedOutcome_counts prefs caps forceFill (stableMatch prefs caps)
  rw [defaultOutcome_eq] at counted ⊢
  simp only [labelNew_empty_count] at counted ⊢
  omega

/-- If anybody still waits after the forced phase of the built-in engine, every slot holds
exactly its seats. -/
theorem forceStage_full_of_waiting (words : caps.Words)
    (waiting : (forceStage prefs caps true (stableMatch prefs caps)).waiting ≠ [])
    {s : SlotId} (listed : s ∈ caps.slots) :
    ((forceStage prefs caps true (stableMatch prefs caps)).pairs.load s : Int) = caps.seats s := by
  have summarized := stableMatch_summarized prefs caps
  have sized := forceStage_true_size caps summarized
  -- the applicants split into the placed and the waiting, before and after the phase
  have before := summarize_tally _ prefs (fun _ => stableMatch_placed_known prefs caps)
  have after := summarize_tally _ prefs (forceStage_known prefs caps true summarized
    (fun _ => stableMatch_placed_known prefs caps))
  rw [← summarized.waiting] at before
  rw [← (forceStage_summarized prefs caps true summarized).waiting] at after
  -- somebody still waits, so the free seats were fewer than the waiting applicants
  have scarce : natSum (caps.slots.map (seatsLeft caps (stableMatch prefs caps).pairs.counts)) ≤
      (stableMatch prefs caps).waiting.length := by
    have somebody := List.length_pos_iff.mpr waiting
    omega
  exact forceStage_true_full caps summarized words (stableMatch_withinSeats prefs caps) scarce listed

/-- With forced filling on, the built-in engine places `min (waiting, free seats)` applicants
in the forced phase, the free seats of a slot being its seats less its load before that
phase. If anybody still waits afterwards, every slot holds exactly its seats; and the
applicants placed in all are as many as there are applicants or seats, whichever is fewer,
counted in exact integers. -/
theorem forced_phase_fills_free_seats (words : caps.Words) :
    ∃ o, runDefault prefs caps true = .ok o ∧
      (o.forcedAssigned : Int) =
        min ((cascadeStage prefs caps (stableMatch prefs caps)).waiting.length : Int)
          (caps.slots.map fun s =>
            caps.seats s - (cascadeStage prefs caps (stableMatch prefs caps)).pairs.load s).sum ∧
      (o.result.waiting ≠ [] → ∀ s ∈ caps.slots, (o.result.pairs.load s : Int) = caps.seats s) ∧
      o.result.assignedCount = min (prefs.size : Int) (caps.slots.map caps.seats).sum := by
  have summarized := stableMatch_summarized prefs caps
  have fits := stableMatch_withinSeats prefs caps
  have placed := defaultOutcome_forcedAssigned prefs caps true
  have sized := forceStage_true_size caps summarized
  have free := freeSeats_eq words fits
  have total := freeSeats_add_size fits
  -- the applicants split into the placed and the waiting, before and after the phase
  have before := summarize_tally _ prefs (fun _ => stableMatch_placed_known prefs caps)
  have after := summarize_tally _ prefs (forceStage_known prefs caps true summarized
    (fun _ => stableMatch_placed_known prefs caps))
  rw [← summarized.waiting] at before
  rw [← (forceStage_summarized prefs caps true summarized).waiting] at after
  refine ⟨_, runDefault_eq prefs caps true, ?_, ?_, ?_⟩
  · rw [cascadeStage_stableMatch, ← free]
    omega
  · intro waiting s listed
    rw [defaultOutcome_result] at waiting ⊢
    exact forceStage_full_of_waiting prefs caps words waiting listed
  · rw [defaultOutcome_result, (forceStage_summarized prefs caps true summarized).assignedCount]
    omega

/-- One slot with two seats, one applicant ranking it and one ranking nothing: the
capacities are words, so the theorem applies. -/
theorem twoSeat_forced_phase :
    Capacities.Words (Table.empty.insert "S" 2) ∧
      ∃ o, runDefault ((Table.empty.insert "A" ["S"]).insert "B" []) (Table.empty.insert "S" 2)
          true = .ok o ∧
        (o.forcedAssigned : Int) =
          min ((cascadeStage ((Table.empty.insert "A" ["S"]).insert "B" []) (Table.empty.insert "S" 2)
              (stableMatch ((Table.empty.insert "A" ["S"]).insert "B" [])
                (Table.empty.insert "S" 2))).waiting.length : Int)
            ((Capacities.slots (Table.empty.insert "S" 2)).map fun s =>
              Capacities.seats (Table.empty.insert "S" 2) s -
                (cascadeStage ((Table.empty.insert "A" ["S"]).insert "B" []) (Table.empty.insert "S" 2)
                  (stableMatch ((Table.empty.insert "A" ["S"]).insert "B" [])
                    (Table.empty.insert "S" 2))).pairs.load s).sum ∧
        (o.result.waiting ≠ [] → ∀ s ∈ Capacities.slots (Table.empty.insert "S" 2),
          (o.result.pairs.load s : Int) = Capacities.seats (Table.empty.insert "S" 2) s) ∧
        o.result.assignedCount =
          min ((Table.size ((Table.empty.insert "A" ["S"]).insert "B" [])) : Int)
            ((Capacities.slots (Table.empty.insert "S" 2)).map
              (Capacities.seats (Table.empty.insert "S" 2))).sum :=
  have words : Capacities.Words (Table.empty.insert "S" 2) := by decide
  ⟨words, forced_phase_fills_free_seats _ _ words⟩

end Default

end SlotAllocation
