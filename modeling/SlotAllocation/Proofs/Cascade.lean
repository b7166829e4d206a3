import SlotAllocation.Assignment.Cascade
import SlotAllocation.Proofs.DeferredAcceptance

/-!
# The cascade phase

The cascade walks the waiting list once and places each applicant on the first slot of its
list whose running count is below the seats. `placeGreedily_cases` says what one visit can
do; the fold lemmas follow from it by induction over the waiting list.

1. `cascade_extends`: every earlier pair is kept.
2. `cascade_new_pair`: a new pair belongs to a waiting applicant and names a slot of its list.
3. `cascade_withinSeats`: when the counts start from the pairs, a result within the seats
   stays within them.
4. `cascade_after_stableMatch`: after deferred acceptance there is nothing left to place, so
   the cascade gives back the very same result.
5. `cascade_greedy_extension`: against any counts, a slot gains at most the seats its count
   leaves (`cascade_added_load_le`), and a waiting applicant passed over finds every slot of
   its list counted full at the end (`cascade_unplaced_full`); `Counted` is the invariant of
   the running counts that carries both.
-/

namespace SlotAllocation

open Pairing

/-- A visit leaves the accumulator alone, or places an applicant without a slot on the first
slot of its list with a free seat. -/
theorem placeGreedily_cases (prefs : Preferences) (caps : Capacities) (acc : Pairing × Counts)
    (a : ApplicantId) :
    placeGreedily prefs caps acc a = acc ∨
      ∃ s, a ∉ acc.1.keys ∧
        (prefs.list a).find? (fun s => decide (acc.2.get s < caps.seats s)) = some s ∧
        placeGreedily prefs caps acc a = (acc.1.insert a s, acc.2.bump s) := by
  unfold placeGreedily
  by_cases placed : acc.1.contains a = true
  · exact Or.inl (if_pos placed)
  · rw [if_neg placed]
    cases found : (prefs.list a).find? (fun s => decide (acc.2.get s < caps.seats s)) with
    | none => exact Or.inl rfl
    | some s => exact Or.inr ⟨s, fun hk => placed (Table.contains_iff.mpr hk), rfl, rfl⟩

theorem Counts.get_bump (c : Counts) (s t : SlotId) :
    (c.bump s).get t = c.get t + if s = t then 1 else 0 := by
  by_cases same : t = s
  · subst same
    simp [Counts.bump, Counts.get, Table.findD_insert]
  · simp [Counts.bump, Counts.get, Table.findD_insert, same, Ne.symm same]

section Visit

variable {prefs : Preferences} {caps : Capacities}

/-- The running counts are the loads of the pairs so far, and these fit the seats. -/
structure Tracked (caps : Capacities) (acc : Pairing × Counts) : Prop where
  synced : ∀ s, acc.2.get s = acc.1.load s
  within : acc.1.WithinSeats caps

theorem placeGreedily_tracked {acc : Pairing × Counts} (a : ApplicantId)
    (tracked : Tracked caps acc) : Tracked caps (placeGreedily prefs caps acc a) := by
  rcases placeGreedily_cases prefs caps acc a with same | ⟨s, fresh, found, placed⟩
  · rwa [same]
  rw [placed]
  have room : acc.2.get s < caps.seats s := by simpa using List.find?_some found
  constructor
  · intro t
    rw [Counts.get_bump, load_insert_of_not_mem s t fresh, tracked.synced t]
    split <;> simp
  · intro t
    rw [load_insert_of_not_mem s t fresh]
    by_cases ht : s = t
    · subst ht
      have := tracked.synced s
      simp only [if_true]
      push_cast
      omega
    · simpa [ht] using tracked.within t

end Visit

section Fold

variable {prefs : Preferences} {caps : Capacities}

theorem cascadeFold_extends (l : List ApplicantId) (acc : Pairing × Counts) :
    (l.foldl (placeGreedily prefs caps) acc).1.Extends acc.1 := by
  induction l generalizing acc with
  | nil => exact Extends.refl _
  | cons a rest ih =>
    refine Extends.trans ?_ (ih _)
    rcases placeGreedily_cases prefs caps acc a with
      same | ⟨s, fresh, _, placed⟩
    · rw [same]
      exact Extends.refl _
    · rw [placed]
      intro b t hb
      have hne : b ≠ a := fun e => fresh (e ▸ Table.mem_keys_iff.mpr ⟨t, hb⟩)
      simpa [hne] using hb

theorem cascadeFold_new_pair (l : List ApplicantId) (acc : Pairing × Counts)
    {a : ApplicantId} {s : SlotId} (paired : (l.foldl (placeGreedily prefs caps) acc).1.find? a = some s) :
    acc.1.find? a = some s ∨ (a ∈ l ∧ s ∈ prefs.list a) := by
  induction l generalizing acc with
  | nil => exact Or.inl paired
  | cons b rest ih =>
    rcases ih _ paired with earlier | later
    · rcases placeGreedily_cases prefs caps acc b with
        same | ⟨t, _, found, placed⟩
      · rw [same] at earlier
        exact Or.inl earlier
      · rw [placed, Table.find?_insert] at earlier
        split at earlier
        · rename_i hab
          cases earlier
          exact Or.inr ⟨hab ▸ List.mem_cons_self, hab ▸ List.mem_of_find?_eq_some found⟩
        · exact Or.inl earlier
    · exact Or.inr ⟨List.mem_cons_of_mem _ later.1, later.2⟩

theorem cascadeFold_tracked (l : List ApplicantId) {acc : Pairing × Counts}
    (tracked : Tracked caps acc) : Tracked caps (l.foldl (placeGreedily prefs caps) acc) := by
  induction l generalizing acc with
  | nil => exact tracked
  | cons a rest ih => exact ih (placeGreedily_tracked a tracked)

/-- Applicants that are placed already or find no free seat leave the accumulator alone. -/
theorem cascadeFold_idle (l : List ApplicantId) (acc : Pairing × Counts)
    (nothingFree : ∀ a ∈ l, a ∉ acc.1.keys → ∀ s ∈ prefs.list a, caps.seats s ≤ acc.2.get s) :
    l.foldl (placeGreedily prefs caps) acc = acc := by
  induction l with
  | nil => rfl
  | cons a rest ih =>
    rw [List.foldl_cons]
    have idle : placeGreedily prefs caps acc a = acc := by
      rcases placeGreedily_cases prefs caps acc a with
        same | ⟨s, fresh, found, _⟩
      · exact same
      · have room : acc.2.get s < caps.seats s := by simpa using List.find?_some found
        have full := nothingFree a List.mem_cons_self fresh s (List.mem_of_find?_eq_some found)
        omega
    rw [idle]
    exact ih (fun b hb => nothingFree b (List.mem_cons_of_mem _ hb))

end Fold

section Phase

variable (prefs : Preferences) (caps : Capacities) (r : Result)

/-- The cascade phase is a fold of visits over the waiting list. -/
theorem cascade_eq (counts : Option Counts) :
    cascade (some r) prefs caps counts =
      summarize (r.waiting.foldl (placeGreedily prefs caps)
        (r.pairs, counts.getD r.pairs.counts)).1 r.forced prefs := rfl

@[simp] theorem cascade_forced (counts : Option Counts) :
    (cascade (some r) prefs caps counts).forced = r.forced := rfl

theorem cascade_extends (counts : Option Counts) :
    (cascade (some r) prefs caps counts).pairs.Extends r.pairs := by
  rw [cascade_eq, summarize_pairs]
  exact cascadeFold_extends r.waiting _

theorem cascade_new_pair (counts : Option Counts) {a : ApplicantId} {s : SlotId}
    (paired : (cascade (some r) prefs caps counts).pairs.find? a = some s) :
    r.pairs.find? a = some s ∨ (a ∈ r.waiting ∧ s ∈ prefs.list a) := by
  rw [cascade_eq, summarize_pairs] at paired
  exact cascadeFold_new_pair r.waiting _ paired

/-- With the counts taken from the pairs, a result within the seats stays within them. -/
theorem cascade_withinSeats (fits : r.pairs.WithinSeats caps) :
    (cascade (some r) prefs caps none).pairs.WithinSeats caps := by
  rw [cascade_eq, summarize_pairs, Option.getD_none]
  exact (cascadeFold_tracked r.waiting ⟨fun s => counts_get r.pairs s, fits⟩).within

/-- When no waiting applicant without a slot finds a free seat on its list, the cascade only
summarizes the result again. -/
theorem cascade_of_nothing_free
    (nothingFree : ∀ a ∈ r.waiting, a ∉ r.pairs.keys →
      ∀ s ∈ prefs.list a, caps.seats s ≤ r.pairs.load s) :
    cascade (some r) prefs caps none = summarize r.pairs r.forced prefs := by
  rw [cascade_eq, Option.getD_none, cascadeFold_idle]
  intro a waiting unplaced s listed
  rw [counts_get]
  exact nothingFree a waiting unplaced s listed

end Phase

theorem stableMatch_summarized (prefs : Preferences) (caps : Capacities) :
    Summarized prefs (stableMatch prefs caps) := rfl

/-- After deferred acceptance the cascade finds nothing to do: it gives back the same result. -/
theorem cascade_after_stableMatch (prefs : Preferences) (caps : Capacities) :
    cascade (some (stableMatch prefs caps)) prefs caps none = stableMatch prefs caps := by
  rw [cascade_of_nothing_free]
  · exact stableMatch_summarized prefs caps
  · intro a waiting unplaced s listed
    rw [(stableMatch_summarized prefs caps).waiting, List.mem_filter] at waiting
    by_cases pos : 0 < caps.seats s
    · exact Int.le_of_eq (stableMatch_unplaced_full prefs caps waiting.1 unplaced listed pos).symm
    · have : ((stableMatch prefs caps).pairs.load s : Int) ≥ 0 := Int.natCast_nonneg _
      omega

/-! ## The cascade against any counts

A caller may pass counts of its own, which need not be the loads of the pairs. `Counted`
relates the running counts to the pairs placed since the start; the greedy choice then bounds
the new pairs of every slot by the seats those counts leave, and an applicant the cascade passes
over finds every slot of its list counted full at the end. Values are never changed in place,
so the result, counts and preferences handed to the cascade stay as they were.
-/

namespace Pairing

/-- The pairs of `m'` whose applicant `m` leaves without a slot. -/
def added (m' m : Pairing) : Pairing := m'.filter fun a _ => !m.contains a

theorem find?_added {m' m : Pairing} {a : ApplicantId} {s : SlotId} :
    (m'.added m).find? a = some s ↔ m'.find? a = some s ∧ a ∉ m.keys := by
  rw [Table.find?_eq_some_iff, Table.find?_eq_some_iff, ← Table.contains_iff]
  simp [added, Table.filter]

/-- Over a pairing it extends, the load of a slot is its old load and its new pairs. -/
theorem load_added {m' m : Pairing} (ext : m'.Extends m) (s : SlotId) :
    m'.load s = m.load s + (m'.added m).load s := by
  -- the entries of `m'` whose applicant `m` places are exactly the entries of `m`
  have kept : (m'.entries.filter fun p => m.contains p.1).Perm m.entries := by
    apply (List.perm_ext_iff_of_nodup ((m'.keys_nodup.of_map _).filter _)
      (m.keys_nodup.of_map _)).mpr
    rintro ⟨a, t⟩
    rw [List.mem_filter, ← Table.find?_eq_some_iff, ← Table.find?_eq_some_iff, Table.contains_iff]
    constructor
    · rintro ⟨paired, placed⟩
      obtain ⟨t', old⟩ := Table.mem_keys_iff.mp placed
      rw [ext a t' old] at paired
      rwa [← Option.some.inj paired]
    · intro old
      exact ⟨ext a t old, Table.mem_keys_iff.mpr ⟨t, old⟩⟩
  have split := ((List.filter_append_perm (fun p => m.contains p.1) m'.entries).map Prod.snd).count_eq s
  unfold load Table.values
  rw [← split, List.map_append, List.count_append, (kept.map Prod.snd).count_eq]
  rfl

end Pairing

section Counted

variable {prefs : Preferences} {caps : Capacities}

/-- The running counts started at `c0` over the pairs `start`: each has grown by the new pairs
of its slot, and none has passed both the seats and its start. -/
structure Counted (caps : Capacities) (start : Pairing) (c0 : Counts) (acc : Pairing × Counts) :
    Prop where
  running : ∀ s, acc.2.get s + start.load s = c0.get s + acc.1.load s
  bounded : ∀ s, acc.2.get s ≤ max (caps.seats s) (c0.get s)

theorem counted_start (start : Pairing) (c0 : Counts) : Counted caps start c0 (start, c0) :=
  ⟨fun _ => rfl, fun _ => Int.le_max_right _ _⟩

theorem placeGreedily_counted {start : Pairing} {c0 : Counts} {acc : Pairing × Counts}
    (a : ApplicantId) (counted : Counted caps start c0 acc) :
    Counted caps start c0 (placeGreedily prefs caps acc a) := by
  rcases placeGreedily_cases prefs caps acc a with same | ⟨s, fresh, found, placed⟩
  · rwa [same]
  rw [placed]
  have room : acc.2.get s < caps.seats s := by simpa using List.find?_some found
  constructor
  · intro t
    have before := counted.running t
    rw [Counts.get_bump, load_insert_of_not_mem s t fresh]
    split <;> push_cast <;> omega
  · intro t
    have before := counted.bounded t
    rw [Counts.get_bump]
    split
    · subst_vars
      omega
    · omega

theorem cascadeFold_counted (l : List ApplicantId) {start : Pairing} {c0 : Counts}
    {acc : Pairing × Counts} (counted : Counted caps start c0 acc) :
    Counted caps start c0 (l.foldl (placeGreedily prefs caps) acc) := by
  induction l generalizing acc with
  | nil => exact counted
  | cons a rest ih => exact ih (placeGreedily_counted a counted)

/-- Running counts never fall. -/
theorem cascadeFold_get_le (l : List ApplicantId) (acc : Pairing × Counts) (s : SlotId) :
    acc.2.get s ≤ (l.foldl (placeGreedily prefs caps) acc).2.get s := by
  induction l generalizing acc with
  | nil => exact Int.le_refl _
  | cons a rest ih =>
    refine Int.le_trans ?_ (ih _)
    rcases placeGreedily_cases prefs caps acc a with same | ⟨t, _, _, placed⟩
    · exact Int.le_of_eq (by rw [same])
    · rw [placed, Counts.get_bump]
      split <;> omega

/-- A visit that leaves its applicant without a slot changes nothing, and found every slot of
its list counted full. -/
theorem placeGreedily_unplaced {acc : Pairing × Counts} {a : ApplicantId}
    (unplaced : a ∉ (placeGreedily prefs caps acc a).1.keys) :
    placeGreedily prefs caps acc a = acc ∧ ∀ s ∈ prefs.list a, caps.seats s ≤ acc.2.get s := by
  unfold placeGreedily at unplaced ⊢
  split
  · rename_i placed
    rw [if_pos placed] at unplaced
    exact absurd (Table.contains_iff.mp placed) unplaced
  · rename_i fresh
    rw [if_neg fresh] at unplaced
    split
    · rename_i s found
      rw [found] at unplaced
      exact absurd ((Table.mem_keys_insert _ _ _).mpr (Or.inl rfl)) unplaced
    · rename_i none
      refine ⟨rfl, fun s listed => ?_⟩
      have refused := List.find?_eq_none.mp none s listed
      simpa using refused

/-- Every visited applicant left without a slot finds every slot of its list counted full at
the end. -/
theorem cascadeFold_unplaced_full (l : List ApplicantId) (acc : Pairing × Counts)
    {a : ApplicantId} (visited : a ∈ l)
    (unplaced : a ∉ (l.foldl (placeGreedily prefs caps) acc).1.keys) :
    ∀ s ∈ prefs.list a, caps.seats s ≤ (l.foldl (placeGreedily prefs caps) acc).2.get s := by
  induction l generalizing acc with
  | nil => simp at visited
  | cons b rest ih =>
    rw [List.foldl_cons] at unplaced ⊢
    by_cases later : a ∈ rest
    · exact ih _ later unplaced
    · have same : a = b := by simpa [later] using visited
      subst same
      -- the visit placed nobody, and the counts it saw only grew afterwards
      have after : placeGreedily prefs caps acc a = acc ∧
          ∀ s ∈ prefs.list a, caps.seats s ≤ acc.2.get s :=
        placeGreedily_unplaced (fun placed => unplaced ((cascadeFold_extends rest _).keys placed))
      intro s listed
      rw [after.1]
      exact Int.le_trans (after.2 s listed) (cascadeFold_get_le rest acc s)

end Counted

section Extension

variable (prefs : Preferences) (caps : Capacities) (r : Result) (counts : Option Counts)

/-- The running counts of the cascade over `r`'s waiting list. -/
theorem cascade_counted :
    Counted caps r.pairs (counts.getD r.pairs.counts)
      (r.waiting.foldl (placeGreedily prefs caps) (r.pairs, counts.getD r.pairs.counts)) :=
  cascadeFold_counted r.waiting (counted_start r.pairs _)

/-- The new pairs of a slot are what its running count gained. -/
theorem cascade_added_load (s : SlotId) :
    (((cascade (some r) prefs caps counts).pairs.added r.pairs).load s : Int) +
        (counts.getD r.pairs.counts).get s =
      (r.waiting.foldl (placeGreedily prefs caps) (r.pairs, counts.getD r.pairs.counts)).2.get s := by
  have counted := (cascade_counted prefs caps r counts).running s
  have split := load_added (cascade_extends prefs caps r counts) s
  rw [cascade_eq, summarize_pairs] at split ⊢
  omega

/-- A new pair belongs to a waiting applicant and names a slot of its list. -/
theorem cascade_added_new {a : ApplicantId} {s : SlotId}
    (paired : ((cascade (some r) prefs caps counts).pairs.added r.pairs).find? a = some s) :
    a ∈ r.waiting ∧ s ∈ prefs.list a := by
  obtain ⟨paired, fresh⟩ := find?_added.mp paired
  rcases cascade_new_pair prefs caps r counts paired with old | placed
  · exact absurd (Table.mem_keys_iff.mpr ⟨s, old⟩) fresh
  · exact placed

/-- A slot gains at most the seats its start count leaves. -/
theorem cascade_added_load_le (s : SlotId) :
    (((cascade (some r) prefs caps counts).pairs.added r.pairs).load s : Int) ≤
      max (caps.seats s - (counts.getD r.pairs.counts).get s) 0 := by
  have gained := cascade_added_load prefs caps r counts s
  have bounded := (cascade_counted prefs caps r counts).bounded s
  omega

/-- A waiting applicant the cascade leaves without a slot finds every slot of its list counted
full, its new pairs included. -/
theorem cascade_unplaced_full {a : ApplicantId} (waiting : a ∈ r.waiting)
    (unplaced : a ∉ (cascade (some r) prefs caps counts).pairs.keys) {s : SlotId}
    (listed : s ∈ prefs.list a) :
    caps.seats s ≤ (counts.getD r.pairs.counts).get s +
      ((cascade (some r) prefs caps counts).pairs.added r.pairs).load s := by
  have gained := cascade_added_load prefs caps r counts s
  rw [cascade_eq, summarize_pairs] at unplaced
  have full := cascadeFold_unplaced_full r.waiting _ waiting unplaced s listed
  omega

end Extension

/-- A missing result is read as the blank one. -/
theorem cascade_getD (prefs : Preferences) (caps : Capacities) (r : Option Result)
    (counts : Option Counts) :
    cascade r prefs caps counts = cascade (some (r.getD Result.blank)) prefs caps counts := by
  cases r <;> rfl

/-- A missing result passes the capacity check, as the blank one does. -/
theorem checkCapacity_getD (r : Option Result) (caps : Capacities) :
    checkCapacity r caps = checkCapacity (some (r.getD Result.blank)) caps := by
  cases r <;> rfl

/-- The cascade is a greedy extension that respects the seats its counts leave. From a result
`r` (a missing one read as blank) and counts (the loads of `r`'s pairs when none are given):
every pair of `r` is kept; a new pair belongs to a waiting applicant and names a slot of its
list; a slot gains at most its seats less its count; a waiting applicant left without a slot
finds every slot of its list counted full, new pairs included; the forced pairs are those of
`r`. Hence, with the counts taken from the pairs, a result that fits the seats still fits. -/
theorem cascade_greedy_extension (prefs : Preferences) (caps : Capacities) (r : Option Result)
    (counts : Option Counts) :
    (cascade r prefs caps counts).pairs.Extends (r.getD Result.blank).pairs ∧
      (∀ a s, ((cascade r prefs caps counts).pairs.added (r.getD Result.blank).pairs).find? a =
          some s → a ∈ (r.getD Result.blank).waiting ∧ s ∈ prefs.list a) ∧
      (∀ s, (((cascade r prefs caps counts).pairs.added (r.getD Result.blank).pairs).load s : Int) ≤
          max (caps.seats s - (counts.getD (r.getD Result.blank).pairs.counts).get s) 0) ∧
      (∀ a ∈ (r.getD Result.blank).waiting, a ∉ (cascade r prefs caps counts).pairs.keys →
        ∀ s ∈ prefs.list a, caps.seats s ≤
          (counts.getD (r.getD Result.blank).pairs.counts).get s +
            ((cascade r prefs caps counts).pairs.added (r.getD Result.blank).pairs).load s) ∧
      (cascade r prefs caps counts).forced = (r.getD Result.blank).forced ∧
      (checkCapacity r caps = none → checkCapacity (some (cascade r prefs caps none)) caps = none) := by
  rw [cascade_getD prefs caps r counts, cascade_getD prefs caps r none, checkCapacity_getD]
  generalize r.getD Result.blank = r0
  refine ⟨cascade_extends prefs caps r0 counts, fun a s paired => cascade_added_new prefs caps r0
    counts paired, cascade_added_load_le prefs caps r0 counts, fun a waiting unplaced s listed =>
    cascade_unplaced_full prefs caps r0 counts waiting unplaced listed, rfl, fun fits => ?_⟩
  rw [checkCapacity_eq_none_iff] at fits ⊢
  exact cascade_withinSeats prefs caps r0 fits

/-- Two waiting applicants who both rank `S1` first, `a` also `S2`: visited in ascending order,
`a` takes `S1` and `b` is passed over, `S1` being counted full; the seats still fit. -/
theorem waitingPair_cascade :
    "b" ∈ Result.waiting ⟨some Table.empty, Table.empty, some ["a", "b"], 0, 0, none, []⟩ ∧
      "b" ∉ (cascade (some ⟨some Table.empty, Table.empty, some ["a", "b"], 0, 0, none, []⟩)
        ((Table.empty.insert "a" ["S1", "S2"]).insert "b" ["S1"])
        ((Table.empty.insert "S1" 1).insert "S2" 1) none).pairs.keys ∧
      Capacities.seats ((Table.empty.insert "S1" 1).insert "S2" 1) "S1" ≤
        Counts.get (Pairing.counts Table.empty) "S1" +
          ((cascade (some ⟨some Table.empty, Table.empty, some ["a", "b"], 0, 0, none, []⟩)
            ((Table.empty.insert "a" ["S1", "S2"]).insert "b" ["S1"])
            ((Table.empty.insert "S1" 1).insert "S2" 1) none).pairs.added Table.empty).load "S1" ∧
      checkCapacity (some ⟨some Table.empty, Table.empty, some ["a", "b"], 0, 0, none, []⟩)
        ((Table.empty.insert "S1" 1).insert "S2" 1) = none ∧
      checkCapacity (some (cascade (some ⟨some Table.empty, Table.empty, some ["a", "b"], 0, 0, none, []⟩)
        ((Table.empty.insert "a" ["S1", "S2"]).insert "b" ["S1"])
        ((Table.empty.insert "S1" 1).insert "S2" 1) none))
        ((Table.empty.insert "S1" 1).insert "S2" 1) = none :=
  have waiting : "b" ∈ Result.waiting
      ⟨some Table.empty, Table.empty, some ["a", "b"], 0, 0, none, []⟩ := by decide
  have unplaced : "b" ∉ (cascade (some ⟨some Table.empty, Table.empty, some ["a", "b"], 0, 0, none, []⟩)
      ((Table.empty.insert "a" ["S1", "S2"]).insert "b" ["S1"])
      ((Table.empty.insert "S1" 1).insert "S2" 1) none).pairs.keys := by decide
  have fits : checkCapacity (some ⟨some Table.empty, Table.empty, some ["a", "b"], 0, 0, none, []⟩)
      ((Table.empty.insert "S1" 1).insert "S2" 1) = none := by decide
  have extension := cascade_greedy_extension ((Table.empty.insert "a" ["S1", "S2"]).insert "b" ["S1"])
    ((Table.empty.insert "S1" 1).insert "S2" 1)
    (some ⟨some Table.empty, Table.empty, some ["a", "b"], 0, 0, none, []⟩) none
  ⟨waiting, unplaced, extension.2.2.2.1 "b" waiting unplaced "S1" (by decide), fits,
    extension.2.2.2.2.2 fits⟩

end SlotAllocation
