import Mathlib.Algebra.Order.BigOperators.Group.List
import Mathlib.Algebra.Order.Group.Nat
import SlotAllocation.Proofs.ResultDocument
import SlotAllocation.Proofs.DefaultEngine
import SlotAllocation.Cli.Program

/-!
# Running, then verifying

What `run` prints with JSON output passes `verify` against the same problem
(`Cli.run_report_passes_verify`): the report reads back as a result with the run's pairs and
forced pairs, whatever members follow them, and those pass both checks.

1. The rank histogram keeps its ranks ascending and its counts sum to the number of ranks
   (`foldl_tallyRank`), one step of tallying at a time.
2. A summary of pairs placed among a problem's applicants is writable when the problem has
   fewer than 2⁶³ applicants and preference lists shorter than 2⁶³ (`Summarized.writable`);
   the mean rank, a double, is assumed to print as a finite number. That assumption cannot be
   discharged here: the mean is `Float.ofNat s / Float.ofNat n`, and division, conversion,
   comparison and `Float.toBits` on Lean's doubles are external functions whose values the
   logic does not know, so no fact about the printed text of a computed double is provable.
3. The two checks read only the pairs and the forced pairs.
4. The commands: `run` prints its outcome's report, the report reads back
   (`Cli.jsonReport_reads_back`), and `verify` reads it as the result file.
-/

namespace SlotAllocation

/-! ## 1. The rank histogram -/


/-- A tallied histogram holds no rank but the tallied one and those it held. -/
theorem tallyRank_keys (r : Nat) (h : List (Nat × Nat)) :
    ∀ p ∈ tallyRank r h, p.1 = r ∨ p.1 ∈ h.map Prod.fst := by
  induction h with
  | nil => simp [tallyRank]
  | cons q rest ih =>
    obtain ⟨k, n⟩ := q
    have kept : ∀ p ∈ (k, n) :: rest, p.1 ∈ ((k, n) :: rest).map Prod.fst :=
      fun p listed => List.mem_map_of_mem listed
    intro p listed
    unfold tallyRank at listed
    split_ifs at listed with below same
    · rcases List.mem_cons.mp listed with rfl | old
      · exact .inl rfl
      · exact .inr (kept p old)
    · rcases List.mem_cons.mp listed with rfl | old
      · simp
      · exact .inr (kept p (List.mem_cons_of_mem _ old))
    · rcases List.mem_cons.mp listed with rfl | tallied
      · simp
      · rcases ih p tallied with fresh | old
        · exact .inl fresh
        · exact .inr (List.mem_cons_of_mem _ old)

theorem tallyRank_sorted (r : Nat) {h : List (Nat × Nat)}
    (sorted : (h.map Prod.fst).Pairwise (· < ·)) :
    ((tallyRank r h).map Prod.fst).Pairwise (· < ·) := by
  induction h with
  | nil => simp [tallyRank]
  | cons q rest ih =>
    obtain ⟨k, n⟩ := q
    simp only [List.map_cons, List.pairwise_cons] at sorted
    unfold tallyRank
    split_ifs with below same
    · simp only [List.map_cons, List.pairwise_cons, List.mem_cons, forall_eq_or_imp]
      exact ⟨⟨below, fun j listed => Nat.lt_trans below (sorted.1 j listed)⟩, sorted⟩
    · simpa using sorted
    · simp only [List.map_cons, List.pairwise_cons]
      refine ⟨fun j listed => ?_, ih sorted.2⟩
      obtain ⟨p, tallied, rfl⟩ := List.mem_map.mp listed
      rcases tallyRank_keys r rest p tallied with fresh | old
      · omega
      · exact sorted.1 _ old

/-- A member of a list is at most its sum. -/
theorem le_natSum_of_mem {l : List Nat} {x : Nat} (listed : x ∈ l) : x ≤ natSum l := by
  induction l with
  | nil => cases listed
  | cons y rest ih =>
    rw [natSum_cons]
    rcases List.mem_cons.mp listed with rfl | later
    · omega
    · have bound := ih later
      omega

/-- Tallying a rank adds one to the counts. -/
theorem tallyRank_sum (r : Nat) (h : List (Nat × Nat)) :
    natSum ((tallyRank r h).map Prod.snd) = natSum (h.map Prod.snd) + 1 := by
  induction h with
  | nil => simp [tallyRank]
  | cons q rest ih =>
    obtain ⟨k, n⟩ := q
    unfold tallyRank
    split_ifs
    · simp
      omega
    · simp
      omega
    · simp [ih]
      omega

/-- Tallying a run of ranks into a histogram keeps its ranks ascending, adds the run's length
to the counts' sum, and brings in only ranks of the run. -/
theorem foldl_tallyRank (rs : List Nat) :
    ∀ h : List (Nat × Nat), (h.map Prod.fst).Pairwise (· < ·) →
      ((rs.foldl (fun h r => tallyRank r h) h).map Prod.fst).Pairwise (· < ·) ∧
      natSum ((rs.foldl (fun h r => tallyRank r h) h).map Prod.snd) =
        natSum (h.map Prod.snd) + rs.length ∧
      ∀ p ∈ rs.foldl (fun h r => tallyRank r h) h, p.1 ∈ h.map Prod.fst ∨ p.1 ∈ rs := by
  induction rs with
  | nil =>
    intro h sorted
    exact ⟨sorted, by simp, fun p listed => .inl (List.mem_map_of_mem listed)⟩
  | cons r rest ih =>
    intro h sorted
    obtain ⟨sorted', sum, keys⟩ := ih (tallyRank r h) (tallyRank_sorted r sorted)
    refine ⟨sorted', ?_, ?_⟩
    · rw [List.foldl_cons, sum, tallyRank_sum, List.length_cons]
      omega
    · intro p listed
      rcases keys p listed with tallied | later
      · obtain ⟨q, tallied, same⟩ := List.mem_map.mp tallied
        rcases tallyRank_keys r h q tallied with fresh | old
        · exact .inr (by simp [← same, fresh])
        · exact .inl (same ▸ old)
      · exact .inr (List.mem_cons_of_mem _ later)

theorem histogram_sorted (rs : List Nat) : ((histogram rs).map Prod.fst).Pairwise (· < ·) :=
  (foldl_tallyRank rs [] List.Pairwise.nil).1

theorem histogram_count_le {rs : List Nat} {p : Nat × Nat} (listed : p ∈ histogram rs) :
    p.2 ≤ rs.length := by
  have sum := (foldl_tallyRank rs [] List.Pairwise.nil).2.1
  simp only [List.map_nil, natSum_nil, Nat.zero_add] at sum
  rw [← sum]
  exact le_natSum_of_mem (List.mem_map_of_mem listed)

theorem histogram_rank_mem {rs : List Nat} {p : Nat × Nat} (listed : p ∈ histogram rs) :
    p.1 ∈ rs := by
  simpa using (foldl_tallyRank rs [] List.Pairwise.nil).2.2 p listed

/-! ## 2. Writable summaries -/

theorem rankIn_le_length (l : List SlotId) (s : SlotId) : rankIn l s ≤ l.length := by
  unfold rankIn
  split_ifs with listed
  · exact List.idxOf_lt_length_iff.mpr listed
  · exact Nat.zero_le _

/-- A counted rank is a position on some applicant's list. -/
theorem countedRanks_bound {pairs forced : Pairing} {prefs : Preferences} {r : Nat}
    (listed : r ∈ countedRanks pairs forced prefs) : ∃ a, r ≤ (prefs.list a).length := by
  unfold countedRanks at listed
  obtain ⟨p, -, counted⟩ := List.mem_filterMap.mp listed
  refine ⟨p.1, ?_⟩
  split_ifs at counted
  dsimp only at counted
  split_ifs at counted
  simp only [Option.some.injEq] at counted
  rw [← counted]
  exact rankIn_le_length _ _

theorem countedRanks_length_le (pairs forced : Pairing) (prefs : Preferences) :
    (countedRanks pairs forced prefs).length ≤ pairs.size :=
  List.length_filterMap_le _ _

theorem Table.size_le_of_keys_subset {ν μ : Type} {t : Table ν} {u : Table μ}
    (sub : ∀ k ∈ t.keys, k ∈ u.keys) : t.size ≤ u.size := by
  have bound := (List.subperm_of_subset (Table.keys_nodup t) sub).length_le
  simpa [Table.size, Table.keys] using bound

/-- A summary of pairs placed among the applicants of a problem with fewer than 2⁶³ applicants
and preference lists shorter than 2⁶³ has 64-bit counts and one histogram entry per rank. -/
theorem Summarized.writable {prefs : Preferences} {r : Result} (summarized : Summarized prefs r)
    (placed : ∀ a ∈ r.pairs.keys, a ∈ prefs.applicants) (few : prefs.size < 2 ^ 63)
    (short : ∀ a, (prefs.list a).length < 2 ^ 63)
    (mean : ∀ x, r.averageRank = some x → Float.Printable x) : r.Writable := by
  have bounded : r.pairs.size ≤ prefs.size := Table.size_le_of_keys_subset placed
  have counted := countedRanks_length_le r.pairs r.forced prefs
  refine ⟨?total, ?count, ?histogram, ?distinct, mean⟩
  case total =>
    rw [summarized.total, isWord_iff]
    omega
  case count =>
    rw [summarized.assignedCount, isWord_iff]
    omega
  case histogram =>
    intro p listed
    rw [summarized.rankDistribution] at listed
    obtain ⟨q, tallied, rfl⟩ := List.mem_map.mp listed
    have count := histogram_count_le tallied
    obtain ⟨a, rank⟩ := countedRanks_bound (histogram_rank_mem tallied)
    have list := short a
    simp only [isWord_iff]
    omega
  case distinct =>
    rw [summarized.rankDistribution, List.map_map]
    have ranks := (histogram_sorted (countedRanks r.pairs r.forced prefs)).imp Nat.ne_of_lt
    simpa [List.map_map, Function.comp_def] using
      (List.Nodup.map (fun _ _ same => Int.ofNat.inj same) ranks)

/-! ## 3. What the checks read -/

/-- The capacity check reads only a result's pairs. -/
theorem checkCapacity_of_assignments {r r' : Result} (same : r'.assignments = r.assignments)
    (caps : Capacities) : checkCapacity (some r') caps = checkCapacity (some r) caps := by
  simp [checkCapacity, Result.pairs, same]

/-- The preference check reads only a result's pairs and forced pairs. -/
theorem checkPreferences_of_pairs {r r' : Result} (same : r'.assignments = r.assignments)
    (sameForced : r'.forced = r.forced) (prefs : Preferences) :
    checkPreferences (some r') prefs = checkPreferences (some r) prefs := by
  simp [checkPreferences, Result.pairs, same, sameForced]

/-! ## 4. Running, then verifying -/

namespace Cli

/-- The report of a run reads back as a result with the run's pairs and forced pairs, when the
run's result is writable. -/
theorem jsonReport_reads_back {o : Outcome} (w : o.result.Writable) :
    ∃ j, bindText resultShape (jsonReport o) = .ok j ∧
      (Result.ofBound j).assignments = o.result.assignments ∧
      (Result.ofBound j).forced = o.result.forced := by
  have count : ∀ n : Nat, (Json.int n).Readable ∧ (Json.int n).depth ≤ 1 := fun n =>
    ⟨.num (Number.ofInt_token n), by simp [Json.int, Json.depth]⟩
  apply Result.document_reads_back w
  · simp only [List.forall_mem_cons, List.not_mem_nil, IsEmpty.forall_iff, implies_true, and_true]
    exact ⟨by decide, by decide, by decide⟩
  · simp only [List.forall_mem_cons, List.not_mem_nil, IsEmpty.forall_iff, implies_true, and_true]
    exact ⟨count _, count _, count _⟩
  · simp only [Result.members]
    split_ifs <;> simp only [List.map_append, List.map_cons, List.map_nil] <;> decide

/-- The reader after `text` is written to the file at `path`. -/
def writtenTo (read : String → Id (Except String String)) (path text : String) :
    String → Id (Except String String) :=
  fun q => if q = path then .ok text else read q

variable {read : String → Id (Except String String)}

theorem runCommand_json {flags : FlagValues} {input : String} {p : Problem}
    (inputFlag : flags.get? "input" = some input) (json : (flags.get? "output").getD "json" = "json")
    (loaded : loadProblem read input = Except.ok p) {o : Outcome}
    (ran : runDefault p.prefs p.caps (flags.get? "force" == some "true") = .ok o) :
    runCommand read flags = Printout.ok (jsonReport o) := by
  have loaded' : loadProblem read input = pure (Except.ok p) := loaded
  simp [runCommand, json, inputFlag, loaded', ran]
  rfl

theorem loadProblem_writtenTo {input path : String} (elsewhere : path ≠ input) (text : String) :
    loadProblem (writtenTo read path text) input = loadProblem read input := by
  simp [loadProblem, writtenTo, Ne.symm elsewhere]

theorem loadResult_writtenTo (path text : String) {j : Json}
    (bound : bindText resultShape text = .ok j) :
    loadResult (writtenTo read path text) path = Except.ok (Result.ofBound j) := by
  have text' : writtenTo read path text path = pure (Except.ok text) := if_pos rfl
  simp [loadResult, text', bound]
  rfl

theorem verifyCommand_ok {flags : FlagValues} {input output : String} {p : Problem} {r : Result}
    (inputFlag : flags.get? "input" = some input) (resultFlag : flags.get? "result" = some output)
    (loaded : loadProblem read input = Except.ok p) (stored : loadResult read output = Except.ok r)
    (seats : checkCapacity (some r) p.caps = none)
    (ranked : checkPreferences (some r) p.prefs = none) :
    verifyCommand read flags = Printout.ok ("ok: " ++ toString (r.assignments.getD Table.empty).size ++
      " pairs within capacity and preferences\n") := by
  have loaded' : loadProblem read input = pure (Except.ok p) := loaded
  have stored' : loadResult read output = pure (Except.ok r) := stored
  simp [verifyCommand, inputFlag, resultFlag, loaded', stored', seats, ranked]
  rfl

/-- Every report of `run` passes `verify`. Let the problem file at `input` load as `p`, with
fewer than 2⁶³ applicants and preference lists shorter than 2⁶³, as 64-bit counts need, and let
the mean rank of the run print as a finite number. Then `run` with JSON output, forced filling
or not, succeeds and prints the report of its outcome `o`; `verify` of the same problem against
that report, written to `output`, prints `o`'s count of pairs; and the report reads back as a
result with `o`'s pairs and forced pairs, which pass both checks. -/
theorem run_report_passes_verify {runFlags verifyFlags : FlagValues} {input output : String}
    {p : Problem} (inputFlag : runFlags.get? "input" = some input)
    (json : (runFlags.get? "output").getD "json" = "json")
    (sameInput : verifyFlags.get? "input" = some input)
    (resultFlag : verifyFlags.get? "result" = some output) (elsewhere : output ≠ input)
    (loaded : loadProblem read input = Except.ok p)
    (few : p.prefs.size < 2 ^ 63) (short : ∀ a, (p.prefs.list a).length < 2 ^ 63)
    (printable : ∀ o x, runDefault p.prefs p.caps (runFlags.get? "force" == some "true") = .ok o →
      o.result.averageRank = some x → Float.Printable x) :
    ∃ o, runDefault p.prefs p.caps (runFlags.get? "force" == some "true") = .ok o ∧
      runCommand read runFlags = Printout.ok (jsonReport o) ∧
      verifyCommand (writtenTo read output (jsonReport o)) verifyFlags =
        Printout.ok ("ok: " ++ toString o.result.assignedCount ++
          " pairs within capacity and preferences\n") ∧
      ∃ j, bindText resultShape (jsonReport o) = .ok j ∧
        (Result.ofBound j).assignments = o.result.assignments ∧
        (Result.ofBound j).forced = o.result.forced ∧
        checkCapacity (some (Result.ofBound j)) p.caps = none ∧
        checkPreferences (some (Result.ofBound j)) p.prefs = none := by
  set force := runFlags.get? "force" == some "true"
  have ran := runDefault_eq p.prefs p.caps force
  have result := defaultOutcome_result p.prefs p.caps force
  have summarized := forceStage_summarized p.prefs p.caps force
    (stableMatch_summarized p.prefs p.caps)
  have known := forceStage_known p.prefs p.caps force (stableMatch_summarized p.prefs p.caps)
    (fun _ => stableMatch_placed_known p.prefs p.caps)
  set o := stagedOutcome p.prefs p.caps force (stableMatch p.prefs p.caps)
  -- the run's result passes both checks
  have seats : checkCapacity (some o.result) p.caps = none := by
    rw [result, checkCapacity_eq_none_iff]
    exact forceStage_withinSeats p.prefs p.caps force (stableMatch_withinSeats p.prefs p.caps)
  have ranked : checkPreferences (some o.result) p.prefs = none := by
    rw [result]
    exact forceStage_preferences p.prefs p.caps force (stableMatch_preferences p.prefs p.caps)
  -- its report reads back with the same pairs
  have writable : o.result.Writable := by
    rw [result]
    exact summarized.writable known few short (fun x mean => printable o x ran (result ▸ mean))
  obtain ⟨j, bound, assignments, forced⟩ := jsonReport_reads_back writable
  have seats' := (checkCapacity_of_assignments assignments p.caps).trans seats
  have ranked' := (checkPreferences_of_pairs assignments forced p.prefs).trans ranked
  refine ⟨o, ran, runCommand_json inputFlag json loaded ran, ?_,
    j, bound, assignments, forced, seats', ranked'⟩
  have verified := verifyCommand_ok sameInput resultFlag
    ((loadProblem_writtenTo elsewhere _).trans loaded) (loadResult_writtenTo output _ bound)
    seats' ranked'
  have count : o.result.assignedCount = o.result.pairs.size := by
    rw [result]
    exact summarized.assignedCount
  rw [verified, assignments, count]
  rfl

/-- A problem file with one applicant, who ranks nothing, and one slot with one seat. -/
def oneSeatText : String :=
  "\x7b\"preferences\":\x7b\"A\":[]\x7d,\"capacities\":\x7b\"S\":1\x7d\x7d"

/-- A working directory holding only that problem file. -/
def oneSeatFiles (path : String) : Id (Except String String) :=
  if path = "problem.json" then .ok oneSeatText
  else .error ("open " ++ path ++ ": no such file or directory")

/-- `run --input problem.json --force`. -/
def oneSeatRun : FlagValues := ⟨[("input", "problem.json"), ("force", "true")]⟩

/-- `verify --input problem.json --result result.json`. -/
def oneSeatVerify : FlagValues := ⟨[("input", "problem.json"), ("result", "result.json")]⟩

/-- The forced run of the one-seat problem passes `verify`. -/
theorem oneSeat_report_passes_verify :
    ∃ p, loadProblem oneSeatFiles "problem.json" = Except.ok p ∧
      ∃ o, runDefault p.prefs p.caps (oneSeatRun.get? "force" == some "true") = .ok o ∧
        runCommand oneSeatFiles oneSeatRun = Printout.ok (jsonReport o) ∧
        verifyCommand (writtenTo oneSeatFiles "result.json" (jsonReport o)) oneSeatVerify =
          Printout.ok ("ok: " ++ toString o.result.assignedCount ++
            " pairs within capacity and preferences\n") ∧
        ∃ j, bindText resultShape (jsonReport o) = .ok j ∧
          (Result.ofBound j).assignments = o.result.assignments ∧
          (Result.ofBound j).forced = o.result.forced ∧
          checkCapacity (some (Result.ofBound j)) p.caps = none ∧
          checkPreferences (some (Result.ofBound j)) p.prefs = none := by
  have forced : (oneSeatRun.get? "force" == some "true") = true := by decide
  -- the problem loads, is small, and its forced run ranks nobody
  have checked : (match loadProblem oneSeatFiles "problem.json" with
      | .ok p => decide (p.prefs.size < 2 ^ 63) &&
          p.prefs.entries.all (fun e => decide (e.2.length < 2 ^ 63)) &&
          (match runDefault p.prefs p.caps true with
            | .ok o => o.result.averageRank.isNone
            | .error _ => false)
      | .error _ => false) = true := by
    decide +kernel
  cases loaded : loadProblem oneSeatFiles "problem.json" with
  | error e =>
    rw [loaded] at checked
    cases checked
  | ok p =>
    rw [loaded] at checked
    simp only [Bool.and_eq_true, decide_eq_true_eq, List.all_eq_true] at checked
    obtain ⟨⟨few, lists⟩, unranked⟩ := checked
    have short : ∀ a, (p.prefs.list a).length < 2 ^ 63 := by
      intro a
      unfold Preferences.list Table.findD
      cases found : p.prefs.find? a with
      | none => simp
      | some l => exact lists (a, l) (Table.find?_eq_some_iff.mp found)
    have printable : ∀ o x, runDefault p.prefs p.caps (oneSeatRun.get? "force" == some "true") =
        .ok o → o.result.averageRank = some x → Float.Printable x := by
      intro o x ran mean
      rw [forced] at ran
      rw [ran] at unranked
      simp [mean] at unranked
    exact ⟨p, rfl, run_report_passes_verify (by decide) (by decide) (by decide) (by decide)
      (by decide) loaded few short printable⟩

end Cli

end SlotAllocation
