import SlotAllocation.Assignment.Basic

/-!
# Summaries of a pairing

`summarize assignments forced prefs` describes a set of pairs against the preferences it
was made for. A pair counts towards the rank statistics when it is not recorded as forced
to that same slot and the applicant ranked the slot. The histogram of those ranks, their
mean, the number of pairs and of applicants, and the applicants of `prefs` left without a
slot (ascending) make up the result.
-/

namespace SlotAllocation

/-- The ranks of the pairs that count towards the statistics, in key order. -/
def countedRanks (assignments forced : Pairing) (prefs : Preferences) : List Nat :=
  assignments.entries.filterMap fun p =>
    if forced.find? p.1 = some p.2 then none
    else
      let r := prefs.rank p.1 p.2
      if r = 0 then none else some r

/-- Adds one occurrence of `r` to a histogram kept in ascending order of rank. -/
def tallyRank (r : Nat) : List (Nat × Nat) → List (Nat × Nat)
  | [] => [(r, 1)]
  | (k, n) :: rest =>
    if r < k then (r, 1) :: (k, n) :: rest
    else if r = k then (k, n + 1) :: rest
    else (k, n) :: tallyRank r rest

/-- How often each rank occurs, ascending by rank. -/
def histogram (rs : List Nat) : List (Nat × Nat) := rs.foldl (fun h r => tallyRank r h) []

/-- The mean of `rs` as a double, `none` for no ranks. -/
def meanRank (rs : List Nat) : Option Float :=
  if rs.isEmpty then none else some (Float.ofNat (natSum rs) / Float.ofNat rs.length)

/-- Describes `assignments` against `prefs`; pairs recorded in `forced` with the same slot
are left out of the rank statistics. -/
def summarize (assignments forced : Pairing) (prefs : Preferences) : Result :=
  let ranks := countedRanks assignments forced prefs
  { assignments := some assignments
    forced := forced
    unassigned := some (prefs.applicants.filter (fun a => !assignments.contains a))
    total := prefs.size
    assignedCount := assignments.size
    averageRank := meanRank ranks
    rankDistribution := (histogram ranks).map (fun p => ((p.1 : Int), (p.2 : Int))) }

end SlotAllocation
