import SlotAllocation.Assignment.Summary

/-!
# The cascade phase

`cascade r prefs caps counts` visits the waiting applicants of `r` once, in their order, and
gives each one the first slot of its own list whose running count is still below the slot's
seats. An applicant that already holds a slot is passed over, and earlier placements are
never revisited, so the outcome depends on the order of the waiting list.

Without `counts` the running counts start from the pairs of `r`; otherwise from `counts`.
The result is summarized anew over all pairs, keeping the forced pairs of `r`.
-/

namespace SlotAllocation

/-- Places `a`, when it holds no slot yet, on the first slot of its list with a free seat. -/
def placeGreedily (prefs : Preferences) (caps : Capacities) (acc : Pairing × Counts)
    (a : ApplicantId) : Pairing × Counts :=
  if acc.1.contains a then acc
  else match (prefs.list a).find? (fun s => decide (acc.2.get s < caps.seats s)) with
    | some s => (acc.1.insert a s, acc.2.bump s)
    | none => acc

/-- The cascade phase over `r` (a missing result counts as empty). -/
def cascade (r : Option Result) (prefs : Preferences) (caps : Capacities)
    (counts : Option Counts) : Result :=
  let r := r.getD Result.blank
  let start := r.pairs
  let running := counts.getD start.counts
  let placed := r.waiting.foldl (placeGreedily prefs caps) (start, running)
  summarize placed.1 r.forced prefs

end SlotAllocation
