import SlotAllocation.Assignment.Summary
import SlotAllocation.Word

/-!
# Forced placement

`force waiting caps counts` hands out the seats that remain, ignoring preferences. The slots
are taken in ascending order; slot `s` has `seats s - counts s` seats left, computed in
wrapping 64-bit arithmetic and floored at 0. The waiting applicants, each taken once at its
first occurrence, receive those seats in order until either runs out.

`mergeForced r forced prefs` adds those pairs to `r`, except for applicants that already
hold a slot, and records them as forced.
-/

namespace SlotAllocation

/-- The seats left on `s`: `seats s - counts s` wrapped to 64 bits, floored at 0. -/
def seatsLeft (caps : Capacities) (counts : Counts) (s : SlotId) : Nat :=
  (wrap64 (caps.seats s - counts.get s)).toNat

/-- Gives each new applicant the next remaining seat. -/
def handOut (out : Pairing) : List ApplicantId → List (SlotId × Nat) → Pairing
  | [], _ => out
  | _, [] => out
  | a :: rest, (s, n) :: more =>
    if out.contains a then handOut out rest ((s, n) :: more)
    else match n with
      | 0 => handOut out (a :: rest) more
      | n + 1 => handOut (out.insert a s) rest ((s, n) :: more)
termination_by as ss => as.length + ss.length

/-- The forced pairs for `waiting` given the seats `caps` and the counts `counts`. -/
def force (waiting : List ApplicantId) (caps : Capacities) (counts : Counts) : Pairing :=
  handOut Table.empty waiting (caps.slots.map (fun s => (s, seatsLeft caps counts s)))

/-- Adds the `forced` pairs of applicants without a slot to `r`, recording them as forced. -/
def mergeForced (r : Option Result) (forced : Pairing) (prefs : Preferences) : Result :=
  let r := r.getD Result.blank
  let merged := forced.entries.foldl (fun acc p =>
    if acc.1.contains p.1 then acc else (acc.1.insert p.1 p.2, acc.2.insert p.1 p.2))
    (r.pairs, r.forced)
  summarize merged.1 merged.2 prefs

end SlotAllocation
