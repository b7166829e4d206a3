import SlotAllocation.Table

/-!
# Applicants, slots, preferences and results

An assignment problem names applicants and slots by identifiers. Each applicant ranks some
slots, most preferred first; each slot offers a number of seats. A `Result` records who
holds which slot, which of those pairs were forced (made without regard to preferences),
who is still waiting, and the rank statistics of the preferred pairs.

Main statements:

1. `rankIn_pos_iff`: an applicant ranks a slot exactly when it occurs in the list.
2. `Capacities.seats_nonneg`: seat counts read from a table are never negative.
-/

namespace SlotAllocation

/-- Identifies an applicant: a student group or a single student. -/
abbrev ApplicantId := String

/-- Identifies a slot: a project subject or an internship offer. -/
abbrev SlotId := String

/-- Each applicant's ranked slots, most preferred first. Lists may repeat a slot. -/
abbrev Preferences := Table (List SlotId)

/-- Seats per slot. A missing or negative entry offers no seat. -/
abbrev Capacities := Table Int

/-- How many applicants each slot currently holds. A missing entry holds none. -/
abbrev Counts := Table Int

/-- Who holds which slot: applicant to slot. -/
abbrev Pairing := Table SlotId

/-- The sum of a list of naturals. -/
def natSum (l : List Nat) : Nat := l.foldr (· + ·) 0

@[simp] theorem natSum_nil : natSum [] = 0 := rfl

@[simp] theorem natSum_cons (x : Nat) (l : List Nat) : natSum (x :: l) = x + natSum l := rfl

/-- The 1-based position of the first occurrence of `s` in `l`, or 0 when `s` is absent. -/
def rankIn (l : List SlotId) (s : SlotId) : Nat :=
  if s ∈ l then l.idxOf s + 1 else 0

theorem rankIn_pos_iff (l : List SlotId) (s : SlotId) : 0 < rankIn l s ↔ s ∈ l := by
  unfold rankIn
  split <;> simp_all

/-- Drops empty identifiers and every repeat of a slot after its first occurrence. -/
def cleanList (l : List SlotId) : List SlotId :=
  (l.filter (fun s => s != "")).eraseDups

namespace Preferences

/-- The ranked list of `a`; an applicant without entry ranks nothing. -/
def list (p : Preferences) (a : ApplicantId) : List SlotId := p.findD a []

/-- The rank `a` gives `s`: its 1-based position in `a`'s list, 0 when unranked. -/
def rank (p : Preferences) (a : ApplicantId) (s : SlotId) : Nat := rankIn (p.list a) s

/-- The applicants, ascending. -/
def applicants (p : Preferences) : List ApplicantId := p.keys

/-- Every list cleaned by `cleanList`; the applicants stay the same. -/
def normalize (p : Preferences) : Preferences := p.map cleanList

end Preferences

namespace Capacities

/-- The seats of `s`: its entry when positive, otherwise 0. -/
def seats (c : Capacities) (s : SlotId) : Int :=
  let n := c.findD s 0
  if 0 < n then n else 0

theorem seats_nonneg (c : Capacities) (s : SlotId) : 0 ≤ c.seats s := by
  unfold seats
  simp only
  split <;> omega

/-- The slots, ascending. -/
def slots (c : Capacities) : List SlotId := c.keys

end Capacities

/-- The count of `s`, 0 when absent. -/
def Counts.get (c : Counts) (s : SlotId) : Int := c.findD s 0

/-- Adds one to the count of `s`. -/
def Counts.bump (c : Counts) (s : SlotId) : Counts := c.insert s (c.get s + 1)

/-- How many applicants each slot holds under `m`. -/
def Pairing.counts (m : Pairing) : Counts :=
  m.values.foldl Counts.bump Table.empty

/-- The outcome of a phase.

`assignments` and `unassigned` are `none` only for a result read from a document in which
they were null; every phase writes both. `averageRank` is `none` when no pair counts
towards the rank statistics. -/
structure Result where
  assignments : Option Pairing
  forced : Pairing
  unassigned : Option (List ApplicantId)
  total : Int
  assignedCount : Int
  averageRank : Option Float
  rankDistribution : List (Int × Int)

namespace Result

/-- The result with nothing in it. -/
def blank : Result :=
  ⟨none, Table.empty, none, 0, 0, none, []⟩

/-- The pairs, an absent table read as empty. -/
def pairs (r : Result) : Pairing := r.assignments.getD Table.empty

/-- The waiting applicants, an absent list read as empty. -/
def waiting (r : Result) : List ApplicantId := r.unassigned.getD []

end Result

end SlotAllocation
