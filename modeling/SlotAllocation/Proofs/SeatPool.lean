import SlotAllocation.Proofs.Forced

/-!
# Forced placement hands out a pool of seats

`force` never builds the seats it hands out: it walks the slots with a cursor and a count of
the seats left on the current slot, skips applicants it has placed already, and stops as soon
as applicants or slots run out. Read as a whole it is a plain pairing. Lay the remaining seats
out as a pool, `seatPool`: every slot in ascending order, repeated as often as it has seats
left, namely its seats less its count in wrapping 64-bit arithmetic, floored at 0. The waiting
applicants, each at its first occurrence, take the seats of the pool in order.

1. `handOut_eq_zip`: handing out from any start inserts the applicants not placed yet, paired
   with the seats laid out, one by one.
2. `find?_ofList_zip`: pairing distinct applicants with a list of seats gives each applicant
   the seat at its own position, for as long as both last.
3. `force_hands_out_seatPool`: `force` is that pairing; hence no slot receives more than its
   seats less its count, whenever that difference is a 64-bit word.
-/

namespace SlotAllocation

/-! ## 1. The reference pairing -/

/-- The seats still free, laid out slot by slot in ascending order: the seats of `s` less its
count, wrapped to 64 bits and floored at 0, copies of `s`. -/
def seatPool (caps : Capacities) (counts : Counts) : List SlotId :=
  caps.slots.flatMap fun s =>
    List.replicate (max (wrap64 (caps.seats s - counts.get s)) 0).toNat s

/-- The seats a list of slots with their counts offers, in order. -/
def expandSeats (ss : List (SlotId × Nat)) : List SlotId :=
  ss.flatMap fun p => List.replicate p.2 p.1

/-- The applicants of `as` that `out` does not place, each at its first occurrence. -/
def freshApplicants (out : Pairing) (as : List ApplicantId) : List ApplicantId :=
  (as.filter fun a => !out.contains a).eraseDups

@[simp] theorem expandSeats_nil : expandSeats [] = [] := rfl

@[simp] theorem expandSeats_cons_zero (s : SlotId) (more : List (SlotId × Nat)) :
    expandSeats ((s, 0) :: more) = expandSeats more := rfl

@[simp] theorem expandSeats_cons_succ (s : SlotId) (n : Nat) (more : List (SlotId × Nat)) :
    expandSeats ((s, n + 1) :: more) = s :: expandSeats ((s, n) :: more) := rfl

theorem seatPool_eq (caps : Capacities) (counts : Counts) :
    seatPool caps counts = expandSeats (caps.slots.map fun s => (s, seatsLeft caps counts s)) := by
  unfold seatPool expandSeats seatsLeft
  rw [List.flatMap_map]
  congr 1
  funext s
  congr 1
  omega

/-- An applicant not placed yet heads the fresh applicants; the rest are those the pairing
with it inserted does not place. -/
theorem freshApplicants_cons_insert {out : Pairing} {a : ApplicantId} (rest : List ApplicantId)
    (s : SlotId) (fresh : out.contains a = false) :
    freshApplicants out (a :: rest) = a :: freshApplicants (out.insert a s) rest := by
  unfold freshApplicants
  rw [List.filter_cons_of_pos (by simp [fresh]), List.eraseDups_cons, List.filter_filter]
  congr 2
  apply List.filter_congr
  intro b _
  rw [Table.contains_insert, Bool.and_comm]
  cases b == a <;> simp

theorem freshApplicants_cons_placed {out : Pairing} {a : ApplicantId} (rest : List ApplicantId)
    (placed : out.contains a = true) :
    freshApplicants out (a :: rest) = freshApplicants out rest := by
  unfold freshApplicants
  rw [List.filter_cons_of_neg (by simp [placed])]

/-! ## 2. Handing out follows the reference -/

/-- Handing out from `out` inserts the applicants `out` does not place yet, each at its first
occurrence, paired with the seats laid out in order, until either runs out. -/
theorem handOut_eq_zip (out : Pairing) (as : List ApplicantId) (ss : List (SlotId × Nat)) :
    handOut out as ss =
      ((freshApplicants out as).zip (expandSeats ss)).foldl (fun t p => t.insert p.1 p.2) out := by
  fun_induction handOut out as ss with
  | case1 out ss => simp [freshApplicants]
  | case2 out as => simp
  | case3 out a rest s n more placed ih =>
    rw [freshApplicants_cons_placed rest placed]
    exact ih
  | case4 out a rest s more placed ih =>
    rw [expandSeats_cons_zero]
    exact ih
  | case5 out a rest s more placed n ih =>
    rw [freshApplicants_cons_insert rest s (by simpa using placed), expandSeats_cons_succ,
      List.zip_cons_cons, List.foldl_cons]
    exact ih

/-- Pairing distinct applicants with seats position by position: an applicant gets the seat at
its own position, and only while the seats last. -/
theorem find?_ofList_zip {as : List ApplicantId} (distinct : as.Nodup) (seats : List SlotId)
    (a : ApplicantId) (s : SlotId) :
    (Table.ofList (as.zip seats)).find? a = some s ↔ ∃ i : Nat, as[i]? = some a ∧ seats[i]? = some s := by
  -- the keys of the pairs are a prefix of the applicants, hence distinct
  have keys : ((as.zip seats).map Prod.fst).Nodup := by
    rw [List.zip_eq_zip_take_min, List.map_fst_zip (by simp)]
    exact distinct.sublist (List.take_sublist _ _)
  have perm := Table.entries_foldl_insert_perm (as.zip seats) Table.empty keys (by simp)
  rw [Table.ofList, Table.find?_eq_some_iff, perm.mem_iff, Table.entries_empty, List.nil_append,
    List.mem_iff_getElem?]
  simp only [List.getElem?_zip_eq_some]

/-! ## 3. Forced placement -/

/-- A difference that is a 64-bit word is left alone by wrapping. -/
theorem wrap64_of_isWord {x : Int} (word : isWord x = true) : wrap64 x = x := by
  simp only [isWord, Bool.and_eq_true, decide_eq_true_eq] at word
  exact wrap64_of_le word.1 word.2

/-- `force` pairs the waiting applicants, each at its first occurrence, with the seats of the
pool in order: an applicant gets the seat at its own position, while applicants and seats
last. In particular a slot whose seats less its count is a 64-bit word receives no more
applicants than that difference, floored at 0. -/
theorem force_hands_out_seatPool (waiting : List ApplicantId) (caps : Capacities)
    (counts : Counts) :
    force waiting caps counts = Table.ofList (waiting.eraseDups.zip (seatPool caps counts)) ∧
      (∀ a s, (force waiting caps counts).find? a = some s ↔
        ∃ i : Nat, waiting.eraseDups[i]? = some a ∧ (seatPool caps counts)[i]? = some s) ∧
      ∀ s, isWord (caps.seats s - counts.get s) = true →
        ((force waiting caps counts).load s : Int) ≤ max (caps.seats s - counts.get s) 0 := by
  have reference : force waiting caps counts =
      Table.ofList (waiting.eraseDups.zip (seatPool caps counts)) := by
    rw [force, handOut_eq_zip, seatPool_eq, Table.ofList]
    simp [freshApplicants]
  refine ⟨reference, ?_, ?_⟩
  · intro a s
    rw [reference]
    exact find?_ofList_zip (nodup_eraseDups waiting) _ a s
  · intro s word
    have bound := force_load_le waiting caps counts s
    unfold seatsLeft at bound
    rw [wrap64_of_isWord word] at bound
    omega

/-- A slot counted five times over its one seat offers no seat to force on anybody. -/
theorem overfullSlot_force_within :
    isWord (Capacities.seats ((Table.empty.insert "S1" 1).insert "S2" 1) "S1" -
        Counts.get (Table.empty.insert "S1" 5) "S1") = true ∧
      ((force ["x"] ((Table.empty.insert "S1" 1).insert "S2" 1)
          (Table.empty.insert "S1" 5)).load "S1" : Int) ≤
        max (Capacities.seats ((Table.empty.insert "S1" 1).insert "S2" 1) "S1" -
          Counts.get (Table.empty.insert "S1" 5) "S1") 0 :=
  have word : isWord (Capacities.seats ((Table.empty.insert "S1" 1).insert "S2" 1) "S1" -
      Counts.get (Table.empty.insert "S1" 5) "S1") = true := by decide
  ⟨word, (force_hands_out_seatPool _ _ _).2.2 "S1" word⟩

end SlotAllocation
