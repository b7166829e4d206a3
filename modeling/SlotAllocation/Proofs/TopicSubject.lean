import SlotAllocation.Proofs.NotifyOnce

/-!
# The subject of a topic message

A notification published on the operators' topic carries its subject cut to the first 100
bytes of its UTF-8 form (`Text.byteCut`). The cut keeps every character whose bytes all fit.
When it falls inside a character, a reader of the cut bytes sees one replacement character
(U+FFFD) for each byte of that character that was kept, so the subject need not be a prefix
of the notification's subject.

1. `Text.FirstBytes n cs t`: `t` is what a reader sees of the first `n` bytes of `cs`; the
   bytes end on a character boundary, or `j` bytes into a character, `0 < j < width`.
2. `byteCutChars_firstBytes`: the cut is exactly that. It has at most `n` characters
   (`FirstBytes.length_le`), keeps a text of at most `n` bytes whole
   (`byteCutChars_of_length_le`), and, for a text without replacement characters, is a
   prefix of it exactly when the `n` bytes end on a character boundary
   (`FirstBytes.isPrefix_iff`).
3. `notifyUnassigned_publishesCut`: a notify execution keeps the store and publishes only
   messages on the configured topic whose subject is the notification's subject cut at 100
   bytes; `topic_subject_first_bytes` puts 2 and 3 together.
4. `accentedBatch_topic_subject_split`: a batch identifier of one letter and 47 `é` gives a
   subject of 81 characters in 128 bytes, and the published subject ends inside an `é`.
-/

namespace SlotAllocation

namespace Text

/-! ## 1. The first bytes of a text -/

/-- The UTF-8 form of a list of characters. -/
def utf8Bytes (cs : List Char) : List UInt8 := cs.flatMap String.utf8EncodeChar

@[simp] theorem utf8Bytes_nil : utf8Bytes [] = [] := rfl

@[simp] theorem utf8Bytes_cons (c : Char) (cs : List Char) :
    utf8Bytes (c :: cs) = String.utf8EncodeChar c ++ utf8Bytes cs := by
  simp [utf8Bytes]

@[simp] theorem utf8Bytes_append (cs ds : List Char) :
    utf8Bytes (cs ++ ds) = utf8Bytes cs ++ utf8Bytes ds := by
  simp [utf8Bytes]

/-- Every character takes at least one byte. -/
theorem length_le_length_utf8Bytes (cs : List Char) : cs.length ≤ (utf8Bytes cs).length := by
  induction cs with
  | nil => simp
  | cons c rest ih =>
    have wide := c.utf8Size_pos
    simp only [utf8Bytes_cons, List.length_cons, List.length_append, String.length_utf8EncodeChar]
    omega

theorem utf8ByteSize_ofList (cs : List Char) : (String.ofList cs).utf8ByteSize = (utf8Bytes cs).length := by
  induction cs with
  | nil => simp
  | cons c rest ih =>
    rw [String.ofList_cons, String.utf8ByteSize_append, String.utf8ByteSize_singleton, ih,
      utf8Bytes_cons, List.length_append, String.length_utf8EncodeChar]

/-- A text's byte count is the length of its UTF-8 form. -/
theorem utf8ByteSize_eq_length (s : String) : s.utf8ByteSize = (utf8Bytes s.toList).length := by
  rw [← utf8ByteSize_ofList, String.ofList_toList]

/-- `FirstBytes n cs t`: `t` is what a reader sees of the first `n` bytes of the UTF-8 form of
`cs`. Either the bytes end on a character boundary and `t` is the characters they hold, or they
end `j` bytes into a character `c` and `t` is the characters before it followed by one
replacement character for each of those `j` bytes. -/
inductive FirstBytes (n : Nat) (cs : List Char) : List Char → Prop
  | boundary (k : Nat) (bytes : utf8Bytes (cs.take k) = (utf8Bytes cs).take n) :
      FirstBytes n cs (cs.take k)
  | inside (k j : Nat) (c : Char) (split : cs[k]? = some c) (started : 0 < j)
      (unfinished : j < c.utf8Size)
      (bytes : utf8Bytes (cs.take k) ++ (String.utf8EncodeChar c).take j = (utf8Bytes cs).take n) :
      FirstBytes n cs (cs.take k ++ List.replicate j (Char.ofNat 0xFFFD))

variable {n : Nat} {cs t : List Char}

/-- A character that fits leads the first bytes of the text it starts. -/
theorem FirstBytes.cons {c : Char} {rest : List Char} (fits : c.utf8Size ≤ n)
    (cut : FirstBytes (n - c.utf8Size) rest t) : FirstBytes n (c :: rest) (c :: t) := by
  -- the first character's bytes come first, so the rest is cut `c.utf8Size` bytes sooner
  have front : ∀ bs : List UInt8, (String.utf8EncodeChar c ++ bs).take n =
      String.utf8EncodeChar c ++ bs.take (n - c.utf8Size) := by
    intro bs
    rw [List.take_append, List.take_of_length_le (by simpa using fits),
      String.length_utf8EncodeChar]
  cases cut with
  | boundary k bytes =>
    exact .boundary (k + 1) (by rw [List.take_succ_cons, utf8Bytes_cons, utf8Bytes_cons, front, bytes])
  | inside k j d split started unfinished bytes =>
    refine .inside (k + 1) j d (by simpa using split) started unfinished ?_
    rw [List.take_succ_cons, utf8Bytes_cons, utf8Bytes_cons, front, ← bytes, List.append_assoc]

/-- The cut at `n` bytes is what a reader sees of the first `n` bytes. -/
theorem byteCutChars_firstBytes (n : Nat) (cs : List Char) : FirstBytes n cs (byteCutChars n cs) := by
  induction cs generalizing n with
  | nil => exact .boundary 0 (by simp)
  | cons c rest ih =>
    simp only [byteCutChars]
    split
    · rename_i fits
      exact (ih (n - c.utf8Size)).cons fits
    · rename_i wide
      -- the bytes end inside the first character, or before it when there are none
      cases n with
      | zero => exact .boundary 0 (by simp)
      | succ m =>
        refine .inside 0 (m + 1) c rfl (Nat.succ_pos m) (by omega) ?_
        rw [List.take_zero, utf8Bytes_nil, List.nil_append, utf8Bytes_cons,
          List.take_append_of_le_length (by simp; omega)]

/-- The first `n` bytes hold at most `n` characters. -/
theorem FirstBytes.length_le (cut : FirstBytes n cs t) : t.length ≤ n := by
  cases cut with
  | boundary k bytes =>
    have fewer := length_le_length_utf8Bytes (cs.take k)
    have within : (utf8Bytes (cs.take k)).length ≤ n := by
      rw [bytes]
      exact List.length_take_le _ _
    omega
  | inside k j c split started unfinished bytes =>
    have fewer := length_le_length_utf8Bytes (cs.take k)
    have within : (utf8Bytes (cs.take k)).length + j ≤ n := by
      have counted := congrArg List.length bytes
      rw [List.length_append, List.length_take, String.length_utf8EncodeChar,
        Nat.min_eq_left (Nat.le_of_lt unfinished)] at counted
      have := List.length_take_le n (utf8Bytes cs)
      omega
    simp only [List.length_append, List.length_replicate]
    omega

/-- A text of at most `n` bytes is kept whole. -/
theorem byteCutChars_of_length_le (fits : (utf8Bytes cs).length ≤ n) : byteCutChars n cs = cs := by
  induction cs generalizing n with
  | nil => rfl
  | cons c rest ih =>
    simp only [utf8Bytes_cons, List.length_append, String.length_utf8EncodeChar] at fits
    simp only [byteCutChars, if_pos (show c.utf8Size ≤ n by omega)]
    rw [ih (by omega)]

/-- The bytes of the first `k` characters grow with `k`. -/
theorem length_utf8Bytes_take_le (cs : List Char) {k k' : Nat} (le : k ≤ k') :
    (utf8Bytes (cs.take k)).length ≤ (utf8Bytes (cs.take k')).length := by
  obtain ⟨rest, longer⟩ := List.take_prefix_take_left (l := cs) le
  rw [← longer, utf8Bytes_append, List.length_append]
  omega

/-- A cut inside a character ends in a replacement character, so it is no prefix of a text
that has none. -/
theorem not_isPrefix_of_replacement {k j : Nat} (started : 0 < j) (clean : Char.ofNat 0xFFFD ∉ cs) :
    ¬ (cs.take k ++ List.replicate j (Char.ofNat 0xFFFD)) <+: cs := by
  intro pre
  apply clean
  apply pre.subset
  exact List.mem_append_right _ (List.mem_replicate.mpr ⟨by omega, rfl⟩)

/-- For a text without replacement characters, what a reader sees of its first `n` bytes is a
prefix of it exactly when those bytes end on a character boundary. -/
theorem FirstBytes.isPrefix_iff (clean : Char.ofNat 0xFFFD ∉ cs) (cut : FirstBytes n cs t) :
    t <+: cs ↔ ∃ k, utf8Bytes (cs.take k) = (utf8Bytes cs).take n := by
  cases cut with
  | boundary k bytes => exact ⟨fun _ => ⟨k, bytes⟩, fun _ => List.take_prefix k cs⟩
  | inside k j c split started unfinished bytes =>
    refine ⟨fun pre => absurd pre (not_isPrefix_of_replacement started clean), ?_⟩
    rintro ⟨k', whole⟩
    -- the first `k'` characters would end `j` bytes after the first `k`, short of the end of `c`
    have reach : (utf8Bytes (cs.take k')).length = (utf8Bytes (cs.take k)).length + j := by
      rw [whole, ← bytes, List.length_append, List.length_take, String.length_utf8EncodeChar,
        Nat.min_eq_left (Nat.le_of_lt unfinished)]
    rcases Nat.lt_or_ge k k' with after | before
    · have past := length_utf8Bytes_take_le cs (Nat.succ_le_of_lt after)
      rw [List.take_add_one, split, Option.toList_some, utf8Bytes_append, List.length_append,
        utf8Bytes_cons, utf8Bytes_nil, List.append_nil, String.length_utf8EncodeChar] at past
      omega
    · have := length_utf8Bytes_take_le cs before
      omega

end Text

/-! ## 2. What a notify execution publishes -/

theorem composeNotice_subject (batchId runId kind : String) (unassigned : List String) :
    (composeNotice batchId runId kind unassigned).1 =
      "Batch " ++ batchId ++ ": " ++ toString unassigned.length ++ " applicant(s) unassigned" := rfl

/-- What a notify execution for request `r` may do on the topic `arn`: keep the store, and
publish only messages on `arn` whose subject is the notification's subject, about the
applicants `r` names against that store, cut at 100 bytes. -/
structure PublishesCut (arn : String) (r : NotifyRequest) (w w' : World) : Prop where
  db : w'.db = w.db
  published : ∃ ps, w'.outbox.publications = w.outbox.publications ++ ps ∧
    ∀ p ∈ ps, p.topic = arn ∧ p.subject = Text.byteCut
      ("Batch " ++ r.batchId ++ ": " ++ toString (r.listIn w.db).length ++ " applicant(s) unassigned") 100

namespace PublishesCut

variable {arn : String} {r : NotifyRequest} {w w₁ w₂ : World}

/-- A change that keeps the store and publishes nothing. -/
theorem of_keeps (db : w₁.db = w.db) (same : w₁.outbox.publications = w.outbox.publications) :
    PublishesCut arn r w w₁ :=
  ⟨db, [], by rw [same, List.append_nil], by simp⟩

theorem refl (w : World) : PublishesCut arn r w w := of_keeps rfl rfl

theorem trans (first : PublishesCut arn r w w₁) (second : PublishesCut arn r w₁ w₂) :
    PublishesCut arn r w w₂ := by
  obtain ⟨kept, ps, grown, cut⟩ := first
  obtain ⟨kept', ps', grown', cut'⟩ := second
  refine ⟨kept'.trans kept, ps ++ ps', by rw [grown', grown, List.append_assoc], ?_⟩
  intro p listed
  rcases List.mem_append.mp listed with early | late
  · exact cut p early
  · rw [← kept]
    exact cut' p late

/-- Only the store and the published messages count. -/
theorem of_same (related : PublishesCut arn r w w₁) (db : w₂.db = w₁.db) (outbox : w₂.outbox = w₁.outbox) :
    PublishesCut arn r w w₂ := by
  obtain ⟨kept, ps, grown, cut⟩ := related
  exact ⟨db.trans kept, ps, by rw [outbox, grown], cut⟩

instance : Std.Refl (PublishesCut arn r) := ⟨refl⟩

instance : IsTrans World (PublishesCut arn r) := ⟨fun _ _ _ => trans⟩

end PublishesCut

section Execution

variable {c : Conditions} {arn : String} {r : NotifyRequest}

/-- A delivery reads and marks the cache and otherwise does what its send does: it leaves the
store and outbox it started from, or those the send leaves. -/
theorem deliver_store_outbox (w : World) (id ch : String) (send : Work (Except String Unit)) :
    (((deliver id ch send).runIn c w).2.db = w.db ∧ ((deliver id ch send).runIn c w).2.outbox = w.outbox) ∨
      (((deliver id ch send).runIn c w).2.db = (send.runIn c w).2.db ∧
        ((deliver id ch send).runIn c w).2.outbox = (send.runIn c w).2.outbox) := by
  obtain ⟨seen, read⟩ : ∃ seen, (Work.delivered id ch).runIn c w = (seen, w) := ⟨_, rfl⟩
  unfold deliver
  rw [Attempt.runIn_bind, Attempt.runIn_lift, read]
  dsimp only
  split
  · rw [Attempt.runIn_bind, Attempt.runIn_lift]
    rcases send.runIn c w with ⟨_ | ⟨⟩, w₁⟩
    · simp
    · -- the send went out: marking it changes the cache only
      simp only
      rw [Attempt.runIn_bind, Attempt.runIn_lift]
      simp [Work.markDelivered]
  · simp

/-- Sending a mail keeps the store and publishes nothing. -/
theorem sendEmail_publishesCut (w : World) (e : Email) :
    PublishesCut arn r w ((Work.sendEmail e).runIn c w).2 := by
  rw [Work.sendEmail, Work.runIn_send]
  cases c.faults.mail with
  | none => exact .of_keeps rfl rfl
  | some m => exact .refl w

/-- Publishing a message on `arn` with the notification's subject cut at 100 bytes. -/
theorem publish_publishesCut (w : World) (p : Publication) (onTopic : p.topic = arn)
    (subject : p.subject = Text.byteCut
      ("Batch " ++ r.batchId ++ ": " ++ toString (r.listIn w.db).length ++ " applicant(s) unassigned") 100) :
    PublishesCut arn r w ((Work.publish p).runIn c w).2 := by
  rw [Work.publish, Work.runIn_send]
  cases c.faults.topic with
  | none => exact ⟨rfl, [p], rfl, fun q listed => by rw [List.mem_singleton.mp listed]; exact ⟨onTopic, subject⟩⟩
  | some m => exact .refl w

/-- A channel stage changes the store and the published messages only as its send does. -/
theorem deliverOn_publishesCut (en : Bool) (id ch : String) (send : Work (Except String Unit))
    (w : World) (sends : PublishesCut arn r w (send.runIn c w).2) :
    PublishesCut arn r w ((deliverOn en id ch send).runIn c w).2 := by
  unfold deliverOn
  split
  · have delivered : PublishesCut arn r w ((deliver id ch send).runIn c w).2 := by
      rcases deliver_store_outbox w id ch send with ⟨db, outbox⟩ | ⟨db, outbox⟩
      · exact .of_same (.refl w) db outbox
      · exact sends.of_same db outbox
    rw [Attempt.runIn_bind]
    rcases ran : (deliver id ch send).runIn c w with ⟨_ | _, w₁⟩ <;> rw [ran] at delivered
    · exact delivered
    · exact delivered
  · exact .refl w

/-- A stage that publishes as a notification may keeps the store it started from. -/
theorem PublishesCut.triple {α : Type} {x : Attempt α} {D : Database}
    (runs : ∀ w, w.db = D → PublishesCut arn r w (x.runIn c w).2) :
    Attempt.Triple c (fun w => w.db = D) (PublishesCut arn r) x (fun _ w => w.db = D) :=
  fun w stored => ⟨runs w stored, fun _ _ => (runs w stored).db.trans stored⟩

/-- Sending the notification of the applicants `r` names against store `D` keeps the store and
publishes at most its topic message. -/
theorem sendNotice_publishesCut (s : NotifySettings) (r : NotifyRequest) (id kind : String)
    (D : Database) :
    Attempt.Triple c (fun w => w.db = D) (PublishesCut s.topicArn r)
      (sendNotice s r id kind (r.listIn D)) (fun _ w => w.db = D) := by
  unfold sendNotice
  dsimp only
  refine Attempt.Triple.bind (PublishesCut.triple fun w _ =>
    deliverOn_publishesCut _ _ _ _ w (sendEmail_publishesCut w _)) fun _ => ?_
  -- the topic stage starts from the store the applicants were read against
  refine Attempt.Triple.bind (PublishesCut.triple fun w stored =>
    deliverOn_publishesCut _ _ _ _ w
      (publish_publishesCut w _ rfl (by rw [stored, composeNotice_subject]))) fun _ => ?_
  exact (Attempt.triple_pure _).conseq (fun _ hold => hold) fun _ _ done => done.2

/-- A notify execution keeps the store and publishes only messages on the configured topic
whose subject is the notification's subject cut at 100 bytes. -/
theorem notifyUnassigned_publishesCut (s : NotifySettings) (r : NotifyRequest) (w : World) :
    PublishesCut s.topicArn r w ((notifyUnassigned s r).runIn c w).2 := by
  have execution : Attempt.Triple c (fun w' => w'.db = w.db) (PublishesCut s.topicArn r)
      (notifyUnassigned s r) (fun _ _ => True) := by
    unfold notifyUnassigned
    dsimp only
    split
    · exact Attempt.triple_fail_bind _ _
    · refine Attempt.Triple.bind (notifyList_triple r) fun ⟨l, kind⟩ => ?_
      refine Attempt.Triple.assume fun (listed : l = r.listIn w.db) => ?_
      subst listed
      refine Attempt.Triple.bind (Attempt.ReadOnly.triple Attempt.readOnly_now) fun t => ?_
      split
      · exact (Attempt.triple_pure _).conseq (fun _ hold => hold) fun _ _ _ => trivial
      split
      · exact (Attempt.triple_pure _).conseq (fun _ hold => hold) fun _ _ _ => trivial
      exact Attempt.Triple.bind (sendNotice_publishesCut s r _ kind w.db) fun _ =>
        (Attempt.triple_pure _).conseq (fun _ hold => hold) fun _ _ _ => trivial
  exact (execution w rfl).1

end Execution

/-! ## 3. The subject of every topic message -/

/-- The topic subject is the first 100 bytes of the notification's subject. Every message a
notify execution publishes is on the configured topic, and its subject is what a reader sees of
the first 100 bytes of `Batch <batchId>: <n> applicant(s) unassigned`: at most 100 characters,
the whole subject when that has at most 100 bytes, and, for a subject without replacement
characters of its own, a prefix of it exactly when those bytes end between characters. -/
theorem topic_subject_first_bytes (s : NotifySettings) (r : NotifyRequest) (c : Conditions) (w : World) :
    let subject :=
      "Batch " ++ r.batchId ++ ": " ++ toString (r.listIn w.db).length ++ " applicant(s) unassigned"
    ∃ ps, ((notifyUnassigned s r).runIn c w).2.outbox.publications = w.outbox.publications ++ ps ∧
      ∀ p ∈ ps, p.topic = s.topicArn ∧ Text.FirstBytes 100 subject.toList p.subject.toList ∧
        p.subject.length ≤ 100 ∧ (subject.utf8ByteSize ≤ 100 → p.subject = subject) ∧
        (Char.ofNat 0xFFFD ∉ subject.toList → (p.subject.toList <+: subject.toList ↔
          ∃ k, Text.utf8Bytes (subject.toList.take k) = (Text.utf8Bytes subject.toList).take 100)) := by
  intro subject
  obtain ⟨-, ps, grown, cut⟩ := notifyUnassigned_publishesCut (c := c) s r w
  refine ⟨ps, grown, fun p listed => ?_⟩
  obtain ⟨onTopic, cutSubject⟩ := cut p listed
  have first : Text.FirstBytes 100 subject.toList p.subject.toList := by
    rw [cutSubject, Text.byteCut, String.toList_ofList]
    exact Text.byteCutChars_firstBytes 100 _
  refine ⟨onTopic, first, ?_, fun fits => ?_, fun clean => first.isPrefix_iff clean⟩
  · rw [← String.length_toList]
    exact first.length_le
  · rw [Text.utf8ByteSize_eq_length] at fits
    rw [cutSubject, Text.byteCut, Text.byteCutChars_of_length_le fits, String.ofList_toList]

/-- Notices on the operators' topic only. -/
def topicOnly : NotifySettings :=
  { bothChannels with mailEnabled := false, topicArn := "arn:aws:sns:eu-west-1:123:ops" }

/-- The notice about applicant `A` left waiting by run `r` of batch `b`. -/
def plainNotice : NotifyRequest := ⟨"b", "r", some ["A"], ""⟩

/-- The subject of the notice about batch `b` fits in 100 bytes and has no replacement
character, so every message publishing it carries it whole. -/
theorem plainBatch_topic_subject_whole :
    let subject := "Batch " ++ plainNotice.batchId ++ ": " ++
      toString (plainNotice.listIn oneSeatWorld.db).length ++ " applicant(s) unassigned"
    subject.utf8ByteSize ≤ 100 ∧ Char.ofNat 0xFFFD ∉ subject.toList ∧
      ∃ ps, ((notifyUnassigned topicOnly plainNotice).runIn { now := Instant.zero }
          oneSeatWorld).2.outbox.publications = oneSeatWorld.outbox.publications ++ ps ∧
        ∀ p ∈ ps, p.topic = topicOnly.topicArn ∧ Text.FirstBytes 100 subject.toList p.subject.toList ∧
          p.subject.length ≤ 100 ∧ (subject.utf8ByteSize ≤ 100 → p.subject = subject) ∧
          (Char.ofNat 0xFFFD ∉ subject.toList → (p.subject.toList <+: subject.toList ↔
            ∃ k, Text.utf8Bytes (subject.toList.take k) = (Text.utf8Bytes subject.toList).take 100)) :=
  ⟨by decide +kernel, by decide +kernel,
    topic_subject_first_bytes topicOnly plainNotice { now := Instant.zero } oneSeatWorld⟩

/-! ## 4. A cut inside a character -/

/-- A batch identifier of one letter and 47 `é`: 95 bytes in 48 characters. -/
def accentedBatchId : String := String.ofList ('a' :: List.replicate 47 'é')

/-- The notice about applicant `A` left waiting by run `r1` of the accented batch. -/
def accentedNotice : NotifyRequest := ⟨accentedBatchId, "r1", some ["A"], ""⟩

/-- The subject of the accented batch's notice has 81 characters in 128 bytes. Its first 100
bytes end after the first byte of the 47th `é`: the one message the execution publishes has a
subject that ends in a replacement character and is no prefix of the notice's subject, though
that subject is shorter than 100 characters. -/
theorem accentedBatch_topic_subject_split :
    ((notifyUnassigned topicOnly accentedNotice).runIn { now := Instant.zero }
        oneSeatWorld).2.outbox.publications.map (·.subject) =
      [Text.byteCut (composeNotice accentedBatchId "r1" "" ["A"]).1 100] ∧
    (composeNotice accentedBatchId "r1" "" ["A"]).1.length ≤ 100 ∧
    ¬ (Text.byteCut (composeNotice accentedBatchId "r1" "" ["A"]).1 100).toList <+:
      (composeNotice accentedBatchId "r1" "" ["A"]).1.toList ∧
    (Text.byteCut (composeNotice accentedBatchId "r1" "" ["A"]).1 100).toList.getLast? =
      some (Char.ofNat 0xFFFD) := by
  have published : ((notifyUnassigned topicOnly accentedNotice).runIn { now := Instant.zero }
      oneSeatWorld).2.outbox.publications.map (·.subject) =
      [Text.byteCut (composeNotice accentedBatchId "r1" "" ["A"]).1 100] := by
    decide +kernel
  -- the cut keeps "Batch a" and 46 `é`, then one byte of the next
  have cut : (Text.byteCut (composeNotice accentedBatchId "r1" "" ["A"]).1 100).toList =
      (composeNotice accentedBatchId "r1" "" ["A"]).1.toList.take 53 ++
        List.replicate 1 (Char.ofNat 0xFFFD) := by
    decide +kernel
  have clean : Char.ofNat 0xFFFD ∉ (composeNotice accentedBatchId "r1" "" ["A"]).1.toList := by
    decide +kernel
  refine ⟨published, by decide +kernel, ?_, ?_⟩
  · rw [cut]
    exact Text.not_isPrefix_of_replacement Nat.one_pos clean
  · rw [cut, List.getLast?_append, List.getLast?_replicate]
    rfl

end SlotAllocation
