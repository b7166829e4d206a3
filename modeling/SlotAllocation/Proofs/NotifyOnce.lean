import SlotAllocation.Proofs.Refill
import SlotAllocation.Proofs.Triple
import SlotAllocation.Service.Notify

/-!
# Each channel of a notification is sent at most once

A notify job may be run again and again for one notification: after a failed send, after a
time-out, after the step that started it was retried. This file proves that however such runs
go, each channel carries the notification at most once, and the topic only after the mail.

1. The notification's identifier does not depend on the order of its applicants
   (`notificationId_perm`).
2. A request without a list is about the applicants the stored rows leave waiting
   (`NotifyRequest.listIn`); after a commit these are the ones the commit's answer names
   (`listIn_commit`).
3. A delivery whose log answers sends only on an unmarked channel, and marks it once sent
   (`runIn_deliver`).
4. What an execution may do to the world, channel by channel (`ChannelStep`, `Sends`,
   `Delivery`): a preorder, so the steps of a job compose into it.
5. One execution is such a delivery, and a "sent" answer leaves every enabled channel marked
   (`notifyUnassigned_triple`).
6. Any sequence of executions for one notification sends each channel at most once
   (`notifyAll_sends`, `notification_sent_at_most_once`).
-/

namespace SlotAllocation

/-! ## 1. The notification's identifier -/

/-- Sorting by `≤` puts permutations of one list of texts in one order. -/
theorem mergeSort_perm_eq {l l' : List String} (perm : l.Perm l') :
    l.mergeSort (fun a b => decide (a ≤ b)) = l'.mergeSort (fun a b => decide (a ≤ b)) := by
  have trans : ∀ a b c : String, decide (a ≤ b) = true → decide (b ≤ c) = true →
      decide (a ≤ c) = true := by
    simpa using fun a b c => @String.le_trans a b c
  have total : ∀ a b : String, (decide (a ≤ b) || decide (b ≤ a)) = true := by
    simpa using String.le_total
  refine List.Perm.eq_of_pairwise ?_ (List.pairwise_mergeSort trans total l)
    (List.pairwise_mergeSort trans total l')
    (((List.mergeSort_perm _ _).trans perm).trans (List.mergeSort_perm _ _).symm)
  intro a b _ _ ab ba
  exact String.le_antisymm (by simpa using ab) (by simpa using ba)

theorem notificationId_perm (b run : String) {l l' : List String} (perm : l.Perm l') :
    notificationId b run l = notificationId b run l' := by
  unfold notificationId
  rw [mergeSort_perm_eq perm]

/-! ## 2. The applicants a notification is about -/

/-- The applicants a notify request is about, against store `db`: its own list, or else the
applicants the stored rows of its batch leave waiting. -/
def NotifyRequest.listIn (r : NotifyRequest) (db : Database) : List String :=
  r.unassigned.getD (db.fillCurrent r.batchId).waiting

theorem storedUnassigned_readOnly (b : String) : (storedUnassigned b).ReadOnly := by
  unfold storedUnassigned
  refine Attempt.readOnly_bind (Attempt.readOnly_query _) fun _ =>
    Attempt.readOnly_bind (Attempt.readOnly_ofStore _ _) fun _ => ?_
  refine Attempt.readOnly_bind (Attempt.readOnly_query _) fun _ =>
    Attempt.readOnly_bind (Attempt.readOnly_ofStore _ _) fun _ => ?_
  refine Attempt.readOnly_bind (Attempt.readOnly_query _) fun _ =>
    Attempt.readOnly_bind (Attempt.readOnly_ofStore _ _) fun _ => ?_
  exact Attempt.readOnly_bind Attempt.readOnly_now fun _ => Attempt.readOnly_pure _

/-- Read from the store, the applicants of a batch are those its stored rows leave waiting. -/
theorem storedUnassigned_ok {c : Conditions} {w w' : World} {b : String} {p : List String × String}
    (ran : (storedUnassigned b).runIn c w = (.ok p, w')) : p.1 = (w.db.fillCurrent b).waiting := by
  unfold storedUnassigned at ran
  obtain ⟨batch, -, ran⟩ := Attempt.runIn_read_eq_ok ran
  obtain ⟨problem, problemLoaded, ran⟩ := Attempt.runIn_read_eq_ok ran
  obtain ⟨rows, rowsLoaded, ran⟩ := Attempt.runIn_read_eq_ok ran
  obtain rfl := Database.loadProblem_ok problemLoaded
  obtain rfl := Database.loadRows_ok rowsLoaded
  simp only [Attempt.runIn_bind, Attempt.runIn_lift, Work.runIn_now, Attempt.runIn_pure,
    Prod.mk.injEq, Except.ok.injEq] at ran
  rw [← ran.1]
  rfl

/-- After a commit of a run of the built-in engine the stored rows read back as its result. -/
theorem Database.fillCurrent_commit (db : Database) (b run : String) (f : Bool) :
    (db.commit b run (db.engineOutcome b f)).fillCurrent b = (db.engineOutcome b f).result := by
  have split : splitRows ((db.commit b run (db.engineOutcome b f)).batchRows b) =
      ((db.engineOutcome b f).result.pairs, (db.engineOutcome b f).result.forced) := by
    rw [Database.batchRows_commit]
    exact splitRows_commit _ _ f run
  exact ((db.commit b run (db.engineOutcome b f)).fill_of_split b split
    (defaultOutcome_summarized _ _ f)).1

/-- After a commit, a request without a list is about the applicants the commit's answer
names. -/
theorem listIn_commit (db : Database) (run : String) (f : Bool) (batch : Batch)
    {r : NotifyRequest} (absent : r.unassigned = none) :
    r.listIn (db.commit r.batchId run (db.engineOutcome r.batchId f)) =
      (ComputeAnswer.ofOutcome batch run (db.engineOutcome r.batchId f) false).unassigned.getD [] := by
  rw [NotifyRequest.listIn, absent, Option.getD_none, Database.fillCurrent_commit]
  rfl

/-! ## 3. Deliveries -/

namespace World

/-- Whether the cache holds `key`: for a delivery key, whether the channel is marked as sent. -/
def marked (w : World) (key : String) : Bool := w.cache.entries.contains key

/-- The world once the cache marks `key`. -/
def mark (w : World) (key : String) : World :=
  { w with cache := { w.cache with entries := w.cache.entries.insert key "1" } }

/-- The mails sent so far. -/
def mails (w : World) : Nat := w.outbox.emails.length

/-- The messages published so far. -/
def posts (w : World) : Nat := w.outbox.publications.length

@[simp] theorem marked_mark_self (w : World) (key : String) : (w.mark key).marked key = true := by
  simp [marked, mark, Table.contains_iff, Table.mem_keys_insert]

theorem marked_mark_other (w : World) {key k : String} (other : k ≠ key) :
    (w.mark key).marked k = w.marked k := by
  have same : (w.mark key).marked k = true ↔ w.marked k = true := by
    simp [marked, mark, Table.contains_iff, Table.mem_keys_insert, other]
  exact Bool.eq_iff_iff.mpr same

end World

theorem deliveryKey_mail_ne_topic (id : String) :
    deliveryKey id channelMail ≠ deliveryKey id channelTopic := by
  have channels : channelMail ≠ channelTopic := by
    unfold channelMail channelTopic
    intro same
    have letters := congrArg String.toList same
    simp at letters
  intro same
  exact channels ((String.append_right_inj _).mp same)

theorem Work.runIn_send {c : Conditions} (w : World) (fault : Faults → Option String)
    (record : Outbox → Outbox) :
    (Work.send fault record).runIn c w = match fault c.faults with
      | some m => (.error m, w)
      | none => (.ok (), { w with outbox := record w.outbox }) := by
  have read : (read : Work Conditions).runIn c w = (c, w) := rfl
  rw [Work.send, Work.runIn_bind, read]
  dsimp only
  cases fault c.faults <;> rfl

/-- A delivery whose log answers: a channel marked as sent is left alone; otherwise the send
runs, and a failed one fails the job while a sent one is marked. -/
theorem runIn_deliver {c : Conditions} (w : World) (id ch : String) (send : Work (Except String Unit))
    (reads : c.faults.cache.failure? "exists" (deliveryKey id ch) = none)
    (writes : c.faults.cache.failure? "set" (deliveryKey id ch) = none) :
    (deliver id ch send).runIn c w =
      if w.marked (deliveryKey id ch) = true then (.ok (), w)
      else match send.runIn c w with
        | (.error m, w₁) => (.error (Failure.notificationFailed ch m c.now.rfc3339), w₁)
        | (.ok (), w₁) => (.ok (), w₁.mark (deliveryKey id ch)) := by
  have read : (Work.delivered id ch).runIn c w = (.ok (w.marked (deliveryKey id ch)), w) := by
    simp [Work.delivered, Work.context, Cache.exists?, reads, Except.mapError, World.marked]
  unfold deliver
  rw [Attempt.runIn_bind, Attempt.runIn_lift, read]
  dsimp only
  by_cases marked : w.marked (deliveryKey id ch) = true
  · simp [marked, Except.toOption]
  · simp only [marked, Except.toOption, Option.getD_some, Bool.not_false, if_true,
      Bool.false_eq_true, if_false]
    rw [Attempt.runIn_bind, Attempt.runIn_lift]
    rcases send.runIn c w with ⟨_ | ⟨⟩, w₁⟩
    · simp
    · have recorded : (Work.markDelivered id ch).runIn c w₁ = (.ok (), w₁.mark (deliveryKey id ch)) := by
        simp [Work.markDelivered, Work.context, Cache.set, writes, Except.mapError, World.mark]
      simp only
      rw [Attempt.runIn_bind, Attempt.runIn_lift, recorded]
      rfl

/-! ## 4. What a notification does on its channels -/

/-- What a change of the world did on one channel, whose sent items `count` counts and whose
delivery mark is `key`: nothing, or it sent one item while the channel was unmarked, and
marked it. -/
inductive ChannelStep (count : World → Nat) (key : String) (w w' : World) : Prop
  | idle (same : count w' = count w) (kept : w'.marked key = w.marked key)
  | sent (once : count w' = count w + 1) (fresh : w.marked key = false)
      (marked : w'.marked key = true)

namespace ChannelStep

variable {count : World → Nat} {key : String} {w w₁ w₂ : World}

theorem refl (w : World) : ChannelStep count key w w := .idle rfl rfl

/-- A mark, once made, stays. -/
theorem marked_of (step : ChannelStep count key w w₁) (was : w.marked key = true) :
    w₁.marked key = true := by
  cases step with
  | idle _ kept => rw [kept, was]
  | sent _ _ marked => exact marked

/-- Two changes send at most once between them: a second send would find the first one's
mark. -/
theorem trans (first : ChannelStep count key w w₁) (second : ChannelStep count key w₁ w₂) :
    ChannelStep count key w w₂ := by
  cases first with
  | idle same kept =>
    cases second with
    | idle same' kept' => exact .idle (same'.trans same) (kept'.trans kept)
    | sent once fresh marked => exact .sent (by omega) (by rw [← kept, fresh]) marked
  | sent once fresh marked =>
    cases second with
    | idle same' kept' => exact .sent (by omega) fresh (kept'.trans marked)
    | sent _ fresh' _ => simp [marked] at fresh'

/-- From a world where the channel is unmarked, it is marked exactly when one item was sent. -/
theorem marked_iff_sent (step : ChannelStep count key w w₁) (fresh : w.marked key = false) :
    w₁.marked key = true ↔ count w₁ = count w + 1 := by
  cases step with
  | idle same kept => simp [same, kept, fresh]
  | sent once _ marked => simp [once, marked]

theorem count_le (step : ChannelStep count key w w₁) : count w₁ ≤ count w + 1 := by
  cases step with
  | idle same _ => omega
  | sent once _ _ => omega

end ChannelStep

/-- What notify executions may do to the world for notification `id`: keep the store, and on
each channel send at most once and mark it. -/
structure Sends (id : String) (w w' : World) : Prop where
  db : w'.db = w.db
  mail : ChannelStep World.mails (deliveryKey id channelMail) w w'
  topic : ChannelStep World.posts (deliveryKey id channelTopic) w w'

namespace Sends

variable {id : String} {w w₁ w₂ : World}

theorem refl (w : World) : Sends id w w := ⟨rfl, .refl w, .refl w⟩

theorem trans (first : Sends id w w₁) (second : Sends id w₁ w₂) : Sends id w w₂ :=
  ⟨second.db.trans first.db, first.mail.trans second.mail, first.topic.trans second.topic⟩

end Sends

/-- What one notify execution under settings `s` may do for notification `id`: send as above,
and publish on the topic only when mail is off or marked as sent. -/
structure Delivery (s : NotifySettings) (id : String) (w w' : World) : Prop
    extends Sends id w w' where
  mailFirst : w'.posts ≠ w.posts →
    s.mailEnabled = false ∨ w'.marked (deliveryKey id channelMail) = true

namespace Delivery

variable {s : NotifySettings} {id : String} {w w₁ w₂ : World}

theorem refl (w : World) : Delivery s id w w :=
  ⟨.refl w, fun moved => absurd rfl moved⟩

theorem trans (first : Delivery s id w w₁) (second : Delivery s id w₁ w₂) : Delivery s id w w₂ := by
  refine ⟨first.toSends.trans second.toSends, fun moved => ?_⟩
  by_cases later : w₂.posts = w₁.posts
  · -- the first change published, after the mail was marked or with mail off
    rcases first.mailFirst (by rwa [← later]) with off | marked
    · exact .inl off
    · exact .inr (second.mail.marked_of marked)
  · exact second.mailFirst later

instance : Std.Refl (Delivery s id) := ⟨refl⟩

instance : IsTrans World (Delivery s id) := ⟨fun _ _ _ => trans⟩

end Delivery

section Deliveries

variable {c : Conditions} {s : NotifySettings} {id : String}

/-- A channel stage: delivering when the channel is on, naming it; nothing when it is off. -/
theorem deliverOn_triple {P Q : World → Prop}
    (en : Bool) (id ch : String) (send : Work (Except String Unit))
    (delivered : en = true → Attempt.Triple c P (Delivery s id) (deliver id ch send) (fun _ w => Q w))
    (off : ∀ w, en = false → P w → Q w) :
    Attempt.Triple c P (Delivery s id) (deliverOn en id ch send) (fun _ w => Q w) := by
  unfold deliverOn
  split
  · rename_i on
    refine Attempt.Triple.bind (delivered on) fun _ => ?_
    exact (Attempt.triple_pure _).conseq (fun _ done => done) fun _ _ done => done.2
  · rename_i offNow
    exact (Attempt.triple_pure _).conseq (fun _ hold => hold)
      fun _ w done => off w (by simpa using offNow) done.2

/-- Delivering the mail of notification `id`, with a log that answers, is a delivery; the
channel is then marked. -/
theorem deliver_mail_triple {P : World → Prop} (e : Email)
    (reads : c.faults.cache.failure? "exists" (deliveryKey id channelMail) = none)
    (writes : c.faults.cache.failure? "set" (deliveryKey id channelMail) = none) :
    Attempt.Triple c P (Delivery s id) (deliver id channelMail (Work.sendEmail e))
      (fun _ w => w.marked (deliveryKey id channelMail) = true) := by
  intro w _
  rw [runIn_deliver w id channelMail _ reads writes]
  by_cases marked : w.marked (deliveryKey id channelMail) = true
  · rw [if_pos marked]
    exact ⟨.refl w, fun _ _ => marked⟩
  · rw [if_neg marked, Work.sendEmail, Work.runIn_send]
    rcases c.faults.mail with _ | m
    · -- the mail goes out: one more, and the channel marked
      refine ⟨⟨⟨rfl, .sent ?_ (by simpa using marked) (World.marked_mark_self _ _), .idle rfl ?_⟩,
        fun moved => absurd rfl moved⟩, fun _ _ => World.marked_mark_self _ _⟩
      · simp [World.mails, World.mark]
      · rw [World.marked_mark_other _ (deliveryKey_mail_ne_topic id).symm]
        rfl
    · exact ⟨.refl w, fun _ failed => by cases failed⟩

/-- Publishing notification `id` on the topic once the mail is off or marked, with a log that
answers, is a delivery; the topic is then marked, and the mail still is. -/
theorem deliver_topic_triple (p : Publication)
    (reads : c.faults.cache.failure? "exists" (deliveryKey id channelTopic) = none)
    (writes : c.faults.cache.failure? "set" (deliveryKey id channelTopic) = none) :
    Attempt.Triple c (fun w => s.mailEnabled = false ∨ w.marked (deliveryKey id channelMail) = true)
      (Delivery s id) (deliver id channelTopic (Work.publish p))
      (fun _ w => w.marked (deliveryKey id channelTopic) = true ∧
        (s.mailEnabled = false ∨ w.marked (deliveryKey id channelMail) = true)) := by
  intro w mailDone
  rw [runIn_deliver w id channelTopic _ reads writes]
  by_cases marked : w.marked (deliveryKey id channelTopic) = true
  · rw [if_pos marked]
    exact ⟨.refl w, fun _ _ => ⟨marked, mailDone⟩⟩
  · rw [if_neg marked, Work.publish, Work.runIn_send]
    have other := (deliveryKey_mail_ne_topic id)
    rcases c.faults.topic with _ | m
    · -- the message goes out: one more, and the topic marked
      have mailKept : ({ w with outbox := { w.outbox with publications := w.outbox.publications ++ [p] } }.mark
          (deliveryKey id channelTopic)).marked (deliveryKey id channelMail) =
          w.marked (deliveryKey id channelMail) :=
        World.marked_mark_other _ other
      refine ⟨⟨⟨rfl, .idle rfl mailKept, .sent ?_ (by simpa using marked) (World.marked_mark_self _ _)⟩,
        fun _ => mailKept ▸ mailDone⟩, fun _ _ => ⟨World.marked_mark_self _ _, mailKept ▸ mailDone⟩⟩
      simp [World.posts, World.mark]
    · exact ⟨.refl w, fun _ failed => by cases failed⟩

/-- The mail stage of a notification: afterwards the mail is off or marked. -/
theorem deliverOn_mail_triple {P : World → Prop} (e : Email)
    (reads : c.faults.cache.failure? "exists" (deliveryKey id channelMail) = none)
    (writes : c.faults.cache.failure? "set" (deliveryKey id channelMail) = none) :
    Attempt.Triple c P (Delivery s id) (deliverOn s.mailEnabled id channelMail (Work.sendEmail e))
      (fun _ w => s.mailEnabled = false ∨ w.marked (deliveryKey id channelMail) = true) :=
  deliverOn_triple _ _ _ _
    (fun _ => (deliver_mail_triple e reads writes).conseq (fun _ hold => hold)
      fun _ _ marked => .inr marked)
    fun _ off _ => .inl off

/-- The topic stage, after the mail stage: afterwards the topic is off or marked too. -/
theorem deliverOn_topic_triple (p : Publication)
    (reads : c.faults.cache.failure? "exists" (deliveryKey id channelTopic) = none)
    (writes : c.faults.cache.failure? "set" (deliveryKey id channelTopic) = none) :
    Attempt.Triple c (fun w => s.mailEnabled = false ∨ w.marked (deliveryKey id channelMail) = true)
      (Delivery s id) (deliverOn s.topicEnabled id channelTopic (Work.publish p))
      (fun _ w => (s.topicEnabled = false ∨ w.marked (deliveryKey id channelTopic) = true) ∧
        (s.mailEnabled = false ∨ w.marked (deliveryKey id channelMail) = true)) :=
  deliverOn_triple _ _ _ _
    (fun _ => (deliver_topic_triple p reads writes).conseq (fun _ hold => hold)
      fun _ _ done => ⟨.inr done.1, done.2⟩)
    fun _ off mailDone => ⟨.inl off, mailDone⟩

end Deliveries

/-! ## 5. One execution -/

section Execution

variable {c : Conditions} (s : NotifySettings) (r : NotifyRequest) {D : Database}

/-- A notify job reads the applicants it is about, as `listIn` says, and changes nothing. -/
theorem notifyList_triple {R : World → World → Prop} [Std.Refl R] :
    Attempt.Triple c (fun w => w.db = D) R (notifyList r)
      (fun x w => x.1 = r.listIn D ∧ w.db = D) := by
  unfold notifyList
  split
  · rename_i l given
    refine (Attempt.triple_pure _).conseq (fun _ hold => hold) ?_
    rintro _ _ ⟨rfl, stored⟩
    exact ⟨by simp [NotifyRequest.listIn, given], stored⟩
  · rename_i absent
    intro w stored
    rw [storedUnassigned_readOnly r.batchId c w]
    refine ⟨refl_of R w, fun x ran => ⟨?_, stored⟩⟩
    rw [storedUnassigned_ok (Prod.ext ran rfl), NotifyRequest.listIn, absent, Option.getD_none, stored]

variable {L : List String}
  (reads : ∀ ch ∈ [channelMail, channelTopic],
    c.faults.cache.failure? "exists" (deliveryKey (notificationId r.batchId r.runId L) ch) = none)
  (writes : ∀ ch ∈ [channelMail, channelTopic],
    c.faults.cache.failure? "set" (deliveryKey (notificationId r.batchId r.runId L) ch) = none)
include reads writes

/-- Sending a notification of the applicants of `L` is a delivery; every enabled channel is
then marked. -/
theorem sendNotice_triple {P : World → Prop} (kind : String) (l : List String) :
    Attempt.Triple c P (Delivery s (notificationId r.batchId r.runId L))
      (sendNotice s r (notificationId r.batchId r.runId L) kind l)
      (fun _ w => (s.mailEnabled = true →
          w.marked (deliveryKey (notificationId r.batchId r.runId L) channelMail) = true) ∧
        (s.topicEnabled = true →
          w.marked (deliveryKey (notificationId r.batchId r.runId L) channelTopic) = true)) := by
  unfold sendNotice
  dsimp only
  refine Attempt.Triple.bind (deliverOn_mail_triple _ (reads _ (by simp)) (writes _ (by simp)))
    fun _ => ?_
  refine Attempt.Triple.bind (deliverOn_topic_triple _ (reads _ (by simp)) (writes _ (by simp)))
    fun _ => ?_
  refine (Attempt.triple_pure _).conseq (fun _ hold => hold) ?_
  rintro _ w ⟨-, topicDone, mailDone⟩
  exact ⟨fun on => by simpa [on] using mailDone, fun on => by simpa [on] using topicDone⟩

/-- A notify execution about a request whose applicants are, up to order, those of `L` is a
delivery of the notification named after `L`; a "sent" answer names it and leaves every
enabled channel marked. -/
theorem notifyUnassigned_triple (listed : (r.listIn D).Perm L) :
    Attempt.Triple c (fun w => w.db = D) (Delivery s (notificationId r.batchId r.runId L))
      (notifyUnassigned s r)
      (fun a w => a.notificationId = notificationId r.batchId r.runId L ∧
        (a.status = "sent" →
          (s.mailEnabled = true →
            w.marked (deliveryKey (notificationId r.batchId r.runId L) channelMail) = true) ∧
          (s.topicEnabled = true →
            w.marked (deliveryKey (notificationId r.batchId r.runId L) channelTopic) = true))) := by
  unfold notifyUnassigned
  dsimp only
  split
  · exact Attempt.triple_fail_bind _ _
  · refine Attempt.Triple.bind (notifyList_triple r) fun ⟨l, kind⟩ => ?_
    refine Attempt.Triple.assume fun (listedHere : l = r.listIn D) => ?_
    have sameId : notificationId r.batchId r.runId l = notificationId r.batchId r.runId L :=
      notificationId_perm _ _ (listedHere ▸ listed)
    dsimp only
    rw [sameId]
    refine Attempt.Triple.bind (Attempt.ReadOnly.triple Attempt.readOnly_now) fun t => ?_
    split
    · -- nothing to send
      exact (Attempt.triple_pure _).conseq (fun _ hold => hold) fun _ _ ⟨answered, _⟩ =>
        ⟨by rw [answered], fun sent => by simp [answered] at sent⟩
    split
    · -- both channels off
      exact (Attempt.triple_pure _).conseq (fun _ hold => hold) fun _ _ ⟨answered, _⟩ =>
        ⟨by rw [answered], fun sent => by simp [answered] at sent⟩
    refine Attempt.Triple.bind (sendNotice_triple s r reads writes kind l) fun _ => ?_
    exact (Attempt.triple_pure _).conseq (fun _ hold => hold) fun _ _ ⟨answered, marked⟩ =>
      ⟨by rw [answered], fun _ => marked⟩

end Execution

/-! ## 6. Sequences of executions -/

/-- One notify execution: the conditions it runs under, its settings and its request. -/
structure NotifyRun where
  conditions : Conditions
  settings : NotifySettings
  request : NotifyRequest

namespace NotifyRun

/-- The outcome of running `e` in `w`, and the world it leaves. -/
def step (e : NotifyRun) (w : World) : Except Failure NotifyAnswer × World :=
  (notifyUnassigned e.settings e.request).runIn e.conditions w

/-- `e` is an execution for the notification of run `run` of batch `b` about the applicants
of `L`, up to order, read against store `D`, under a delivery log that answers. -/
structure About (e : NotifyRun) (D : Database) (b run : String) (L : List String) : Prop where
  ofBatch : e.request.batchId = b
  ofRun : e.request.runId = run
  listed : (e.request.listIn D).Perm L
  reads : ∀ ch ∈ [channelMail, channelTopic],
    e.conditions.faults.cache.failure? "exists" (deliveryKey (notificationId b run L) ch) = none
  writes : ∀ ch ∈ [channelMail, channelTopic],
    e.conditions.faults.cache.failure? "set" (deliveryKey (notificationId b run L) ch) = none

variable {e : NotifyRun} {w : World} {b run : String} {L : List String}

/-- One execution for a notification delivers it, and a "sent" answer names it with every
enabled channel marked. -/
theorem step_delivery (about : e.About w.db b run L) :
    Delivery e.settings (notificationId b run L) w (e.step w).2 ∧
      ∀ a, (e.step w).1 = .ok a → a.notificationId = notificationId b run L ∧
        (a.status = "sent" →
          (e.settings.mailEnabled = true →
            (e.step w).2.marked (deliveryKey (notificationId b run L) channelMail) = true) ∧
          (e.settings.topicEnabled = true →
            (e.step w).2.marked (deliveryKey (notificationId b run L) channelTopic) = true)) := by
  obtain ⟨rfl, rfl, listed, reads, writes⟩ := about
  have execution := notifyUnassigned_triple e.settings e.request reads writes listed
  unfold step
  exact execution w rfl

end NotifyRun

/-- The world after running the executions of `runs` in turn from `w`. -/
def notifyAll (runs : List NotifyRun) (w : World) : World :=
  runs.foldl (fun w e => (e.step w).2) w

theorem notifyAll_cons (e : NotifyRun) (rest : List NotifyRun) (w : World) :
    notifyAll (e :: rest) w = notifyAll rest (e.step w).2 := by
  rw [notifyAll, notifyAll, List.foldl_cons]

/-- Executions for one notification, however many and whichever of their sends fail, send on
each channel at most once between them. -/
theorem notifyAll_sends {b run : String} {L : List String} {runs : List NotifyRun} {w : World}
    (about : ∀ e ∈ runs, e.About w.db b run L) :
    Sends (notificationId b run L) w (notifyAll runs w) := by
  -- induction on the executions, from any world: each one keeps the store it reads
  induction runs generalizing w with
  | nil => exact .refl w
  | cons e rest ih =>
    have first := (NotifyRun.step_delivery (about e (by simp))).1
    have later : ∀ e' ∈ rest, e'.About (e.step w).2.db b run L := by
      rw [first.db]
      exact fun e' listed => about e' (by simp [listed])
    rw [notifyAll_cons]
    exact first.toSends.trans (ih later)

theorem notification_sent_at_most_once :
    (∀ (b run : String) (l l' : List String), l.Perm l' →
      notificationId b run l = notificationId b run l') ∧
    (∀ (db : Database) (run : String) (f : Bool) (batch : Batch) (r : NotifyRequest),
      r.unassigned = none →
        { r with unassigned :=
            (ComputeAnswer.ofOutcome batch run (db.engineOutcome r.batchId f) false).unassigned }.listIn
          (db.commit r.batchId run (db.engineOutcome r.batchId f)) =
        r.listIn (db.commit r.batchId run (db.engineOutcome r.batchId f))) ∧
    ∀ (b run : String) (L : List String) (runs : List NotifyRun) (w₀ : World),
      (∀ e ∈ runs, e.About w₀.db b run L) →
      w₀.marked (deliveryKey (notificationId b run L) channelMail) = false →
      w₀.marked (deliveryKey (notificationId b run L) channelTopic) = false →
      (notifyAll runs w₀).mails ≤ w₀.mails + 1 ∧ (notifyAll runs w₀).posts ≤ w₀.posts + 1 ∧
      ∀ pre e post, runs = pre ++ e :: post →
        ((e.step (notifyAll pre w₀)).2.posts ≠ (notifyAll pre w₀).posts →
          e.settings.mailEnabled = false ∨ (e.step (notifyAll pre w₀)).2.mails = w₀.mails + 1) ∧
        ∀ a, (e.step (notifyAll pre w₀)).1 = .ok a →
          a.notificationId = notificationId b run L ∧
          (a.status = "sent" →
            (e.settings.mailEnabled = true → (e.step (notifyAll pre w₀)).2.mails = w₀.mails + 1) ∧
            (e.settings.topicEnabled = true →
              (e.step (notifyAll pre w₀)).2.posts = w₀.posts + 1)) := by
  refine ⟨fun b run _ _ perm => notificationId_perm b run perm, fun db run f batch r absent => ?_, ?_⟩
  · -- a list passed on from the commit's answer is the one its stored rows give
    rw [listIn_commit db run f batch absent]
    simp only [NotifyRequest.listIn, Database.fillCurrent_commit, ComputeAnswer.ofOutcome,
      Result.waiting]
    cases (db.engineOutcome r.batchId f).result.unassigned <;> rfl
  intro b run L runs w₀ about mailFresh topicFresh
  have whole := notifyAll_sends about
  refine ⟨whole.mail.count_le, whole.topic.count_le, ?_⟩
  rintro pre e post rfl
  have before : Sends (notificationId b run L) w₀ (notifyAll pre w₀) :=
    notifyAll_sends fun e' listed => about e' (by simp [listed])
  have here : e.About (notifyAll pre w₀).db b run L := before.db ▸ about e (by simp)
  obtain ⟨delivered, answered⟩ := NotifyRun.step_delivery here
  -- counted from the start, a channel is marked exactly when it has been sent
  have upTo := before.trans delivered.toSends
  have mailSent := upTo.mail.marked_iff_sent mailFresh
  have topicSent := upTo.topic.marked_iff_sent topicFresh
  refine ⟨fun moved => ?_, fun a ok => ?_⟩
  · rcases delivered.mailFirst moved with off | marked
    exacts [.inl off, .inr (mailSent.mp marked)]
  · obtain ⟨named, sent⟩ := answered a ok
    refine ⟨named, fun isSent => ?_⟩
    obtain ⟨mail, topic⟩ := sent isSent
    exact ⟨fun on => mailSent.mp (mail on), fun on => topicSent.mp (topic on)⟩

/-- Notices on both channels. -/
def bothChannels : NotifySettings :=
  { timeout := 30, mailEnabled := true, fromAddress := "allocations", recipients := some ["office"]
    topicEnabled := true, topicArn := "unassigned", deliveryTTL := 86400, maxRetries := 3
    retryBackoff := 1 }

/-- A notice about applicant "A" tried twice: the first time the mail service is down. -/
def retriedNotice : List NotifyRun :=
  [⟨{ now := Instant.zero, faults := { mail := some "throttled" } }, bothChannels,
      ⟨"b", "r", some ["A"], ""⟩⟩,
    ⟨{ now := Instant.zero }, bothChannels, ⟨"b", "r", some ["A"], ""⟩⟩]

theorem retriedNotice_sent_at_most_once :
    (∀ e ∈ retriedNotice, e.About oneSeatWorld.db "b" "r" ["A"]) ∧
      (notifyAll retriedNotice oneSeatWorld).mails ≤ oneSeatWorld.mails + 1 ∧
      (notifyAll retriedNotice oneSeatWorld).posts ≤ oneSeatWorld.posts + 1 := by
  have about : ∀ e ∈ retriedNotice, e.About oneSeatWorld.db "b" "r" ["A"] := by
    intro e listed
    simp only [retriedNotice, List.mem_cons, List.not_mem_nil, or_false] at listed
    rcases listed with rfl | rfl <;> exact ⟨rfl, rfl, .refl _, by simp, by simp⟩
  have fresh : ∀ key, oneSeatWorld.marked key = false := fun _ => rfl
  obtain ⟨mails, posts, -⟩ := notification_sent_at_most_once.2.2 "b" "r" ["A"] retriedNotice
    oneSeatWorld about (fresh _) (fresh _)
  exact ⟨about, mails, posts⟩

end SlotAllocation
