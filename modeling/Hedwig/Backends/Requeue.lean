import Hedwig.Backends.AwsRequeue
import Hedwig.Backends.PubSub
import Hedwig.Lib.Handover

set_option relaxedAutoImplicit false
set_option autoImplicit false

/-!
# Requeueing keeps dead letters

`requeue_dead_letter` of the SQS and of the Pub/Sub consumer, as a handover from the dead-letter
queue to the main queue: a dead letter is removed only after the main queue has confirmed a copy of
its body, so none is lost, wherever the method stops.

## Main definitions

* `Hedwig.SqsCall.handover`, `Hedwig.RequeueEvent.handover` — the calls as events of a handover.
* `Hedwig.RequeueEvent.Attempts` — a call that begins to requeue a dead letter.

## Main results

* `Hedwig.requeueLoop_confirmed`, `Hedwig.requeueMessage_confirmed` — removals are confirmed.
* `Hedwig.requeueDeadLetter_keepsDeadLetters` — both backends lose nothing, and with Pub/Sub every
  dead letter that is received is attempted.

## Design

A receipt handle, or an ack id, stands for the delivery of a dead letter.  Which one that is, the
broker knows: `letterOf` is its knowledge, and the messages that it hands out have the body of the
dead letter that they are a delivery of.
-/

namespace Hedwig

open Handover hiding Event

variable {μ : Type}

/-! ## SQS -/

/-- What a call of the SQS consumer says: the entries under `Successful` are confirmed, and each
message that is deleted is to be removed, whatever becomes of that call. -/
def SqsCall.handover (letterOf : String → μ) : SqsCall → List (Handover.Event μ String)
  | .receiveMessages _ => []
  | .sendMessages _ (.error _) => []
  | .sendMessages entries (.ok result) =>
    (entries.filter fun entry => entry.id ∈ result.successful.getD []).map fun entry =>
      .confirm entry.messageBody
  | .deleteMessages entries _ => entries.map fun entry => .remove (letterOf entry.receiptHandle)

/-- The messages received are deliveries of dead letters. -/
def SqsRound.Delivers (body : μ → String) (letterOf : String → μ) (round : SqsRound) : Prop :=
  ∀ queueMessages, round.receiveMessages = .ok queueMessages →
    ∀ m ∈ queueMessages, body (letterOf m.receiptHandle) = m.body

section

variable {body : μ → String} {letterOf : String → μ} {round : SqsRound}
  {queueMessages : List SqsDeadLetter}

/-- Sending removes nothing. -/
lemma confirmedAfter_sendMessages {entries : List SendMessageEntry}
    {reply : Except PyException BatchResult} {earlier : List (Handover.Event μ String)} :
    ConfirmedAfter body earlier ((SqsCall.sendMessages entries reply).handover letterOf) := by
  refine confirmedAfter_of_forall fun e he => ?_
  cases reply with
  | error _ => cases he
  | ok result =>
    obtain ⟨entry, -, rfl⟩ := List.mem_map.mp he
    exact ⟨_, rfl⟩

/-- The messages of a batch that was sent without failures may be deleted: each of them has been
confirmed. -/
lemma confirmedAfter_deleteMessages {result : BatchResult} {reply : Except PyException BatchResult}
    (hdelivers : round.Delivers body letterOf) (hreceive : round.receiveMessages =
      .ok queueMessages) (hcovers : result.Covers (queueMessages.map SqsDeadLetter.messageId))
    (hfailed : result.hasFailed = false) :
    ConfirmedAfter body
      ((SqsCall.sendMessages (queueMessages.map AWSSQSConsumerBackend.sendEntry)
        (.ok result)).handover letterOf)
      ((SqsCall.deleteMessages (queueMessages.map AWSSQSConsumerBackend.deleteEntry)
        reply).handover letterOf) := by
  refine confirmedAfter_of_earlier fun letter hletter => ?_
  simp only [SqsCall.handover, List.map_map, List.mem_map] at hletter
  obtain ⟨m, hm, hremove⟩ := hletter
  obtain rfl : letterOf m.receiptHandle = letter := Handover.Event.remove.inj hremove
  have hsent := hcovers.mem_successful hfailed (List.mem_map_of_mem hm)
  rw [hdelivers queueMessages hreceive m hm]
  refine List.mem_map.mpr ⟨AWSSQSConsumerBackend.sendEntry m, ?_, rfl⟩
  exact List.mem_filter.mpr ⟨List.mem_map_of_mem hm, decide_eq_true hsent⟩

/-- A turn of the loop removes only what it has had confirmed. -/
lemma requeueBatch_confirmed (hdelivers : round.Delivers body letterOf)
    (hcovers : round.AccountsFor round.sendMessages)
    (hreceive : round.receiveMessages = .ok queueMessages) :
    Confirmed body ((AWSSQSConsumerBackend.requeueBatch queueMessages round).2.flatMap
      (SqsCall.handover letterOf)) := by
  unfold AWSSQSConsumerBackend.requeueBatch
  cases hsend : round.sendMessages with
  | error e =>
    simp only [List.flatMap_singleton]
    exact confirmedAfter_sendMessages
  | ok result =>
    cases hfailed : result.hasFailed with
    | true =>
      simp only [hfailed, if_true, List.flatMap_singleton]
      exact confirmedAfter_sendMessages
    | false =>
      have hcovered := hcovers queueMessages result hreceive hsend
      simp only [hfailed, Bool.false_eq_true, if_false]
      cases hreply : round.deleteMessages with
      | error e =>
        simp only [List.flatMap_cons, List.flatMap_nil, List.append_nil]
        exact confirmedAfter_sendMessages.append
          (confirmedAfter_deleteMessages hdelivers hreceive hcovered hfailed)
      | ok deleted =>
        simp only [List.flatMap_cons, List.flatMap_nil, List.append_nil]
        exact confirmedAfter_sendMessages.append
          (confirmedAfter_deleteMessages hdelivers hreceive hcovered hfailed)

/-- The loop removes only what it has had confirmed: by induction on its turns. -/
lemma requeueLoop_confirmed {rounds : List SqsRound}
    (hdelivers : ∀ round ∈ rounds, round.Delivers body letterOf)
    (hcovers : ∀ round ∈ rounds, round.AccountsFor round.sendMessages) :
    Confirmed body ((AWSSQSConsumerBackend.requeueLoop rounds).2.flatMap
      (SqsCall.handover letterOf)) := by
  have hreceive : ∀ reply, Confirmed body ((SqsCall.receiveMessages reply).handover letterOf) :=
    fun _ => confirmed_nil
  induction rounds with
  | nil => exact confirmed_nil
  | cons round rest ih =>
    rw [List.forall_mem_cons] at hdelivers hcovers
    have htail := ih hdelivers.2 hcovers.2
    rw [AWSSQSConsumerBackend.requeueLoop]
    split
    · next e _ => exact hreceive (.error e)
    · exact hreceive (.ok [])
    · next m queueMessages hmessages =>
      have hbatch := requeueBatch_confirmed hdelivers.1 hcovers.1 hmessages
      split
      · next outcome calls hrun =>
        rw [hrun] at hbatch
        exact (hreceive _).append hbatch
      · next calls hrun =>
        rw [hrun] at hbatch
        simp only [List.flatMap_cons, List.flatMap_append, List.cons_append]
        exact (hreceive _).append (hbatch.append htail)

end

/-! ## Pub/Sub -/

/-- What a call for a dead letter says: it is confirmed when the future of its publication has a
result, and removed by its acknowledgement, whatever becomes of that call. -/
def RequeueEvent.handover (letterOf : String → μ) (letter : DeadLetter) :
    RequeueEvent → List (Handover.Event μ (List UInt8))
  | .modifyAckDeadline _ _ => []
  | .publish _ _ => []
  | .result _ => if letter.result.isOk then [.confirm letter.data] else []
  | .acknowledge ackId => [.remove (letterOf ackId)]

/-- The calls of `requeue_dead_letter` for each dead letter that is received. -/
def GooglePubSubConsumerBackend.handover (letterOf : String → μ) (cfg : GcpSettings)
    (visibilityTimeout : Option ℤ) (letters : List DeadLetter) :
    List (Handover.Event μ (List UInt8)) :=
  letters.flatMap fun letter =>
    (requeueMessage cfg visibilityTimeout letter).flatMap (RequeueEvent.handover letterOf letter)

section

variable {body : μ → List UInt8} {letterOf : String → μ} {letter : DeadLetter}

/-- From `publish` on, a dead letter is removed only after it was confirmed. -/
lemma publishAgain_confirmed (cfg : GcpSettings)
    (hletter : body (letterOf letter.ackId) = letter.data) :
    Confirmed body ((GooglePubSubConsumerBackend.publishAgain cfg letter).flatMap
      (RequeueEvent.handover letterOf letter)) := by
  unfold GooglePubSubConsumerBackend.publishAgain
  cases callPublish (GooglePubSubConsumerBackend.requeueTopicPath cfg) letter.data
      letter.attributes with
  | error e => exact confirmed_nil
  | ok bound =>
    cases hpublish : (letter.publish bound).isOk with
    | false => simp [hpublish, RequeueEvent.handover]
    | true =>
      cases hresult : letter.result.isOk with
      | false => simp [hpublish, hresult, RequeueEvent.handover]
      | true =>
        have hremove : ConfirmedAfter body [.confirm letter.data]
            [.remove (letterOf letter.ackId)] :=
          confirmedAfter_of_earlier fun item hitem => by
            obtain rfl := Handover.Event.remove.inj (List.mem_singleton.mp hitem)
            rw [hletter]
            exact List.mem_singleton_self _
        have hconfirm : ConfirmedAfter body [] [.confirm letter.data] :=
          confirmedAfter_of_forall fun e he => ⟨_, List.mem_singleton.mp he⟩
        have hboth : Confirmed body [.confirm letter.data, .remove (letterOf letter.ackId)] :=
          hconfirm.append hremove
        simpa [hpublish, hresult, RequeueEvent.handover] using hboth

/-- The calls for a dead letter remove it only after it was confirmed. -/
lemma requeueMessage_confirmed (cfg : GcpSettings) (visibilityTimeout : Option ℤ)
    (hletter : body (letterOf letter.ackId) = letter.data) :
    Confirmed body ((GooglePubSubConsumerBackend.requeueMessage cfg visibilityTimeout
      letter).flatMap (RequeueEvent.handover letterOf letter)) := by
  have hagain := publishAgain_confirmed cfg hletter
  unfold GooglePubSubConsumerBackend.requeueMessage
  cases visibilityTimeout with
  | none => exact hagain
  | some seconds =>
    by_cases hseconds : seconds = 0
    · simpa [hseconds] using hagain
    · cases hmodify : letter.modifyAckDeadline.isOk with
      | true => simpa [hseconds, hmodify, RequeueEvent.handover] using hagain
      | false => simp [hseconds, RequeueEvent.handover]

/-- The calls for several dead letters: by induction on them. -/
lemma handover_confirmed (cfg : GcpSettings) (visibilityTimeout : Option ℤ)
    {letters : List DeadLetter}
    (hletters : ∀ letter ∈ letters, body (letterOf letter.ackId) = letter.data) :
    Confirmed body
      (GooglePubSubConsumerBackend.handover letterOf cfg visibilityTimeout letters) := by
  induction letters with
  | nil => exact confirmed_nil
  | cons letter rest ih =>
    rw [List.forall_mem_cons] at hletters
    exact (requeueMessage_confirmed cfg visibilityTimeout hletters.1).append (ih hletters.2)

/-- The call begins to requeue a dead letter. -/
def RequeueEvent.Attempts (letter : DeadLetter) : RequeueEvent → Prop
  | .modifyAckDeadline ackId _ => ackId = letter.ackId
  | .publish other _ => other = letter
  | _ => False

/-- Every dead letter is attempted. -/
lemma exists_attempts (cfg : GcpSettings) (visibilityTimeout : Option ℤ) (letter : DeadLetter) :
    ∃ e ∈ GooglePubSubConsumerBackend.requeueMessage cfg visibilityTimeout letter,
      e.Attempts letter := by
  have hagain : ∃ e ∈ GooglePubSubConsumerBackend.publishAgain cfg letter, e.Attempts letter :=
    ⟨_, List.mem_cons_self, rfl⟩
  unfold GooglePubSubConsumerBackend.requeueMessage
  cases visibilityTimeout with
  | none => exact hagain
  | some seconds =>
    by_cases hseconds : seconds = 0
    · simpa [hseconds] using hagain
    · simp only [hseconds, if_false]
      exact ⟨_, List.mem_cons_self, rfl⟩

end

/-! ## Both backends -/

/-- **Requeueing never drops a dead letter.**  Whatever the brokers answer, provided that each
entry that is sent to SQS is under exactly one of the keys of the response: in the calls of both
backends a dead letter is removed only after the main queue has confirmed a copy of its body, so at
every point, wherever the method stops, each dead letter is in the dead-letter queue or was accepted
by the main queue.  With Pub/Sub, the calls are those for each dead letter received, one after the
other, and each is attempted.

**Proof sketch.**  In both backends a dead letter is removed in a call that follows a confirmed copy
of its body: SQS deletes only what the response lists as successful, and Pub/Sub acknowledges after
the future has returned.  `Confirmed.losesNothing` turns this order into the conservation of dead
letters at every point. -/
theorem requeueDeadLetter_keepsDeadLetters (μ : Type) :
    (∀ (body : μ → String) (letterOf : String → μ) (sqsQueue deadLetterQueue : Outcome)
      (rounds : List SqsRound), (∀ round ∈ rounds, round.Delivers body letterOf) →
      (∀ round ∈ rounds, round.AccountsFor round.sendMessages) →
        let trace := (AWSSQSConsumerBackend.requeueDeadLetter sqsQueue deadLetterQueue
          rounds).2.flatMap (SqsCall.handover letterOf)
        Confirmed body trace ∧ LosesNothing body trace) ∧
      ∀ (cfg : GcpSettings) (subscriptionPath : String) (visibilityTimeout : Option ℤ)
        (responses : List PullResponse),
        (∀ (body : μ → List UInt8) (letterOf : String → μ),
          (∀ letter ∈ received responses, body (letterOf letter.ackId) = letter.data) →
            let trace := GooglePubSubConsumerBackend.handover letterOf cfg visibilityTimeout
              (received responses)
            Confirmed body trace ∧ LosesNothing body trace) ∧
          (GooglePubSubConsumerBackend.requeueDeadLetter cfg [subscriptionPath] visibilityTimeout
            responses).2 = (received responses).flatMap
              (GooglePubSubConsumerBackend.requeueMessage cfg visibilityTimeout) ∧
          ∀ letter ∈ received responses,
            ∃ e ∈ (GooglePubSubConsumerBackend.requeueDeadLetter cfg [subscriptionPath]
              visibilityTimeout responses).2, e.Attempts letter := by
  refine ⟨fun body letterOf sqsQueue deadLetterQueue rounds hdelivers hcovers => ?_,
    fun cfg subscriptionPath visibilityTimeout responses => ⟨?_, ?_, ?_⟩⟩
  · have hconfirmed : Confirmed body ((AWSSQSConsumerBackend.requeueDeadLetter sqsQueue
        deadLetterQueue rounds).2.flatMap (SqsCall.handover letterOf)) := by
      cases sqsQueue with
      | error e => exact confirmed_nil
      | ok _ =>
        cases deadLetterQueue with
        | error e => exact confirmed_nil
        | ok _ => exact requeueLoop_confirmed hdelivers hcovers
    exact ⟨hconfirmed, hconfirmed.losesNothing⟩
  · intro body letterOf hletters
    have hconfirmed := handover_confirmed cfg visibilityTimeout hletters
    exact ⟨hconfirmed, hconfirmed.losesNothing⟩
  · exact snd_requeueLoop cfg visibilityTimeout responses
  · intro letter hletter
    obtain ⟨e, he, hattempts⟩ := exists_attempts cfg visibilityTimeout letter
    refine ⟨e, ?_, hattempts⟩
    change e ∈ (GooglePubSubConsumerBackend.requeueLoop cfg visibilityTimeout responses).2
    rw [snd_requeueLoop]
    exact List.mem_flatMap.mpr ⟨letter, hletter, he⟩

/-- A dead letter whose publication fails. -/
def failingDeadLetter : DeadLetter :=
  { sampleDeadLetter (PyStr.encode "\x7b\x7d") .empty with
    ackId := "failing"
    result := .error (.new .runtimeError "deadline exceeded") }

/-- The theorem where sending fails for one of two messages from SQS, and where the first of two
messages from Pub/Sub is not published. -/
theorem requeueDeadLetter_keepsDeadLetters_sample :
    LosesNothing (fun _ : String => "\x7b\x7d")
        ((AWSSQSConsumerBackend.requeueDeadLetter (.ok ()) (.ok ())
          [sampleRound secondFailed bothSucceeded]).2.flatMap (SqsCall.handover id)) ∧
      LosesNothing (fun _ : String => PyStr.encode "\x7b\x7d")
        (GooglePubSubConsumerBackend.handover id sampleGcpSettings none
          [failingDeadLetter, sampleDeadLetter (PyStr.encode "\x7b\x7d") .empty]) ∧
      ∃ e ∈ (GooglePubSubConsumerBackend.requeueDeadLetter sampleGcpSettings ["myapp-dlq"] none
        [.messages [failingDeadLetter, sampleDeadLetter (PyStr.encode "\x7b\x7d") .empty]]).2,
        e.Attempts (sampleDeadLetter (PyStr.encode "\x7b\x7d") .empty) := by
  obtain ⟨hsqs, hpubSub⟩ := requeueDeadLetter_keepsDeadLetters String
  obtain ⟨hletters, -, hattempts⟩ := hpubSub sampleGcpSettings "myapp-dlq" none
    [.messages [failingDeadLetter, sampleDeadLetter (PyStr.encode "\x7b\x7d") .empty]]
  refine ⟨(hsqs _ id (.ok ()) (.ok ()) _ ?_ ?_).2, (hletters _ id ?_).2, hattempts _ (by
    simp [received])⟩
  · intro round hround queueMessages hreceive m hm
    obtain rfl := List.mem_singleton.mp hround
    obtain rfl := Except.ok.inj hreceive
    obtain rfl | hm := List.mem_cons.mp hm
    · rfl
    · obtain rfl := List.mem_singleton.mp hm
      rfl
  · rintro round hround
    obtain rfl := List.mem_singleton.mp hround
    exact (covers_sampleRound covers_secondFailed covers_bothSucceeded).1
  · intro letter hletter
    simp only [received, List.append_nil, List.mem_cons, List.not_mem_nil, or_false] at hletter
    obtain rfl | rfl := hletter <;> rfl

end Hedwig
