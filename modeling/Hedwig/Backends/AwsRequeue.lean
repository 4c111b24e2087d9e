import Hedwig.Backends.Aws
import Hedwig.Lib.Trace

set_option relaxedAutoImplicit false
set_option autoImplicit false

/-!
# Requeueing dead letters from SQS

`requeue_dead_letter` of the SQS consumer and `hedwig.backends.exceptions`: batches of messages are
received from the dead-letter queue, sent to the main queue, and deleted from the dead-letter
queue.  A batch call succeeds or fails for each entry of its own.

## Main definitions

* `Hedwig.BatchResult` — the response to a batch call.
* `Hedwig.PartialFailure` — the exception for a batch that failed partially.
* `Hedwig.AWSSQSConsumerBackend.requeueDeadLetter` — how the method ends, and the calls it makes.
* `Hedwig.ReportsFailures` — every failed entry ends the method with a `PartialFailure`, and the
  method returns only when everything was sent and deleted.

## Main results

* `Hedwig.requeueDeadLetter_reportsFailures_iff` — when that holds.

## Design

The responses of the queues are the input: a `SqsRound` has those to one turn of the loop.  The
heartbeat and the error counter, which `pull_messages` takes care of after each call, are left out;
an exception from them is one of `pull_messages`.
-/

namespace Hedwig

/-! ## Batch calls -/

/-- A message of the dead-letter queue. -/
structure SqsDeadLetter extends SqsMessage where
  messageId : String

/-- An entry of `send_messages`. -/
structure SendMessageEntry where
  id : String
  messageBody : String
  messageAttributes : Option (PyDict String MessageAttribute)

/-- An entry of `delete_messages`. -/
structure DeleteMessageEntry where
  id : String
  receiptHandle : String

/-- The response to a batch call: the ids of the entries under `Successful` and under `Failed`.  A
response may leave out either key. -/
structure BatchResult where
  successful : Option (List String)
  failed : Option (List String)

namespace BatchResult

/-- `result.get('Failed')` is not empty. -/
def hasFailed (result : BatchResult) : Bool := result.failed.getD [] ≠ []

/-- Each of the ids is under exactly one of the keys. -/
def Covers (result : BatchResult) (ids : List String) : Prop :=
  ∀ id ∈ ids, Xor (id ∈ result.successful.getD []) (id ∈ result.failed.getD [])

end BatchResult

/-- `PartialFailure`. -/
structure PartialFailure where
  successCount : ℕ
  failureCount : ℕ
  result : BatchResult

/-- The constructor of `PartialFailure`, which takes both keys to be there. -/
def PartialFailure.new (result : BatchResult) : Except PyException PartialFailure :=
  match result.successful with
  | none => .error (.new .keyError "Successful")
  | some successful =>
    match result.failed with
    | none => .error (.new .keyError "Failed")
    | some failed => .ok ⟨successful.length, failed.length, result⟩

/-! ## The method -/

/-- How `requeue_dead_letter` ends. -/
inductive RequeueOutcome
  | returned
  | partialFailure (e : PartialFailure)
  | raises (e : PyException)

/-- A call of `requeue_dead_letter`, with its reply. -/
inductive SqsCall
  | receiveMessages (reply : Except PyException (List SqsDeadLetter))
  | sendMessages (entries : List SendMessageEntry) (reply : Except PyException BatchResult)
  | deleteMessages (entries : List DeleteMessageEntry) (reply : Except PyException BatchResult)

/-- The replies to one turn of the loop, each as far as the call is made. -/
structure SqsRound where
  receiveMessages : Except PyException (List SqsDeadLetter)
  sendMessages : Except PyException BatchResult
  deleteMessages : Except PyException BatchResult

namespace AWSSQSConsumerBackend

/-- The entry that sends a message again.  `MessageAttributes` is left out where there are none. -/
def sendEntry (queueMessage : SqsDeadLetter) : SendMessageEntry where
  id := queueMessage.messageId
  messageBody := queueMessage.body
  messageAttributes := queueMessage.messageAttributes.filter (·.items ≠ [])

/-- The entry that deletes a message. -/
def deleteEntry (queueMessage : SqsDeadLetter) : DeleteMessageEntry :=
  ⟨queueMessage.messageId, queueMessage.receiptHandle⟩

/-- `raise PartialFailure(result)`. -/
def raisePartialFailure (result : BatchResult) : RequeueOutcome :=
  match PartialFailure.new result with
  | .ok e => .partialFailure e
  | .error e => .raises e

/-- The body of the loop for the messages received: how it ends, or `none` if the loop goes on, and
the calls made. -/
def requeueBatch (queueMessages : List SqsDeadLetter) (round : SqsRound) :
    Option RequeueOutcome × List SqsCall :=
  let send := SqsCall.sendMessages (queueMessages.map sendEntry) round.sendMessages
  match round.sendMessages with
  | .error e => (some (.raises e), [send])
  | .ok result =>
    if result.hasFailed then (some (raisePartialFailure result), [send])
    else
      let delete := SqsCall.deleteMessages (queueMessages.map deleteEntry) round.deleteMessages
      match round.deleteMessages with
      | .error e => (some (.raises e), [send, delete])
      -- the result is not looked at
      | .ok _ => (none, [send, delete])

/-- The loop of `requeue_dead_letter`: how it ends, or `none` if it is waiting for the next reply,
and the calls made. -/
def requeueLoop : List SqsRound → Option RequeueOutcome × List SqsCall
  | [] => (none, [])
  | round :: rest =>
    match round.receiveMessages with
    | .error e => (some (.raises e), [.receiveMessages (.error e)])
    | .ok [] => (some .returned, [.receiveMessages (.ok [])])
    | .ok (m :: queueMessages) =>
      match requeueBatch (m :: queueMessages) round with
      | (some outcome, calls) =>
        (some outcome, .receiveMessages (.ok (m :: queueMessages)) :: calls)
      | (none, calls) =>
        let (outcome, more) := requeueLoop rest
        (outcome, .receiveMessages (.ok (m :: queueMessages)) :: calls ++ more)

/-- `requeue_dead_letter`, with how the lookups of the two queues end. -/
def requeueDeadLetter (sqsQueue deadLetterQueue : Outcome) (rounds : List SqsRound) :
    Option RequeueOutcome × List SqsCall :=
  match sqsQueue with
  | .error e => (some (.raises e), [])
  | .ok () =>
    match deadLetterQueue with
    | .error e => (some (.raises e), [])
    | .ok () => requeueLoop rounds

end AWSSQSConsumerBackend

/-! ## Reporting failures -/

/-- A message was sent to the main queue, and accepted there. -/
def Accepted (queueMessage : SqsDeadLetter) (calls : List SqsCall) : Prop :=
  ∃ entries result, SqsCall.sendMessages entries (.ok result) ∈ calls ∧
    AWSSQSConsumerBackend.sendEntry queueMessage ∈ entries ∧
    queueMessage.messageId ∈ result.successful.getD []

/-- A message was deleted from the dead-letter queue. -/
def Deleted (queueMessage : SqsDeadLetter) (calls : List SqsCall) : Prop :=
  ∃ entries result, SqsCall.deleteMessages entries (.ok result) ∈ calls ∧
    AWSSQSConsumerBackend.deleteEntry queueMessage ∈ entries ∧
    queueMessage.messageId ∈ result.successful.getD []

/-- A response with failed entries ends the method, with an exception that carries the counts. -/
def BatchResult.Reported (result : BatchResult) (outcome : Option RequeueOutcome)
    (after : List SqsCall) : Prop :=
  result.hasFailed = true → after = [] ∧
    outcome = some (.partialFailure
      ⟨(result.successful.getD []).length, (result.failed.getD []).length, result⟩)

/-- What a call says about how the method ends, with the calls after it: if the method returns, then
the messages received were accepted and deleted, and failed entries are reported. -/
def SqsCall.Reported (outcome : Option RequeueOutcome) (call : SqsCall) (after : List SqsCall) :
    Prop :=
  match call with
  | .receiveMessages (.ok queueMessages) =>
    outcome = some .returned → ∀ m ∈ queueMessages, Accepted m after ∧ Deleted m after
  | .sendMessages _ (.ok result) => result.Reported outcome after
  | .deleteMessages _ (.ok result) => result.Reported outcome after
  | _ => True

/-- The method returns only if every message that was received was accepted by the main queue and
deleted from the dead-letter queue, and a call for which some entry failed is the last one, after
which `PartialFailure` is raised with the counts of its response. -/
def ReportsFailures (run : Option RequeueOutcome × List SqsCall) : Prop :=
  AtEach (fun _ call after => call.Reported run.1 after) [] run.2

namespace SqsRound

variable (round : SqsRound)

/-- The response to a batch call for the messages received accounts for every entry. -/
def AccountsFor (reply : Except PyException BatchResult) : Prop :=
  ∀ queueMessages result, round.receiveMessages = .ok queueMessages → reply = .ok result →
    result.Covers (queueMessages.map SqsDeadLetter.messageId)

/-- The responses to both batch calls account for every entry. -/
def Covers : Prop :=
  round.AccountsFor round.sendMessages ∧ round.AccountsFor round.deleteMessages

/-- Messages were received, all of them were sent, and the call that deletes them returned. -/
def GoesOn : Prop :=
  (∃ m queueMessages, round.receiveMessages = .ok (m :: queueMessages)) ∧
    (∃ result, round.sendMessages = .ok result ∧ result.hasFailed = false) ∧
    ∃ result, round.deleteMessages = .ok result

/-- When messages were received: if sending failed for some of them, then `Successful` is in the
response, and if it failed for none, then deleting failed for none. -/
def Reportable : Prop :=
  ∀ m queueMessages result, round.receiveMessages = .ok (m :: queueMessages) →
    round.sendMessages = .ok result →
      (result.hasFailed = true → result.successful.isSome = true) ∧
      (result.hasFailed = false →
        ∀ deleted, round.deleteMessages = .ok deleted → deleted.hasFailed = false)

end SqsRound

/-- Every turn of the loop is reportable, up to the first one that ends it. -/
def ReportableRounds : List SqsRound → Prop
  | [] => True
  | round :: rest => round.Reportable ∧ (round.GoesOn → ReportableRounds rest)

section

variable {m : SqsDeadLetter} {queueMessages : List SqsDeadLetter} {round : SqsRound}
  {rounds : List SqsRound} {result deleted : BatchResult} {outcome : Option RequeueOutcome}
  {calls : List SqsCall}

/-- Without failed entries, every entry is under `Successful`. -/
lemma BatchResult.Covers.mem_successful {ids : List String} (h : result.Covers ids)
    (hfailed : result.hasFailed = false) {id : String} (hid : id ∈ ids) :
    id ∈ result.successful.getD [] := by
  have hnil : result.failed.getD [] = [] := by simpa [BatchResult.hasFailed] using hfailed
  rcases h id hid with ⟨hmem, -⟩ | ⟨hmem, -⟩
  · exact hmem
  · rw [hnil] at hmem
    cases hmem

/-- A response without failed entries has nothing to report. -/
lemma BatchResult.reported_of_not_hasFailed (h : result.hasFailed = false) :
    result.Reported outcome calls := by
  intro hfailed
  rw [h] at hfailed
  cases hfailed

/-- A partial failure is raised with its counts exactly if `Successful` is there. -/
lemma raisePartialFailure_eq_iff (h : result.hasFailed = true) :
    AWSSQSConsumerBackend.raisePartialFailure result = .partialFailure
        ⟨(result.successful.getD []).length, (result.failed.getD []).length, result⟩ ↔
      result.successful.isSome = true := by
  obtain ⟨successful, failed⟩ := result
  cases successful with
  | none => simp [AWSSQSConsumerBackend.raisePartialFailure, PartialFailure.new]
  | some successful =>
    cases failed with
    | none => simp [BatchResult.hasFailed] at h
    | some failed => simp [AWSSQSConsumerBackend.raisePartialFailure, PartialFailure.new]

/-- The method does not return there. -/
lemma raisePartialFailure_ne_returned (result : BatchResult) :
    AWSSQSConsumerBackend.raisePartialFailure result ≠ .returned := by
  unfold AWSSQSConsumerBackend.raisePartialFailure
  split <;> simp

/-- A loop that made no call has not ended. -/
lemma fst_requeueLoop (h : (AWSSQSConsumerBackend.requeueLoop rounds).2 = []) :
    (AWSSQSConsumerBackend.requeueLoop rounds).1 = none := by
  cases rounds with
  | nil => rfl
  | cons round rest =>
    rw [AWSSQSConsumerBackend.requeueLoop] at h
    split at h
    · cases h
    · cases h
    · split at h <;> cases h

/-- The messages of a turn of the loop that goes on were accepted and deleted, if the responses
account for every entry and deleting failed for none. -/
lemma accepted_and_deleted (hcovers : round.Covers) (hreceive : round.receiveMessages =
      .ok queueMessages) (hsend : round.sendMessages = .ok result)
    (hresult : result.hasFailed = false) (hdelete : round.deleteMessages = .ok deleted)
    (hdeleted : deleted.hasFailed = false) (hm : m ∈ queueMessages) :
    Accepted m (.sendMessages (queueMessages.map AWSSQSConsumerBackend.sendEntry) (.ok result) ::
        .deleteMessages (queueMessages.map AWSSQSConsumerBackend.deleteEntry) (.ok deleted) ::
          calls) ∧
      Deleted m (.sendMessages (queueMessages.map AWSSQSConsumerBackend.sendEntry) (.ok result) ::
        .deleteMessages (queueMessages.map AWSSQSConsumerBackend.deleteEntry) (.ok deleted) ::
          calls) := by
  have hid := List.mem_map_of_mem (f := SqsDeadLetter.messageId) hm
  constructor
  · refine ⟨_, result, List.mem_cons_self, List.mem_map_of_mem hm, ?_⟩
    exact (hcovers.1 _ _ hreceive hsend).mem_successful hresult hid
  · refine ⟨_, deleted, List.mem_cons_of_mem _ List.mem_cons_self, List.mem_map_of_mem hm, ?_⟩
    exact (hcovers.2 _ _ hreceive hdelete).mem_successful hdeleted hid

/-- After a turn that goes on, the calls of the later turns say the same as without it, and a failed
deletion in it is not reported, as the loop has not ended with that call. -/
lemma reportsFailures_cons_of_goesOn {m : SqsDeadLetter} {queueMessages : List SqsDeadLetter}
    {result deleted : BatchResult}
    (hcovers : SqsRound.Covers ⟨.ok (m :: queueMessages), .ok result, .ok deleted⟩)
    (hresult : result.hasFailed = false) :
    ReportsFailures (AWSSQSConsumerBackend.requeueLoop
        (⟨.ok (m :: queueMessages), .ok result, .ok deleted⟩ :: rounds)) ↔
      deleted.hasFailed = false ∧ ReportsFailures (AWSSQSConsumerBackend.requeueLoop rounds) := by
  have hrun : AWSSQSConsumerBackend.requeueLoop
        (⟨.ok (m :: queueMessages), .ok result, .ok deleted⟩ :: rounds) =
      ((AWSSQSConsumerBackend.requeueLoop rounds).1, .receiveMessages (.ok (m :: queueMessages)) ::
        .sendMessages ((m :: queueMessages).map AWSSQSConsumerBackend.sendEntry) (.ok result) ::
        .deleteMessages ((m :: queueMessages).map AWSSQSConsumerBackend.deleteEntry)
          (.ok deleted) :: (AWSSQSConsumerBackend.requeueLoop rounds).2) := by
    simp [AWSSQSConsumerBackend.requeueLoop, AWSSQSConsumerBackend.requeueBatch, hresult]
  rw [hrun, ReportsFailures, ReportsFailures]
  simp only [atEach_cons]
  constructor
  · rintro ⟨-, -, hdeleted, htail⟩
    refine ⟨?_, htail⟩
    by_contra hfailed
    -- the loop would have to end without another call
    obtain ⟨hnil, houtcome⟩ := hdeleted (by simpa using hfailed)
    rw [fst_requeueLoop hnil] at houtcome
    cases houtcome
  · rintro ⟨hdeleted, htail⟩
    refine ⟨fun _ m' hm' => ?_, BatchResult.reported_of_not_hasFailed hresult,
      BatchResult.reported_of_not_hasFailed hdeleted, htail⟩
    exact accepted_and_deleted hcovers rfl rfl hresult rfl hdeleted hm'

/-- The loop reports failures exactly if its turns are reportable.

**Proof sketch.** Induction on the turns.  A turn that ends the loop reports its failures unless
`PartialFailure` cannot be constructed. -/
lemma requeueLoop_reportsFailures_iff (hcovers : ∀ round ∈ rounds, round.Covers) :
    ReportsFailures (AWSSQSConsumerBackend.requeueLoop rounds) ↔ ReportableRounds rounds := by
  induction rounds with
  | nil => exact iff_of_true atEach_nil trivial
  | cons round rest ih =>
    have ih := ih fun r hr => hcovers r (List.mem_cons_of_mem _ hr)
    have hcovers := hcovers round List.mem_cons_self
    obtain ⟨receive, send, delete⟩ := round
    rw [ReportableRounds]
    cases receive with
    | error e =>
      simp [AWSSQSConsumerBackend.requeueLoop, ReportsFailures, SqsCall.Reported,
        SqsRound.Reportable, SqsRound.GoesOn]
    | ok queueMessages =>
    cases queueMessages with
    | nil =>
      simp [AWSSQSConsumerBackend.requeueLoop, ReportsFailures, SqsCall.Reported,
        SqsRound.Reportable, SqsRound.GoesOn]
    | cons m queueMessages =>
    cases send with
    | error e =>
      simp [AWSSQSConsumerBackend.requeueLoop, AWSSQSConsumerBackend.requeueBatch,
        ReportsFailures, atEach_cons, SqsCall.Reported, SqsRound.Reportable, SqsRound.GoesOn]
    | ok result =>
    cases hresult : result.hasFailed with
    | true =>
      have hraise := raisePartialFailure_eq_iff hresult
      have hreturned := raisePartialFailure_ne_returned result
      simp [AWSSQSConsumerBackend.requeueLoop, AWSSQSConsumerBackend.requeueBatch, hresult,
        ReportsFailures, atEach_cons, SqsCall.Reported, SqsRound.Reportable, SqsRound.GoesOn,
        BatchResult.Reported, hraise, hreturned]
    | false =>
    have hsent : ∀ outcome calls, result.Reported outcome calls := fun _ _ =>
      BatchResult.reported_of_not_hasFailed hresult
    cases delete with
    | error e =>
      simp [AWSSQSConsumerBackend.requeueLoop, AWSSQSConsumerBackend.requeueBatch, hresult,
        ReportsFailures, atEach_cons, SqsCall.Reported, SqsRound.Reportable, SqsRound.GoesOn, hsent]
    | ok deleted =>
    have hgoes : SqsRound.GoesOn ⟨.ok (m :: queueMessages), .ok result, .ok deleted⟩ :=
      ⟨⟨m, queueMessages, rfl⟩, ⟨result, rfl, hresult⟩, deleted, rfl⟩
    have hround : SqsRound.Reportable ⟨.ok (m :: queueMessages), .ok result, .ok deleted⟩ ↔
        deleted.hasFailed = false := by
      simp [SqsRound.Reportable, hresult]
    rw [reportsFailures_cons_of_goesOn hcovers hresult, hround, forall_prop_of_true hgoes, ih]

end

/-- **When `requeue_dead_letter` reports partial failures.**  If every response to a batch call
accounts for its entries, then the method returns only after everything was accepted and deleted,
and raises `PartialFailure` for every failed entry, exactly if this holds of each turn of the loop
that is reached: a response to `send_messages` with failed entries has the key `Successful`, and the
response to `delete_messages` has no failed entries.

**Proof sketch.**  A queue that cannot be looked up ends the method before any call.  Otherwise the
loop runs, and `requeueLoop_reportsFailures_iff` follows it turn by turn. -/
theorem requeueDeadLetter_reportsFailures_iff (sqsQueue deadLetterQueue : Outcome)
    (rounds : List SqsRound) (hcovers : ∀ round ∈ rounds, round.Covers) :
    ReportsFailures
        (AWSSQSConsumerBackend.requeueDeadLetter sqsQueue deadLetterQueue rounds) ↔
      (sqsQueue = .ok () → deadLetterQueue = .ok () → ReportableRounds rounds) := by
  cases sqsQueue with
  | error e => exact iff_of_true atEach_nil fun h => by cases h
  | ok _ =>
  cases deadLetterQueue with
  | error e => exact iff_of_true atEach_nil fun _ h => by cases h
  | ok _ =>
    rw [forall_prop_of_true rfl, forall_prop_of_true rfl]
    exact requeueLoop_reportsFailures_iff hcovers

/-! ## Samples -/

/-- A dead letter with an id. -/
def sampleSqsDeadLetter (messageId : String) : SqsDeadLetter :=
  ⟨⟨"\x7b\x7d", none, .empty, "receipt-" ++ messageId⟩, messageId⟩

/-- A turn of the loop for two messages, with the responses to its batch calls. -/
def sampleRound (send delete : BatchResult) : SqsRound :=
  ⟨.ok [sampleSqsDeadLetter "1", sampleSqsDeadLetter "2"], .ok send, .ok delete⟩

/-- The responses to the calls for two messages account for both. -/
lemma covers_sampleRound {send delete : BatchResult} (hsend : send.Covers ["1", "2"])
    (hdelete : delete.Covers ["1", "2"]) : (sampleRound send delete).Covers := by
  constructor
  · rintro _ _ ⟨⟩ ⟨⟩
    exact hsend
  · rintro _ _ ⟨⟩ ⟨⟩
    exact hdelete

/-- Both entries succeeded. -/
def bothSucceeded : BatchResult := ⟨some ["1", "2"], none⟩

/-- The second entry failed. -/
def secondFailed : BatchResult := ⟨some ["1"], some ["2"]⟩

/-- Both entries failed. -/
def bothFailed : BatchResult := ⟨none, some ["1", "2"]⟩

lemma covers_bothSucceeded : bothSucceeded.Covers ["1", "2"] := by
  simp [BatchResult.Covers, bothSucceeded, Xor]

lemma covers_secondFailed : secondFailed.Covers ["1", "2"] := by
  simp [BatchResult.Covers, secondFailed, Xor]

lemma covers_bothFailed : bothFailed.Covers ["1", "2"] := by
  simp [BatchResult.Covers, bothFailed, Xor]

/-- The theorem where sending fails for one of two messages, which is reported. -/
theorem requeueDeadLetter_reportsFailures_iff_sample :
    ReportsFailures (AWSSQSConsumerBackend.requeueDeadLetter (.ok ()) (.ok ())
      [sampleRound secondFailed bothSucceeded]) := by
  refine (requeueDeadLetter_reportsFailures_iff (.ok ()) (.ok ()) _ ?_).mpr fun _ _ => ?_
  · rintro round hround
    obtain rfl := List.mem_singleton.mp hround
    exact covers_sampleRound covers_secondFailed covers_bothSucceeded
  · refine ⟨?_, fun _ => trivial⟩
    rintro m queueMessages result - hresult
    obtain rfl := Except.ok.inj hresult
    refine ⟨fun _ => rfl, fun hfailed => ?_⟩
    exact absurd hfailed (by decide)

/-- Two messages are sent and not deleted, and the method returns; sending fails for both, and the
method raises `KeyError`. -/
theorem requeueDeadLetter_reportsFailures_counterexample :
    ((sampleRound bothSucceeded bothFailed).Covers ∧
        (AWSSQSConsumerBackend.requeueDeadLetter (.ok ()) (.ok ())
          [sampleRound bothSucceeded bothFailed, ⟨.ok [], .ok bothFailed, .ok bothFailed⟩]).1 =
            some .returned ∧
        ¬ ReportsFailures (AWSSQSConsumerBackend.requeueDeadLetter (.ok ()) (.ok ())
          [sampleRound bothSucceeded bothFailed, ⟨.ok [], .ok bothFailed, .ok bothFailed⟩])) ∧
      (sampleRound bothFailed bothSucceeded).Covers ∧
        (AWSSQSConsumerBackend.requeueDeadLetter (.ok ()) (.ok ())
          [sampleRound bothFailed bothSucceeded]).1 =
            some (.raises (.new .keyError "Successful")) ∧
        ¬ ReportsFailures (AWSSQSConsumerBackend.requeueDeadLetter (.ok ()) (.ok ())
          [sampleRound bothFailed bothSucceeded]) := by
  refine ⟨⟨covers_sampleRound covers_bothSucceeded covers_bothFailed, rfl, ?_⟩,
    covers_sampleRound covers_bothFailed covers_bothSucceeded, rfl, ?_⟩
  · intro h
    have hdelete := (atEach_cons.mp (atEach_cons.mp (atEach_cons.mp h).2).2).1
    cases (hdelete rfl).1
  · intro h
    have hsend := (atEach_cons.mp (atEach_cons.mp h).2).1
    cases (hsend rfl).2

end Hedwig
