import Hedwig.Backends.Base

set_option relaxedAutoImplicit false
set_option autoImplicit false

/-!
# Settlement of pulled messages

Every message that the consumer loop pulls is settled exactly once, by one ack attempt or one
nack, in pull order, whatever the hooks, the callback and the broker do.

The calls that a delivery should lead to are written down in `Delivery.calls`, from the outcomes
alone; one lemma for each `try` statement of the loop body says which of them it adds to the
trace, and `settleQueueMessage_trace` puts them together.  Heartbeat calls are interleaved with
them at moments that depend on the clock, so the lemmas speak of the trace without those.

## Main definitions

* `Hedwig.Delivery.accepted` — the message is to be acked.
* `Hedwig.Delivery.Reportable` — the arguments of the log call for a `LoggingException` can be
  evaluated.
* `Hedwig.Precedes` — every entry of one kind comes after one of another kind.
* `Hedwig.Settled` — what the trace of one message says.

## Main results

* `Hedwig.fetchAndProcessMessages_settles` — the loop returns, and its trace splits into one
  segment for each step of the pulls, in order, each settling its message once.
* `Hedwig.fetchAndProcessMessages_unreportable` — without `Delivery.Reportable` it need not.
-/

namespace Hedwig

/-! ## Order in a trace -/

section Precedes

variable {ε : Type} {p q : ε → Prop} {l l' : List ε}

/-- Every entry with `q` has an earlier entry with `p`. -/
def Precedes (p q : ε → Prop) (l : List ε) : Prop :=
  ∀ a e b, l = a ++ e :: b → q e → ∃ e' ∈ a, p e'

/-- Nothing to show when no entry has `q`. -/
lemma Precedes.of_forall_not (h : ∀ e ∈ l, ¬ q e) : Precedes p q l := by
  rintro a e b rfl hq
  exact absurd hq (h e (by simp))

/-- An entry with `p` before the first one with `q` is enough. -/
lemma Precedes.append (h : ∀ e ∈ l, ¬ q e) (hp : ∃ e ∈ l, p e) : Precedes p q (l ++ l') := by
  intro a e b he hq
  obtain ⟨e', he', hp⟩ := hp
  rcases List.append_eq_append_iff.mp he with ⟨c, rfl, _⟩ | ⟨c, rfl, hc⟩
  · exact ⟨e', by simp [he'], hp⟩
  · cases c with
    | nil => exact ⟨e', by simpa using he', hp⟩
    | cons x c =>
      obtain ⟨rfl, _⟩ : e = x ∧ b = c ++ l' := by simpa using hc
      exact absurd hq (h e (by simp))

/-- Entries without `q` do not matter. -/
lemma Precedes.of_filter {f : ε → Bool} (hf : ∀ e, q e → f e = true)
    (h : Precedes p q (l.filter f)) : Precedes p q l := by
  rintro a e b rfl hq
  obtain ⟨e', he', hp⟩ := h (a.filter f) e (b.filter f) (by simp [hf e hq]) hq
  exact ⟨e', List.mem_of_mem_filter he', hp⟩

end Precedes

/-! ## What a delivery should lead to -/

/-- The call returned. -/
def returned : Outcome → Bool
  | .ok _ => true
  | .error _ => false

/-- The call returned or raised `IgnoreException`. -/
def returnedOrIgnored : Outcome → Bool
  | .ok _ => true
  | .error e => e.isInstance .ignoreException

namespace Delivery

variable {μ α : Type} (d : Delivery μ)

/-- The pre hook returned, `process_message` returned or raised `IgnoreException`, and the post
hook returned. -/
def accepted : Bool :=
  returned d.preProcessHook && returnedOrIgnored d.processMessage && returned d.postProcessHook

/-- The attempt that settles the message. -/
def settlement : Event μ :=
  if d.accepted then .ackMessage d.message d.ackMessage else .nackMessage d.message d.nackMessage

/-- The calls for the message, in order. -/
def calls : List (Event μ) :=
  .preProcessHook d.message d.preProcessHook ::
    if returned d.preProcessHook then
      .processMessage d.message d.processMessage ::
        if returnedOrIgnored d.processMessage then
          [.postProcessHook d.message d.postProcessHook, d.settlement]
        else [d.settlement]
    else [d.settlement]

/-- If `process_message` is reached and its exception goes to the handler of
`LoggingException`, then `str(e)` and `e.extra` can be evaluated. -/
def Reportable : Prop :=
  returned d.preProcessHook = true → ∀ e, d.processMessage = .error e →
    e.isInstance .ignoreException = false → e.isInstance .loggingException = true →
      ∃ arguments, e.logArguments = .ok arguments

end Delivery

/-- Entering the instrumentation wrapper with these attributes does not raise. -/
def Instrumentation.Quiet {α : Type} (instrumentation : Instrumentation α) (attributes : α) :
    Prop :=
  match instrumentation with
  | .missing => True
  | .installed onReceive =>
    ∀ e, onReceive attributes = .error e → e.isInstance .importError = true

/-- The calls for a delivery that are not hooks or callbacks do not raise: `message_attributes`,
the instrumentation wrapper, `nack_message`, and the arguments of the log call. -/
structure Delivery.Cooperative {μ α : Type} (messageAttributes : μ → Except PyException α)
    (instrumentation : Instrumentation α) (d : Delivery μ) : Prop where
  attributes : ∃ a, messageAttributes d.message = .ok a ∧ instrumentation.Quiet a
  nackMessage : d.nackMessage = .ok ()
  reportable : d.Reportable

/-- The message that an entry of the trace is about, if any. -/
def Event.message? {μ : Type} : Event μ → Option μ
  | .preProcessHook m _ | .processMessage m _ | .postProcessHook m _ | .ackMessage m _
  | .nackMessage m _ => some m
  | .heartbeatHook .. | .inactivityReset _ => none

/-- The entry is about a message. -/
def Event.isMessageCall {μ : Type} (e : Event μ) : Bool := e.message?.isSome

/-- What the segment of the trace for one delivery says: every call is about the message; it is
settled once; the ack is attempted exactly if all three calls before it went well; processing
comes after a pre hook that returned, the post hook after processing that returned or was
ignored. -/
structure Settled {μ : Type} (d : Delivery μ) (segment : List (Event μ)) : Prop where
  about : ∀ e ∈ segment, ∀ m, e.message? = some m → m = d.message
  once : segment.filter Event.isSettlement = [d.settlement]
  ack_iff : (∃ m o, Event.ackMessage m o ∈ segment) ↔
    d.preProcessHook = .ok () ∧ returnedOrIgnored d.processMessage = true ∧
      d.postProcessHook = .ok ()
  process_after_pre : Precedes (fun e => ∃ m, e = .preProcessHook m (.ok ()))
    (fun e => ∃ m o, e = .processMessage m o) segment
  post_after_process :
    Precedes (fun e => ∃ m o, e = .processMessage m o ∧ returnedOrIgnored o = true)
      (fun e => ∃ m o, e = .postProcessHook m o) segment

/-- What the trace of one step of the `for` loop says: a message is settled, and the housekeeping
of `pull_messages` calls nothing for any message. -/
def StepTrace {μ : Type} : PullStep μ → List (Event μ) → Prop
  | .yield d, segment => Settled d segment
  | _, segment => ∀ e ∈ segment, e.message? = none

/-! ## What each part of the loop body adds to the trace -/

section Trace

variable {μ α : Type} (cfg : ConsumerSettings) {d : Delivery μ} {s s' s'' : ConsumerState μ}

/-- Going from one state to the next made these calls for messages, in this order. -/
def Adds (s s' : ConsumerState μ) (calls : List (Event μ)) : Prop :=
  ∃ segment, s'.trace = s.trace ++ segment ∧ segment.filter Event.isMessageCall = calls

lemma Adds.of_trace_eq (h : s'.trace = s.trace) : Adds s s' [] := ⟨[], by simp [h], rfl⟩

lemma Adds.trans {c c' : List (Event μ)} (h : Adds s s' c) (h' : Adds s' s'' c') :
    Adds s s'' (c ++ c') := by
  obtain ⟨seg, ht, rfl⟩ := h
  obtain ⟨seg', ht', rfl⟩ := h'
  exact ⟨seg ++ seg', by rw [ht', ht, List.append_assoc], List.filter_append _ _⟩

/-- Recording a call for a message. -/
lemma adds_emit {e : Event μ} (he : e.isMessageCall = true) : Adds s (s.emit e) [e] :=
  ⟨[e], rfl, by simp [he]⟩

/-- Only the trace counts. -/
lemma Adds.congr {c : List (Event μ)} (h : Adds s s' c) (ht : s''.trace = s'.trace) :
    Adds s s'' c := by
  obtain ⟨seg, hs, hc⟩ := h
  exact ⟨seg, ht.trans hs, hc⟩

/-- A heartbeat is not a call for a message. -/
lemma callHeartbeatHook_adds (force : Bool) (hb : HeartbeatCall) :
    Adds s (callHeartbeatHook cfg force hb s) [] := by
  unfold callHeartbeatHook
  split_ifs
  · exact ⟨[.heartbeatHook hb.now s.errorCount hb.hook], rfl, rfl⟩
  · exact .of_trace_eq rfl

/-- Nor are the forced heartbeats of the visibility extensions. -/
lemma foldl_callHeartbeatHook_adds (hbs : List HeartbeatCall) :
    Adds s (hbs.foldl (fun s hb => callHeartbeatHook cfg true hb s) s) [] := by
  induction hbs generalizing s with
  | nil => exact .of_trace_eq rfl
  | cons hb hbs ih => exact (callHeartbeatHook_adds cfg true hb).trans ih

/-- The reset of the error counter is not a call for a message. -/
lemma performErrorCounterInactivityReset_adds (now : Time) :
    Adds s (performErrorCounterInactivityReset cfg now s) [] := by
  unfold performErrorCounterInactivityReset
  split
  · exact .of_trace_eq rfl
  · split_ifs
    · exact ⟨[.inactivityReset now], rfl, rfl⟩
    · exact .of_trace_eq rfl

/-- A nack that does not raise goes on with the next message. -/
lemma nackAndContinue_spec (hnack : d.nackMessage = .ok ()) :
    (nackAndContinue d s).1 = .continueLoop ∧
      Adds s (nackAndContinue d s).2 [.nackMessage d.message d.nackMessage] := by
  unfold nackAndContinue
  rw [hnack]
  exact ⟨rfl, adds_emit rfl⟩

/-- The `try` statement around a hook: the call, and a nack if it raised. -/
lemma tryHook_spec (call : Outcome → Event μ) (hcall : ∀ o, (call o).isMessageCall = true)
    (hnack : d.nackMessage = .ok ()) (hook : Outcome) :
    (tryHook d call hook s).1 = (if returned hook then .fallThrough else .continueLoop) ∧
      Adds s (tryHook d call hook s).2
        (call hook :: if returned hook then [] else [.nackMessage d.message d.nackMessage]) := by
  cases hook with
  | ok u => exact ⟨rfl, adds_emit (hcall _)⟩
  | error e =>
    obtain ⟨hflow, hadds⟩ := nackAndContinue_spec (s := s.emit (call (.error e))) hnack
    exact ⟨hflow, (adds_emit (hcall _)).trans hadds⟩

/-- The handlers around `process_message`: nothing if it returned or was ignored, else a nack.

**Proof sketch.** Follow the `except` clauses in order.  The clause of `LoggingException` nacks
because the arguments of its log call evaluate; the last clause nacks and then counts the
error, which the trace does not show. -/
lemma handleProcessOutcome_spec (hnack : d.nackMessage = .ok ())
    (hlog : ∀ e, d.processMessage = .error e → e.isInstance .ignoreException = false →
      e.isInstance .loggingException = true → ∃ arguments, e.logArguments = .ok arguments) :
    (handleProcessOutcome d s).1 =
        (if returnedOrIgnored d.processMessage then .fallThrough else .continueLoop) ∧
      Adds s (handleProcessOutcome d s).2
        (if returnedOrIgnored d.processMessage then []
          else [.nackMessage d.message d.nackMessage]) := by
  have hn := nackAndContinue_spec (s := s) hnack
  unfold handleProcessOutcome
  cases hp : d.processMessage with
  | ok u => exact ⟨rfl, .of_trace_eq rfl⟩
  | error e =>
    cases hi : e.isInstance .ignoreException with
    | true => simpa [returnedOrIgnored, hi] using Adds.of_trace_eq rfl
    | false =>
      simp only [returnedOrIgnored, hi, Bool.false_eq_true, if_false]
      cases hl : e.isInstance .loggingException with
      | true =>
        obtain ⟨arguments, ha⟩ := hlog e hp hi hl
        simpa only [if_true, ha] using hn
      | false =>
        simp only [Bool.false_eq_true, if_false]
        cases e.isInstance .retryException with
        | true => simpa only [if_true] using hn
        | false =>
          simp only [Bool.false_eq_true, if_false]
          rcases hr : nackAndContinue d s with ⟨flow, s'⟩
          rw [hr] at hn
          obtain ⟨rfl, hadds⟩ := hn
          exact ⟨rfl, hadds.congr rfl⟩

/-- The `try` statement around `process_message` with its `finally` block: the call, and a nack
unless it returned or was ignored. -/
lemma tryProcessMessage_spec (hnack : d.nackMessage = .ok ())
    (hlog : ∀ e, d.processMessage = .error e → e.isInstance .ignoreException = false →
      e.isInstance .loggingException = true → ∃ arguments, e.logArguments = .ok arguments) :
    (tryProcessMessage cfg d s).1 =
        (if returnedOrIgnored d.processMessage then .fallThrough else .continueLoop) ∧
      Adds s (tryProcessMessage cfg d s).2 (.processMessage d.message d.processMessage ::
        if returnedOrIgnored d.processMessage then []
          else [.nackMessage d.message d.nackMessage]) := by
  unfold tryProcessMessage
  set s₁ := d.extensions.foldl (fun s hb => callHeartbeatHook cfg true hb s) s with hs₁
  have h₁ : Adds s s₁ [] := foldl_callHeartbeatHook_adds cfg _
  have h₂ : Adds s₁ (s₁.emit (.processMessage d.message d.processMessage))
      [.processMessage d.message d.processMessage] := adds_emit rfl
  obtain ⟨hflow, h₃⟩ :=
    handleProcessOutcome_spec (s := s₁.emit (.processMessage d.message d.processMessage)) hnack hlog
  have h₄ := callHeartbeatHook_adds cfg false d.heartbeat
    (s := (handleProcessOutcome d (s₁.emit (.processMessage d.message d.processMessage))).2)
  refine ⟨hflow, ?_⟩
  simpa using ((h₁.trans h₂).trans h₃).trans h₄

/-- **The statements under the instrumentation wrapper** return, and make exactly the calls that
the delivery should lead to.

**Proof sketch.** One case for each `try` statement that leaves the body: the pre hook raised,
`process_message` raised something not ignored, the post hook raised, or all went well and the
ack is attempted. -/
lemma settleQueueMessage_spec (hnack : d.nackMessage = .ok ()) (hlog : d.Reportable) :
    (settleQueueMessage cfg d s).1 = .ok () ∧ Adds s (settleQueueMessage cfg d s).2 d.calls := by
  unfold settleQueueMessage Delivery.calls Delivery.settlement Delivery.accepted
  obtain ⟨hpre, hadd₁⟩ := tryHook_spec (s := s) (.preProcessHook d.message)
    (fun _ => rfl) hnack d.preProcessHook
  rcases h₁ : tryHook d (.preProcessHook d.message) d.preProcessHook s with ⟨flow₁, s₁⟩
  rw [h₁] at hpre hadd₁
  cases hr : returned d.preProcessHook with
  | false =>
    simp only [hr, Bool.false_eq_true, if_false] at hpre hadd₁
    subst hpre
    simpa [hr] using hadd₁
  | true =>
    simp only [hr, if_true] at hpre hadd₁
    subst hpre
    obtain ⟨hproc, hadd₂⟩ := tryProcessMessage_spec cfg (s := s₁) hnack (hlog hr)
    rcases h₂ : tryProcessMessage cfg d s₁ with ⟨flow₂, s₂⟩
    rw [h₂] at hproc hadd₂
    cases hi : returnedOrIgnored d.processMessage with
    | false =>
      simp only [hi, Bool.false_eq_true, if_false] at hproc hadd₂
      subst hproc
      simpa [hr, hi, h₂] using hadd₁.trans hadd₂
    | true =>
      simp only [hi, if_true] at hproc hadd₂
      subst hproc
      obtain ⟨hpost, hadd₃⟩ := tryHook_spec (s := s₂) (.postProcessHook d.message)
        (fun _ => rfl) hnack d.postProcessHook
      rcases h₃ : tryHook d (.postProcessHook d.message) d.postProcessHook s₂ with ⟨flow₃, s₃⟩
      rw [h₃] at hpost hadd₃
      cases hq : returned d.postProcessHook with
      | false =>
        simp only [hq, Bool.false_eq_true, if_false] at hpost hadd₃
        subst hpost
        simpa [hr, hi, hq, h₂, h₃] using (hadd₁.trans hadd₂).trans hadd₃
      | true =>
        simp only [hq, if_true] at hpost hadd₃
        subst hpost
        have hadd₄ : Adds s₃ (s₃.emit (.ackMessage d.message d.ackMessage))
            [.ackMessage d.message d.ackMessage] := adds_emit rfl
        simpa [hr, hi, hq, h₂, h₃] using ((hadd₁.trans hadd₂).trans hadd₃).trans hadd₄

/-! ## One message -/

/-- A returned call is the outcome `ok`. -/
lemma returned_iff {o : Outcome} : returned o = true ↔ o = .ok () := by
  cases o <;> simp [returned]

/-- A settlement is an ack or a nack of the message. -/
lemma settlement_eq : d.settlement = .ackMessage d.message d.ackMessage ∨
    d.settlement = .nackMessage d.message d.nackMessage := by
  unfold Delivery.settlement
  split_ifs
  · exact .inl rfl
  · exact .inr rfl

/-- Every call for a delivery is about its message. -/
lemma message?_of_mem_calls {e : Event μ} (h : e ∈ d.calls) : e.message? = some d.message := by
  have hs : d.settlement.message? = some d.message := by
    rcases settlement_eq (d := d) with hs | hs <;> rw [hs] <;> rfl
  have hc : ∀ e ∈ d.calls, e = .preProcessHook d.message d.preProcessHook ∨
      e = .processMessage d.message d.processMessage ∨
      e = .postProcessHook d.message d.postProcessHook ∨ e = d.settlement := by
    unfold Delivery.calls
    split_ifs <;> simp
  rcases hc e h with rfl | rfl | rfl | rfl
  · rfl
  · rfl
  · rfl
  · exact hs

/-- The calls for a delivery settle it once. -/
lemma filter_isSettlement_calls : d.calls.filter Event.isSettlement = [d.settlement] := by
  have hs : d.settlement.isSettlement = true := by
    rcases settlement_eq (d := d) with hs | hs <;> rw [hs] <;> rfl
  have hpre : (Event.preProcessHook d.message d.preProcessHook).isSettlement = false := rfl
  have hproc : (Event.processMessage d.message d.processMessage).isSettlement = false := rfl
  have hpost : (Event.postProcessHook d.message d.postProcessHook).isSettlement = false := rfl
  unfold Delivery.calls
  split_ifs <;> simp [hs, hpre, hproc, hpost]

/-- The ack is among the calls for a delivery exactly if it is accepted. -/
lemma ackMessage_mem_calls : (∃ m o, Event.ackMessage m o ∈ d.calls) ↔ d.accepted = true := by
  unfold Delivery.calls Delivery.settlement Delivery.accepted
  cases returned d.preProcessHook <;> cases returnedOrIgnored d.processMessage <;>
    cases returned d.postProcessHook <;> simp

/-- In the calls for a delivery, processing comes after a pre hook that returned. -/
lemma precedes_process_calls :
    Precedes (fun e => ∃ m, e = Event.preProcessHook m (.ok ()))
      (fun e => ∃ m o, e = Event.processMessage m o) d.calls := by
  unfold Delivery.calls
  cases hr : returned d.preProcessHook with
  | true =>
    have hp : Event.preProcessHook d.message d.preProcessHook =
        Event.preProcessHook d.message (.ok ()) := by rw [returned_iff.mp hr]
    exact Precedes.append (l := [Event.preProcessHook d.message d.preProcessHook])
      (by simp) ⟨_, List.mem_singleton_self _, d.message, hp⟩
  | false =>
    refine Precedes.of_forall_not fun e he => ?_
    simp only [Bool.false_eq_true, if_false, List.mem_cons, List.not_mem_nil, or_false] at he
    rcases he with rfl | rfl
    · simp
    · rcases settlement_eq (d := d) with hs | hs <;> simp [hs]

/-- In the calls for a delivery, the post hook comes after processing that returned or was
ignored. -/
lemma precedes_post_calls :
    Precedes (fun e => ∃ m o, e = Event.processMessage m o ∧ returnedOrIgnored o = true)
      (fun e => ∃ m o, e = Event.postProcessHook m o) d.calls := by
  have hs : ¬ ∃ m o, d.settlement = Event.postProcessHook m o := by
    rcases settlement_eq (d := d) with hs | hs <;> simp [hs]
  unfold Delivery.calls
  cases returned d.preProcessHook with
  | true =>
    cases hi : returnedOrIgnored d.processMessage with
    | true =>
      exact Precedes.append (l := [Event.preProcessHook d.message d.preProcessHook,
        Event.processMessage d.message d.processMessage]) (by simp)
        ⟨.processMessage d.message d.processMessage, by simp, d.message, _, rfl, hi⟩
    | false =>
      refine Precedes.of_forall_not fun e he => ?_
      simp only [if_true, Bool.false_eq_true, if_false, List.mem_cons, List.not_mem_nil,
        or_false] at he
      rcases he with rfl | rfl | rfl
      · simp
      · simp
      · exact hs
  | false =>
    refine Precedes.of_forall_not fun e he => ?_
    simp only [Bool.false_eq_true, if_false, List.mem_cons, List.not_mem_nil, or_false] at he
    rcases he with rfl | rfl
    · simp
    · exact hs

/-- A segment that makes exactly the calls for a delivery settles it. -/
lemma settled_of_calls {segment : List (Event μ)}
    (h : segment.filter Event.isMessageCall = d.calls) : Settled d segment := by
  have hmem : ∀ e ∈ segment, e.isMessageCall = true → e ∈ d.calls := by
    intro e he hm
    rw [← h]
    exact List.mem_filter.mpr ⟨he, hm⟩
  refine ⟨?_, ?_, ?_, ?_, ?_⟩
  · intro e he m hm
    have := message?_of_mem_calls (hmem e he (by simp [Event.isMessageCall, hm]))
    simpa [hm] using this
  · have hsub : ∀ e : Event μ, (e.isSettlement && e.isMessageCall) = e.isSettlement := by
      intro e
      cases e <;> rfl
    rw [← filter_isSettlement_calls, ← h, List.filter_filter]
    simp only [hsub]
  · have hback : (∃ m o, Event.ackMessage m o ∈ segment) ↔
        ∃ m o, Event.ackMessage m o ∈ d.calls := by
      constructor
      · rintro ⟨m, o, he⟩
        exact ⟨m, o, hmem _ he rfl⟩
      · rintro ⟨m, o, he⟩
        exact ⟨m, o, List.mem_of_mem_filter (h ▸ he)⟩
    rw [hback, ackMessage_mem_calls]
    simp [Delivery.accepted, returned_iff, and_assoc]
  · refine Precedes.of_filter (f := Event.isMessageCall) ?_ (h ▸ precedes_process_calls)
    rintro e ⟨m, o, rfl⟩
    rfl
  · refine Precedes.of_filter (f := Event.isMessageCall) ?_ (h ▸ precedes_post_calls)
    rintro e ⟨m, o, rfl⟩
    rfl

/-- **The instrumentation wrapper** ends as the statements do, or is not entered, or replaces their
exception.

**Proof sketch.**  The wrapper replaces only an `ImportError`: one of its own before the statements
run, or one of the statements after they have. -/
lemma maybeInstrument_cases {σ : Type} (instrumentation : Instrumentation α) (a : α)
    (body : σ → Outcome × σ) (s : σ) :
    maybeInstrument instrumentation a body s = body s ∨
      (¬ instrumentation.Quiet a ∧
        ∃ e, maybeInstrument instrumentation a body s = (.error e, s)) ∨
      ∃ e e', (body s).1 = .error e ∧
        maybeInstrument instrumentation a body s = (.error e', (body s).2) := by
  cases instrumentation with
  | missing => exact .inl rfl
  | installed onReceive =>
    rw [maybeInstrument]
    cases hr : onReceive a with
    | error e =>
      cases hi : e.isInstance .importError with
      | true => exact .inl (if_pos hi)
      | false =>
        refine .inr (.inl ⟨fun hq => ?_, e, if_neg (Bool.eq_false_iff.mp hi)⟩)
        rw [hq e hr] at hi
        cases hi
    | ok u =>
      rcases body s with ⟨o, s'⟩
      cases o with
      | ok u => exact .inl rfl
      | error e =>
        cases hi : e.isInstance .importError with
        | true => exact .inr (.inr ⟨e, _, rfl, if_pos hi⟩)
        | false => exact .inl (if_neg (Bool.eq_false_iff.mp hi))

/-- A quiet instrumentation wrapper around statements that return adds nothing to them. -/
lemma maybeInstrument_of_ok {σ : Type} {s : σ} {instrumentation : Instrumentation α} {a : α}
    (hq : instrumentation.Quiet a) {body : σ → Outcome × σ}
    (hb : (body s).1 = .ok ()) : maybeInstrument instrumentation a body s = body s := by
  rcases maybeInstrument_cases instrumentation a body s with h | ⟨hraises, -⟩ | ⟨e, e', he, -⟩
  · exact h
  · exact absurd hq hraises
  · rw [hb] at he
    cases he

/-- If the instrumentation wrapper returns, then it has run its body, which returned. -/
lemma maybeInstrument_eq_ok {σ : Type} {s : σ} {instrumentation : Instrumentation α} {a : α}
    {body : σ → Outcome × σ} (h : (maybeInstrument instrumentation a body s).1 = .ok ()) :
    maybeInstrument instrumentation a body s = body s ∧ (body s).1 = .ok () := by
  rcases maybeInstrument_cases instrumentation a body s with hbody | ⟨-, e, he⟩ | ⟨e, e', -, he⟩
  · exact ⟨hbody, hbody ▸ h⟩
  · rw [he] at h
    cases h
  · rw [he] at h
    cases h

/-- The wrapper runs the body, or leaves the state as it is. -/
lemma maybeInstrument_snd {σ : Type} (instrumentation : Instrumentation α) (a : α)
    (body : σ → Outcome × σ) (s : σ) : (maybeInstrument instrumentation a body s).2 = s ∨
      (maybeInstrument instrumentation a body s).2 = (body s).2 := by
  rcases maybeInstrument_cases instrumentation a body s with h | ⟨-, e, h⟩ | ⟨e, e', -, h⟩
  · exact .inr (by rw [h])
  · exact .inl (by rw [h])
  · exact .inr (by rw [h])

/-- An exception that cannot be reported leaves the loop after the call of `process_message`. -/
lemma settleQueueMessage_of_not_reportable (h : ¬ d.Reportable) :
    Adds s (settleQueueMessage cfg d s).2 [.preProcessHook d.message d.preProcessHook,
      .processMessage d.message d.processMessage] := by
  simp only [Delivery.Reportable, not_forall] at h
  obtain ⟨hpre, e, he, hignore, hlogging, harguments⟩ := h
  obtain ⟨e', he'⟩ : ∃ e', e.logArguments = .error e' := by
    cases h' : e.logArguments with
    | ok arguments => exact absurd ⟨arguments, h'⟩ harguments
    | error e' => exact ⟨e', rfl⟩
  set s₁ := s.emit (.preProcessHook d.message (.ok ())) with hs₁
  set s₂ := d.extensions.foldl (fun s hb => callHeartbeatHook cfg true hb s) s₁ with hs₂
  set s₃ := s₂.emit (.processMessage d.message d.processMessage) with hs₃
  have hhook : tryHook d (.preProcessHook d.message) d.preProcessHook s = (.fallThrough, s₁) := by
    rw [returned_iff.mp hpre]
    rfl
  have hprocess : tryProcessMessage cfg d s₁ =
      (.raises e', callHeartbeatHook cfg false d.heartbeat s₃) := by
    have hhandle : handleProcessOutcome d s₃ = (.raises e', s₃) := by
      simp [handleProcessOutcome, he, hignore, hlogging, he']
    simp only [tryProcessMessage, ← hs₂, ← hs₃, hhandle]
  have hsettle : (settleQueueMessage cfg d s).2 = callHeartbeatHook cfg false d.heartbeat s₃ := by
    simp only [settleQueueMessage, hhook, hprocess]
  have h₁ : Adds s s₁ [.preProcessHook d.message d.preProcessHook] := by
    rw [returned_iff.mp hpre]
    exact adds_emit rfl
  have h₂ : Adds s₁ s₂ [] := foldl_callHeartbeatHook_adds cfg _
  have h₃ : Adds s₂ s₃ [.processMessage d.message d.processMessage] := adds_emit rfl
  rw [hsettle]
  simpa using ((h₁.trans h₂).trans h₃).trans (callHeartbeatHook_adds cfg false d.heartbeat)

/-- **Only accepted messages are acked**, also by a run of the body of the `for` loop that
raises.

**Proof sketch.**  If its report can be made, the body makes the calls of the delivery, among which
there is an ack only if it is accepted.  If not, it makes no settling call at all.  The wrapper runs
the body once or not at all. -/
lemma processQueueMessage_acks {messageAttributes : μ → Except PyException α}
    {instrumentation : Instrumentation α} (hnack : d.nackMessage = .ok ()) :
    ∃ segment, (processQueueMessage cfg messageAttributes instrumentation d s).2.trace =
        s.trace ++ segment ∧
      ((∃ m o, Event.ackMessage m o ∈ segment) → d.accepted = true) := by
  have hbody : ∀ s₁ : ConsumerState μ, ∃ segment,
      (settleQueueMessage cfg d s₁).2.trace = s₁.trace ++ segment ∧
        ((∃ m o, Event.ackMessage m o ∈ segment) → d.accepted = true) := by
    intro s₁
    by_cases hlog : d.Reportable
    · obtain ⟨segment, ht, hc⟩ := (settleQueueMessage_spec cfg (s := s₁) hnack hlog).2
      refine ⟨segment, ht, ?_⟩
      rintro ⟨m, o, hm⟩
      apply ackMessage_mem_calls.mp
      exact ⟨m, o, hc ▸ List.mem_filter.mpr ⟨hm, rfl⟩⟩
    · obtain ⟨segment, ht, hc⟩ := settleQueueMessage_of_not_reportable cfg (s := s₁) hlog
      refine ⟨segment, ht, ?_⟩
      rintro ⟨m, o, hm⟩
      have := hc ▸ List.mem_filter.mpr ⟨hm, rfl⟩
      simp at this
  unfold processQueueMessage
  cases messageAttributes d.message with
  | error e => exact ⟨[], by simp, by simp⟩
  | ok a =>
    set s₁ : ConsumerState μ := { s with lastMessageReceivedAt := d.receivedAt } with hs₁
    obtain ⟨segment, ht, hacks⟩ := hbody s₁
    rcases maybeInstrument_snd instrumentation a (settleQueueMessage cfg d) s₁ with h | h
    · exact ⟨[], (congrArg ConsumerState.trace h).trans (by simp [hs₁]), by simp⟩
    · exact ⟨segment, (congrArg ConsumerState.trace h).trans ht, hacks⟩

/-- **The body of the `for` loop** returns and settles its message.

**Proof sketch.**  The attributes are read and the wrapper is quiet, so the body is
`settleQueueMessage`, whose calls `settleQueueMessage_spec` lists. -/
lemma processQueueMessage_settles {messageAttributes : μ → Except PyException α}
    {instrumentation : Instrumentation α}
    (hd : d.Cooperative messageAttributes instrumentation) :
    ∃ s' segment, processQueueMessage cfg messageAttributes instrumentation d s = (.ok (), s') ∧
      s'.trace = s.trace ++ segment ∧ Settled d segment := by
  obtain ⟨a, ha, hq⟩ := hd.attributes
  set s₁ : ConsumerState μ := { s with lastMessageReceivedAt := d.receivedAt } with hs₁
  obtain ⟨hret, segment, ht, hc⟩ :=
    settleQueueMessage_spec cfg (s := s₁) hd.nackMessage hd.reportable
  refine ⟨(settleQueueMessage cfg d s₁).2, segment, ?_, ht, settled_of_calls hc⟩
  simp only [processQueueMessage, ha, ← hs₁]
  rw [maybeInstrument_of_ok hq hret, ← hret]

end Trace

/-! ## The loop -/

section Loop

variable {μ α : Type} (cfg : ConsumerSettings) {messageAttributes : μ → Except PyException α}
  {instrumentation : Instrumentation α}

/-- A step of the `for` loop that `pull_messages` does not abort returns, and its segment of the
trace settles its message. -/
lemma pullStep_settles (step : PullStep μ) (s : ConsumerState μ)
    (hstep : ∀ e, step ≠ .raises e)
    (hd : ∀ d, step = .yield d → d.Cooperative messageAttributes instrumentation) :
    ∃ s' segment, pullStep cfg messageAttributes instrumentation step s = (.ok (), s') ∧
      s'.trace = s.trace ++ segment ∧ StepTrace step segment := by
  cases step with
  | yield d => exact processQueueMessage_settles cfg (hd d rfl)
  | housekeeping now hb =>
    obtain ⟨segment, ht, hc⟩ := (performErrorCounterInactivityReset_adds cfg now).trans
      (callHeartbeatHook_adds cfg false hb
        (s := performErrorCounterInactivityReset cfg now s))
    refine ⟨_, segment, rfl, ht, fun e he => ?_⟩
    have hn := List.filter_eq_nil_iff.mp (hc.trans (List.append_nil [])) e he
    simpa [Event.isMessageCall] using hn
  | raises e => exact absurd rfl (hstep e)

/-- The `for` loop over one batch, by induction on the batch. -/
lemma processBatch_settles (batch : List (PullStep μ)) (s : ConsumerState μ)
    (hpull : ∀ e, PullStep.raises e ∉ batch)
    (hd : ∀ d, PullStep.yield d ∈ batch → d.Cooperative messageAttributes instrumentation) :
    ∃ s' segments, processBatch cfg messageAttributes instrumentation batch s = (.ok (), s') ∧
      s'.trace = s.trace ++ segments.flatten ∧ List.Forall₂ StepTrace batch segments := by
  induction batch generalizing s with
  | nil => exact ⟨s, [], rfl, by simp, .nil⟩
  | cons step rest ih =>
    obtain ⟨s₁, segment, hrun, ht, hseg⟩ := pullStep_settles cfg step s
      (fun e he => hpull e (he ▸ List.mem_cons_self))
      (fun d hy => hd d (hy ▸ List.mem_cons_self))
    obtain ⟨s₂, segments, hruns, hts, hsegs⟩ := ih s₁
      (fun e he => hpull e (List.mem_cons_of_mem _ he))
      (fun d hy => hd d (List.mem_cons_of_mem _ hy))
    refine ⟨s₂, segment :: segments, ?_, ?_, .cons hseg hsegs⟩
    · simp only [processBatch, hrun, hruns]
    · rw [hts, ht, List.flatten_cons, List.append_assoc]

/-- The loop over all batches, by induction on the number of pulls. -/
lemma fetchAndProcessMessages_segments (batches : List (List (PullStep μ)))
    (s : ConsumerState μ) (hpull : ∀ e, PullStep.raises e ∉ batches.flatten)
    (hd : ∀ d, PullStep.yield d ∈ batches.flatten →
      d.Cooperative messageAttributes instrumentation) :
    ∃ s' segments,
      fetchAndProcessMessages cfg messageAttributes instrumentation batches s = (.ok (), s') ∧
      s'.trace = s.trace ++ segments.flatten ∧
      List.Forall₂ StepTrace batches.flatten segments := by
  induction batches generalizing s with
  | nil => exact ⟨s, [], rfl, by simp, .nil⟩
  | cons batch rest ih =>
    obtain ⟨s₁, segments₁, hrun, ht, hseg⟩ := processBatch_settles cfg batch s
      (fun e he => hpull e (by simp [he])) (fun d hy => hd d (by simp [hy]))
    obtain ⟨s₂, segments₂, hruns, hts, hsegs⟩ := ih s₁
      (fun e he => hpull e (by rw [List.flatten_cons]; exact List.mem_append_right _ he))
      (fun d hy => hd d (by rw [List.flatten_cons]; exact List.mem_append_right _ hy))
    refine ⟨s₂, segments₁ ++ segments₂, ?_, ?_, ?_⟩
    · simp only [fetchAndProcessMessages, hrun, hruns]
    · rw [hts, ht, List.flatten_append, List.append_assoc]
    · rw [List.flatten_cons]
      exact List.rel_append hseg hsegs

/-- The settlements of a trace made of segments are those of the deliveries, in pull order. -/
lemma filter_isSettlement_segments {steps : List (PullStep μ)} {segments : List (List (Event μ))}
    (h : List.Forall₂ StepTrace steps segments) :
    segments.flatten.filter Event.isSettlement =
      (PullStep.deliveries steps).map Delivery.settlement := by
  induction h with
  | nil => rfl
  | @cons step segment steps segments hseg _ ih =>
    rw [List.flatten_cons, List.filter_append, ih]
    have hquiet : (∀ e ∈ segment, e.message? = none) → segment.filter Event.isSettlement = [] := by
      intro hnone
      refine List.filter_eq_nil_iff.mpr fun e he => ?_
      have := hnone e he
      cases e <;> simp_all [Event.message?, Event.isSettlement]
    cases step with
    | yield d => rw [Settled.once hseg]; rfl
    | housekeeping now hb => rw [hquiet hseg]; rfl
    | raises e => rw [hquiet hseg]; rfl

/-- **Settlement of pulled messages.**  If the pulls return batches, and for every delivery
`message_attributes`, the instrumentation wrapper, `nack_message` and the arguments of the log
call for a `LoggingException` do not raise, then the loop returns; its trace splits into one
segment for each step of the pulls, in order, and the segment of a message settles it
(`Settled`); and the ack and nack attempts of the whole run are those of the deliveries, each
once, in pull order.

**Proof sketch.**  Induction on the steps of the pulls, with one segment of the trace for each: a
message contributes the calls of its delivery, of which exactly one settles it, and the housekeeping
contributes none.  Filtering the trace for settlements gives those of the deliveries in order. -/
theorem fetchAndProcessMessages_settles (batches : List (List (PullStep μ)))
    (s : ConsumerState μ) (hpull : ∀ e, PullStep.raises e ∉ batches.flatten)
    (hd : ∀ d, PullStep.yield d ∈ batches.flatten →
      d.Cooperative messageAttributes instrumentation) :
    ∃ s' segments,
      fetchAndProcessMessages cfg messageAttributes instrumentation batches s = (.ok (), s') ∧
      s'.trace = s.trace ++ segments.flatten ∧
      List.Forall₂ StepTrace batches.flatten segments ∧
      s'.trace.filter Event.isSettlement = s.trace.filter Event.isSettlement ++
        (PullStep.deliveries batches.flatten).map Delivery.settlement := by
  obtain ⟨s', segments, hrun, ht, hsegs⟩ :=
    fetchAndProcessMessages_segments cfg batches s hpull hd
  refine ⟨s', segments, hrun, ht, hsegs, ?_⟩
  rw [ht, List.filter_append, filter_isSettlement_segments hsegs]

end Loop

/-! ## Sample runs -/

/-- A heartbeat every 15 s, no reset of the error counter. -/
def sampleSettings : ConsumerSettings := ⟨15000000, none⟩

/-- A delivery for which every call returns. -/
def acceptedDelivery : Delivery String where
  message := "accepted"
  receivedAt := 0
  preProcessHook := .ok ()
  extensions := []
  processMessage := .ok ()
  heartbeat := ⟨0, .ok ()⟩
  postProcessHook := .ok ()
  ackMessage := .ok ()
  nackMessage := .ok ()

/-- A delivery whose callback raises a `LoggingException`, built by its own constructor. -/
def failedDelivery : Delivery String :=
  { acceptedDelivery with
    message := "failed"
    processMessage := .error (.loggingException "failed" (.dict [])) }

/-- A delivery whose callback raises an instance of a subclass of `LoggingException` with a
constructor of its own that does not set `extra`. -/
def unreportableDelivery : Delivery String :=
  { acceptedDelivery with
    message := "unreportable"
    processMessage := .error ⟨[.loggingException], .ok "", .error .attributeError⟩ }

/-- The theorem at a run of two pulls with an accepted and a failed delivery. -/
theorem fetchAndProcessMessages_settles_sample :
    ∃ s' segments,
      fetchAndProcessMessages sampleSettings (fun _ => .ok ()) (.missing : Instrumentation Unit)
        [[.yield acceptedDelivery], [.yield failedDelivery]] .init = (.ok (), s') ∧
      s'.trace = [] ++ segments.flatten ∧
      List.Forall₂ StepTrace [.yield acceptedDelivery, .yield failedDelivery] segments ∧
      s'.trace.filter Event.isSettlement =
        [] ++ [.ackMessage "accepted" (.ok ()), .nackMessage "failed" (.ok ())] := by
  refine fetchAndProcessMessages_settles sampleSettings _ .init (by simp) ?_
  intro d hd
  have hcases : d = acceptedDelivery ∨ d = failedDelivery := by simpa using hd
  refine ⟨⟨(), rfl, trivial⟩, ?_, ?_⟩
  · rcases hcases with rfl | rfl <;> rfl
  · intro _ e he _ _
    rcases hcases with rfl | rfl
    · simp [acceptedDelivery] at he
    · obtain rfl : PyException.loggingException "failed" (.dict []) = e := by
        simpa [failedDelivery] using he
      exact ⟨_, rfl⟩

/-- A callback that raises an instance of a subclass of `LoggingException` without an `extra`
attribute ends the loop with an `AttributeError`, and the message is neither acked nor nacked,
although `message_attributes`, the instrumentation wrapper and `nack_message` do not raise. -/
theorem fetchAndProcessMessages_unreportable :
    (∃ e, (fetchAndProcessMessages sampleSettings (fun _ => .ok ())
        (.missing : Instrumentation Unit) [[.yield unreportableDelivery]] .init).1 = .error e ∧
      e.isInstance .attributeError = true) ∧
    (fetchAndProcessMessages sampleSettings (fun _ => .ok ())
        (.missing : Instrumentation Unit) [[.yield unreportableDelivery]]
        .init).2.trace.filter Event.isSettlement = [] ∧
    unreportableDelivery.nackMessage = .ok () :=
  ⟨⟨_, rfl, rfl⟩, rfl, rfl⟩

end Hedwig
