import Hedwig.Backends.Settlement
import Hedwig.Lib.Trace

set_option relaxedAutoImplicit false
set_option autoImplicit false

/-!
# Error counter and heartbeat

`error_count` is the number of consecutive errors, and the heartbeat hook is told so, not more often
than the heartbeat interval allows.

Both are stated over the trace of calls.  The errors since the last success or reset are counted in
the trace (`consecutiveErrors`), and the fields of the consumer agree with what the trace says
(`ConsumerState.Counts`).  One lemma for each statement of the loop says that it keeps this
agreement and what the heartbeat calls among its events are (`Metered`).

## Main definitions

* `Hedwig.consecutiveErrors`, `Hedwig.lastHeartbeat` — the count and the clock reading that a trace
  implies.
* `Hedwig.HeartbeatSound` — what a call of the heartbeat hook satisfies.
* `Hedwig.Inactive` — the error counter is to be reset at a pull.
* `Hedwig.StepMetered` — what the events of one step satisfy.

## Main results

* `Hedwig.fetchAndProcessMessages_metered` — every step of every run.
-/

namespace Hedwig

/-! ## What a trace says about errors and heartbeats -/

/-- An exception other than the three that the loop handles by name. -/
def PyException.isUnexpected (e : PyException) : Bool :=
  !(e.isInstance .ignoreException || e.isInstance .loggingException || e.isInstance .retryException)

section Events

variable {μ : Type}

/-- A processing attempt that ended in an unexpected exception. -/
def Event.isError : Event μ → Bool
  | .processMessage _ (.error e) => e.isUnexpected
  | _ => false

/-- A message was processed, or the error counter was reset for inactivity. -/
def Event.clearsErrors : Event μ → Bool
  | .processMessage _ (.ok ()) | .inactivityReset _ => true
  | _ => false

/-- The clock reading of a call of the heartbeat hook. -/
def Event.heartbeatTime? : Event μ → Option Time
  | .heartbeatHook now _ _ => some now
  | _ => none

/-- The clock reading of a reset of the error counter. -/
def Event.resetTime? : Event μ → Option Time
  | .inactivityReset now => some now
  | _ => none

/-- The resets among the events, by their clock readings. -/
lemma inactivityReset_mem_iff {segment : List (Event μ)} {now : Time} :
    .inactivityReset now ∈ segment ↔ now ∈ segment.filterMap Event.resetTime? := by
  rw [List.mem_filterMap]
  constructor
  · exact fun h => ⟨_, h, rfl⟩
  · rintro ⟨e, he, hnow⟩
    cases e <;> cases hnow
    exact he

/-- The number of unexpected exceptions since the start, the last success and the last reset. -/
def consecutiveErrors (trace : List (Event μ)) : ℕ :=
  countSince Event.clearsErrors Event.isError trace

/-- The clock reading of the last call of the heartbeat hook. -/
def lastHeartbeat (trace : List (Event μ)) : Option Time := lastValue Event.heartbeatTime? trace

/-- A call of the heartbeat hook is told the number of consecutive errors.  It is made while a
message is being processed, by an extension of its visibility, or more than the heartbeat interval
after the preceding call. -/
def HeartbeatSound (cfg : ConsumerSettings) (before : List (Event μ)) (e : Event μ)
    (after : List (Event μ)) : Prop :=
  ∀ now n o, e = .heartbeatHook now n o → n = consecutiveErrors before ∧
    ((∃ m o', Event.processMessage m o' ∈ after) ∨
      ∀ last, lastHeartbeat before = some last → last + cfg.heartbeatInterval < now)

/-- The reset is configured, there are errors, and the last message was received more than the
period ago. -/
def Inactive (cfg : ConsumerSettings) (received : Time) (before : List (Event μ)) (now : Time) :
    Prop :=
  ∃ period, cfg.heartbeatInactivityReset = some period ∧ consecutiveErrors before ≠ 0 ∧
    received + period < now

/-- When the last of these messages was received; the consumer starts with the epoch. -/
def lastReceived (steps : List (PullStep μ)) : Time :=
  ((PullStep.deliveries steps).getLast?.map Delivery.receivedAt).getD 0

/-- What the events of one step satisfy, after the steps `pre` and the events `before`: the
heartbeat calls are sound, and the error counter is reset exactly in an inactive pull. -/
structure StepMetered (cfg : ConsumerSettings) (pre : List (PullStep μ)) (step : PullStep μ)
    (before segment : List (Event μ)) : Prop where
  heartbeats : AtEach (HeartbeatSound cfg) before segment
  reset_iff : ∀ now, .inactivityReset now ∈ segment ↔
    (∃ hb, step = .housekeeping now hb) ∧ Inactive cfg (lastReceived pre) before now

end Events

/-! ## What each part of the loop body does to counter and heartbeat -/

section Metered

variable {μ α : Type} (cfg : ConsumerSettings) {d : Delivery μ} {s s' s'' : ConsumerState μ}

/-- The fields of the consumer agree with its trace. -/
structure ConsumerState.Counts (s : ConsumerState μ) : Prop where
  errorCount : s.errorCount = consecutiveErrors s.trace
  heartbeat : ∀ last, lastHeartbeat s.trace = some last → s.heartbeatCalledAt = last

/-- Going from one state to the next resets the error counter at these readings of the clock, and
the heartbeat calls made on the way are sound. -/
structure Metered (resets : List Time) (s s' : ConsumerState μ) : Prop where
  counts : s'.Counts
  received : s'.lastMessageReceivedAt = s.lastMessageReceivedAt
  trace : ∃ segment, s'.trace = s.trace ++ segment ∧
    AtEach (HeartbeatSound cfg) s.trace segment ∧ segment.filterMap Event.resetTime? = resets

variable {cfg}

/-- A heartbeat call stays sound when more events follow. -/
lemma HeartbeatSound.extend {before after after' : List (Event μ)} {e : Event μ}
    (h : HeartbeatSound cfg before e after) : HeartbeatSound cfg before e (after ++ after') := by
  intro now n o he
  obtain ⟨hn, hprocess | hdue⟩ := h now n o he
  · obtain ⟨m, o', hm⟩ := hprocess
    exact ⟨hn, .inl ⟨m, o', List.mem_append_left _ hm⟩⟩
  · exact ⟨hn, .inr hdue⟩

lemma Metered.refl (hs : s.Counts) : Metered cfg [] s s := ⟨hs, rfl, [], by simp, by simp, rfl⟩

lemma Metered.trans {r r' : List Time} (h : Metered cfg r s s') (h' : Metered cfg r' s' s'') :
    Metered cfg (r ++ r') s s'' := by
  obtain ⟨segment, ht, hsound, rfl⟩ := h.trace
  obtain ⟨segment', ht', hsound', rfl⟩ := h'.trace
  refine ⟨h'.counts, h'.received.trans h.received, segment ++ segment', ?_, ?_, ?_⟩
  · rw [ht', ht, List.append_assoc]
  · exact (hsound.mono fun _ _ _ => HeartbeatSound.extend).append (ht ▸ hsound')
  · rw [List.filterMap_append]

/-- An event that is none of the heartbeat's, the reset's and the processing attempt's. -/
def Event.isNeutral : Event μ → Bool
  | .preProcessHook _ _ | .postProcessHook _ _ | .ackMessage _ _ | .nackMessage _ _ => true
  | _ => false

/-- Neutral events do not change what the trace says. -/
lemma ConsumerState.Counts.emit (hs : s.Counts) {e : Event μ} (he : e.isNeutral = true) :
    (s.emit e).Counts := by
  have hclears : e.clearsErrors = false ∧ e.isError = false ∧ e.heartbeatTime? = none := by
    cases e <;> first | exact ⟨rfl, rfl, rfl⟩ | cases he
  constructor
  · change s.errorCount = consecutiveErrors (s.trace ++ [e])
    rw [consecutiveErrors, countSince_append _ (by simpa using ⟨hclears.1, hclears.2.1⟩)]
    exact hs.errorCount
  · change ∀ last, lastHeartbeat (s.trace ++ [e]) = some last → _
    rw [lastHeartbeat, lastValue_append _ (by simpa using hclears.2.2)]
    exact hs.heartbeat

lemma emit_metered (hs : s.Counts) {e : Event μ} (he : e.isNeutral = true) :
    Metered cfg [] s (s.emit e) := by
  refine ⟨hs.emit he, rfl, [e], rfl, ?_, ?_⟩
  · rw [atEach_singleton]
    rintro now n o rfl
    cases he
  · cases e <;> first | rfl | cases he

/-- A call of the heartbeat hook keeps the agreement. -/
lemma ConsumerState.Counts.heartbeatHook (hs : s.Counts) (hb : HeartbeatCall) :
    ({ s with heartbeatCalledAt := hb.now }.emit
      (.heartbeatHook hb.now s.errorCount hb.hook)).Counts := by
  constructor
  · change s.errorCount = consecutiveErrors (s.trace ++ [_])
    rw [consecutiveErrors, countSince_concat]
    exact hs.errorCount
  · intro last hlast
    change lastHeartbeat (s.trace ++ [_]) = some last at hlast
    rw [lastHeartbeat, lastValue_concat] at hlast
    exact Option.some.inj hlast

/-- A heartbeat that is not forced. -/
lemma callHeartbeatHook_metered (hs : s.Counts) (hb : HeartbeatCall) :
    Metered cfg [] s (callHeartbeatHook cfg false hb s) := by
  unfold callHeartbeatHook
  simp only [Bool.false_eq_true, false_or]
  by_cases hdue : s.heartbeatCalledAt + cfg.heartbeatInterval < hb.now
  · rw [if_pos hdue]
    refine ⟨hs.heartbeatHook hb, rfl, [.heartbeatHook hb.now s.errorCount hb.hook], rfl, ?_, rfl⟩
    rw [atEach_singleton]
    rintro now n o ⟨⟩
    refine ⟨hs.errorCount, .inr fun last hlast => ?_⟩
    rwa [← hs.heartbeat last hlast]
  · rw [if_neg hdue]
    exact .refl hs

variable (cfg) in
/-- The forced heartbeats of the visibility extensions, when the processing attempt is among the
events that follow. -/
lemma foldl_callHeartbeatHook_metered (hs : s.Counts) (hbs : List HeartbeatCall) :
    let s' := hbs.foldl (fun s hb => callHeartbeatHook cfg true hb s) s
    s'.Counts ∧ s'.lastMessageReceivedAt = s.lastMessageReceivedAt ∧
      ∃ segment, s'.trace = s.trace ++ segment ∧ segment.filterMap Event.resetTime? = [] ∧
        ∀ m o after, AtEach
          (fun a e b => HeartbeatSound cfg a e (b ++ .processMessage m o :: after))
          s.trace segment := by
  induction hbs generalizing s with
  | nil => exact ⟨hs, rfl, [], by simp, rfl, by simp⟩
  | cons hb hbs ih =>
    have hcall : callHeartbeatHook cfg true hb s = { s with heartbeatCalledAt := hb.now }.emit
        (.heartbeatHook hb.now s.errorCount hb.hook) := by simp [callHeartbeatHook]
    obtain ⟨hcounts, hreceived, segment, ht, hresets, hsound⟩ := ih (hs.heartbeatHook hb)
    simp only [List.foldl_cons, hcall]
    refine ⟨hcounts, hreceived, .heartbeatHook hb.now s.errorCount hb.hook :: segment, ?_,
      hresets, fun m o after => ?_⟩
    · rw [ht]
      exact List.append_assoc _ _ _
    · refine AtEach.append (l := [_]) ?_ (hsound m o after)
      rw [atEach_singleton]
      rintro now n o' ⟨⟩
      exact ⟨hs.errorCount, .inl ⟨m, o, by simp⟩⟩

variable (cfg) in
/-- The reset of the error counter. -/
lemma performErrorCounterInactivityReset_metered (hs : s.Counts) (now : Time) :
    ∃ resets, Metered cfg resets s (performErrorCounterInactivityReset cfg now s) ∧
      ∀ now', now' ∈ resets ↔
        now' = now ∧ Inactive cfg s.lastMessageReceivedAt s.trace now := by
  unfold performErrorCounterInactivityReset Inactive
  cases hperiod : cfg.heartbeatInactivityReset with
  | none => exact ⟨[], .refl hs, by simp⟩
  | some period =>
    dsimp only
    by_cases h : s.errorCount ≠ 0 ∧ s.lastMessageReceivedAt + period < now
    · rw [if_pos h]
      rw [hs.errorCount] at h
      refine ⟨[now], ⟨⟨?_, ?_⟩, rfl, [.inactivityReset now], rfl, ?_, rfl⟩, ?_⟩
      · change 0 = consecutiveErrors (s.trace ++ [_])
        rw [consecutiveErrors, countSince_concat]
        rfl
      · change ∀ last, lastHeartbeat (s.trace ++ [_]) = some last → _
        rw [lastHeartbeat, lastValue_append _ (by simp [Event.heartbeatTime?])]
        exact hs.heartbeat
      · rw [atEach_singleton]
        rintro now' n o ⟨⟩
      · intro now'
        rw [List.mem_singleton]
        exact ⟨fun hnow => ⟨hnow, period, rfl, h⟩, And.left⟩
    · rw [if_neg h]
      rw [hs.errorCount] at h
      refine ⟨[], .refl hs, fun now' => ⟨by simp, ?_⟩⟩
      rintro ⟨-, period', hperiod', hinactive⟩
      obtain rfl := Option.some.inj hperiod'
      exact absurd hinactive h

/-- A nack changes only the trace. -/
lemma nackAndContinue_snd (d : Delivery μ) (s : ConsumerState μ) :
    (nackAndContinue d s).2 = s.emit (.nackMessage d.message d.nackMessage) := by
  unfold nackAndContinue
  cases d.nackMessage <;> rfl

/-- The `try` statement around a hook. -/
lemma tryHook_metered (hs : s.Counts) {call : Outcome → Event μ}
    (hcall : ∀ o, (call o).isNeutral = true) (hook : Outcome) :
    Metered cfg [] s (tryHook d call hook s).2 := by
  cases hook with
  | ok u => exact emit_metered hs (hcall _)
  | error e =>
    have h : Metered cfg [] s (s.emit (call (.error e))) := emit_metered hs (hcall _)
    change Metered cfg [] s (nackAndContinue d (s.emit (call (.error e)))).2
    rw [nackAndContinue_snd]
    exact h.trans (emit_metered h.counts rfl)

/-- The end of a processing attempt clears the counter, adds one to it, or leaves it. -/
lemma ConsumerState.Counts.processMessage (hs : s.Counts) (m : μ) (o : Outcome) :
    let n := if returned o then 0
      else s.errorCount + if (Event.processMessage m o).isError then 1 else 0
    ({ s with errorCount := n }.emit (.processMessage m o)).Counts := by
  intro n
  constructor
  · change n = consecutiveErrors (s.trace ++ [_])
    simp only [n]
    rw [consecutiveErrors, countSince_concat, hs.errorCount]
    cases o <;> rfl
  · change ∀ last, lastHeartbeat (s.trace ++ [_]) = some last → _
    rw [lastHeartbeat, lastValue_append _ (by simp [Event.heartbeatTime?])]
    exact hs.heartbeat

/-- The end of the processing attempt with the handlers around it: the attempt counts if it ended in
an unexpected exception, and clears the count if it succeeded. -/
lemma handleProcessOutcome_metered (hs : s.Counts) (hnack : d.nackMessage = .ok ()) :
    let s' := (handleProcessOutcome d (s.emit (.processMessage d.message d.processMessage))).2
    s'.Counts ∧ s'.lastMessageReceivedAt = s.lastMessageReceivedAt ∧
      ∃ segment, s'.trace = s.trace ++ .processMessage d.message d.processMessage :: segment ∧
        segment.all Event.isNeutral = true := by
  have hp := hs.processMessage d.message d.processMessage
  set n := if returned d.processMessage then 0 else s.errorCount +
    if (Event.processMessage d.message d.processMessage).isError then 1 else 0 with hn
  set s₁ := { s with errorCount := n }.emit (.processMessage d.message d.processMessage) with hs₁
  set nack := Event.nackMessage d.message d.nackMessage with hnackEvent
  -- the counter is written after the nack, which does not read it
  have hcases : (handleProcessOutcome d (s.emit (.processMessage d.message d.processMessage))).2 =
      s₁ ∨ (handleProcessOutcome d (s.emit (.processMessage d.message d.processMessage))).2 =
      s₁.emit nack := by
    unfold handleProcessOutcome
    cases ho : d.processMessage with
    | ok u =>
      left
      simp [hs₁, hn, ho, returned, ConsumerState.emit]
    | error e =>
      have hcount : n = s.errorCount + if e.isUnexpected then 1 else 0 := by
        simp [hn, ho, returned, Event.isError]
      cases hi : e.isInstance .ignoreException with
      | true =>
        left
        simp [hs₁, hcount, PyException.isUnexpected, hi, ho, ConsumerState.emit]
      | false =>
        cases hl : e.isInstance .loggingException with
        | true =>
          cases ha : e.logArguments with
          | error e' =>
            left
            simp [hs₁, hcount, PyException.isUnexpected, hi, hl, ho, ha, ConsumerState.emit]
          | ok arguments =>
            right
            simp [hs₁, hcount, PyException.isUnexpected, hi, hl, ho, ha, ConsumerState.emit,
              nackAndContinue_snd, hnackEvent]
        | false =>
          right
          cases hr : e.isInstance .retryException with
          | true =>
            simp [hs₁, hcount, PyException.isUnexpected, hi, hl, hr, ho, ConsumerState.emit,
              nackAndContinue_snd, hnackEvent]
          | false =>
            simp [hs₁, hcount, PyException.isUnexpected, hi, hl, hr, ho, ConsumerState.emit,
              nackAndContinue, hnackEvent, hnack]
  rcases hcases with h | h
  · exact h ▸ ⟨hp, rfl, [], rfl, rfl⟩
  · exact h ▸ ⟨hp.emit rfl, rfl, [nack], by simp [hs₁, ConsumerState.emit], rfl⟩

/-- The `try` statement around `process_message`.

**Proof sketch.**  The forced heartbeats come before the end of the processing attempt, and the
`finally` block after the handlers, where counter and trace agree again. -/
lemma tryProcessMessage_metered (hs : s.Counts) (hnack : d.nackMessage = .ok ()) :
    Metered cfg [] s (tryProcessMessage cfg d s).2 := by
  unfold tryProcessMessage
  set s₁ := d.extensions.foldl (fun s hb => callHeartbeatHook cfg true hb s) s with hs₁
  obtain ⟨hcounts₁, hreceived₁, forced, ht₁, hresets₁, hsound₁⟩ :=
    foldl_callHeartbeatHook_metered cfg hs d.extensions
  obtain ⟨hcounts₂, hreceived₂, segment, ht₂, hneutral⟩ :=
    handleProcessOutcome_metered hcounts₁ hnack
  set s₂ := (handleProcessOutcome d
    (s₁.emit (.processMessage d.message d.processMessage))).2 with hs₂
  have hquiet : ∀ e ∈ Event.processMessage d.message d.processMessage :: segment,
      e.heartbeatTime? = none ∧ e.resetTime? = none := by
    intro e he
    rcases List.mem_cons.mp he with rfl | he
    · exact ⟨rfl, rfl⟩
    · have := List.all_eq_true.mp hneutral e he
      cases e <;> first | exact ⟨rfl, rfl⟩ | cases this
  have h : Metered cfg [] s s₂ := by
    refine ⟨hcounts₂, hreceived₂.trans hreceived₁,
      forced ++ .processMessage d.message d.processMessage :: segment, ?_, ?_, ?_⟩
    · rw [ht₂, ht₁, List.append_assoc]
    · refine (hsound₁ _ _ _).append ?_
      rintro a e b hab now n o rfl
      have := (hquiet (.heartbeatHook now n o) (by rw [hab]; simp)).1
      cases this
    · rw [List.filterMap_append, hresets₁, List.nil_append]
      exact List.filterMap_eq_nil_iff.mpr fun e he => (hquiet e he).2
  exact h.trans (callHeartbeatHook_metered h.counts d.heartbeat)

/-- The statements under the instrumentation wrapper. -/
lemma settleQueueMessage_metered (hs : s.Counts) (hnack : d.nackMessage = .ok ()) :
    Metered cfg [] s (settleQueueMessage cfg d s).2 := by
  unfold settleQueueMessage
  have h₁ : Metered cfg [] s (tryHook d (.preProcessHook d.message) d.preProcessHook s).2 :=
    tryHook_metered hs (fun _ => rfl) _
  rcases hr₁ : tryHook d (.preProcessHook d.message) d.preProcessHook s with ⟨flow₁, s₁⟩
  rw [hr₁] at h₁
  cases flow₁ with
  | continueLoop => exact h₁
  | raises e => exact h₁
  | fallThrough =>
    have h₂ := h₁.trans (tryProcessMessage_metered h₁.counts hnack)
    rcases hr₂ : tryProcessMessage cfg d s₁ with ⟨flow₂, s₂⟩
    rw [hr₂] at h₂
    simp only [hr₂]
    cases flow₂ with
    | continueLoop => exact h₂
    | raises e => exact h₂
    | fallThrough =>
      have hpost : Metered cfg [] s₂
          (tryHook d (.postProcessHook d.message) d.postProcessHook s₂).2 :=
        tryHook_metered h₂.counts (fun _ => rfl) _
      have h₃ := h₂.trans hpost
      rcases hr₃ : tryHook d (.postProcessHook d.message) d.postProcessHook s₂ with ⟨flow₃, s₃⟩
      rw [hr₃] at h₃
      simp only [hr₃]
      cases flow₃ with
      | continueLoop => exact h₃
      | raises e => exact h₃
      | fallThrough => exact h₃.trans (emit_metered h₃.counts rfl)

end Metered

/-! ## Exceptions of the heartbeat hook -/

section Quiet

variable {μ α : Type} (cfg : ConsumerSettings)

/-- The call with a hook that returns. -/
def HeartbeatCall.quiet (hb : HeartbeatCall) : HeartbeatCall := { hb with hook := .ok () }

/-- The delivery with heartbeat hooks that return. -/
def Delivery.quiet (d : Delivery μ) : Delivery μ :=
  { d with extensions := d.extensions.map HeartbeatCall.quiet, heartbeat := d.heartbeat.quiet }

/-- The step with heartbeat hooks that return. -/
def PullStep.quiet : PullStep μ → PullStep μ
  | .yield d => .yield d.quiet
  | .housekeeping now hb => .housekeeping now hb.quiet
  | .raises e => .raises e

/-- The event without the exception of a heartbeat hook. -/
def Event.quiet : Event μ → Event μ
  | .heartbeatHook now n _ => .heartbeatHook now n (.ok ())
  | e => e

/-- The state without the exceptions of heartbeat hooks in its trace. -/
def ConsumerState.quiet (s : ConsumerState μ) : ConsumerState μ :=
  { s with trace := s.trace.map Event.quiet }

@[simp] lemma ConsumerState.quiet_emit (s : ConsumerState μ) (e : Event μ) :
    (s.emit e).quiet = s.quiet.emit e.quiet := by simp [quiet, emit]

lemma callHeartbeatHook_quiet (force : Bool) (hb : HeartbeatCall) (s : ConsumerState μ) :
    callHeartbeatHook cfg force hb.quiet s.quiet = (callHeartbeatHook cfg force hb s).quiet := by
  simp only [callHeartbeatHook, apply_ite ConsumerState.quiet, ConsumerState.quiet_emit]
  rfl

lemma foldl_callHeartbeatHook_quiet (hbs : List HeartbeatCall) (s : ConsumerState μ) :
    (hbs.map HeartbeatCall.quiet).foldl (fun s hb => callHeartbeatHook cfg true hb s) s.quiet =
      (hbs.foldl (fun s hb => callHeartbeatHook cfg true hb s) s).quiet := by
  induction hbs generalizing s with
  | nil => rfl
  | cons hb hbs ih =>
    rw [List.map_cons, List.foldl_cons, callHeartbeatHook_quiet, ih, List.foldl_cons]

lemma performErrorCounterInactivityReset_quiet (now : Time) (s : ConsumerState μ) :
    performErrorCounterInactivityReset cfg now s.quiet =
      (performErrorCounterInactivityReset cfg now s).quiet := by
  unfold performErrorCounterInactivityReset
  cases cfg.heartbeatInactivityReset with
  | none => rfl
  | some period =>
    simp only [apply_ite ConsumerState.quiet, ConsumerState.quiet_emit]
    rfl

lemma nackAndContinue_quiet (d : Delivery μ) (s : ConsumerState μ) :
    nackAndContinue d.quiet s.quiet = (nackAndContinue d s).map id ConsumerState.quiet := by
  cases h : d.nackMessage <;> simp [nackAndContinue, Delivery.quiet, h, Event.quiet]

lemma tryHook_quiet (d : Delivery μ) {call : Outcome → Event μ}
    (hcall : ∀ o, (call o).quiet = call o) (hook : Outcome) (s : ConsumerState μ) :
    tryHook d.quiet call hook s.quiet = (tryHook d call hook s).map id ConsumerState.quiet := by
  cases hook with
  | ok u => simp [tryHook, hcall]
  | error e =>
    have h := nackAndContinue_quiet d (s.emit (call (.error e)))
    rwa [ConsumerState.quiet_emit, hcall] at h

lemma handleProcessOutcome_quiet (d : Delivery μ) (s : ConsumerState μ) :
    handleProcessOutcome d.quiet s.quiet =
      (handleProcessOutcome d s).map id ConsumerState.quiet := by
  have hprocess : d.quiet.processMessage = d.processMessage := rfl
  unfold handleProcessOutcome
  rw [hprocess]
  cases d.processMessage with
  | ok u => rfl
  | error e =>
    dsimp only
    rw [nackAndContinue_quiet]
    cases e.logArguments <;> cases nackAndContinue d s with
    | mk flow s' =>
      cases flow <;> cases e.isInstance .ignoreException <;>
        cases e.isInstance .loggingException <;> cases e.isInstance .retryException <;> rfl

lemma tryProcessMessage_quiet (d : Delivery μ) (s : ConsumerState μ) :
    tryProcessMessage cfg d.quiet s.quiet =
      (tryProcessMessage cfg d s).map id ConsumerState.quiet := by
  have hextensions :
      d.quiet.extensions.foldl (fun s hb => callHeartbeatHook cfg true hb s) s.quiet =
        (d.extensions.foldl (fun s hb => callHeartbeatHook cfg true hb s) s).quiet :=
    foldl_callHeartbeatHook_quiet cfg d.extensions s
  set s₁ := d.extensions.foldl (fun s hb => callHeartbeatHook cfg true hb s) s with hs₁
  have hprocess : s₁.quiet.emit (.processMessage d.quiet.message d.quiet.processMessage) =
      (s₁.emit (.processMessage d.message d.processMessage)).quiet := by
    rw [ConsumerState.quiet_emit]
    rfl
  unfold tryProcessMessage
  rw [hextensions]
  dsimp only
  rw [hprocess, handleProcessOutcome_quiet]
  exact congrArg (Prod.mk _) (callHeartbeatHook_quiet cfg false d.heartbeat _)

lemma settleQueueMessage_quiet (d : Delivery μ) (s : ConsumerState μ) :
    settleQueueMessage cfg d.quiet s.quiet =
      (settleQueueMessage cfg d s).map id ConsumerState.quiet := by
  have hpre : tryHook d.quiet (.preProcessHook d.quiet.message) d.quiet.preProcessHook s.quiet =
      (tryHook d (.preProcessHook d.message) d.preProcessHook s).map id ConsumerState.quiet :=
    tryHook_quiet d (fun _ => rfl) d.preProcessHook s
  unfold settleQueueMessage
  rw [hpre]
  rcases tryHook d (.preProcessHook d.message) d.preProcessHook s with ⟨flow₁, s₁⟩
  cases flow₁ with
  | continueLoop => rfl
  | raises e => rfl
  | fallThrough =>
    simp only [Prod.map_apply, id]
    rw [tryProcessMessage_quiet]
    rcases tryProcessMessage cfg d s₁ with ⟨flow₂, s₂⟩
    cases flow₂ with
    | continueLoop => rfl
    | raises e => rfl
    | fallThrough =>
      have hpost : tryHook d.quiet (.postProcessHook d.quiet.message) d.quiet.postProcessHook
          s₂.quiet = (tryHook d (.postProcessHook d.message) d.postProcessHook s₂).map id
            ConsumerState.quiet := tryHook_quiet d (fun _ => rfl) d.postProcessHook s₂
      simp only [Prod.map_apply, id]
      rw [hpost]
      rcases tryHook d (.postProcessHook d.message) d.postProcessHook s₂ with ⟨flow₃, s₃⟩
      cases flow₃ with
      | continueLoop => rfl
      | raises e => rfl
      | fallThrough =>
        simp only [Prod.map_apply, id, ConsumerState.quiet_emit]
        rfl

variable (messageAttributes : μ → Except PyException α) (instrumentation : Instrumentation α)

lemma maybeInstrument_map_quiet {body body' : ConsumerState μ → Outcome × ConsumerState μ}
    (hbody : ∀ s, body' s.quiet = (body s).map id ConsumerState.quiet) (attributes : α)
    (s : ConsumerState μ) : maybeInstrument instrumentation attributes body' s.quiet =
      (maybeInstrument instrumentation attributes body s).map id ConsumerState.quiet := by
  cases instrumentation with
  | missing => exact hbody s
  | installed onReceive =>
    unfold maybeInstrument
    rw [hbody]
    rcases body s with ⟨o, s'⟩
    dsimp only
    cases onReceive attributes with
    | error e =>
      dsimp only
      cases e.isInstance .importError <;> rfl
    | ok u =>
      cases o with
      | ok u => rfl
      | error e => cases h : e.isInstance .importError <;> simp [h]

/-- A step changes with the heartbeat hooks only what it records of them. -/
lemma pullStep_quiet (step : PullStep μ) (s : ConsumerState μ) :
    pullStep cfg messageAttributes instrumentation step.quiet s.quiet =
      (pullStep cfg messageAttributes instrumentation step s).map id ConsumerState.quiet := by
  cases step with
  | raises e => rfl
  | housekeeping now hb =>
    simp only [PullStep.quiet, pullStep, performErrorCounterInactivityReset_quiet,
      callHeartbeatHook_quiet, Prod.map_apply, id]
  | yield d =>
    have hmessage : d.quiet.message = d.message := rfl
    simp only [PullStep.quiet, pullStep, processQueueMessage, hmessage]
    cases messageAttributes d.message with
    | error e => rfl
    | ok attributes =>
      exact maybeInstrument_map_quiet instrumentation (settleQueueMessage_quiet cfg d) attributes
        { s with lastMessageReceivedAt := d.receivedAt }

/-- **Exceptions of the heartbeat hook** change nothing but what the trace records of them.

**Proof sketch.**  Induction on the batch: `pullStep_quiet` says for one step that the two states
differ in the recorded exceptions only. -/
lemma processBatch_quiet (batch : List (PullStep μ)) (s : ConsumerState μ) :
    processBatch cfg messageAttributes instrumentation (batch.map PullStep.quiet) s.quiet =
      (processBatch cfg messageAttributes instrumentation batch s).map id ConsumerState.quiet := by
  induction batch generalizing s with
  | nil => rfl
  | cons step batch ih =>
    rw [List.map_cons, processBatch, pullStep_quiet, processBatch]
    rcases pullStep cfg messageAttributes instrumentation step s with ⟨o, s₁⟩
    cases o with
    | ok u => exact ih s₁
    | error e => rfl

end Quiet

/-! ## Steps and runs -/

section Runs

variable {μ α : Type} (cfg : ConsumerSettings) (messageAttributes : μ → Except PyException α)
  (instrumentation : Instrumentation α)

/-- The state agrees with its trace, and knows when the last message of the steps so far was
received. -/
structure ConsumerState.Follows (s : ConsumerState μ) (pre : List (PullStep μ)) : Prop where
  counts : s.Counts
  received : s.lastMessageReceivedAt = lastReceived pre

lemma follows_init : (ConsumerState.init : ConsumerState μ).Follows [] := by
  refine ⟨⟨rfl, ?_⟩, rfl⟩
  rintro last ⟨⟩

/-- The deliveries of one list of steps after the other. -/
lemma PullStep.deliveries_append (l l' : List (PullStep μ)) :
    deliveries (l ++ l') = deliveries l ++ deliveries l' := by
  induction l with
  | nil => rfl
  | cons step l ih => cases step <;> simp [deliveries, ih]

/-- The last message of a longer list of steps. -/
lemma lastReceived_concat (pre : List (PullStep μ)) (step : PullStep μ) :
    lastReceived (pre ++ [step]) =
      match step with
      | .yield d => d.receivedAt
      | _ => lastReceived pre := by
  unfold lastReceived
  rw [PullStep.deliveries_append]
  cases step <;> simp [PullStep.deliveries]

/-- **One step of the loop** keeps the agreement, and its events are as they should be.

**Proof sketch.**  The body of the loop is metered statement by statement, with no reset among its
events, and moves the time of the last message.  The housekeeping resets the counter first, which it
does exactly after the period, and then calls the hook with the counter as it is.  A pull that
raises changes nothing. -/
lemma pullStep_metered {pre : List (PullStep μ)} {s : ConsumerState μ} (hs : s.Follows pre)
    (step : PullStep μ) (hnack : ∀ d, step = .yield d → d.nackMessage = .ok ()) :
    let s' := (pullStep cfg messageAttributes instrumentation step s).2
    s'.Follows (pre ++ [step]) ∧
      ∃ segment, s'.trace = s.trace ++ segment ∧ StepMetered cfg pre step s.trace segment := by
  cases step with
  | yield d =>
    have hbody : Metered cfg [] { s with lastMessageReceivedAt := d.receivedAt }
        (pullStep cfg messageAttributes instrumentation (.yield d) s).2 := by
      have hs₁ : ConsumerState.Counts { s with lastMessageReceivedAt := d.receivedAt } :=
        ⟨hs.counts.errorCount, hs.counts.heartbeat⟩
      change Metered cfg [] _ (processQueueMessage cfg messageAttributes instrumentation d s).2
      unfold processQueueMessage
      cases messageAttributes d.message with
      | error e => exact .refl hs₁
      | ok attributes =>
        rcases maybeInstrument_snd instrumentation attributes (settleQueueMessage cfg d)
          { s with lastMessageReceivedAt := d.receivedAt } with h | h
        · simp only [h]
          exact .refl hs₁
        · simp only [h]
          exact settleQueueMessage_metered hs₁ (hnack d rfl)
    obtain ⟨segment, ht, hsound, hresets⟩ := hbody.trace
    refine ⟨⟨hbody.counts, ?_⟩, segment, ht, hsound, fun now => ?_⟩
    · rw [lastReceived_concat]
      exact hbody.received
    · rw [inactivityReset_mem_iff, hresets]
      simp
  | housekeeping now hb =>
    obtain ⟨resets, h₁, hresets⟩ := performErrorCounterInactivityReset_metered cfg hs.counts now
    have h := h₁.trans (callHeartbeatHook_metered h₁.counts hb)
    obtain ⟨segment, ht, hsound, hsegment⟩ := h.trace
    refine ⟨⟨h.counts, ?_⟩, segment, ht, hsound, fun now' => ?_⟩
    · rw [lastReceived_concat]
      exact h.received.trans hs.received
    · rw [inactivityReset_mem_iff, hsegment, List.append_nil, hresets, hs.received]
      constructor
      · rintro ⟨rfl, hinactive⟩
        exact ⟨⟨hb, rfl⟩, hinactive⟩
      · rintro ⟨⟨hb', hstep⟩, hinactive⟩
        obtain ⟨rfl, -⟩ := PullStep.housekeeping.inj hstep
        exact ⟨rfl, hinactive⟩
  | raises e =>
    refine ⟨⟨hs.counts, ?_⟩, [], (List.append_nil _).symm, by simp, by simp⟩
    rw [lastReceived_concat]
    exact hs.received

/-- The loop over steps that follow other ones. -/
lemma processBatch_append (l l' : List (PullStep μ)) (s : ConsumerState μ) :
    processBatch cfg messageAttributes instrumentation (l ++ l') s =
      match processBatch cfg messageAttributes instrumentation l s with
      | (.ok (), s) => processBatch cfg messageAttributes instrumentation l' s
      | (.error e, s) => (.error e, s) := by
  induction l generalizing s with
  | nil => rfl
  | cons step l ih =>
    simp only [List.cons_append, processBatch]
    rcases pullStep cfg messageAttributes instrumentation step s with ⟨o, s₁⟩
    cases o with
    | ok u => exact ih s₁
    | error e => rfl

/-- The loop over the batches is the loop over their steps. -/
lemma fetchAndProcessMessages_eq_processBatch (batches : List (List (PullStep μ)))
    (s : ConsumerState μ) :
    fetchAndProcessMessages cfg messageAttributes instrumentation batches s =
      processBatch cfg messageAttributes instrumentation batches.flatten s := by
  induction batches generalizing s with
  | nil => rfl
  | cons batch rest ih =>
    rw [List.flatten_cons, processBatch_append, fetchAndProcessMessages]
    rcases processBatch cfg messageAttributes instrumentation batch s with ⟨o, s₁⟩
    cases o with
    | ok u => exact ih s₁
    | error e => rfl

/-- The loop reaches a state that agrees with its trace, by induction on the steps. -/
lemma processBatch_follows (steps : List (PullStep μ))
    (hnack : ∀ d, .yield d ∈ steps → d.nackMessage = .ok ()) {pre : List (PullStep μ)}
    {s s' : ConsumerState μ} (hs : s.Follows pre)
    (hrun : processBatch cfg messageAttributes instrumentation steps s = (.ok (), s')) :
    s'.Follows (pre ++ steps) := by
  induction steps generalizing pre s with
  | nil =>
    obtain rfl : s = s' := congrArg Prod.snd hrun
    simpa using hs
  | cons step steps ih =>
    have hstep := (pullStep_metered cfg messageAttributes instrumentation hs step
      fun d hd => hnack d (hd ▸ List.mem_cons_self)).1
    rw [processBatch] at hrun
    rcases hpull : pullStep cfg messageAttributes instrumentation step s with ⟨o, s₁⟩
    rw [hpull] at hrun hstep
    cases o with
    | error e => cases hrun
    | ok u =>
      rw [List.append_cons]
      exact ih (fun d hd => hnack d (List.mem_cons_of_mem _ hd)) hstep hrun

/-- **Error counter and heartbeat.**  If `nack_message` does not raise, then at every step that the
loop reaches, before and after it, `error_count` is the number of consecutive errors; among the
events of the step the heartbeat hook is told the number of consecutive errors, is called, unless a
visibility extension forces it, more than the interval after the preceding call, and the counter is
reset exactly in an inactive pull.  The run is the same, and ends in the same way, if no heartbeat
hook raises.

**Proof sketch.**  The agreement of the counter, the clock readings and the trace holds at the start
and is kept by every step, so it holds after any prefix of the run, and `pullStep_metered` describes
the next step.  For the second part the runs with and without the exceptions of the hook are
compared by `processBatch_quiet`. -/
theorem fetchAndProcessMessages_metered (batches : List (List (PullStep μ)))
    (hnack : ∀ d, .yield d ∈ batches.flatten → d.nackMessage = .ok ()) :
    (∀ pre step post, batches.flatten = pre ++ step :: post →
      ∀ s, processBatch cfg messageAttributes instrumentation pre .init = (.ok (), s) →
        let s' := (pullStep cfg messageAttributes instrumentation step s).2
        s.errorCount = consecutiveErrors s.trace ∧ s'.errorCount = consecutiveErrors s'.trace ∧
        ∃ segment, s'.trace = s.trace ++ segment ∧ StepMetered cfg pre step s.trace segment) ∧
      fetchAndProcessMessages cfg messageAttributes instrumentation
          (batches.map (List.map PullStep.quiet)) .init =
        (fetchAndProcessMessages cfg messageAttributes instrumentation batches .init).map id
          ConsumerState.quiet := by
  constructor
  · intro pre step post hsplit s hrun
    have hmem : ∀ d, PullStep.yield d ∈ pre ++ [step] → d.nackMessage = .ok () := by
      intro d hd
      refine hnack d ?_
      rw [hsplit, List.append_cons]
      exact List.mem_append_left _ hd
    have hs : s.Follows pre := by
      simpa using processBatch_follows cfg messageAttributes instrumentation pre
        (fun d hd => hmem d (List.mem_append_left _ hd)) follows_init hrun
    obtain ⟨hs', segment, ht, hsegment⟩ := pullStep_metered cfg messageAttributes instrumentation
      hs step fun d hd => hmem d (by simp [hd])
    exact ⟨hs.counts.errorCount, hs'.counts.errorCount, segment, ht, hsegment⟩
  · rw [fetchAndProcessMessages_eq_processBatch, fetchAndProcessMessages_eq_processBatch,
      ← List.map_flatten]
    exact processBatch_quiet cfg messageAttributes instrumentation batches.flatten .init

end Runs

/-! ## A sample run -/

/-- A delivery whose callback extends the visibility of its message after 20 s, where the heartbeat
hook raises, and then raises an unexpected exception. -/
def unexpectedDelivery : Delivery String :=
  { acceptedDelivery with
    message := "unexpected"
    extensions := [⟨20000000, .error (.new .runtimeError "hook")⟩]
    processMessage := .error (.new .valueError "callback")
    heartbeat := ⟨40000000, .ok ()⟩ }

/-- The theorem at the pull after a message that failed: one error, of which the heartbeat hook has
been told. -/
theorem fetchAndProcessMessages_metered_sample :
    let s := (processBatch sampleSettings (fun _ => .ok ()) (.missing : Instrumentation Unit)
      [.yield unexpectedDelivery] .init).2
    let s' := (pullStep sampleSettings (fun _ => .ok ()) (.missing : Instrumentation Unit)
      (.housekeeping 41000000 ⟨41000000, .ok ()⟩) s).2
    s.errorCount = consecutiveErrors s.trace ∧ s'.errorCount = consecutiveErrors s'.trace ∧
      (∃ segment, s'.trace = s.trace ++ segment ∧ StepMetered sampleSettings
        [.yield unexpectedDelivery] (.housekeeping 41000000 ⟨41000000, .ok ()⟩) s.trace segment) ∧
      s'.errorCount = 1 ∧ lastHeartbeat s'.trace = some 40000000 := by
  intro s s'
  have hnack : ∀ d, PullStep.yield d ∈ [[PullStep.yield unexpectedDelivery,
      .housekeeping 41000000 ⟨41000000, .ok ()⟩]].flatten → d.nackMessage = .ok () := by
    intro d hd
    obtain rfl : d = unexpectedDelivery := by simpa using hd
    rfl
  obtain ⟨hbefore, hafter, hsegment⟩ := (fetchAndProcessMessages_metered sampleSettings
    (fun _ => .ok ()) (.missing : Instrumentation Unit) _ hnack).1 [.yield unexpectedDelivery] _ []
    rfl s rfl
  exact ⟨hbefore, hafter, hsegment, by decide +kernel, by decide +kernel⟩

end Hedwig
