import Hedwig.Backends.Heartbeat

set_option relaxedAutoImplicit false
set_option autoImplicit false

/-!
# Busy time and inactivity

The error counter is to be reset when no message has come for a while.  The reset compares the clock
with the time when the last message was *received*, and `AWSSQSConsumerBackend.pull_messages` makes
it before the loop records the messages of the new pull.  A consumer that is never idle therefore
loses its count whenever the time from the receipt of a message to the end of the next pull is
longer than the period.

## Main definitions

* `Hedwig.SqsPull`, `Hedwig.AWSSQSConsumerBackend.pullMessages` — a pull of the SQS consumer.
* `Hedwig.Delivery.Fails` — processing the message ends in an unexpected exception.
* `Hedwig.PromptPulls` — every pull comes within the period after the last message was received.

## Main results

* `Hedwig.fetchAndProcessMessages_remembers_iff` — the errors of a consumer that is never idle are
  all counted exactly if its pulls are prompt.
* `Hedwig.fetchAndProcessMessages_forgets` — they need not be.
-/

namespace Hedwig

/-! ## The pulls of the SQS consumer -/

/-- A call of `AWSSQSConsumerBackend.pull_messages`: how `receive_messages` ends, and the clock
reading and the heartbeat call of the `finally` clause. -/
structure SqsPull (μ : Type) where
  receiveMessages : Except PyException (List (Delivery μ))
  now : Time
  heartbeat : HeartbeatCall

/-- `AWSSQSConsumerBackend.pull_messages`: the `finally` clause runs before the list is returned or
the exception goes on. -/
def AWSSQSConsumerBackend.pullMessages {μ : Type} (p : SqsPull μ) : List (PullStep μ) :=
  .housekeeping p.now p.heartbeat ::
    match p.receiveMessages with
    | .ok deliveries => deliveries.map .yield
    | .error e => [.raises e]

section Failures

variable {μ α : Type} (cfg : ConsumerSettings) (messageAttributes : μ → Except PyException α)
  (instrumentation : Instrumentation α)

/-- The message is processed, and processing ends in an unexpected exception. -/
structure Delivery.Fails (d : Delivery μ) : Prop where
  attributes : ∃ a, messageAttributes d.message = .ok a ∧ instrumentation.Quiet a
  preProcessHook : d.preProcessHook = .ok ()
  processMessage : ∃ e, d.processMessage = .error e ∧ e.isUnexpected = true
  nackMessage : d.nackMessage = .ok ()

/-- Every pull after the first message comes within the period after the last message was
received. -/
def PromptPulls (steps : List (PullStep μ)) : Prop :=
  ∀ pre now hb post, steps = pre ++ .housekeeping now hb :: post → PullStep.deliveries pre ≠ [] →
    ∀ period, cfg.heartbeatInactivityReset = some period → now ≤ lastReceived pre + period

variable {messageAttributes instrumentation} {d : Delivery μ} {s : ConsumerState μ}

/-- A message that fails is settled like any other. -/
lemma Delivery.Fails.cooperative (hd : d.Fails messageAttributes instrumentation) :
    d.Cooperative messageAttributes instrumentation := by
  refine ⟨hd.attributes, hd.nackMessage, ?_⟩
  intro _ e he _ hlogging
  obtain ⟨e', he', hunexpected⟩ := hd.processMessage
  obtain rfl : e = e' := Except.error.inj (he.symm.trans he')
  simp [PyException.isUnexpected, hlogging] at hunexpected

lemma callHeartbeatHook_errorCount (force : Bool) (hb : HeartbeatCall) :
    (callHeartbeatHook cfg force hb s).errorCount = s.errorCount := by
  unfold callHeartbeatHook
  split_ifs <;> rfl

lemma foldl_callHeartbeatHook_errorCount (hbs : List HeartbeatCall) :
    (hbs.foldl (fun s hb => callHeartbeatHook cfg true hb s) s).errorCount = s.errorCount := by
  induction hbs generalizing s with
  | nil => rfl
  | cons hb hbs ih => rw [List.foldl_cons, ih, callHeartbeatHook_errorCount]

/-- A message that fails adds one to the error counter. -/
lemma pullStep_yield_errorCount (hd : d.Fails messageAttributes instrumentation) :
    (pullStep cfg messageAttributes instrumentation (.yield d) s).2.errorCount =
      s.errorCount + 1 := by
  obtain ⟨a, ha, hq⟩ := hd.attributes
  obtain ⟨e, he, hunexpected⟩ := hd.processMessage
  obtain ⟨⟨hignore, hlogging⟩, hretry⟩ : (e.isInstance .ignoreException = false ∧
      e.isInstance .loggingException = false) ∧ e.isInstance .retryException = false := by
    simpa [PyException.isUnexpected] using hunexpected
  set s₁ : ConsumerState μ := { s with lastMessageReceivedAt := d.receivedAt } with hs₁
  have hret := (settleQueueMessage_spec cfg (s := s₁) hd.nackMessage hd.cooperative.reportable).1
  have hbody : (settleQueueMessage cfg d s₁).2.errorCount = s₁.errorCount + 1 := by
    simp [settleQueueMessage, tryHook, hd.preProcessHook, tryProcessMessage, handleProcessOutcome,
      he, hignore, hlogging, hretry, nackAndContinue, hd.nackMessage, callHeartbeatHook_errorCount,
      foldl_callHeartbeatHook_errorCount, ConsumerState.emit]
  simp only [pullStep, processQueueMessage, ha, ← hs₁]
  rw [maybeInstrument_of_ok hq hret, hbody]

variable (messageAttributes instrumentation) in
/-- The housekeeping of a pull clears the error counter if the pull is inactive, and leaves it
otherwise. -/
lemma pullStep_housekeeping_errorCount {pre : List (PullStep μ)} (hs : s.Follows pre) (now : Time)
    (hb : HeartbeatCall) :
    let s' := (pullStep cfg messageAttributes instrumentation (.housekeeping now hb) s).2
    (Inactive cfg (lastReceived pre) s.trace now → s'.errorCount = 0) ∧
      (¬ Inactive cfg (lastReceived pre) s.trace now → s'.errorCount = s.errorCount) := by
  simp only [pullStep, callHeartbeatHook_errorCount, Inactive, ← hs.counts.errorCount,
    ← hs.received, performErrorCounterInactivityReset]
  cases cfg.heartbeatInactivityReset with
  | none => simp
  | some period =>
    dsimp only
    split_ifs with h
    · exact ⟨fun _ => rfl, fun hactive => absurd ⟨period, rfl, h⟩ hactive⟩
    · refine ⟨?_, fun _ => rfl⟩
      rintro ⟨period', hperiod, hinactive⟩
      obtain rfl := Option.some.inj hperiod
      exact absurd hinactive h

end Failures

/-! ## Consumers that are never idle -/

section Busy

variable {μ α : Type} (cfg : ConsumerSettings) (messageAttributes : μ → Except PyException α)
  (instrumentation : Instrumentation α)

/-- Each of these steps is housekeeping or a message that fails. -/
def AllFail (steps : List (PullStep μ)) : Prop :=
  ∀ step ∈ steps, (∃ now hb, step = .housekeeping now hb) ∨
    ∃ d, step = .yield d ∧ d.Fails messageAttributes instrumentation

variable {messageAttributes instrumentation} {steps pre : List (PullStep μ)}

/-- Pulls that return messages which fail. -/
lemma allFail_pullMessages {pulls : List (SqsPull μ)}
    (h : ∀ p ∈ pulls, ∃ deliveries, p.receiveMessages = .ok deliveries ∧
      ∀ d ∈ deliveries, d.Fails messageAttributes instrumentation) :
    AllFail messageAttributes instrumentation
      (pulls.flatMap AWSSQSConsumerBackend.pullMessages) := by
  intro step hstep
  obtain ⟨p, hp, hstep⟩ := List.mem_flatMap.mp hstep
  obtain ⟨deliveries, hreceive, hfails⟩ := h p hp
  rw [AWSSQSConsumerBackend.pullMessages, hreceive] at hstep
  rcases List.mem_cons.mp hstep with rfl | hstep
  · exact .inl ⟨_, _, rfl⟩
  · obtain ⟨d, hd, rfl⟩ := List.mem_map.mp hstep
    exact .inr ⟨d, rfl, hfails d hd⟩

/-- The loop goes through such steps, and reaches a state that agrees with its trace. -/
lemma AllFail.run (h : AllFail messageAttributes instrumentation steps) :
    ∃ s, processBatch cfg messageAttributes instrumentation steps .init = (.ok (), s) ∧
      s.Follows steps := by
  have hraises : ∀ e, PullStep.raises e ∉ steps := by
    intro e he
    rcases h _ he with ⟨now, hb, hstep⟩ | ⟨d, hstep, -⟩ <;> cases hstep
  have hfails : ∀ d, .yield d ∈ steps → d.Fails messageAttributes instrumentation := by
    intro d hd
    rcases h _ hd with ⟨now, hb, hstep⟩ | ⟨d', hstep, hd'⟩
    · cases hstep
    · exact PullStep.yield.inj hstep ▸ hd'
  obtain ⟨s, -, hrun, -⟩ := processBatch_settles cfg steps .init hraises
    fun d hd => (hfails d hd).cooperative
  refine ⟨s, hrun, ?_⟩
  simpa using processBatch_follows cfg messageAttributes instrumentation steps
    (fun d hd => (hfails d hd).nackMessage) follows_init hrun

/-- One more step. -/
lemma AllFail.run_concat {step : PullStep μ}
    (h : AllFail messageAttributes instrumentation (pre ++ [step])) :
    ∃ s, processBatch cfg messageAttributes instrumentation pre .init = (.ok (), s) ∧
      s.Follows pre ∧
      (processBatch cfg messageAttributes instrumentation (pre ++ [step]) .init).2 =
        (pullStep cfg messageAttributes instrumentation step s).2 := by
  have hpre : AllFail messageAttributes instrumentation pre :=
    fun step hstep => h step (List.mem_append_left _ hstep)
  obtain ⟨s, hrun, hs⟩ := hpre.run cfg
  refine ⟨s, hrun, hs, ?_⟩
  rw [processBatch_append, hrun]
  simp only [processBatch]
  rcases pullStep cfg messageAttributes instrumentation step s with ⟨o, s'⟩
  cases o <;> rfl

/-- A message that fails: one more error, and no reset. -/
lemma AllFail.yield {d : Delivery μ}
    (h : AllFail messageAttributes instrumentation (pre ++ [.yield d])) :
    let s := (processBatch cfg messageAttributes instrumentation pre .init).2
    let s' := (processBatch cfg messageAttributes instrumentation (pre ++ [.yield d]) .init).2
    s'.errorCount = s.errorCount + 1 ∧
      ∀ now, .inactivityReset now ∈ s'.trace ↔ .inactivityReset now ∈ s.trace := by
  have hd : d.Fails messageAttributes instrumentation := by
    rcases h (.yield d) (by simp) with ⟨now, hb, hstep⟩ | ⟨d', hstep, hd'⟩
    · cases hstep
    · exact PullStep.yield.inj hstep ▸ hd'
  obtain ⟨s, hrun, hs, hconcat⟩ := h.run_concat cfg
  obtain ⟨-, segment, ht, hsegment⟩ := pullStep_metered cfg messageAttributes instrumentation hs
    (.yield d) (by rintro _ ⟨⟩; exact hd.nackMessage)
  rw [hrun, hconcat]
  refine ⟨pullStep_yield_errorCount cfg hd, fun now => ?_⟩
  rw [ht, List.mem_append, hsegment.reset_iff now]
  simp

/-- Housekeeping: an inactive pull resets the counter, any other one does not. -/
lemma AllFail.housekeeping {now : Time} {hb : HeartbeatCall}
    (h : AllFail messageAttributes instrumentation (pre ++ [.housekeeping now hb])) :
    let s := (processBatch cfg messageAttributes instrumentation pre .init).2
    let s' := (processBatch cfg messageAttributes instrumentation
      (pre ++ [.housekeeping now hb]) .init).2
    s.errorCount = consecutiveErrors s.trace ∧
      (Inactive cfg (lastReceived pre) s.trace now →
        s'.errorCount = 0 ∧ .inactivityReset now ∈ s'.trace) ∧
      (¬ Inactive cfg (lastReceived pre) s.trace now → s'.errorCount = s.errorCount ∧
        ∀ now', .inactivityReset now' ∈ s'.trace ↔ .inactivityReset now' ∈ s.trace) := by
  obtain ⟨s, hrun, hs, hconcat⟩ := h.run_concat cfg
  obtain ⟨-, segment, ht, hsegment⟩ := pullStep_metered cfg messageAttributes instrumentation hs
    (.housekeeping now hb) (by rintro d ⟨⟩)
  obtain ⟨hinactive, hactive⟩ := pullStep_housekeeping_errorCount cfg messageAttributes
    instrumentation hs now hb
  rw [hrun, hconcat]
  refine ⟨hs.counts.errorCount, fun h => ⟨hinactive h, ?_⟩, fun h => ⟨hactive h, fun now' => ?_⟩⟩
  · rw [ht]
    exact List.mem_append_right _ ((hsegment.reset_iff now).mpr ⟨⟨hb, rfl⟩, h⟩)
  · rw [ht, List.mem_append, hsegment.reset_iff now']
    refine ⟨fun hmem => hmem.resolve_right ?_, .inl⟩
    rintro ⟨⟨hb', hstep⟩, hinactive'⟩
    obtain ⟨rfl, -⟩ := PullStep.housekeeping.inj hstep
    exact h hinactive'

/-- Prompt pulls: by induction on the steps, every error is counted and no reset is made. -/
lemma AllFail.remembers (h : AllFail messageAttributes instrumentation steps)
    (hprompt : PromptPulls cfg steps) (hpre : pre <+: steps) :
    let s := (processBatch cfg messageAttributes instrumentation pre .init).2
    s.errorCount = (PullStep.deliveries pre).length ∧ ∀ now, .inactivityReset now ∉ s.trace := by
  induction pre using List.reverseRecOn with
  | nil => exact ⟨rfl, by simp [processBatch, ConsumerState.init]⟩
  | append_singleton pre step ih =>
    obtain ⟨hcount, hresets⟩ := ih ((List.prefix_append pre [step]).trans hpre)
    have hall : AllFail messageAttributes instrumentation (pre ++ [step]) :=
      fun x hx => h x (hpre.subset hx)
    rw [PullStep.deliveries_append]
    rcases hall step (by simp) with ⟨now, hb, rfl⟩ | ⟨d, rfl, -⟩
    · obtain ⟨herrors, -, hactive⟩ := hall.housekeeping cfg
      have hnot : ¬ Inactive cfg (lastReceived pre) (processBatch cfg messageAttributes
          instrumentation pre .init).2.trace now := by
        rintro ⟨period, hperiod, hne, hlt⟩
        rw [← herrors, hcount] at hne
        obtain ⟨post, hpost⟩ := hpre
        have hle := hprompt pre now hb post (by simpa using hpost.symm)
          (fun hnil => hne (by rw [hnil]; rfl)) period hperiod
        exact absurd hlt (Int.not_lt.mpr hle)
      obtain ⟨hcount', hresets'⟩ := hactive hnot
      refine ⟨?_, fun now' => (hresets' now').not.mpr (hresets now')⟩
      rw [hcount', hcount]
      simp [PullStep.deliveries]
    · obtain ⟨hcount', hresets'⟩ := hall.yield cfg
      refine ⟨?_, fun now => (hresets' now).not.mpr (hresets now)⟩
      rw [hcount', hcount]
      simp [PullStep.deliveries]

/-- Without a reset, every error is counted. -/
lemma AllFail.remembers_of_forall_not_reset
    (h : AllFail messageAttributes instrumentation steps)
    (hresets : ∀ pre, pre <+: steps → ∀ now, .inactivityReset now ∉
      (processBatch cfg messageAttributes instrumentation pre .init).2.trace)
    (hpre : pre <+: steps) :
    (processBatch cfg messageAttributes instrumentation pre .init).2.errorCount =
      (PullStep.deliveries pre).length := by
  induction pre using List.reverseRecOn with
  | nil => rfl
  | append_singleton pre step ih =>
    have hcount := ih ((List.prefix_append pre [step]).trans hpre)
    have hall : AllFail messageAttributes instrumentation (pre ++ [step]) :=
      fun x hx => h x (hpre.subset hx)
    rw [PullStep.deliveries_append]
    rcases hall step (by simp) with ⟨now, hb, rfl⟩ | ⟨d, rfl, -⟩
    · obtain ⟨-, hinactive, hactive⟩ := hall.housekeeping cfg
      rw [(hactive fun h => hresets _ hpre now (hinactive h).2).1, hcount]
      simp [PullStep.deliveries]
    · rw [(hall.yield cfg).1, hcount]
      simp [PullStep.deliveries]

/-- If every error is counted, then the pulls are prompt. -/
lemma AllFail.promptPulls (h : AllFail messageAttributes instrumentation steps)
    (hcounts : ∀ pre, pre <+: steps →
      (processBatch cfg messageAttributes instrumentation pre .init).2.errorCount =
        (PullStep.deliveries pre).length) : PromptPulls cfg steps := by
  rintro pre now hb post rfl hne period hperiod
  by_contra hlate
  have hpre : pre ++ [.housekeeping now hb] <+: pre ++ .housekeeping now hb :: post := by
    simp [List.prefix_append_right_inj]
  have hall : AllFail messageAttributes instrumentation (pre ++ [.housekeeping now hb]) :=
    fun x hx => h x (hpre.subset hx)
  have hcount := hcounts pre (List.prefix_append _ _)
  have hcount' := hcounts _ hpre
  have hlength : (PullStep.deliveries pre).length ≠ 0 := by simpa using hne
  obtain ⟨herrors, hinactive, -⟩ := hall.housekeeping cfg
  have hreset := (hinactive ⟨period, hperiod, by rwa [← herrors, hcount], Int.not_le.mp hlate⟩).1
  rw [hcount', PullStep.deliveries_append] at hreset
  simp [PullStep.deliveries] at hreset
  exact hne hreset

variable (messageAttributes instrumentation)

/-- **Consecutive failures.**  If every pull of the SQS consumer returns messages, and processing
each of them ends in an unexpected exception, then after every step the error counter is the number
of messages so far exactly if every pull after the first message comes within the period after the
last message was received; and so it is with the absence of resets.

**Proof sketch.**  Every message counts one error and none is followed by a success, so the counter
differs from the number of messages only through a reset, and a reset happens exactly in a pull that
comes too late.  Induction on the steps gives both equivalences; the run ends well because the
failing callbacks are nacked. -/
theorem fetchAndProcessMessages_remembers_iff (pulls : List (SqsPull μ))
    (hpulls : ∀ p ∈ pulls, ∃ d ds, p.receiveMessages = .ok (d :: ds) ∧
      ∀ d' ∈ d :: ds, d'.Fails messageAttributes instrumentation) :
    let steps := pulls.flatMap AWSSQSConsumerBackend.pullMessages
    let reached := fun pre => (processBatch cfg messageAttributes instrumentation pre .init).2
    ((∀ pre, pre <+: steps → (reached pre).errorCount = (PullStep.deliveries pre).length) ↔
      PromptPulls cfg steps) ∧
    ((∀ pre, pre <+: steps → ∀ now, .inactivityReset now ∉ (reached pre).trace) ↔
      PromptPulls cfg steps) ∧
    fetchAndProcessMessages cfg messageAttributes instrumentation
      (pulls.map AWSSQSConsumerBackend.pullMessages) .init = (.ok (), reached steps) := by
  intro steps reached
  have hall : AllFail messageAttributes instrumentation steps := by
    refine allFail_pullMessages fun p hp => ?_
    obtain ⟨d, ds, hreceive, hfails⟩ := hpulls p hp
    exact ⟨d :: ds, hreceive, hfails⟩
  have hforward : PromptPulls cfg steps → ∀ pre, pre <+: steps → _ :=
    fun hprompt pre hpre => hall.remembers cfg hprompt hpre
  refine ⟨⟨hall.promptPulls cfg, fun h pre hpre => (hforward h pre hpre).1⟩,
    ⟨fun h => hall.promptPulls cfg fun pre hpre => ?_, fun h pre hpre => (hforward h pre hpre).2⟩,
    ?_⟩
  · exact hall.remembers_of_forall_not_reset cfg h hpre
  · obtain ⟨s, hrun, -⟩ := hall.run cfg
    rw [fetchAndProcessMessages_eq_processBatch, ← List.flatMap_def]
    simp only [reached]
    rw [hrun]

end Busy

/-! ## Sample runs -/

/-- The error counter is reset after 10 s. -/
def resettingSettings : ConsumerSettings := ⟨15000000, some 10000000⟩

/-- A pull at a time that returns a message at once, with a callback that takes 11 s and raises an
unexpected exception. -/
def busyPull (now : Time) : SqsPull String where
  receiveMessages := .ok [{ acceptedDelivery with
    receivedAt := now
    processMessage := .error (.new .valueError "callback")
    heartbeat := ⟨now + 11000000, .ok ()⟩ }]
  now := now
  heartbeat := ⟨now, .ok ()⟩

lemma busyPull_fails (now : Time) : ∃ d ds, (busyPull now).receiveMessages = .ok (d :: ds) ∧
    ∀ d' ∈ d :: ds, d'.Fails (fun _ => .ok ()) (.missing : Instrumentation Unit) := by
  refine ⟨_, [], rfl, fun d hd => ?_⟩
  rw [List.mem_singleton] at hd
  subst hd
  exact ⟨⟨(), rfl, trivial⟩, rfl, ⟨_, rfl, by decide⟩, rfl⟩

/-- The theorem at two pulls, when the period is longer than the callback takes: two errors. -/
theorem fetchAndProcessMessages_remembers_iff_sample :
    (processBatch ⟨15000000, some 12000000⟩ (fun _ => .ok ()) (.missing : Instrumentation Unit)
      ([busyPull 1700000000000000, busyPull 1700000011000000].flatMap
        AWSSQSConsumerBackend.pullMessages) .init).2.errorCount = 2 := by
  have hpulls : ∀ p ∈ [busyPull 1700000000000000, busyPull 1700000011000000],
      ∃ d ds, p.receiveMessages = .ok (d :: ds) ∧
        ∀ d' ∈ d :: ds, d'.Fails (fun _ => .ok ()) (.missing : Instrumentation Unit) := by
    intro p hp
    simp only [List.mem_cons, List.not_mem_nil, or_false] at hp
    rcases hp with rfl | rfl <;> exact busyPull_fails _
  refine ((fetchAndProcessMessages_remembers_iff ⟨15000000, some 12000000⟩ _ _ _ hpulls).1.mpr ?_) _
    (List.prefix_refl _)
  -- the second pull comes 11 s after the first message
  intro pre now hb post hsplit hne period hperiod
  obtain rfl := Option.some.inj hperiod
  match pre, hsplit with
  | [], _ => exact absurd rfl hne
  | [_], hsplit => simp [AWSSQSConsumerBackend.pullMessages, busyPull] at hsplit
  | [_, _], hsplit =>
    simp only [AWSSQSConsumerBackend.pullMessages, busyPull, List.flatMap_cons, List.map_cons,
      List.map_nil, List.cons_append, List.nil_append, List.cons.injEq,
      PullStep.housekeeping.injEq] at hsplit
    obtain ⟨rfl, rfl, ⟨rfl, -⟩, -⟩ := hsplit
    decide
  | [_, _, _], hsplit => simp [AWSSQSConsumerBackend.pullMessages, busyPull] at hsplit
  | _ :: _ :: _ :: _ :: _, hsplit => simp [AWSSQSConsumerBackend.pullMessages, busyPull] at hsplit

/-- Two pulls that return a message at once, 11 s of processing in between, and a period of 10 s:
the second pull resets the counter, and after two consecutive failures it is one. -/
theorem fetchAndProcessMessages_forgets :
    let pulls := [busyPull 1700000000000000, busyPull 1700000011000000]
    let s := (fetchAndProcessMessages resettingSettings (fun _ => .ok ())
      (.missing : Instrumentation Unit) (pulls.map AWSSQSConsumerBackend.pullMessages) .init).2
    (∀ p ∈ pulls, ∃ d ds, p.receiveMessages = .ok (d :: ds) ∧
      ∀ d' ∈ d :: ds, d'.Fails (fun _ => .ok ()) (.missing : Instrumentation Unit)) ∧
    (PullStep.deliveries (pulls.flatMap AWSSQSConsumerBackend.pullMessages)).length = 2 ∧
    s.errorCount = 1 ∧ .inactivityReset 1700000011000000 ∈ s.trace := by
  refine ⟨?_, rfl, by decide +kernel, ?_⟩
  · intro p hp
    simp only [List.mem_cons, List.not_mem_nil, or_false] at hp
    rcases hp with rfl | rfl <;> exact busyPull_fails _
  · rw [inactivityReset_mem_iff]
    decide +kernel

end Hedwig
