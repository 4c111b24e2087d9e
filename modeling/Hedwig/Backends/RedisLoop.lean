import Hedwig.Backends.RedisReleases
import Hedwig.Backends.Shutdown

set_option relaxedAutoImplicit false
set_option autoImplicit false

/-!
# The consumers of the Redis system as loops

`RedisStreamsConsumerBackend.pull_messages` is modelled twice: as a backend of the consumer loop,
whose generator is asked for its next move, and as the tasks of a consumer in the system of all
processes on the streams.  This file shows that they are one program: wherever a consumer of the
system can be, the loop over the generator can be, too.

## Main definitions

* `Hedwig.RedisConsumer.Corresponds` — a phase of a consumer and a phase of the loop.
* `Hedwig.RedisConsumer.RunsLoop` — some run of the loop leads to where the consumer is.

## Main results

* `Hedwig.RedisSystem.runsLoop_run` — every consumer in every run of the system runs the loop.
* `Hedwig.RedisSystem.exists_fetchAndProcessMessages` — the state of its loop is the one that
  `fetchAndProcessMessages` has after some steps of `pull_messages`.
-/

namespace Hedwig

/-- The task in which the generator makes a call. -/
def DequeueCall.pullTask : DequeueCall → PullTask
  | .xautoclaim stream => .xautoclaim stream
  | _ => .xreadgroup

/-- The tasks of a generator with these messages and calls. -/
def RedisPull.tasks (inspecting : List Copy) (calls : List DequeueCall) : List PullTask :=
  inspecting.map .inspect ++ calls.map DequeueCall.pullTask

namespace RedisPull

variable {inspecting : List Copy} {calls : List DequeueCall} {task : PullTask}
  {rest : List PullTask}

/-- A call is the next task if there are no messages. -/
lemma tasks_eq_cons (h : tasks inspecting calls = task :: rest) (htask : task.copy? = none) :
    inspecting = [] ∧ ∃ call calls', calls = call :: calls' ∧ rest = tasks [] calls' := by
  cases inspecting with
  | cons c inspecting =>
    obtain rfl := (List.cons.inj h).1
    cases htask
  | nil =>
    cases calls with
    | nil => cases h
    | cons call calls => exact ⟨rfl, call, calls, rfl, (List.cons.inj h).2.symm⟩

/-- A message is the next task if it is the first one. -/
lemma tasks_eq_cons_inspect {c : Copy} (h : tasks inspecting calls = .inspect c :: rest) :
    ∃ inspecting', inspecting = c :: inspecting' ∧ rest = tasks inspecting' calls := by
  cases inspecting with
  | cons c' inspecting =>
    obtain ⟨hc, rfl⟩ := List.cons.inj h
    obtain rfl := PullTask.inspect.inj hc
    exact ⟨inspecting, rfl, rfl⟩
  | nil =>
    cases calls with
    | nil => cases h
    | cons call calls => cases call <;> cases (List.cons.inj h).1

/-- There are no tasks without messages and calls. -/
lemma tasks_eq_nil (h : tasks inspecting calls = []) : inspecting = [] ∧ calls = [] := by
  obtain ⟨hinspecting, hcalls⟩ := List.append_eq_nil_iff.mp h
  exact ⟨List.map_eq_nil_iff.mp hinspecting, List.map_eq_nil_iff.mp hcalls⟩

/-- The tasks at the start of a pull. -/
lemma tasks_start (ks : List String) :
    tasks [] (ks.map .xautoclaim ++ [.xreadgroup]) = ks.map .xautoclaim ++ [.xreadgroup] := by
  simp [tasks, DequeueCall.pullTask, Function.comp_def]

end RedisPull

namespace RedisConsumer

/-- The loop over the generator of a consumer. -/
abbrev Loop := PullLoop RedisPull Copy StreamMessage

/-- A phase of a consumer, and the phase of the loop there.  A message that is going to be moved to
the dead-letter stream is still to be looked at by the generator, which looks up the counter and
moves the message at once. -/
inductive Corresponds : ConsumerPhase → LoopPhase RedisPull Copy StreamMessage → Prop
  | idle : Corresponds .idle .head
  | pulling {tasks : List PullTask} {inspecting : List Copy} {calls : List DequeueCall}
      (htasks : tasks = RedisPull.tasks inspecting calls) :
      Corresponds (.pulling tasks) (.pulling ⟨.running, inspecting, calls⟩)
  | deadLettering {c : Copy} {rest : List PullTask} {inspecting : List Copy}
      {calls : List DequeueCall} (hrest : rest = RedisPull.tasks inspecting calls) :
      Corresponds (.deadLettering c rest) (.pulling ⟨.running, c :: inspecting, calls⟩)
  | processing {c : Copy} {timesDelivered : ℕ} {rest : List PullTask} {inspecting : List Copy}
      {calls : List DequeueCall} (hrest : rest = RedisPull.tasks inspecting calls) :
      Corresponds (.processing c timesDelivered rest)
        (.processing c (c.message timesDelivered) ⟨.running, inspecting, calls⟩)
  | raising {e : PyException} {inspecting : List Copy} {calls : List DequeueCall} :
      Corresponds (.raising e) (.pulling ⟨.closing (some e), inspecting, calls⟩)
  | raised {e : PyException} : Corresponds (.raised e) (.raised e)
  /-- The loop of a crashed consumer has stopped anywhere. -/
  | crashed {phase : LoopPhase RedisPull Copy StreamMessage} : Corresponds .crashed phase

section

variable (cfg : RedisSettings) (dlq : Bool)

/-- One action of the loop. -/
def loopStep : Loop → LoopAction Copy StreamMessage Empty → Loop :=
  PullLoop.step (RedisStreamsConsumerBackend.backend cfg dlq none) cfg.consumer streamAttributes
    cfg.instrumentation

/-- A run of the loop from the call on. -/
def loopRun (actions : List (LoopAction Copy StreamMessage Empty)) : Loop :=
  PullLoop.run (RedisStreamsConsumerBackend.backend cfg dlq none) cfg.consumer streamAttributes
    cfg.instrumentation actions

/-- The next move of the loop, with a reply, a counter, and the answers for the housekeeping. -/
def advance (reply : List Copy) (timesDelivered : Option ℕ) (now : Time)
    (heartbeat : HeartbeatCall) : LoopAction Copy StreamMessage Empty :=
  .advance ⟨.ok reply, timesDelivered, now, heartbeat⟩

/-- The next move of the loop outside the housekeeping. -/
def goOn (reply : List Copy) (timesDelivered : Option ℕ) : LoopAction Copy StreamMessage Empty :=
  advance reply timesDelivered 0 ⟨0, .ok ()⟩

end

/-- A state of the loop where the consumer is; the shutdown event is not set. -/
structure IsAt (c : RedisConsumer) (s : Loop) : Prop where
  shutdown : s.shutdown = false
  consumer : s.consumer = c.loop
  phase : Corresponds c.phase s.phase

/-- Some run of the loop leads to where the consumer is. -/
def RunsLoop (cfg : RedisSettings) (c : RedisConsumer) : Prop :=
  ∃ actions, c.IsAt (loopRun cfg c.dlq actions)

variable {cfg : RedisSettings} {dlq : Bool} {n : ℕ} {loop loop' : ConsumerState StreamMessage}
  {phase phase' : ConsumerPhase} {c : Copy} {timesDelivered : ℕ} {rest : List PullTask}

/-- A consumer that has just been started is where the loop starts. -/
lemma runsLoop_start : RunsLoop cfg ⟨dlq, n, .init, .idle⟩ := ⟨[], rfl, rfl, .idle⟩

/-- **A step of the simulation**: if from every state of the loop where the consumer is, some
actions lead to where it is afterwards, then it runs the loop. -/
lemma RunsLoop.step (h : RunsLoop cfg ⟨dlq, n, loop, phase⟩)
    (hstep : ∀ s, IsAt ⟨dlq, n, loop, phase⟩ s → ∃ actions : List (LoopAction Copy StreamMessage
      Empty), IsAt ⟨dlq, n, loop', phase'⟩ (actions.foldl (loopStep cfg dlq) s)) :
    RunsLoop cfg ⟨dlq, n, loop', phase'⟩ := by
  obtain ⟨actions, hat⟩ := h
  obtain ⟨more, hmore⟩ := hstep _ hat
  refine ⟨actions ++ more, ?_⟩
  have hrun : loopRun cfg dlq (actions ++ more) =
      more.foldl (loopStep cfg dlq) (loopRun cfg dlq actions) := List.foldl_append ..
  rw [hrun]
  exact hmore

/-- The test of the `while` loop, and the call of `pull_messages`. -/
lemma RunsLoop.pullMessages (h : RunsLoop cfg ⟨dlq, n, loop, .idle⟩) :
    RunsLoop cfg ⟨dlq, n, loop, .pulling ((cfg.streams dlq).map .xautoclaim ++ [.xreadgroup])⟩ := by
  refine h.step ?_
  rintro ⟨phase, shutdown, consumer, _, _, _, _⟩ ⟨hshutdown, hconsumer, hphase⟩
  obtain rfl : shutdown = false := hshutdown
  cases hphase
  exact ⟨[goOn [] none], rfl, hconsumer, .pulling (RedisPull.tasks_start _).symm⟩

/-- A de-queue call, whose messages are looked at next. -/
lemma RunsLoop.fetch {task : PullTask} (received : List Copy) (htask : task.copy? = none)
    (h : RunsLoop cfg ⟨dlq, n, loop, .pulling (task :: rest)⟩) :
    RunsLoop cfg ⟨dlq, n, loop, .pulling (received.map .inspect ++ rest)⟩ := by
  refine h.step ?_
  rintro ⟨phase, shutdown, consumer, _, _, _, _⟩ ⟨hshutdown, hconsumer, hphase⟩
  cases hphase with
  | pulling htasks =>
    obtain ⟨rfl, call, calls, rfl, rfl⟩ := RedisPull.tasks_eq_cons htasks.symm htask
    exact ⟨[goOn received none], hshutdown, hconsumer, .pulling rfl⟩

/-- The entry is not pending. -/
lemma RunsLoop.fail (h : RunsLoop cfg ⟨dlq, n, loop, .pulling (.inspect c :: rest)⟩) :
    RunsLoop cfg ⟨dlq, n, loop, .raising (.new .indexError "list index out of range")⟩ := by
  refine h.step ?_
  rintro ⟨phase, shutdown, consumer, _, _, _, _⟩ ⟨hshutdown, hconsumer, hphase⟩
  cases hphase with
  | pulling htasks =>
    obtain ⟨inspecting, rfl, rfl⟩ := RedisPull.tasks_eq_cons_inspect htasks.symm
    exact ⟨[goOn [] none], hshutdown, hconsumer, .raising⟩

/-- The counter of the entry is too high: the generator has not gone on yet. -/
lemma RunsLoop.condemn (h : RunsLoop cfg ⟨dlq, n, loop, .pulling (.inspect c :: rest)⟩) :
    RunsLoop cfg ⟨dlq, n, loop, .deadLettering c rest⟩ := by
  refine h.step ?_
  rintro ⟨phase, shutdown, consumer, _, _, _, _⟩ ⟨hshutdown, hconsumer, hphase⟩
  cases hphase with
  | pulling htasks =>
    obtain ⟨inspecting, rfl, rfl⟩ := RedisPull.tasks_eq_cons_inspect htasks.symm
    exact ⟨[], hshutdown, hconsumer, .deadLettering rfl⟩

/-- The message is yielded. -/
lemma RunsLoop.yield (h : RunsLoop cfg ⟨dlq, n, loop, .pulling (.inspect c :: rest)⟩)
    (hle : ¬ timesDelivered > cfg.hedwigMaxDeliveryAttempts) :
    RunsLoop cfg ⟨dlq, n, loop, .processing c timesDelivered rest⟩ := by
  refine h.step ?_
  rintro ⟨phase, shutdown, consumer, _, _, _, _⟩ ⟨hshutdown, hconsumer, hphase⟩
  cases hphase with
  | @pulling _ _ calls htasks =>
    obtain ⟨inspecting, rfl, rfl⟩ := RedisPull.tasks_eq_cons_inspect htasks.symm
    have hnext : RedisPull.next cfg ⟨.running, c :: inspecting, calls⟩ shutdown
        ⟨.ok [], some timesDelivered, 0, ⟨0, .ok ()⟩⟩ =
      .yield c (c.message timesDelivered) ⟨.running, inspecting, calls⟩ := if_neg hle
    refine ⟨[goOn [] (some timesDelivered)], ?_⟩
    simp only [List.foldl_cons, List.foldl_nil, loopStep, PullLoop.step, PullLoop.advance, goOn,
      advance, RedisStreamsConsumerBackend.backend, hnext]
    exact ⟨hshutdown, hconsumer, .processing rfl⟩

/-- The message is moved to the dead-letter stream. -/
lemma RunsLoop.deadLetter (h : RunsLoop cfg ⟨dlq, n, loop, .deadLettering c rest⟩) :
    RunsLoop cfg ⟨dlq, n, loop, .pulling rest⟩ := by
  refine h.step ?_
  rintro ⟨phase, shutdown, consumer, _, _, _, _⟩ ⟨hshutdown, hconsumer, hphase⟩
  cases hphase with
  | @deadLettering _ _ inspecting calls hrest =>
    have hnext : RedisPull.next cfg ⟨.running, c :: inspecting, calls⟩ shutdown
        ⟨.ok [], some (cfg.hedwigMaxDeliveryAttempts + 1), 0, ⟨0, .ok ()⟩⟩ =
      .moveAway c ⟨.running, inspecting, calls⟩ := if_pos (Nat.lt_succ_self _)
    refine ⟨[goOn [] (some (cfg.hedwigMaxDeliveryAttempts + 1))], ?_⟩
    simp only [List.foldl_cons, List.foldl_nil, loopStep, PullLoop.step, PullLoop.advance, goOn,
      advance, RedisStreamsConsumerBackend.backend, hnext]
    exact ⟨hshutdown, hconsumer, .pulling hrest⟩

/-- The body of the `for` loop. -/
lemma RunsLoop.settle (h : RunsLoop cfg ⟨dlq, n, loop, .processing c timesDelivered rest⟩)
    (d : Delivery StreamMessage) (hmessage : d.message = c.message timesDelivered) :
    let r := pullStep cfg.consumer streamAttributes cfg.instrumentation (.yield d) loop
    RunsLoop cfg ⟨dlq, n, r.2, match r.1 with
      | .ok () => .pulling rest
      | .error e => .raised e⟩ := by
  intro r
  refine h.step ?_
  rintro ⟨phase, shutdown, consumer, _, _, _, _⟩ ⟨hshutdown, hconsumer, hphase⟩
  obtain rfl : consumer = loop := hconsumer
  cases hphase with
  | processing hrest =>
    have hd : { d with message := c.message timesDelivered } = d := by rw [← hmessage]
    refine ⟨[.settle d], ?_⟩
    simp only [List.foldl_cons, List.foldl_nil, loopStep, PullLoop.step, PullLoop.settle, hd]
    refine ⟨hshutdown, rfl, ?_⟩
    show Corresponds (match r.1 with | .ok () => _ | .error e => _)
      (match r.1 with | .ok () => _ | .error e => _)
    cases r.1 with
    | ok u => exact .pulling hrest
    | error e => exact .raised

/-- The `finally` clause at its end. -/
lemma RunsLoop.finishPull (h : RunsLoop cfg ⟨dlq, n, loop, .pulling []⟩) (now : Time)
    (heartbeat : HeartbeatCall) :
    RunsLoop cfg ⟨dlq, n, (pullStep cfg.consumer streamAttributes cfg.instrumentation
      (.housekeeping now heartbeat) loop).2, .idle⟩ := by
  refine h.step ?_
  rintro ⟨phase, shutdown, consumer, _, _, _, _⟩ ⟨hshutdown, hconsumer, hphase⟩
  obtain rfl : consumer = loop := hconsumer
  cases hphase with
  | pulling htasks =>
    obtain ⟨rfl, rfl⟩ := RedisPull.tasks_eq_nil htasks.symm
    exact ⟨[goOn [] none, advance [] none now heartbeat, goOn [] none], hshutdown, rfl, .idle⟩

/-- The `finally` clause after an exception. -/
lemma RunsLoop.finishRaising {e : PyException} (h : RunsLoop cfg ⟨dlq, n, loop, .raising e⟩)
    (now : Time) (heartbeat : HeartbeatCall) :
    RunsLoop cfg ⟨dlq, n, (pullStep cfg.consumer streamAttributes cfg.instrumentation
      (.housekeeping now heartbeat) loop).2, .raised e⟩ := by
  refine h.step ?_
  rintro ⟨phase, shutdown, consumer, _, _, _, _⟩ ⟨hshutdown, hconsumer, hphase⟩
  obtain rfl : consumer = loop := hconsumer
  cases hphase
  exact ⟨[advance [] none now heartbeat, goOn [] none], hshutdown, rfl, .raised⟩

/-- The process stops. -/
lemma RunsLoop.crash (h : RunsLoop cfg ⟨dlq, n, loop, phase⟩) :
    RunsLoop cfg ⟨dlq, n, loop, .crashed⟩ :=
  h.step fun _ hat => ⟨[], hat.shutdown, hat.consumer, .crashed⟩

end RedisConsumer

namespace RedisSystem

open RedisConsumer

variable {cfg : RedisSettings} {s : RedisSystem} {p : ℕ}

/-- The process that goes on is the one that was set. -/
lemma consumer_of_setProcess {c c' : RedisConsumer}
    (h : (s.setProcess p (.consumer c')).processes p = .consumer c) : c' = c :=
  Process.consumer.inj (setProcess_self.symm.trans h)

/-- A consumer that runs the loop runs it after any action, too: by the branches of the code. -/
lemma runsLoop_step (h : ∀ c, s.processes p = .consumer c → c.RunsLoop cfg) (a : RedisAction)
    {c : RedisConsumer} (hc : (step cfg s a).processes p = .consumer c) : c.RunsLoop cfg := by
  by_cases hp : a.process = some p
  swap
  · exact h c ((processes_step_of_ne hp).symm.trans hc)
  cases a with
  | publish topic payload => cases hp
  | pullMessages p =>
    obtain rfl := Option.some.inj hp
    simp only [step, stepPullMessages] at hc
    split at hc
    · rename_i hq
      obtain rfl := consumer_of_setProcess hc
      exact (h _ hq).pullMessages
    · exact h c hc
  | xautoclaim p idle =>
    obtain rfl := Option.some.inj hp
    simp only [step, stepXautoclaim] at hc
    split at hc
    · rename_i hq
      obtain rfl := consumer_of_setProcess hc
      exact (h _ hq).fetch _ rfl
    · exact h c hc
  | xreadgroup p =>
    obtain rfl := Option.some.inj hp
    simp only [step, stepXreadgroup] at hc
    split at hc
    · rename_i hq
      obtain rfl := consumer_of_setProcess hc
      exact (h _ hq).fetch _ rfl
    · exact h c hc
  | xpending p =>
    obtain rfl := Option.some.inj hp
    simp only [step, stepXpending] at hc
    split at hc
    · rename_i hq
      split at hc
      · obtain rfl := consumer_of_setProcess hc
        exact (h _ hq).fail
      · rename_i timesDelivered _
        split_ifs at hc with hgt
        · obtain rfl := consumer_of_setProcess hc
          exact (h _ hq).condemn
        · obtain rfl := consumer_of_setProcess hc
          exact (h _ hq).yield hgt
    · exact h c hc
  | deadLetter p =>
    obtain rfl := Option.some.inj hp
    simp only [step, stepDeadLetter] at hc
    split at hc
    · rename_i hq
      obtain rfl := consumer_of_setProcess hc
      exact (h _ hq).deadLetter
    · exact h c hc
  | settle p d =>
    obtain rfl := Option.some.inj hp
    simp only [step, stepSettle] at hc
    split at hc
    · rename_i hq
      have hsettle := (h _ hq).settle
      split_ifs at hc
      · obtain rfl := consumer_of_setProcess hc
        exact hsettle _ rfl
      · obtain rfl := consumer_of_setProcess hc
        exact hsettle _ rfl
    · exact h c hc
  | finishPull p now heartbeat =>
    obtain rfl := Option.some.inj hp
    simp only [step, stepFinishPull] at hc
    split at hc
    · rename_i hq
      obtain rfl := consumer_of_setProcess hc
      exact (h _ hq).finishPull now heartbeat
    · rename_i hq
      obtain rfl := consumer_of_setProcess hc
      exact (h _ hq).finishRaising now heartbeat
    · exact h c hc
  | extendVisibilityTimeout p k id =>
    obtain rfl := Option.some.inj hp
    simp only [step, stepExtendVisibilityTimeout] at hc
    split at hc <;> exact h c hc
  | requeueFetch p =>
    obtain rfl := Option.some.inj hp
    simp only [step, stepRequeueFetch] at hc
    split at hc
    · cases setProcess_self.symm.trans hc
    · cases setProcess_self.symm.trans hc
    · exact h c hc
  | requeueMessages p =>
    obtain rfl := Option.some.inj hp
    simp only [step, stepRequeueMessages] at hc
    split at hc
    · cases setProcess_self.symm.trans hc
    · exact h c hc
  | crash p =>
    obtain rfl := Option.some.inj hp
    simp only [step, stepCrash] at hc
    split at hc
    · rename_i hq
      obtain rfl := consumer_of_setProcess hc
      exact (h _ hq).crash
    · cases setProcess_self.symm.trans hc

/-- **The consumers of the system run the loop.**  Where a consumer is in a run of the system, some
run of the loop over its generator leads.

**Proof sketch.**  By induction on the run.  An action of another process leaves the consumer where
it is.  Its own action is the one or the few moves of the generator that the branch stands for, with
the reply and the counter that the streams gave; the move of a message to the dead-letter stream is
one of the generator, and two actions of the system. -/
theorem runsLoop_run (cfg : RedisSettings) (role : ℕ → Role) (actions : List RedisAction) {p : ℕ}
    {c : RedisConsumer} (hc : (run cfg role actions).processes p = .consumer c) :
    c.RunsLoop cfg := by
  refine List.foldlRecOn (motive := fun s : RedisSystem => ∀ c, s.processes p = .consumer c →
    c.RunsLoop cfg) actions _ (fun c hc => ?_) (fun s hs a _ c hc => runsLoop_step hs a hc) c hc
  have hstart : (role p).start = .consumer c := hc
  cases hrole : role p with
  | consumer dlq n =>
    rw [hrole] at hstart
    obtain rfl := Process.consumer.inj hstart
    exact runsLoop_start
  | requeue n =>
    rw [hrole] at hstart
    cases hstart

/-- The state of the loop of a consumer is that of `fetchAndProcessMessages` after the steps that it
has seen of `pull_messages`, and an exception that has ended the loop is raised by it. -/
theorem exists_fetchAndProcessMessages (cfg : RedisSettings) (role : ℕ → Role)
    (actions : List RedisAction) {p : ℕ} {c : RedisConsumer}
    (hc : (run cfg role actions).processes p = .consumer c) :
    ∃ steps outcome, fetchAndProcessMessages cfg.consumer streamAttributes cfg.instrumentation
        [steps] .init = (outcome, c.loop) ∧
      ∀ e, c.phase = .raised e → outcome = .error e := by
  obtain ⟨loopActions, -, hconsumer, hphase⟩ := runsLoop_run cfg role actions hc
  have hsteps := PullLoop.run_steps (RedisStreamsConsumerBackend.backend cfg c.dlq none)
    cfg.consumer streamAttributes cfg.instrumentation loopActions
  refine ⟨_, _, hsteps.trans (Prod.ext rfl hconsumer), fun e he => ?_⟩
  rw [he] at hphase
  change (loopRun cfg c.dlq loopActions).outcome = .error e
  generalize loopRun cfg c.dlq loopActions = s at hphase
  obtain ⟨phase, _, _, _, _, _, _⟩ := s
  cases hphase
  rfl

end RedisSystem

end Hedwig
