import Hedwig.Backends.PullLoop

set_option relaxedAutoImplicit false
set_option autoImplicit false

/-!
# Pulling from Pub/Sub

`GooglePubSubConsumerBackend.pull_messages` with the schedulers that it hands to the streaming
pulls.  The threads of the streaming pulls put messages into the work queue at any moment, also when
their futures have been cancelled, while the generator takes messages out: with a timeout until
`shutdown_event` is found set, then without waiting until the queue is found empty.

## Main definitions

* `Hedwig.MessageWrapper`, `Hedwig.PubSubMessageScheduler`, `Hedwig.PubSubPull` — the generator.
* `Hedwig.PubSubPull.next`, `Hedwig.PubSubPull.schedule` — its moves, and those of the threads.
* `Hedwig.PubSubSystem`, `Hedwig.PubSubSystem.run` — generator and threads interleaved.
* `Hedwig.Wraps` — a wrapped message comes from a call of a scheduler.

## Main results

* `Hedwig.pullMessages_handsOver` — what was scheduled before the final empty check is yielded, in
  order and once, and nothing else is.

## Design

The work queue is a list: `put` adds to its end and `get` takes its head, each in one step.  A `get`
with a timeout raises `Empty` only when the queue is empty at the time.  A scheduler is identified
by its position among those that `pull_messages` has created.
-/

namespace Hedwig

/-- A message with the path of the subscription it was pulled from; `σ` are the messages of the
client. -/
structure MessageWrapper (σ : Type) where
  message : σ
  subscriptionPath : String
  deriving DecidableEq

/-- A scheduler; its work queue is that of the pull. -/
structure PubSubMessageScheduler where
  subscriptionPath : String

/-- `schedule`, as the element that it puts into the work queue. -/
def PubSubMessageScheduler.schedule {σ : Type} (scheduler : PubSubMessageScheduler) (message : σ) :
    MessageWrapper σ := ⟨message, scheduler.subscriptionPath⟩

/-- Where `pull_messages` is. -/
inductive PubSubPhase
  /-- In the loop over the subscription paths. -/
  | subscribing (subscriptionPaths : List String)
  /-- At the test of the `while` loop. -/
  | testing
  /-- Before `work_queue.get(timeout=1)`. -/
  | getting
  /-- In the handler of `Empty` in the `while` loop. -/
  | idle
  /-- In the loop that cancels the futures. -/
  | cancelling (futures : ℕ)
  /-- Before `work_queue.get(block=False)`. -/
  | draining
  /-- In the last handler of `Empty`. -/
  | closing
  | closed
  /-- An exception goes on, before these subscription paths were reached. -/
  | failed (e : PyException) (subscriptionPaths : List String)

/-- The generator: where it is, the schedulers created, and the work queue. -/
structure PubSubPull (σ : Type) where
  phase : PubSubPhase
  schedulers : List PubSubMessageScheduler
  workQueue : List (MessageWrapper σ)

namespace PubSubPull

variable {σ : Type}

/-- The generator before its first statement, the assertion that there are subscriptions. -/
def start (subscriptionPaths : List String) : PubSubPull σ where
  phase := if subscriptionPaths.isEmpty then
      .failed (.new .assertionError
        "no subscriptions path: ensure HEDWIG_SUBSCRIPTIONS is set") []
    else .subscribing subscriptionPaths
  schedulers := []
  workQueue := []

/-- The generator goes on elsewhere. -/
def goTo (g : PubSubPull σ) (phase : PubSubPhase) : PubSubPull σ := { g with phase := phase }

/-- The next move of `pull_messages`. -/
def next (g : PubSubPull σ) (shutdown : Bool) (answer : PullAnswer (MessageWrapper σ)) :
    PullMove (PubSubPull σ) (MessageWrapper σ) (MessageWrapper σ) :=
  match g.phase with
  | .subscribing (path :: rest) =>
    let g := { g with schedulers := g.schedulers ++ [PubSubMessageScheduler.mk path] }
    match answer.reply with
    | .ok _ => .dequeue (.subscribe path) [] (g.goTo (.subscribing rest))
    | .error e => .dequeue (.subscribe path) [] (g.goTo (.failed e rest))
  | .subscribing [] => .goOn (g.goTo .testing)
  | .testing =>
    -- there is a future for every scheduler
    if shutdown then .goOn (g.goTo (.cancelling g.schedulers.length)) else .goOn (g.goTo .getting)
  | .getting =>
    match g.workQueue with
    | message :: queue =>
      .yield message message { g with phase := .testing, workQueue := queue }
    | [] => .goOn (g.goTo .idle)
  | .idle => .housekeeping answer.now answer.heartbeat (g.goTo .testing)
  | .cancelling (n + 1) => .goOn (g.goTo (.cancelling n))
  | .cancelling 0 => .goOn (g.goTo .draining)
  | .draining =>
    match g.workQueue with
    | message :: queue => .yield message message { g with workQueue := queue }
    | [] => .goOn (g.goTo .closing)
  | .closing => .housekeeping answer.now answer.heartbeat (g.goTo .closed)
  | .closed => .finish
  | .failed e _ => .raises e

/-- A thread calls `schedule` of a scheduler, if it has been created. -/
def schedule (g : PubSubPull σ) (scheduler : ℕ) (message : σ) : PubSubPull σ :=
  match g.schedulers[scheduler]? with
  | some s => { g with workQueue := g.workQueue ++ [s.schedule message] }
  | none => g

/-- The next move is the final empty check, and finds the queue empty. -/
def findsEmpty (g : PubSubPull σ) : Bool :=
  match g.phase with
  | .draining => g.workQueue.isEmpty
  | _ => false

end PubSubPull

/-! ## Generator and threads -/

/-- What is recorded of a run. -/
inductive PubSubEvent (σ : Type)
  /-- A call of `schedule` of a scheduler. -/
  | scheduled (scheduler : ℕ) (message : σ)
  | yielded (message : MessageWrapper σ)
  /-- The final empty check has found the queue empty. -/
  | emptied

/-- The generator, the event, and what has happened so far. -/
structure PubSubSystem (σ : Type) where
  pull : PubSubPull σ
  shutdown : Bool
  history : List (PubSubEvent σ)

/-- What can happen next: the generator goes on, a thread schedules a message, or the event is
set. -/
inductive PubSubAction (σ : Type)
  | resume (answer : PullAnswer (MessageWrapper σ))
  | schedule (scheduler : ℕ) (message : σ)
  | setShutdown

namespace PubSubSystem

variable {σ : Type}

/-- The generator goes on. -/
def resume (answer : PullAnswer (MessageWrapper σ)) (s : PubSubSystem σ) : PubSubSystem σ :=
  match s.pull.next s.shutdown answer with
  | .yield _ message g => { s with pull := g, history := s.history ++ [.yielded message] }
  | .goOn g =>
    { s with
      pull := g
      history := if s.pull.findsEmpty then s.history ++ [.emptied] else s.history }
  | .dequeue _ _ g | .housekeeping _ _ g | .moveAway _ g => { s with pull := g }
  | .finish | .raises _ => s

/-- One action.  A scheduler that does not exist cannot be called. -/
def step (s : PubSubSystem σ) : PubSubAction σ → PubSubSystem σ
  | .resume answer => s.resume answer
  | .schedule k message =>
    { s with
      pull := s.pull.schedule k message
      history := if k < s.pull.schedulers.length then s.history ++ [.scheduled k message]
        else s.history }
  | .setShutdown => { s with shutdown := true }

/-- A run of the generator from its first statement on. -/
def run (subscriptionPaths : List String) (actions : List (PubSubAction σ)) : PubSubSystem σ :=
  actions.foldl step ⟨.start subscriptionPaths, false, []⟩

end PubSubSystem

section Events

variable {σ : Type}

/-- The calls of schedulers, in order. -/
def scheduledCalls (history : List (PubSubEvent σ)) : List (ℕ × σ) :=
  history.filterMap fun
    | .scheduled k message => some (k, message)
    | _ => none

/-- The messages yielded, in order. -/
def yieldedMessages (history : List (PubSubEvent σ)) : List (MessageWrapper σ) :=
  history.filterMap fun
    | .yielded message => some message
    | _ => none

/-- The wrapped message is the one that was scheduled, with the path of the scheduler that received
it: scheduler `k` was created for the `k`-th subscription. -/
def Wraps (subscriptionPaths : List String) (call : ℕ × σ) (wrapper : MessageWrapper σ) : Prop :=
  subscriptionPaths[call.1]? = some wrapper.subscriptionPath ∧ wrapper.message = call.2

end Events

/-! ## Nothing is lost, duplicated or added -/

namespace PubSubSystem

variable {σ : Type} {subscriptionPaths : List String}

/-- The subscription paths for which there is no scheduler yet. -/
def unsubscribed (s : PubSubSystem σ) : List String :=
  match s.pull.phase with
  | .subscribing rest | .failed _ rest => rest
  | _ => []

/-- The final empty check has been made: what was scheduled before it has been yielded, and nothing
after it. -/
def Emptied (subscriptionPaths : List String) (history : List (PubSubEvent σ)) : Prop :=
  ∃ before after, history = before ++ .emptied :: after ∧ .emptied ∉ before ∧ .emptied ∉ after ∧
    yieldedMessages after = [] ∧
    List.Forall₂ (Wraps subscriptionPaths) (scheduledCalls before) (yieldedMessages before)

/-- The invariant: schedulers are created for the subscriptions in order; the messages yielded and
those in the work queue are the ones scheduled; and the end of the generator comes after the final
empty check. -/
structure Sound (subscriptionPaths : List String) (s : PubSubSystem σ) : Prop where
  schedulers : s.pull.schedulers.map PubSubMessageScheduler.subscriptionPath ++ s.unsubscribed =
    subscriptionPaths
  handed : List.Forall₂ (Wraps subscriptionPaths) (scheduledCalls s.history)
    (yieldedMessages s.history ++ s.pull.workQueue)
  emptied : match s.pull.phase with
    | .closing | .closed => Emptied subscriptionPaths s.history
    | _ => .emptied ∉ s.history

lemma sound_start (subscriptionPaths : List String) :
    Sound subscriptionPaths (⟨.start subscriptionPaths, false, []⟩ : PubSubSystem σ) := by
  refine ⟨?_, .nil, ?_⟩
  · cases subscriptionPaths <;> rfl
  · cases subscriptionPaths <;> exact List.not_mem_nil

/-- A call of a scheduler. -/
lemma Sound.schedule {s : PubSubSystem σ} (hs : s.Sound subscriptionPaths) (k : ℕ) (message : σ) :
    (s.step (.schedule k message)).Sound subscriptionPaths := by
  obtain ⟨⟨phase, schedulers, workQueue⟩, shutdown, history⟩ := s
  obtain ⟨hschedulers, hhanded, hemptied⟩ := hs
  by_cases hk : k < schedulers.length
  · have hget : schedulers[k]? = some schedulers[k] := List.getElem?_eq_getElem hk
    have hpath : subscriptionPaths[k]? = some schedulers[k].subscriptionPath := by
      rw [← hschedulers, List.getElem?_append_left (by simpa using hk)]
      simp [hget]
    simp only [step, PubSubPull.schedule, hget, if_pos hk]
    refine ⟨hschedulers, ?_, ?_⟩
    · have hcalls : scheduledCalls (history ++ [.scheduled k message]) =
          scheduledCalls history ++ [(k, message)] := List.filterMap_append
      have hyielded : yieldedMessages (history ++ [.scheduled k message]) =
          yieldedMessages history := by simp [yieldedMessages]
      dsimp only
      rw [hcalls, hyielded, ← List.append_assoc]
      exact List.rel_append hhanded (.cons ⟨hpath, rfl⟩ .nil)
    · have hfinal : Emptied subscriptionPaths history →
          Emptied subscriptionPaths (history ++ [.scheduled k message]) := by
        rintro ⟨before, after, rfl, hbefore, hafter, hnone, hall⟩
        refine ⟨before, after ++ [.scheduled k message], by simp, hbefore, by simpa using hafter,
          ?_, hall⟩
        simpa [yieldedMessages] using hnone
      cases phase <;> first | exact hfinal hemptied | simpa using hemptied
  · have hget : schedulers[k]? = none := List.getElem?_eq_none (Nat.not_lt.mp hk)
    simp only [step, PubSubPull.schedule, hget, if_neg hk]
    exact ⟨hschedulers, hhanded, hemptied⟩

/-- The head of the work queue is yielded. -/
lemma forall₂_wraps_yielded {history : List (PubSubEvent σ)} {message : MessageWrapper σ}
    {queue : List (MessageWrapper σ)}
    (h : List.Forall₂ (Wraps subscriptionPaths) (scheduledCalls history)
      (yieldedMessages history ++ message :: queue)) :
    List.Forall₂ (Wraps subscriptionPaths) (scheduledCalls (history ++ [.yielded message]))
      (yieldedMessages (history ++ [.yielded message]) ++ queue) := by
  have hcalls : scheduledCalls (history ++ [.yielded message]) = scheduledCalls history := by
    simp [scheduledCalls]
  have hyielded : yieldedMessages (history ++ [.yielded message]) =
      yieldedMessages history ++ [message] := List.filterMap_append
  rw [hyielded, hcalls, List.append_assoc]
  exact h

/-- That is not the final empty check. -/
lemma emptied_notMem_yielded {history : List (PubSubEvent σ)} {message : MessageWrapper σ}
    (h : .emptied ∉ history) : .emptied ∉ history ++ [.yielded message] := by
  simpa using h

/-- **A move of the generator**, by where it is.  The first `get` and the last ones take the head of
the queue, and the final empty check finds that everything scheduled has been yielded. -/
lemma Sound.resume {s : PubSubSystem σ} (hs : s.Sound subscriptionPaths)
    (answer : PullAnswer (MessageWrapper σ)) : (s.resume answer).Sound subscriptionPaths := by
  obtain ⟨⟨phase, schedulers, workQueue⟩, shutdown, history⟩ := s
  obtain ⟨hschedulers, hhanded, hemptied⟩ := hs
  cases phase with
  | subscribing paths =>
    cases paths with
    | nil => exact ⟨hschedulers, hhanded, hemptied⟩
    | cons path rest =>
      have hrest : (schedulers ++ [PubSubMessageScheduler.mk path]).map
          PubSubMessageScheduler.subscriptionPath ++ rest = subscriptionPaths := by
        rw [List.map_append, List.append_assoc]
        exact hschedulers
      simp only [PubSubSystem.resume, PubSubPull.next]
      cases answer.reply with
      | ok _ => exact ⟨hrest, hhanded, hemptied⟩
      | error e => exact ⟨hrest, hhanded, hemptied⟩
  | testing =>
    cases shutdown with
    | true => exact ⟨hschedulers, hhanded, hemptied⟩
    | false => exact ⟨hschedulers, hhanded, hemptied⟩
  | getting =>
    cases workQueue with
    | nil => exact ⟨hschedulers, hhanded, hemptied⟩
    | cons message queue =>
      exact ⟨hschedulers, forall₂_wraps_yielded hhanded, emptied_notMem_yielded hemptied⟩
  | idle => exact ⟨hschedulers, hhanded, hemptied⟩
  | cancelling n => cases n <;> exact ⟨hschedulers, hhanded, hemptied⟩
  | draining =>
    cases workQueue with
    | nil =>
      have hall : List.Forall₂ (Wraps subscriptionPaths) (scheduledCalls history)
          (yieldedMessages history) := by simpa using hhanded
      refine ⟨hschedulers, ?_, history, [], rfl, hemptied, List.not_mem_nil, rfl, hall⟩
      change List.Forall₂ _ (scheduledCalls (history ++ [.emptied]))
        (yieldedMessages (history ++ [.emptied]) ++ [])
      simpa [scheduledCalls, yieldedMessages] using hall
    | cons message queue =>
      exact ⟨hschedulers, forall₂_wraps_yielded hhanded, emptied_notMem_yielded hemptied⟩
  | closing => exact ⟨hschedulers, hhanded, hemptied⟩
  | closed => exact ⟨hschedulers, hhanded, hemptied⟩
  | failed e rest => exact ⟨hschedulers, hhanded, hemptied⟩

/-- The invariant holds throughout a run. -/
lemma sound_run (subscriptionPaths : List String) (actions : List (PubSubAction σ)) :
    (run subscriptionPaths actions).Sound subscriptionPaths := by
  refine List.foldlRecOn actions _ (sound_start subscriptionPaths) fun s hs action _ => ?_
  cases action with
  | resume answer => exact hs.resume answer
  | schedule k message => exact hs.schedule k message
  | setShutdown => exact ⟨hs.schedulers, hs.handed, hs.emptied⟩

end PubSubSystem

/-- **Hand-over from the streaming pulls.**  At any moment of any run, the messages yielded are, in
order and each once, the first ones of those scheduled, wrapped with the subscription path of their
scheduler.  When the generator is exhausted, there was one final empty check: all messages scheduled
before it have been yielded, and no other ones.

**Proof sketch.**  The invariant `Sound` says that what was scheduled is what was yielded, followed
by the work queue.  It is kept by every call of a scheduler, which appends to the queue, and by
every move of the generator, which takes its head.  The final empty check finds the queue empty, and
is recorded. -/
theorem pullMessages_handsOver {σ : Type} (subscriptionPaths : List String)
    (actions : List (PubSubAction σ)) :
    let s := PubSubSystem.run subscriptionPaths actions
    (∃ pending, List.Forall₂ (Wraps subscriptionPaths) (scheduledCalls s.history)
      (yieldedMessages s.history ++ pending)) ∧
    (s.pull.phase = .closed → ∃ before after, s.history = before ++ .emptied :: after ∧
      .emptied ∉ before ∧ .emptied ∉ after ∧
      List.Forall₂ (Wraps subscriptionPaths) (scheduledCalls before)
        (yieldedMessages s.history)) := by
  intro s
  have hs : s.Sound subscriptionPaths := PubSubSystem.sound_run subscriptionPaths actions
  refine ⟨⟨s.pull.workQueue, hs.handed⟩, fun hclosed => ?_⟩
  obtain ⟨before, after, hsplit, hbefore, hafter, hnone, hall⟩ :
      PubSubSystem.Emptied subscriptionPaths s.history := by
    have hemptied := hs.emptied
    rwa [hclosed] at hemptied
  have hyielded : yieldedMessages s.history = yieldedMessages before := by
    rw [hsplit]
    simp only [yieldedMessages, List.filterMap_append, List.filterMap_cons] at hnone ⊢
    rw [hnone, List.append_nil]
  exact ⟨before, after, hsplit, hbefore, hafter, hyielded ▸ hall⟩

/-- A run over two subscriptions.  The event is set when two messages are in the queue, a third one
comes after the futures were cancelled, and a fourth one after the final empty check. -/
def samplePullActions : List (PubSubAction String) :=
  let resume : PubSubAction String := .resume ⟨.ok [], none, 0, ⟨0, .ok ()⟩⟩
  [resume, .schedule 0 "first", resume, .schedule 1 "second", resume, .setShutdown] ++
    List.replicate 4 resume ++ [.schedule 0 "third"] ++ List.replicate 4 resume ++
    [.schedule 1 "fourth", resume]

/-- The theorem at this run: the first three messages are yielded. -/
theorem pullMessages_handsOver_sample :
    let s := PubSubSystem.run ["users", "trips"] samplePullActions
    (∃ before after, s.history = before ++ .emptied :: after ∧ .emptied ∉ before ∧
      .emptied ∉ after ∧ List.Forall₂ (Wraps ["users", "trips"]) (scheduledCalls before)
        (yieldedMessages s.history)) ∧
    yieldedMessages s.history = [⟨"first", "users"⟩, ⟨"second", "trips"⟩, ⟨"third", "users"⟩] :=
  ⟨(pullMessages_handsOver ["users", "trips"] samplePullActions).2 rfl, rfl⟩

end Hedwig
