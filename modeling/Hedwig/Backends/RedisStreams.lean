import Mathlib.Logic.Function.Basic
import Hedwig.Backends.Base
import Hedwig.Backends.Redis
import Hedwig.Lib.StreamGroup

set_option relaxedAutoImplicit false
set_option autoImplicit false

/-!
# Consumers of Redis streams

`hedwig.backends.redis` as a transition system: publishers, consumers that run
`fetch_and_process_messages`, and runs of `requeue_dead_letter`, all on the same streams and in
the same consumer group.  One action is one command, or one pipeline, of one process; in between,
the processes are interleaved in any way, and each can crash at any moment.

## Main definitions

* `Hedwig.RedisSettings` — the settings, with the names of the streams.
* `Hedwig.Process` — where a consumer or a requeue run is in its code, and what it has in memory.
* `Hedwig.RedisSystem`, `Hedwig.RedisAction` — the state and the actions.
* `Hedwig.RedisSystem.step`, `Hedwig.RedisSystem.run` — the transitions.

## Design

An action of a process that is elsewhere in its code changes nothing, so that every list of
actions is a run.  Time is not modelled: `xautoclaim` is told which pending entries have been idle
for long enough, and any answer is allowed.  `pull_messages` is a generator, so the entries that it
has claimed are a list of tasks, and each is looked at only when the loop asks for the next
message.  What the loop does with a message is `pullStep`; the message is acknowledged if that
makes a call of `ack_message` that returns.

Three things are recorded that no process reads: where an entry was first published, which
delivery of the entry a copy in memory comes from (its ticket), and the history of events.
-/

namespace Hedwig

/-! ## Settings -/

/-- The settings of the Redis backends.  `__init__` asserts that there is a bound on the delivery
attempts. -/
structure RedisSettings where
  hedwigQueue : String
  hedwigSubscriptions : List String
  hedwigMaxDeliveryAttempts : ℕ
  maxDeliveryAttempts_pos : 0 < hedwigMaxDeliveryAttempts
  /-- The settings of the consumer loop. -/
  consumer : ConsumerSettings
  instrumentation : Instrumentation (PyDict String String)

namespace RedisSettings

variable (cfg : RedisSettings)

/-- `self._main_stream`. -/
def mainStream : String := "hedwig:" ++ cfg.hedwigQueue

/-- `self._deadletter_stream`. -/
def deadletterStream : String := "hedwig:" ++ cfg.hedwigQueue ++ ":dlq"

/-- `self._streams`: the dead-letter stream, or the subscriptions and the main stream. -/
def streams (dlq : Bool) : List String :=
  if dlq then [cfg.deadletterStream]
  else cfg.hedwigSubscriptions.map ("hedwig:" ++ ·) ++ [cfg.mainStream]

/-- `{x: ">" for x in self._streams}`. -/
def readStreams (dlq : Bool) : PyDict String String :=
  PyDict.ofList ((cfg.streams dlq).map (·, ">"))

end RedisSettings

/-! ## Entries and messages -/

/-- An entry of a stream: its fields, and the stream and position where it was published. -/
structure StreamEntry where
  payload : PyDict (List UInt8) (List UInt8)
  origin : String × ℕ

/-- An element of a reply with messages: an entry with its id, and the number of this delivery of
the entry. -/
structure RawMessage where
  key : ℕ
  entry : StreamEntry
  ticket : ℕ

/-- A message in the memory of a process, with the stream it was read from. -/
structure Copy extends RawMessage where
  stream : String

/-- What `pull_messages` yields: a `RedisMessage` with the name of its stream and the position of
its entry. -/
structure StreamMessage where
  stream : String
  key : ℕ
  payload : PyDict (List UInt8) (List UInt8)
  deliveryAttempt : ℕ

/-- The message as the client hands it out; the position stands for the id. -/
def StreamMessage.redisMessage (m : StreamMessage) : RedisMessage :=
  ⟨PyStr.encode m.stream, PyStr.encode (toString m.key), m.payload, m.deliveryAttempt⟩

/-- The message that is yielded for a copy. -/
def Copy.message (c : Copy) (timesDelivered : ℕ) : StreamMessage :=
  ⟨c.stream, c.key, c.entry.payload, timesDelivered⟩

/-- A stream of the broker; processes are numbered. -/
abbrev RedisStream := GroupStream StreamEntry ℕ

/-- The messages with these ids in a reply that leaves the stream in this state. -/
def rawMessages (g : RedisStream) (ids : List ℕ) : List RawMessage :=
  ids.filterMap fun id => g.entries[id]?.map fun e => ⟨id, e, g.deliveries id⟩

/-- `message_attributes` for a message of a stream. -/
def streamAttributes (m : StreamMessage) : Except PyException (PyDict String String) :=
  RedisStreamsConsumerBackend.messageAttributes m.redisMessage

/-! ## Processes -/

/-- What the generator of `pull_messages` still has to do. -/
inductive PullTask
  /-- Claim timed out messages of a stream. -/
  | xautoclaim (stream : String)
  /-- Read new messages. -/
  | xreadgroup
  /-- An iteration of `_process_raw_messages`. -/
  | inspect (copy : Copy)

/-- Where `fetch_and_process_messages` is. -/
inductive ConsumerPhase
  /-- Before the next call of `pull_messages`. -/
  | idle
  /-- In `pull_messages`. -/
  | pulling (tasks : List PullTask)
  /-- In `_process_raw_messages`, before the pipeline that moves a message. -/
  | deadLettering (copy : Copy) (rest : List PullTask)
  /-- In the body of the `for` loop, for a message that was yielded. -/
  | processing (copy : Copy) (timesDelivered : ℕ) (rest : List PullTask)
  /-- In `pull_messages`, before the `finally` clause, with an exception. -/
  | raising (e : PyException)
  /-- The loop has ended with an exception. -/
  | raised (e : PyException)
  | crashed

/-- A consumer backend that runs `fetch_and_process_messages`. -/
structure RedisConsumer where
  dlq : Bool
  numMessages : ℕ
  loop : ConsumerState StreamMessage
  phase : ConsumerPhase

/-- The two loops of `requeue_dead_letter`. -/
inductive RequeueLoop
  | claim
  | read

/-- Where `requeue_dead_letter` is. -/
inductive RequeuePhase
  /-- At the head of a loop. -/
  | fetching (loop : RequeueLoop)
  /-- Before the pipeline of `_requeue_messages`. -/
  | moving (messages : List RawMessage) (loop : RequeueLoop)
  | finished
  | crashed

/-- A loop goes on while it gets messages; the first is followed by the second. -/
def RequeueLoop.next : RequeueLoop → List RawMessage → RequeuePhase
  | loop, m :: messages => .moving (m :: messages) loop
  | .claim, [] => .fetching .read
  | .read, [] => .finished

/-- A process of the group. -/
inductive Process
  | consumer (c : RedisConsumer)
  | requeue (numMessages : ℕ) (phase : RequeuePhase)

/-- What a process is started for. -/
inductive Role
  | consumer (dlq : Bool) (numMessages : ℕ)
  | requeue (numMessages : ℕ)

/-- A process that has just been started. -/
def Role.start : Role → Process
  | .consumer dlq numMessages => .consumer ⟨dlq, numMessages, .init, .idle⟩
  | .requeue numMessages => .requeue numMessages (.fetching .claim)

/-! ## The system -/

/-- What is recorded of a run. -/
inductive RedisEvent
  /-- A publisher has added an entry. -/
  | published (stream : String) (key : ℕ) (payload : PyDict (List UInt8) (List UInt8))
  /-- The broker has given a copy to a process. -/
  | delivered (p : ℕ) (copy : Copy)
  /-- A consumer has yielded a message for the copy with this ticket. -/
  | yielded (p : ℕ) (ticket : ℕ) (message : StreamMessage)
  /-- A consumer has acknowledged a message. -/
  | acked (p : ℕ) (d : Delivery StreamMessage)
  /-- A consumer has moved a copy to the dead-letter stream, when the counter of the entry was
  `deliveries`. -/
  | deadLettered (p : ℕ) (copy : Copy) (deliveries : ℕ)

/-- The streams of the broker, the processes, and the events so far, the last one first. -/
structure RedisSystem where
  streams : String → RedisStream
  processes : ℕ → Process
  history : List RedisEvent

/-- What can happen next. -/
inductive RedisAction
  | publish (topic : String) (payload : PyDict (List UInt8) (List UInt8))
  | pullMessages (p : ℕ)
  | xautoclaim (p : ℕ) (idle : ℕ → Bool)
  | xreadgroup (p : ℕ)
  | xpending (p : ℕ)
  | deadLetter (p : ℕ)
  | settle (p : ℕ) (d : Delivery StreamMessage)
  | finishPull (p : ℕ) (now : Time) (heartbeat : HeartbeatCall)
  | extendVisibilityTimeout (p : ℕ) (stream : String) (key : ℕ)
  | requeueFetch (p : ℕ)
  | requeueMessages (p : ℕ)
  | crash (p : ℕ)

namespace RedisSystem

/-- The streams are empty, and the processes have just been started. -/
def init (role : ℕ → Role) : RedisSystem := ⟨fun _ => .empty, fun p => (role p).start, []⟩

/-- Apply a command to one stream. -/
def modifyStream (k : String) (f : RedisStream → RedisStream) (s : RedisSystem) : RedisSystem :=
  { s with streams := Function.update s.streams k (f (s.streams k)) }

/-- A process goes on. -/
def setProcess (p : ℕ) (q : Process) (s : RedisSystem) : RedisSystem :=
  { s with processes := Function.update s.processes p q }

/-- Record events. -/
def record (events : List RedisEvent) (s : RedisSystem) : RedisSystem :=
  { s with history := events ++ s.history }

/-- A process gets copies, and goes on. -/
def deliver (p : ℕ) (copies : List Copy) (q : Process) (s : RedisSystem) : RedisSystem :=
  (s.record (copies.map (.delivered p))).setProcess p q

/-- The pipelines of the module: add entries to one stream, then acknowledge messages of
another. -/
def transfer (target source : String) (messages : List RawMessage) (s : RedisSystem) :
    RedisSystem :=
  (s.modifyStream target (·.xaddAll (messages.map RawMessage.entry))).modifyStream source
    (·.xack (messages.map RawMessage.key))

/-- `xadd` of a publisher. -/
def publish (topic : String) (payload : PyDict (List UInt8) (List UInt8)) (s : RedisSystem) :
    RedisSystem :=
  let k := "hedwig:" ++ topic
  let id := (s.streams k).entries.length
  (s.modifyStream k (·.xadd ⟨payload, (k, id)⟩)).record [.published k id payload]

/-- `xautoclaim` from `0-0`. -/
def xautoclaim (p : ℕ) (k : String) (idle : ℕ → Bool) (count : ℕ) (s : RedisSystem) :
    List RawMessage × RedisSystem :=
  let s' := s.modifyStream k (·.xautoclaim p idle count)
  (rawMessages (s'.streams k) ((s.streams k).claimable idle count), s')

/-- `xreadgroup` with `>` for each of the streams. -/
def xreadgroup (p : ℕ) (ks : List String) (count : ℕ) (s : RedisSystem) :
    List (String × List RawMessage) × RedisSystem :=
  let s' := { s with
    streams := fun k => if k ∈ ks then (s.streams k).xreadgroup p count else s.streams k }
  (ks.map fun k => (k, rawMessages (s'.streams k) ((s.streams k).undelivered count)), s')

/-- The messages of one stream as copies. -/
def copies (k : String) (messages : List RawMessage) : List Copy := messages.map (⟨·, k⟩)

variable (cfg : RedisSettings)

/-- The next pull. -/
def stepPullMessages (p : ℕ) (s : RedisSystem) : RedisSystem :=
  match s.processes p with
  | .consumer ⟨dlq, n, loop, .idle⟩ =>
    s.setProcess p (.consumer ⟨dlq, n, loop,
      .pulling ((cfg.streams dlq).map .xautoclaim ++ [.xreadgroup])⟩)
  | _ => s

/-- `pull_messages` claims messages of the next stream. -/
def stepXautoclaim (p : ℕ) (idle : ℕ → Bool) (s : RedisSystem) : RedisSystem :=
  match s.processes p with
  | .consumer ⟨dlq, n, loop, .pulling (.xautoclaim k :: rest)⟩ =>
    let (messages, s) := s.xautoclaim p k idle n
    s.deliver p (copies k messages) (.consumer ⟨dlq, n, loop,
      .pulling ((copies k messages).map .inspect ++ rest)⟩)
  | _ => s

/-- `pull_messages` reads new messages. -/
def stepXreadgroup (p : ℕ) (s : RedisSystem) : RedisSystem :=
  match s.processes p with
  | .consumer ⟨dlq, n, loop, .pulling (.xreadgroup :: rest)⟩ =>
    let (entries, s) := s.xreadgroup p (cfg.readStreams dlq).keys n
    let received := entries.flatMap fun reply => copies reply.1 reply.2
    s.deliver p received (.consumer ⟨dlq, n, loop, .pulling (received.map .inspect ++ rest)⟩)
  | _ => s

/-- `_process_raw_messages` looks up the counter of the next message.  If the entry is not pending,
the reply is empty and `[0]` raises. -/
def stepXpending (p : ℕ) (s : RedisSystem) : RedisSystem :=
  match s.processes p with
  | .consumer ⟨dlq, n, loop, .pulling (.inspect c :: rest)⟩ =>
    match (s.streams c.stream).timesDelivered? c.key with
    | none => s.setProcess p (.consumer ⟨dlq, n, loop,
        .raising (.new .indexError "list index out of range")⟩)
    | some timesDelivered =>
      if timesDelivered > cfg.hedwigMaxDeliveryAttempts then
        s.setProcess p (.consumer ⟨dlq, n, loop, .deadLettering c rest⟩)
      else
        (s.record [.yielded p c.ticket (c.message timesDelivered)]).setProcess p
          (.consumer ⟨dlq, n, loop, .processing c timesDelivered rest⟩)
  | _ => s

/-- The pipeline of `_process_raw_messages`. -/
def stepDeadLetter (p : ℕ) (s : RedisSystem) : RedisSystem :=
  match s.processes p with
  | .consumer ⟨dlq, n, loop, .deadLettering c rest⟩ =>
    ((s.transfer cfg.deadletterStream c.stream [c.toRawMessage]).record
      [.deadLettered p c ((s.streams c.stream).deliveries c.key)]).setProcess p
      (.consumer ⟨dlq, n, loop, .pulling rest⟩)
  | _ => s

/-- `ack_message`. -/
def ackMessage (m : StreamMessage) (s : RedisSystem) : RedisSystem :=
  s.modifyStream m.stream (·.xack [m.key])

/-- Among these calls there is one of `ack_message` that returned. -/
def ackReturned (calls : List (Event StreamMessage)) : Bool :=
  calls.any fun
    | .ackMessage _ (.ok ()) => true
    | _ => false

/-- The body of the `for` loop, for the message that was yielded last; `nack_message` does
nothing. -/
def stepSettle (p : ℕ) (d : Delivery StreamMessage) (s : RedisSystem) : RedisSystem :=
  match s.processes p with
  | .consumer ⟨dlq, n, loop, .processing c timesDelivered rest⟩ =>
    let m := c.message timesDelivered
    let d := { d with
      message := m
      nackMessage := RedisStreamsConsumerBackend.nackMessage m.redisMessage }
    let r := pullStep cfg.consumer streamAttributes cfg.instrumentation (.yield d) loop
    let phase := match r.1 with
      | .ok () => ConsumerPhase.pulling rest
      | .error e => ConsumerPhase.raised e
    let s := s.setProcess p (.consumer ⟨dlq, n, r.2, phase⟩)
    if ackReturned (r.2.trace.drop loop.trace.length) then (s.ackMessage m).record [.acked p d]
    else s
  | _ => s

/-- The `finally` clause of `pull_messages`, at its end or after an exception. -/
def stepFinishPull (p : ℕ) (now : Time) (heartbeat : HeartbeatCall) (s : RedisSystem) :
    RedisSystem :=
  let housekeeping loop := (pullStep cfg.consumer streamAttributes cfg.instrumentation
    (.housekeeping now heartbeat) loop).2
  match s.processes p with
  | .consumer ⟨dlq, n, loop, .pulling []⟩ =>
    s.setProcess p (.consumer ⟨dlq, n, housekeeping loop, .idle⟩)
  | .consumer ⟨dlq, n, loop, .raising e⟩ =>
    s.setProcess p (.consumer ⟨dlq, n, housekeeping loop, .raised e⟩)
  | _ => s

/-- `extend_visibility_timeout`, for the metadata of any message. -/
def stepExtendVisibilityTimeout (p : ℕ) (k : String) (id : ℕ) (s : RedisSystem) : RedisSystem :=
  match s.processes p with
  | .consumer _ => s.modifyStream k (·.xclaimJustid p id)
  | _ => s

/-- The head of a loop of `requeue_dead_letter`: claim all pending messages, whoever has them, or
read new ones. -/
def stepRequeueFetch (p : ℕ) (s : RedisSystem) : RedisSystem :=
  match s.processes p with
  | .requeue n (.fetching .claim) =>
    let (messages, s) := s.xautoclaim p cfg.deadletterStream (fun _ => true) n
    s.deliver p (copies cfg.deadletterStream messages)
      (.requeue n (RequeueLoop.claim.next messages))
  | .requeue n (.fetching .read) =>
    let (entries, s) := s.xreadgroup p [cfg.deadletterStream] n
    let messages := entries.flatMap Prod.snd
    s.deliver p (copies cfg.deadletterStream messages)
      (.requeue n (RequeueLoop.read.next messages))
  | _ => s

/-- `_requeue_messages`. -/
def stepRequeueMessages (p : ℕ) (s : RedisSystem) : RedisSystem :=
  match s.processes p with
  | .requeue n (.moving messages loop) =>
    (s.transfer cfg.mainStream cfg.deadletterStream messages).setProcess p
      (.requeue n (.fetching loop))
  | _ => s

/-- The process stops where it is. -/
def stepCrash (p : ℕ) (s : RedisSystem) : RedisSystem :=
  match s.processes p with
  | .consumer c => s.setProcess p (.consumer { c with phase := .crashed })
  | .requeue n _ => s.setProcess p (.requeue n .crashed)

/-- One action. -/
def step (s : RedisSystem) : RedisAction → RedisSystem
  | .publish topic payload => s.publish topic payload
  | .pullMessages p => s.stepPullMessages cfg p
  | .xautoclaim p idle => s.stepXautoclaim p idle
  | .xreadgroup p => s.stepXreadgroup cfg p
  | .xpending p => s.stepXpending cfg p
  | .deadLetter p => s.stepDeadLetter cfg p
  | .settle p d => s.stepSettle cfg p d
  | .finishPull p now heartbeat => s.stepFinishPull cfg p now heartbeat
  | .extendVisibilityTimeout p k id => s.stepExtendVisibilityTimeout p k id
  | .requeueFetch p => s.stepRequeueFetch cfg p
  | .requeueMessages p => s.stepRequeueMessages cfg p
  | .crash p => s.stepCrash p

/-- A run from the start: the processes are interleaved as the list of actions says. -/
def run (role : ℕ → Role) (actions : List RedisAction) : RedisSystem :=
  actions.foldl (step cfg) (init role)

end RedisSystem

end Hedwig
