import Mathlib.Data.List.Perm.Subperm
import Hedwig.Backends.RedisTransitions

set_option relaxedAutoImplicit false
set_option autoImplicit false

/-!
# What an action does to the streams

The actions of the Redis system, sorted by what they do to the streams and to the memory of the
process: publishing, fetching copies, yielding a message, extending a timeout, acknowledging, and
moving copies to another stream.  Later files follow these effects, not the code of the processes.

## Main definitions

* `Hedwig.Process.current`, `Hedwig.Process.waiting`, `Hedwig.Process.condemned` — the copies that
  a process has in memory.
* `Hedwig.RedisSystem.Fetch` — a command that gives copies to a process.
* `Hedwig.RedisSystem.Effect` — what one action can do.
* `Hedwig.RedisSystem.Sound` — every copy in memory was delivered, and is of an entry that is
  there.

## Main results

* `Hedwig.RedisSystem.effect_step` — every action has one of the effects.
* `Hedwig.RedisSystem.Effect.extends` — every effect extends every stream.
* `Hedwig.RedisSystem.Effect.mem_history` — every event is justified when it is recorded.
* `Hedwig.RedisSystem.run_induction` — every run is sound, and keeps what the effects keep.
-/

namespace Hedwig

open scoped List

/-! ## Copies in memory -/

/-- The copy that is to be inspected. -/
def PullTask.copy? : PullTask → Option Copy
  | .inspect c => some c
  | _ => none

/-- The copies that are still to be inspected. -/
def waitingCopies (tasks : List PullTask) : List Copy := tasks.filterMap PullTask.copy?

/-- The copies that `pull_messages` has still to inspect. -/
def ConsumerPhase.waiting : ConsumerPhase → List Copy
  | .pulling rest | .deadLettering _ rest | .processing _ _ rest => waitingCopies rest
  | _ => []

/-- The copy at hand. -/
def ConsumerPhase.current : ConsumerPhase → List Copy
  | .deadLettering c _ | .processing c _ _ => [c]
  | _ => []

/-- The copy that is about to be moved to the dead-letter stream. -/
def ConsumerPhase.condemned : ConsumerPhase → List Copy
  | .deadLettering c _ => [c]
  | _ => []

namespace Process

/-- The copies that the process has still to inspect. -/
def waiting : Process → List Copy
  | .consumer c => c.phase.waiting
  | .requeue _ _ => []

/-- The copy that is about to be moved to the dead-letter stream. -/
def condemned : Process → List Copy
  | .consumer c => c.phase.condemned
  | .requeue _ _ => []

/-- The copies at hand. -/
def current (cfg : RedisSettings) : Process → List Copy
  | .consumer c => c.phase.current
  | .requeue _ (.moving messages _) => RedisSystem.copies cfg.deadletterStream messages
  | .requeue _ _ => []

end Process

lemma waitingCopies_append (tasks rest : List PullTask) :
    waitingCopies (tasks ++ rest) = waitingCopies tasks ++ waitingCopies rest :=
  List.filterMap_append

@[simp] lemma waitingCopies_inspect (received : List Copy) :
    waitingCopies (received.map .inspect) = received := by
  induction received with
  | nil => rfl
  | cons c received ih => exact congrArg (c :: ·) ih

/-- Before a pull has fetched anything, nothing is to be inspected. -/
lemma waitingCopies_pull (ks : List String) :
    waitingCopies (ks.map .xautoclaim ++ [.xreadgroup]) = [] := by
  induction ks with
  | nil => rfl
  | cons k ks ih => exact ih

namespace RedisSystem

/-! ## Replies -/

lemma mem_rawMessages {g : RedisStream} {ids : List ℕ} {m : RawMessage} :
    m ∈ rawMessages g ids ↔
      m.key ∈ ids ∧ g.entries[m.key]? = some m.entry ∧ m.ticket = g.deliveries m.key := by
  unfold rawMessages
  rw [List.mem_filterMap]
  constructor
  · rintro ⟨id, hid, hm⟩
    obtain ⟨e, he, rfl⟩ := Option.map_eq_some_iff.mp hm
    exact ⟨hid, he, rfl⟩
  · rintro ⟨hid, he, hticket⟩
    refine ⟨m.key, hid, ?_⟩
    rw [he, ← hticket]
    rfl

/-- A reply keeps the order of the ids. -/
lemma map_key_rawMessages (g : RedisStream) (ids : List ℕ) :
    (rawMessages g ids).map RawMessage.key <+ ids := by
  induction ids with
  | nil => exact .refl _
  | cons id ids ih =>
    unfold rawMessages at ih ⊢
    rw [List.filterMap_cons]
    cases g.entries[id]? with
    | none => exact ih.cons id
    | some e => exact ih.cons_cons id

/-- The delivery that a copy comes from. -/
def token (c : Copy) : (String × ℕ) × ℕ := ((c.stream, c.key), c.ticket)

/-- A copy is of an entry that is there, which was delivered at least as often as the ticket
says. -/
structure Holds (s : RedisSystem) (c : Copy) : Prop where
  entry : (s.streams c.stream).entries[c.key]? = some c.entry
  lt : c.key < (s.streams c.stream).lastDelivered
  ticket_pos : 0 < c.ticket
  ticket_le : c.ticket ≤ (s.streams c.stream).deliveries c.key

/-- A command that takes a stream from one state to another gives out a copy.  It is of an entry of
the stream, its ticket is the counter of the entry, and the counter has not had that value
before. -/
structure Given (g g' : RedisStream) (c : Copy) : Prop where
  entry : g'.entries[c.key]? = some c.entry
  lt : c.key < g'.lastDelivered
  ticket : c.ticket = g'.deliveries c.key
  fresh : g.lastDelivered ≤ c.key ∨ g.deliveries c.key < c.ticket

/-- A command gives copies to a process. -/
structure Fetch (s s' : RedisSystem) (received : List Copy) : Prop where
  processes : s'.processes = s.processes
  history : s'.history = s.history
  retains : ∀ k, (s.streams k).Retains (s'.streams k)
  given : ∀ c ∈ received, Given (s.streams c.stream) (s'.streams c.stream) c
  nodup : (received.map token).Nodup

section

variable (s : RedisSystem)

@[simp] lemma modifyStream_self (k : String) (f : RedisStream → RedisStream) :
    (s.modifyStream k f).streams k = f (s.streams k) := Function.update_self ..

lemma modifyStream_of_ne {k k' : String} (h : k' ≠ k) (f : RedisStream → RedisStream) :
    (s.modifyStream k f).streams k' = s.streams k' := Function.update_of_ne h ..

variable {s}

lemma retains_modifyStream {k : String} {f : RedisStream → RedisStream}
    (h : (s.streams k).Retains (f (s.streams k))) (k' : String) :
    (s.streams k').Retains ((s.modifyStream k f).streams k') := by
  by_cases hk : k' = k
  · subst hk
    rwa [modifyStream_self]
  · rw [modifyStream_of_ne s hk]
    exact .refl _

lemma extends_modifyStream {k : String} {f : RedisStream → RedisStream}
    (h : (s.streams k).Extends (f (s.streams k))) (k' : String) :
    (s.streams k').Extends ((s.modifyStream k f).streams k') := by
  by_cases hk : k' = k
  · subst hk
    rwa [modifyStream_self]
  · rw [modifyStream_of_ne s hk]
    exact .refl _

/-- Copies of one stream with different keys have different tokens. -/
lemma nodup_token_copies {k : String} {messages : List RawMessage}
    (h : (messages.map RawMessage.key).Nodup) : ((copies k messages).map token).Nodup := by
  unfold copies
  rw [List.map_map]
  refine List.Nodup.of_map (fun t : (String × ℕ) × ℕ => t.1.2) ?_
  rw [List.map_map]
  exact h

lemma mem_copies {k : String} {messages : List RawMessage} {c : Copy} :
    c ∈ copies k messages ↔ c.toRawMessage ∈ messages ∧ c.stream = k := by
  unfold copies
  rw [List.mem_map]
  constructor
  · rintro ⟨m, hm, rfl⟩
    exact ⟨hm, rfl⟩
  · rintro ⟨hm, rfl⟩
    exact ⟨c.toRawMessage, hm, rfl⟩

/-- A copy in a reply about one stream. -/
lemma of_mem_reply {k : String} {g : RedisStream} {ids : List ℕ} {c : Copy}
    (h : c ∈ copies k (rawMessages g ids)) : c.stream = k ∧ c.key ∈ ids ∧
      g.entries[c.key]? = some c.entry ∧ c.ticket = g.deliveries c.key := by
  obtain ⟨hm, hk⟩ := mem_copies.mp h
  exact ⟨hk, mem_rawMessages.mp hm⟩

/-- A reply about different entries has different tokens. -/
lemma nodup_token_reply {k : String} {g : RedisStream} {ids : List ℕ} (h : ids.Nodup) :
    ((copies k (rawMessages g ids)).map token).Nodup :=
  nodup_token_copies (h.sublist (map_key_rawMessages g ids))

/-- Claiming counts each entry as delivered once more. -/
lemma given_xautoclaim {k : String} {g : RedisStream} {p : ℕ} {idle : ℕ → Bool} {count : ℕ}
    {c : Copy} (h : c ∈ copies k (rawMessages (g.xautoclaim p idle count)
      (g.claimable idle count))) : Given g (g.xautoclaim p idle count) c := by
  obtain ⟨-, hkey, hentry, hticket⟩ := of_mem_reply h
  have hcounter : (g.xautoclaim p idle count).deliveries c.key = g.deliveries c.key + 1 :=
    if_pos hkey
  refine ⟨hentry, ?_, hticket, .inr ?_⟩
  · exact g.pending_lt _ (GroupStream.pending_of_mem_claimable hkey)
  · rw [hticket, hcounter]
    exact Nat.lt_succ_self _

/-- Reading delivers entries that were not delivered before. -/
lemma given_xreadgroup {k : String} {g : RedisStream} {p count : ℕ} {c : Copy}
    (h : c ∈ copies k (rawMessages (g.xreadgroup p count) (g.undelivered count))) :
    Given g (g.xreadgroup p count) c := by
  obtain ⟨-, hkey, hentry, hticket⟩ := of_mem_reply h
  obtain ⟨hle, hlt⟩ := GroupStream.mem_undelivered.mp hkey
  exact ⟨hentry, hlt, hticket, .inl hle⟩

/-- `xautoclaim` fetches. -/
lemma fetch_xautoclaim (p : ℕ) (k : String) (idle : ℕ → Bool) (count : ℕ) :
    Fetch s (s.xautoclaim p k idle count).2 (copies k (s.xautoclaim p k idle count).1) := by
  have hsystem : (s.xautoclaim p k idle count).2 =
      s.modifyStream k (·.xautoclaim p idle count) := rfl
  have hstream : (s.xautoclaim p k idle count).2.streams k =
      (s.streams k).xautoclaim p idle count := by rw [hsystem, modifyStream_self]
  have hreply : (s.xautoclaim p k idle count).1 = rawMessages
      ((s.xautoclaim p k idle count).2.streams k) ((s.streams k).claimable idle count) := rfl
  rw [hreply, hstream]
  refine ⟨rfl, rfl, ?_, ?_, ?_⟩
  · rw [hsystem]
    exact retains_modifyStream (GroupStream.retains_xautoclaim ..)
  · intro c hc
    obtain ⟨rfl, -⟩ := of_mem_reply hc
    rw [hstream]
    exact given_xautoclaim hc
  · exact nodup_token_reply (GroupStream.nodup_claimable ..)

/-- `xreadgroup` fetches; copies of different streams have different tokens. -/
lemma fetch_xreadgroup (p : ℕ) {ks : List String} (hks : ks.Nodup) (count : ℕ) :
    Fetch s (s.xreadgroup p ks count).2
      ((s.xreadgroup p ks count).1.flatMap fun reply => copies reply.1 reply.2) := by
  have hstream : ∀ k ∈ ks, (s.xreadgroup p ks count).2.streams k =
      (s.streams k).xreadgroup p count := fun k hk => if_pos hk
  refine ⟨rfl, rfl, ?_, ?_, ?_⟩
  · intro k
    by_cases hk : k ∈ ks
    · rw [hstream k hk]
      exact GroupStream.retains_xreadgroup ..
    · rw [show (s.xreadgroup p ks count).2.streams k = s.streams k from if_neg hk]
      exact .refl _
  · intro c hc
    obtain ⟨reply, hreply, hc⟩ := List.mem_flatMap.mp hc
    obtain ⟨k, hk, rfl⟩ := List.mem_map.mp hreply
    obtain ⟨rfl, -⟩ := of_mem_reply hc
    rw [hstream _ hk]
    refine given_xreadgroup (k := c.stream) ?_
    rw [← hstream _ hk]
    exact hc
  · rw [List.map_flatMap, List.nodup_flatMap]
    constructor
    · intro reply hreply
      obtain ⟨k, -, rfl⟩ := List.mem_map.mp hreply
      exact nodup_token_reply List.nodup_range'
    · show List.Pairwise _ (ks.map _)
      rw [List.pairwise_map]
      refine hks.imp fun hne t ht ht' => hne ?_
      obtain ⟨c, hc, rfl⟩ := List.mem_map.mp ht
      obtain ⟨c', hc', hcc⟩ := List.mem_map.mp ht'
      obtain ⟨-, rfl⟩ := mem_copies.mp hc
      obtain ⟨-, rfl⟩ := mem_copies.mp hc'
      exact congrArg (fun t => t.1.1) hcc.symm

end

/-! ## Effects -/

/-- The copies in memory. -/
def InMemory (cfg : RedisSettings) (s : RedisSystem) (p : ℕ) (c : Copy) : Prop :=
  c ∈ (s.processes p).current cfg ∨ c ∈ (s.processes p).waiting

/-- A process goes on with copies that it had or has received, and condemns only copies of
entries that were delivered too often. -/
structure Follows (cfg : RedisSettings) (s : RedisSystem) (p : ℕ) (received : List Copy)
    (q : Process) : Prop where
  current : ∀ c ∈ q.current cfg, c ∈ received ∨ s.InMemory cfg p c
  waiting : q.waiting <+~ received ++ (s.processes p).waiting
  condemned : ∀ c ∈ q.condemned, s.InMemory cfg p c ∧
    cfg.hedwigMaxDeliveryAttempts < (s.streams c.stream).deliveries c.key

/-- What one action can do. -/
inductive Effect (cfg : RedisSettings) (s : RedisSystem) : RedisSystem → Prop
  | nothing : Effect cfg s s
  | publish (topic : String) (payload : PyDict (List UInt8) (List UInt8)) :
      Effect cfg s (s.publish topic payload)
  /-- A process goes on without touching the streams. -/
  | proceed (p : ℕ) (q : Process) (hq : s.Follows cfg p [] q) : Effect cfg s (s.setProcess p q)
  /-- A process gets copies. -/
  | fetch (p : ℕ) (s' : RedisSystem) (received : List Copy) (q : Process)
      (hfetch : Fetch s s' received) (hq : s.Follows cfg p received q) :
      Effect cfg s (s'.deliver p received q)
  /-- A consumer yields a message for a copy that it had to inspect. -/
  | yield (p : ℕ) (c : Copy) (timesDelivered : ℕ) (q : Process)
      (hcounter : (s.streams c.stream).deliveries c.key = timesDelivered)
      (hle : timesDelivered ≤ cfg.hedwigMaxDeliveryAttempts) (hcurrent : q.current cfg = [c])
      (hwaiting : c :: q.waiting <+~ (s.processes p).waiting) (hc : q.condemned = []) :
      Effect cfg s ((s.record [.yielded p c.ticket (c.message timesDelivered)]).setProcess p q)
  | extend (p : ℕ) (k : String) (id : ℕ) : Effect cfg s (s.modifyStream k (·.xclaimJustid p id))
  /-- A consumer acknowledges a message that was accepted. -/
  | ack (p : ℕ) (c : Copy) (timesDelivered : ℕ) (d : Delivery StreamMessage) (q : Process)
      (hcurrent : c ∈ (s.processes p).current cfg) (hmessage : d.message = c.message timesDelivered)
      (haccepted : d.accepted = true) (hq : s.Follows cfg p [] q) :
      Effect cfg s (((s.setProcess p q).ackMessage d.message).record [.acked p d])
  /-- A process moves messages to the main or the dead-letter stream. -/
  | transfer (p : ℕ) (target source : String) (messages : List RawMessage)
      (events : List RedisEvent) (q : Process)
      (htarget : target = cfg.mainStream ∨ target = cfg.deadletterStream)
      (hcurrent : ∀ c ∈ copies source messages, c ∈ (s.processes p).current cfg)
      (hevents : ∀ e ∈ events, ∃ c ∈ (s.processes p).condemned,
        e = .deadLettered p c ((s.streams c.stream).deliveries c.key))
      (hq : s.Follows cfg p [] q) :
      Effect cfg s (((s.transfer target source messages).record events).setProcess p q)

section

variable {cfg : RedisSettings} {s : RedisSystem} {p : ℕ}

/-- A process that keeps only copies it has still to inspect. -/
lemma follows_of_subperm {received : List Copy} {q : Process} (hcurrent : q.current cfg = [])
    (hcondemned : q.condemned = []) (hwaiting : q.waiting <+~ received ++ (s.processes p).waiting) :
    s.Follows cfg p received q :=
  ⟨by simp [hcurrent], hwaiting, by simp [hcondemned]⟩

section

variable {dlq : Bool} {n : ℕ} {loop loop' : ConsumerState StreamMessage} {rest : List PullTask}

/-- A consumer that goes on with what it has received, and the other tasks. -/
lemma follows_received {task : PullTask} {received : List Copy} (htask : task.copy? = none)
    (hp : s.processes p = .consumer ⟨dlq, n, loop, .pulling (task :: rest)⟩) :
    s.Follows cfg p received
      (.consumer ⟨dlq, n, loop, .pulling (received.map .inspect ++ rest)⟩) := by
  have hwaiting : (s.processes p).waiting = waitingCopies rest := by
    rw [hp]
    exact List.filterMap_cons_none htask
  refine follows_of_subperm rfl rfl ?_
  show waitingCopies _ <+~ _
  rw [waitingCopies_append, waitingCopies_inspect, hwaiting]

/-- A consumer that has decided to move a copy. -/
lemma follows_condemned {c : Copy}
    (hp : s.processes p = .consumer ⟨dlq, n, loop, .pulling (.inspect c :: rest)⟩)
    (hcounter : cfg.hedwigMaxDeliveryAttempts < (s.streams c.stream).deliveries c.key) :
    s.Follows cfg p [] (.consumer ⟨dlq, n, loop, .deadLettering c rest⟩) := by
  have hwaiting : (s.processes p).waiting = c :: waitingCopies rest := by
    rw [hp]
    rfl
  have hmem : s.InMemory cfg p c := by
    right
    rw [hwaiting]
    exact List.mem_cons_self
  refine ⟨fun c' hc' => ?_, ?_, fun c' hc' => ?_⟩
  · obtain rfl : c' = c := List.mem_singleton.mp hc'
    exact .inr hmem
  · show waitingCopies rest <+~ [] ++ _
    rw [hwaiting]
    exact List.subperm_cons_self
  · obtain rfl : c' = c := List.mem_singleton.mp hc'
    exact ⟨hmem, hcounter⟩

/-- A consumer after the body of its loop. -/
lemma follows_settled {c : Copy} {timesDelivered : ℕ} {phase : ConsumerPhase}
    (hp : s.processes p = .consumer ⟨dlq, n, loop, .processing c timesDelivered rest⟩)
    (hphase : SettledTo rest phase) :
    s.Follows cfg p [] (.consumer ⟨dlq, n, loop', phase⟩) := by
  rcases hphase with rfl | ⟨e, rfl⟩
  · refine follows_of_subperm rfl rfl ?_
    rw [hp]
    exact .refl _
  · exact follows_of_subperm rfl rfl List.nil_subperm

end

/-- A process that requeues what it has received. -/
lemma follows_next {n : ℕ} {loop : RequeueLoop} {messages : List RawMessage} :
    s.Follows cfg p (copies cfg.deadletterStream messages) (.requeue n (loop.next messages)) := by
  refine ⟨?_, List.nil_subperm, by simp [Process.condemned]⟩
  cases messages with
  | nil => cases loop <;> simp [RequeueLoop.next, Process.current]
  | cons m messages => exact fun c hc => .inl hc

/-- Reading one stream fetches the messages of its reply. -/
lemma fetch_xreadgroup_singleton (p : ℕ) (k : String) (n : ℕ) :
    Fetch s (s.xreadgroup p [k] n).2 (copies k ((s.xreadgroup p [k] n).1.flatMap Prod.snd)) := by
  have hfetch := fetch_xreadgroup (s := s) p (List.nodup_singleton k) n
  have hcopies : ((s.xreadgroup p [k] n).1.flatMap fun reply => copies reply.1 reply.2) =
      copies k ((s.xreadgroup p [k] n).1.flatMap Prod.snd) := by
    simp [xreadgroup]
  rwa [hcopies] at hfetch

/-- **Every transition has one of the effects.**

**Proof sketch.**  One case for each branch of the code; what a branch has tested gives the side
conditions of its effect. -/
lemma Transition.effect {a : RedisAction} {s' : RedisSystem} (h : Transition cfg s a s') :
    Effect cfg s s' := by
  cases h with
  | stay => exact .nothing
  | publish topic payload => exact .publish topic payload
  | pullMessages hp =>
    refine .proceed _ _ (follows_of_subperm rfl rfl ?_)
    show waitingCopies _ <+~ _
    rw [waitingCopies_pull]
    exact List.nil_subperm
  | xautoclaim hp =>
    exact .fetch _ _ _ _ (fetch_xautoclaim ..) (follows_received rfl hp)
  | xreadgroup hp hreceived =>
    subst hreceived
    exact .fetch _ _ _ _ (fetch_xreadgroup _ (cfg.readStreams _).nodup _)
      (follows_received rfl hp)
  | fail hp hpending => exact .proceed _ _ (follows_of_subperm rfl rfl List.nil_subperm)
  | condemn hp hpending hcounter => exact .proceed _ _ (follows_condemned hp hcounter)
  | yield hp hcounter hle =>
    refine .yield _ _ _ _ hcounter hle rfl ?_ rfl
    rw [hp]
    exact .refl _
  | deadLetter hp =>
    refine .transfer _ _ _ _ _ _ (.inr rfl) ?_ ?_ (follows_of_subperm rfl rfl ?_)
    · rw [hp]
      exact fun c hc => hc
    · intro e he
      rw [hp]
      exact ⟨_, List.mem_singleton_self _, List.mem_singleton.mp he⟩
    · rw [hp]
      exact .refl _
  | settle hp hphase => exact .proceed _ _ (follows_settled hp hphase)
  | ack hp hphase hmessage haccepted =>
    refine .ack _ _ _ _ _ ?_ hmessage haccepted (follows_settled hp hphase)
    rw [hp]
    exact List.mem_singleton_self _
  | finishPull | finishRaising | crashConsumer | crashRequeue =>
    exact .proceed _ _ (follows_of_subperm rfl rfl List.nil_subperm)
  | extendVisibilityTimeout p k id => exact .extend p k id
  | requeueClaim hp => exact .fetch _ _ _ _ (fetch_xautoclaim ..) follows_next
  | requeueRead hp hmessages =>
    subst hmessages
    exact .fetch _ _ _ _ (fetch_xreadgroup_singleton ..) follows_next
  | requeueMessages hp =>
    refine .transfer _ _ _ _ [] _ (.inl rfl) ?_ (by simp)
      (follows_of_subperm rfl rfl List.nil_subperm)
    rw [hp]
    exact fun c hc => hc

/-- **What an action does.** -/
lemma effect_step (s : RedisSystem) (a : RedisAction) : Effect cfg s (step cfg s a) :=
  (transition_step cfg s a).effect

/-! ## What every effect keeps -/

variable {s' : RedisSystem}

/-- Streams grow, and no counter goes back. -/
lemma Effect.extends (h : Effect cfg s s') (k : String) :
    (s.streams k).Extends (s'.streams k) := by
  have hack : ∀ (s : RedisSystem) (k : String) (ids : List ℕ) (k' : String),
      (s.streams k').Extends ((s.modifyStream k (·.xack ids)).streams k') :=
    fun _ _ _ => extends_modifyStream (GroupStream.extends_xack ..)
  cases h with
  | nothing => exact .refl _
  | publish topic payload =>
    exact extends_modifyStream (f := (·.xadd _)) (GroupStream.retains_xadd ..).toExtends k
  | proceed p q hq => exact .refl _
  | fetch p s' received q hfetch hq => exact (hfetch.retains k).toExtends
  | yield p c timesDelivered q hcounter hle hcurrent hwaiting hc => exact .refl _
  | extend p k' id =>
    exact extends_modifyStream (f := (·.xclaimJustid p id))
      (GroupStream.retains_xclaimJustid ..).toExtends k
  | ack p c timesDelivered d q hcurrent hmessage haccepted hq => exact hack (s.setProcess p q) ..
  | transfer p target source messages events q htarget hcurrent hevents hq =>
    have hadd := extends_modifyStream (k := target) (f := (·.xaddAll _))
      ((s.streams target).retains_xaddAll (messages.map RawMessage.entry)).toExtends k
    exact hadd.trans (hack _ source _ k)

/-- Events stay in the history. -/
lemma Effect.history_subset (h : Effect cfg s s') : s.history ⊆ s'.history := by
  cases h with
  | nothing => exact List.Subset.refl _
  | proceed p q hq => exact List.Subset.refl _
  | extend p k id => exact List.Subset.refl _
  | fetch p s' received q hfetch hq =>
    rw [← hfetch.history]
    exact List.subset_append_right _ _
  | publish | yield | ack | transfer => exact List.subset_append_right _ _

/-- At most one process goes on, and the copies that it receives are recorded. -/
lemma Effect.follows (h : Effect cfg s s') : s'.processes = s.processes ∨
    ∃ p received q, s'.processes = Function.update s.processes p q ∧
      s.Follows cfg p received q ∧ ∀ c ∈ received, .delivered p c ∈ s'.history := by
  cases h with
  | nothing => exact .inl rfl
  | publish topic payload => exact .inl rfl
  | extend p k id => exact .inl rfl
  | proceed p q hq => exact .inr ⟨p, [], q, rfl, hq, by simp⟩
  | fetch p s' received q hfetch hq =>
    right
    refine ⟨p, received, q, ?_, hq, ?_⟩
    · rw [← hfetch.processes]
      rfl
    · intro c hmem
      exact List.mem_append_left _ (List.mem_map_of_mem hmem)
  | yield p c timesDelivered q hcounter hle hcurrent hwaiting hc =>
    refine .inr ⟨p, [], q, rfl, ⟨?_, ?_, by simp [hc]⟩, by simp⟩
    · intro c' hc'
      rw [hcurrent, List.mem_singleton] at hc'
      subst hc'
      exact .inr (.inr (hwaiting.subset List.mem_cons_self))
    · exact List.subperm_cons_self.trans hwaiting
  | ack p c timesDelivered d q hcurrent hmessage haccepted hq =>
    exact .inr ⟨p, [], q, rfl, hq, by simp⟩
  | transfer p target source messages events q htarget hcurrent hevents hq =>
    exact .inr ⟨p, [], q, rfl, hq, by simp⟩

/-- Entries stay, and counters do not go back. -/
lemma Holds.mono {c : Copy} (h : s.Holds c) (hext : ∀ k, (s.streams k).Extends (s'.streams k)) :
    s'.Holds c where
  entry := (hext c.stream).getElem? h.entry
  lt := h.lt.trans_le (hext c.stream).lastDelivered
  ticket_pos := h.ticket_pos
  ticket_le := h.ticket_le.trans ((hext c.stream).deliveries _ h.lt)

/-! ## Sound systems -/

/-- Every copy in memory was delivered to the process, every copy that was delivered is of an entry
that is there, and condemned copies are of entries that were delivered too often. -/
structure Sound (cfg : RedisSettings) (s : RedisSystem) : Prop where
  inMemory : ∀ p c, s.InMemory cfg p c → .delivered p c ∈ s.history
  delivered : ∀ p c, .delivered p c ∈ s.history → s.Holds c
  condemned : ∀ p, ∀ c ∈ (s.processes p).condemned,
    cfg.hedwigMaxDeliveryAttempts < (s.streams c.stream).deliveries c.key

/-- A condemned copy is at hand. -/
lemma mem_current_of_mem_condemned {q : Process} {c : Copy} (h : c ∈ q.condemned) :
    c ∈ q.current cfg := by
  cases q with
  | requeue n phase => cases h
  | consumer consumer =>
    obtain ⟨dlq, n, loop, phase⟩ := consumer
    cases phase with
    | deadLettering c' rest => exact h
    | _ => cases h

lemma Sound.holds (h : s.Sound cfg) {c : Copy} (hc : s.InMemory cfg p c) : s.Holds c :=
  h.delivered p c (h.inMemory p c hc)

lemma sound_init (role : ℕ → Role) : (init role).Sound cfg := by
  have hstart : ∀ p c, ¬ (init role).InMemory cfg p c := by
    intro p c
    unfold InMemory
    show ¬ (c ∈ (role p).start.current cfg ∨ c ∈ (role p).start.waiting)
    cases role p <;> simp [Role.start, Process.current, Process.waiting, ConsumerPhase.current,
      ConsumerPhase.waiting]
  refine ⟨fun p c hc => absurd hc (hstart p c), fun p c hc => ?_, fun p c hc => ?_⟩
  · cases hc
  · exact absurd (.inl (mem_current_of_mem_condemned hc)) (hstart p c)

/-- What an event says about the system at the moment when it is recorded. -/
def Justified (cfg : RedisSettings) (s : RedisSystem) : RedisEvent → Prop
  | .published k i payload => (s.streams k).Live i ⟨payload, (k, i)⟩
  | .delivered _ c => s.Holds c
  | .yielded _ ticket m => 1 ≤ ticket ∧ ticket ≤ m.deliveryAttempt ∧
      m.deliveryAttempt ≤ cfg.hedwigMaxDeliveryAttempts
  | .acked _ d => d.accepted = true
  | .deadLettered _ _ deliveries => cfg.hedwigMaxDeliveryAttempts < deliveries

/-- **New events are justified.**  In particular the counter that is looked up for a yield has
grown since the copy was delivered, or stayed.

**Proof sketch.**  The copy of a message that is yielded was delivered with a counter that the
stream had then, and counters only grow, so the one that is looked up is not smaller.  The events of
the other effects have their facts from the effect itself. -/
lemma Effect.mem_history (h : Effect cfg s s') (hs : s.Sound cfg) {e : RedisEvent}
    (he : e ∈ s'.history) : e ∈ s.history ∨ s'.Justified cfg e := by
  cases h with
  | nothing => exact .inl he
  | proceed | extend => exact .inl he
  | publish topic payload =>
    rcases List.mem_cons.mp he with rfl | hold
    · right
      set k := "hedwig:" ++ topic with hk
      have hstream : (s.publish topic payload).streams k =
          (s.streams k).xadd ⟨payload, (k, (s.streams k).entries.length)⟩ := modifyStream_self s k
            (·.xadd ⟨payload, (k, (s.streams k).entries.length)⟩)
      show ((s.publish topic payload).streams k).Live _ _
      rw [hstream]
      exact GroupStream.live_xadd ..
    · exact .inl hold
  | fetch p s' received q hfetch hq =>
    rcases List.mem_append.mp he with hnew | hold
    · obtain ⟨c, hmem, rfl⟩ := List.mem_map.mp hnew
      have hgiven := hfetch.given c hmem
      have hpos := (s'.streams c.stream).deliveries_pos _ hgiven.lt
      rw [← hgiven.ticket] at hpos
      exact .inr ⟨hgiven.entry, hgiven.lt, hpos, hgiven.ticket.le⟩
    · rw [hfetch.history] at hold
      exact .inl hold
  | yield p c timesDelivered q hcounter hle hcurrent hwaiting hc =>
    rcases List.mem_cons.mp he with rfl | hold
    · have hholds := hs.holds (.inr (hwaiting.subset List.mem_cons_self))
      refine .inr ⟨hholds.ticket_pos, ?_, hle⟩
      show c.ticket ≤ timesDelivered
      rw [← hcounter]
      exact hholds.ticket_le
    · exact .inl hold
  | ack p c timesDelivered d q hcurrent hmessage haccepted hq =>
    rcases List.mem_cons.mp he with rfl | hold
    · exact .inr haccepted
    · exact .inl hold
  | transfer p target source messages events q htarget hcurrent hevents hq =>
    rcases List.mem_append.mp he with hnew | hold
    · obtain ⟨c, hcondemned, rfl⟩ := hevents _ hnew
      exact .inr (hs.condemned p c hcondemned)
    · exact .inl hold

/-- A copy in memory was there before, or has just been delivered. -/
lemma Effect.inMemory (h : Effect cfg s s') {c : Copy} (hc : s'.InMemory cfg p c) :
    s.InMemory cfg p c ∨ .delivered p c ∈ s'.history := by
  unfold InMemory at hc
  rcases h.follows with hsame | ⟨p', received, q, hprocesses, hq, hreceived⟩
  · rw [hsame] at hc
    exact .inl hc
  · rw [hprocesses] at hc
    by_cases hp : p = p'
    · subst hp
      rw [Function.update_self] at hc
      rcases hc with hcurrent | hwaiting
      · exact (hq.current c hcurrent).symm.imp_right (hreceived c)
      · rcases List.mem_append.mp (hq.waiting.subset hwaiting) with hnew | hold
        · exact .inr (hreceived c hnew)
        · exact .inl (.inr hold)
    · rw [Function.update_of_ne hp] at hc
      exact .inl hc

/-- A condemned copy was in memory before, and its entry had been delivered too often. -/
lemma Effect.condemned (h : Effect cfg s s') (hs : s.Sound cfg) {c : Copy}
    (hc : c ∈ (s'.processes p).condemned) : s.InMemory cfg p c ∧
      cfg.hedwigMaxDeliveryAttempts < (s.streams c.stream).deliveries c.key := by
  have hold : c ∈ (s.processes p).condemned → s.InMemory cfg p c ∧
      cfg.hedwigMaxDeliveryAttempts < (s.streams c.stream).deliveries c.key :=
    fun hc => ⟨.inl (mem_current_of_mem_condemned hc), hs.condemned p c hc⟩
  rcases h.follows with hsame | ⟨p', received, q, hprocesses, hq, hreceived⟩
  · rw [hsame] at hc
    exact hold hc
  · rw [hprocesses] at hc
    by_cases hp : p = p'
    · subst hp
      rw [Function.update_self] at hc
      exact hq.condemned c hc
    · rw [Function.update_of_ne hp] at hc
      exact hold hc

/-- **Effects keep a system sound**: entries stay, and counters only grow.

**Proof sketch.**  The copies that a process has in memory are old ones, whose facts are monotone in
the streams, or were fetched by this action, and then the reply of the broker has the facts. -/
lemma Sound.effect (hs : s.Sound cfg) (h : Effect cfg s s') : s'.Sound cfg where
  inMemory p c hc := by
    rcases h.inMemory hc with hold | hnew
    · exact h.history_subset (hs.inMemory p c hold)
    · exact hnew
  delivered p c hc := by
    rcases h.mem_history hs hc with hold | hnew
    · exact (hs.delivered p c hold).mono h.extends
    · exact hnew
  condemned p c hc := by
    obtain ⟨hmem, hlt⟩ := h.condemned hs hc
    exact hlt.trans_le ((h.extends c.stream).deliveries _ (hs.holds hmem).lt)

/-- **Every run is sound**, and what holds at the start and is kept by every effect on a sound
system holds in every run; by induction on the actions. -/
lemma run_induction {P : RedisSystem → Prop} (role : ℕ → Role) (hinit : P (init role))
    (heffect : ∀ s s', s.Sound cfg → P s → Effect cfg s s' → P s') (actions : List RedisAction) :
    (run cfg role actions).Sound cfg ∧ P (run cfg role actions) := by
  have hsound : (init role).Sound cfg := sound_init role
  unfold run
  generalize init role = s at hsound hinit
  induction actions generalizing s with
  | nil => exact ⟨hsound, hinit⟩
  | cons a actions ih =>
    have he : Effect cfg s (step cfg s a) := effect_step s a
    exact ih _ (hsound.effect he) (heffect _ _ hsound hinit he)

end

end RedisSystem

/-! ## Sample settings -/

/-- One subscription, and three delivery attempts. -/
def sampleRedisSettings : RedisSettings where
  hedwigQueue := "orders"
  hedwigSubscriptions := ["order-placed"]
  hedwigMaxDeliveryAttempts := 3
  maxDeliveryAttempts_pos := by decide
  consumer := sampleSettings
  instrumentation := .missing

/-- All processes are consumers. -/
def sampleRole (_p : ℕ) : Role := .consumer false 10

/-- The fields of an entry. -/
def samplePayload : PyDict (List UInt8) (List UInt8) :=
  entryFields (PyDict.ofList [("hedwig_payload", "order")])

/-- A delivery for which every call returns. -/
def acceptedStreamDelivery : Delivery StreamMessage where
  message := ⟨"hedwig:" ++ "order-placed", 0, samplePayload, 1⟩
  receivedAt := 0
  preProcessHook := .ok ()
  extensions := []
  processMessage := .ok ()
  heartbeat := ⟨0, .ok ()⟩
  postProcessHook := .ok ()
  ackMessage := .ok ()
  nackMessage := .ok ()

end Hedwig
