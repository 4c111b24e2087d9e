import Hedwig.Backends.RedisSteps
import Hedwig.Lib.Trace

set_option relaxedAutoImplicit false
set_option autoImplicit false

/-!
# Who acknowledges an entry

Consumers share the pending entries of a group, and each has its own list of what it has claimed.
This file says what an action does to a stream, which process can acknowledge an entry, that an
entry stays acknowledged, and how a process goes on from one action to the next.

## Main definitions

* `Hedwig.RedisAction.process` — the process that acts.
* `Hedwig.Copy.place` — the stream and the id of the entry that a copy is of.
* `Hedwig.Process.tasks` — what `pull_messages` has still to do, with the message at hand first.
* `Hedwig.RedisSystem.ProcessStep` — how a process goes on.
* `Hedwig.RedisSystem.Releases` — an action acknowledges a pending entry.
* `Hedwig.RedisSystem.StreamStep` — how a stream changes.

## Main results

* `Hedwig.RedisSystem.streams_step` — what an action does to a stream.
* `Hedwig.RedisSystem.processStep_step` — what an action does to a process.
* `Hedwig.RedisSystem.Done.step` — an entry that was acknowledged is never pending again.
* `Hedwig.RedisSystem.Releases.mem_current` — a process acknowledges only what it has at hand.
-/

namespace Hedwig

open scoped List

/-- The process that acts; a publisher is none of the numbered processes. -/
def RedisAction.process : RedisAction → Option ℕ
  | .publish _ _ => none
  | .pullMessages p | .xautoclaim p _ | .xreadgroup p | .xpending p | .deadLetter p | .settle p _
  | .finishPull p _ _ | .extendVisibilityTimeout p _ _ | .requeueFetch p | .requeueMessages p
  | .crash p => some p

/-- The stream and the id of the entry. -/
def Copy.place (c : Copy) : String × ℕ := (c.stream, c.key)

namespace RedisSystem

variable {cfg : RedisSettings} {s : RedisSystem} {a : RedisAction} {p : ℕ}

/-! ## What an action does to a stream -/

@[simp] lemma setProcess_of_ne {q : Process} {p' : ℕ} (h : p ≠ p') :
    (s.setProcess p' q).processes p = s.processes p := Function.update_of_ne h ..

@[simp] lemma setProcess_self {q : Process} : (s.setProcess p q).processes p = q :=
  Function.update_self ..

/-- The other processes stay where they are. -/
lemma Transition.processes_of_ne {s' : RedisSystem} (h : Transition cfg s a s')
    (hp : a.process ≠ some p) : s'.processes p = s.processes p := by
  have hne : ∀ {q}, a.process = some q → p ≠ q := by
    rintro q hq rfl
    exact hp hq
  cases h with
  | stay | publish | extendVisibilityTimeout => rfl
  | _ => exact setProcess_of_ne (hne rfl)

lemma processes_step_of_ne (h : a.process ≠ some p) :
    (step cfg s a).processes p = s.processes p := (transition_step cfg s a).processes_of_ne h

/-- What one action does to one stream: a command that acknowledges nothing, or a pipeline that may
add entries to the stream and acknowledges some that the acting process has at hand. -/
inductive StreamStep (cfg : RedisSettings) (s : RedisSystem) (a : RedisAction) (k : String) :
    RedisStream → Prop
  | command (g : RedisStream) (h : (s.streams k).Command g) : StreamStep cfg s a k g
  | acknowledge (p : ℕ) (es : List StreamEntry) (ids : List ℕ) (hp : a.process = some p)
      (hids : ∀ id ∈ ids, ∃ c ∈ (s.processes p).current cfg, c.place = (k, id)) :
      StreamStep cfg s a k (((s.streams k).xaddAll es).xack ids)

lemma command_modifyStream {k : String} {f : RedisStream → RedisStream}
    (h : (s.streams k).Command (f (s.streams k))) (k' : String) :
    (s.streams k').Command ((s.modifyStream k f).streams k') := by
  by_cases hk : k' = k
  · subst hk
    rwa [modifyStream_self]
  · rw [modifyStream_of_ne s hk]
    exact .nothing _

lemma command_xautoclaim (p : ℕ) (k' : String) (idle : ℕ → Bool) (count : ℕ) (k : String) :
    (s.streams k).Command ((s.xautoclaim p k' idle count).2.streams k) :=
  command_modifyStream (f := (·.xautoclaim p idle count)) (.xautoclaim ..) k

lemma command_xreadgroup (p : ℕ) (ks : List String) (count : ℕ) (k : String) :
    (s.streams k).Command ((s.xreadgroup p ks count).2.streams k) := by
  show (s.streams k).Command
    (if k ∈ ks then (s.streams k).xreadgroup p count else s.streams k)
  split_ifs
  · exact .xreadgroup ..
  · exact .nothing _

/-- A pipeline for copies at hand. -/
lemma streamStep_transfer {target source : String} {messages : List RawMessage}
    (hp : a.process = some p)
    (hcurrent : ∀ c ∈ copies source messages, c ∈ (s.processes p).current cfg) (k : String) :
    StreamStep cfg s a k ((s.transfer target source messages).streams k) := by
  have hids : ∀ id ∈ messages.map RawMessage.key,
      ∃ c ∈ (s.processes p).current cfg, c.place = (source, id) := by
    intro id hid
    obtain ⟨m, hm, rfl⟩ := List.mem_map.mp hid
    exact ⟨⟨m, source⟩, hcurrent _ (mem_copies.mpr ⟨hm, rfl⟩), rfl⟩
  unfold transfer
  by_cases hsource : k = source
  · subst hsource
    rw [modifyStream_self]
    by_cases htarget : k = target
    · subst htarget
      rw [modifyStream_self]
      exact .acknowledge p _ _ hp hids
    · rw [modifyStream_of_ne s htarget]
      exact .acknowledge p [] _ hp hids
  · rw [modifyStream_of_ne _ hsource]
    exact .command _ (command_modifyStream (.xaddAll ..) k)

/-- Acknowledging a copy at hand. -/
lemma streamStep_xack {c : Copy} (hp : a.process = some p)
    (hcurrent : c ∈ (s.processes p).current cfg) (k : String) :
    StreamStep cfg s a k ((s.modifyStream c.stream (·.xack [c.key])).streams k) := by
  by_cases hk : k = c.stream
  · subst hk
    rw [modifyStream_self]
    refine .acknowledge p [] [c.key] hp ?_
    intro id hid
    obtain rfl := List.mem_singleton.mp hid
    exact ⟨c, hcurrent, rfl⟩
  · rw [modifyStream_of_ne _ hk]
    exact .command _ (.nothing _)

/-- **What a transition does to a stream.**

**Proof sketch.**  One case for each branch: most issue one command that acknowledges nothing, and
the pipelines and `ack_message` acknowledge entries that the phase of the process names. -/
lemma Transition.stream {s' : RedisSystem} (h : Transition cfg s a s') (k : String) :
    StreamStep cfg s a k (s'.streams k) := by
  cases h with
  | stay | pullMessages | fail | condemn | yield | settle | finishPull | finishRaising
  | crashConsumer | crashRequeue => exact .command _ (.nothing _)
  | publish topic payload =>
    exact .command _ (command_modifyStream (f := fun g => g.xadd _) (.xaddAll _ [_]) k)
  | xautoclaim | requeueClaim => exact .command _ (command_xautoclaim ..)
  | xreadgroup | requeueRead => exact .command _ (command_xreadgroup ..)
  | extendVisibilityTimeout => exact .command _ (command_modifyStream (.xclaimJustid ..) k)
  | deadLetter hq =>
    refine streamStep_transfer rfl ?_ k
    rw [hq]
    exact fun c hc => hc
  | ack hq hphase hmessage haccepted =>
    rw [hmessage]
    refine streamStep_xack rfl ?_ k
    rw [hq]
    exact List.mem_singleton_self _
  | requeueMessages hq =>
    refine streamStep_transfer rfl ?_ k
    rw [hq]
    exact fun c hc => hc

/-- **What an action does to a stream.** -/
lemma streams_step (cfg : RedisSettings) (s : RedisSystem) (a : RedisAction) (k : String) :
    StreamStep cfg s a k ((step cfg s a).streams k) := (transition_step cfg s a).stream k

/-- An action acknowledges an entry that was pending. -/
def Releases (cfg : RedisSettings) (s : RedisSystem) (a : RedisAction) (place : String × ℕ) :
    Prop :=
  ((s.streams place.1).pending place.2).isSome = true ∧
    ((step cfg s a).streams place.1).pending place.2 = none

/-- An entry was delivered to the group, and acknowledged. -/
def Done (s : RedisSystem) (place : String × ℕ) : Prop := (s.streams place.1).Done place.2

/-- **A process acknowledges only what it has at hand.**

**Proof sketch.**  A command other than `xack` leaves every pending entry pending.  An `xack` has
the ids that the branch of the code passes on, and these are of entries that the acting process has
at hand. -/
lemma Releases.mem_current {place : String × ℕ} (h : s.Releases cfg a place) :
    ∃ q, a.process = some q ∧ ∃ c ∈ (s.processes q).current cfg, c.place = place := by
  obtain ⟨hsome, hnone⟩ := h
  generalize hg : (step cfg s a).streams place.1 = g at hnone
  have hstep := streams_step cfg s a place.1
  rw [hg] at hstep
  cases hstep with
  | command g hcommand =>
    have hpending := hcommand.isSome_pending hsome
    rw [hnone] at hpending
    cases hpending
  | acknowledge q es ids hq hids =>
    have hid : place.2 ∈ ids :=
      GroupStream.mem_of_pending_xack (by rwa [GroupStream.pending_xaddAll]) hnone
    exact ⟨q, hq, hids _ hid⟩

/-- What was acknowledged was delivered before. -/
lemma Releases.done {place : String × ℕ} (h : s.Releases cfg a place) :
    (step cfg s a).Done place := by
  have he : Effect cfg s (step cfg s a) := effect_step s a
  exact ⟨((s.streams place.1).pending_lt _ h.1).trans_le (he.extends place.1).lastDelivered, h.2⟩

/-- **What has been acknowledged stays so.** -/
lemma Done.step {place : String × ℕ} (h : s.Done place) (a : RedisAction) :
    (step cfg s a).Done place := by
  unfold Done at h ⊢
  generalize hg : (RedisSystem.step cfg s a).streams place.1 = g
  have hstep := streams_step cfg s a place.1
  rw [hg] at hstep
  cases hstep with
  | command g hcommand => exact hcommand.done h
  | acknowledge q es ids hq hids =>
    exact GroupStream.done_xack ids (.inl ((GroupStream.Command.xaddAll _ es).done h))

/-- By induction on the actions. -/
lemma Done.foldl {place : String × ℕ} (h : s.Done place) (actions : List RedisAction) :
    (actions.foldl (RedisSystem.step cfg) s).Done place := by
  induction actions generalizing s with
  | nil => exact h
  | cons a actions ih => exact ih (h.step a)

end RedisSystem

/-! ## What an action does to a process -/

/-- What `pull_messages` has still to do, with the message at hand first. -/
def ConsumerPhase.tasks : ConsumerPhase → List PullTask
  | .pulling tasks => tasks
  | .deadLettering c rest | .processing c _ rest => .inspect c :: rest
  | _ => []

namespace Process

/-- What `pull_messages` has still to do, with the message at hand first. -/
def tasks : Process → List PullTask
  | .consumer c => c.phase.tasks
  | .requeue _ _ => []

/-- `pull_messages` is about to end with an exception. -/
def raises : Process → Bool
  | .consumer ⟨_, _, _, .raising _⟩ => true
  | _ => false

end Process

namespace RedisSystem

variable {cfg : RedisSettings} {s : RedisSystem} {a : RedisAction} {p : ℕ}

/-- How a process goes on when an action takes place. -/
inductive ProcessStep (cfg : RedisSettings) (s : RedisSystem) (a : RedisAction) (p : ℕ) :
    Process → Process → Prop
  /-- The process has nothing more to do than before. -/
  | goOn (q q' : Process) (htasks : q'.tasks <+ q.tasks) (hwaiting : q'.waiting <+ q.waiting)
      (hcondemned : q'.condemned ⊆ q.condemned) (hraises : q'.raises = true → q.raises = true) :
      ProcessStep cfg s a p q q'
  | start {dlq : Bool} {n : ℕ} {loop : ConsumerState StreamMessage} (ks : List String) :
      ProcessStep cfg s a p (.consumer ⟨dlq, n, loop, .idle⟩)
        (.consumer ⟨dlq, n, loop, .pulling (ks.map .xautoclaim ++ [.xreadgroup])⟩)
  /-- A command that gives entries to the consumer; they are pending. -/
  | fetch {dlq : Bool} {n : ℕ} {loop : ConsumerState StreamMessage} (task : PullTask)
      (rest : List PullTask) (received : List Copy) (htask : task.copy? = none)
      (hnodup : (received.map Copy.place).Nodup)
      (hpending : ∀ c ∈ received,
        (((step cfg s a).streams c.stream).pending c.key).isSome = true) :
      ProcessStep cfg s a p (.consumer ⟨dlq, n, loop, .pulling (task :: rest)⟩)
        (.consumer ⟨dlq, n, loop, .pulling (received.map .inspect ++ rest)⟩)
  /-- The counter of a pending entry is too high. -/
  | condemn {dlq : Bool} {n : ℕ} {loop : ConsumerState StreamMessage} (c : Copy)
      (rest : List PullTask) (ha : a = .xpending p)
      (hpending : ((s.streams c.stream).pending c.key).isSome = true)
      (hcounter : cfg.hedwigMaxDeliveryAttempts < (s.streams c.stream).deliveries c.key) :
      ProcessStep cfg s a p (.consumer ⟨dlq, n, loop, .pulling (.inspect c :: rest)⟩)
        (.consumer ⟨dlq, n, loop, .deadLettering c rest⟩)
  /-- The entry is not pending. -/
  | fail {dlq : Bool} {n : ℕ} {loop : ConsumerState StreamMessage} (c : Copy)
      (rest : List PullTask) (e : PyException) (ha : a = .xpending p)
      (hpending : (s.streams c.stream).pending c.key = none) :
      ProcessStep cfg s a p (.consumer ⟨dlq, n, loop, .pulling (.inspect c :: rest)⟩)
        (.consumer ⟨dlq, n, loop, .raising e⟩)

lemma ProcessStep.refl (q : Process) : ProcessStep cfg s a p q q :=
  .goOn q q (.refl _) (.refl _) (List.Subset.refl _) id

/-- A process that has nothing left to do. -/
lemma ProcessStep.leave {q q' : Process} (htasks : q'.tasks = []) (hwaiting : q'.waiting = [])
    (hcondemned : q'.condemned = []) (hraises : q'.raises = false) :
    ProcessStep cfg s a p q q' := by
  refine .goOn q q' ?_ ?_ ?_ ?_
  · rw [htasks]
    exact List.nil_sublist _
  · rw [hwaiting]
    exact List.nil_sublist _
  · rw [hcondemned]
    exact List.nil_subset _
  · rw [hraises]
    exact fun h => Bool.noConfusion h

/-- A reply about different entries has copies of different entries. -/
lemma nodup_place_reply {k : String} {g : RedisStream} {ids : List ℕ} (h : ids.Nodup) :
    ((copies k (rawMessages g ids)).map Copy.place).Nodup := by
  refine List.Nodup.of_map Prod.snd ?_
  unfold copies
  rw [List.map_map, List.map_map]
  exact h.sublist (map_key_rawMessages g ids)

/-- Two replies about different streams have copies of different entries. -/
lemma nodup_place_replies {ks : List String} (hks : ks.Nodup)
    {g : String → RedisStream} {ids : String → List ℕ} (hids : ∀ k, (ids k).Nodup) :
    ((ks.flatMap fun k => copies k (rawMessages (g k) (ids k))).map Copy.place).Nodup := by
  rw [List.map_flatMap, List.nodup_flatMap]
  refine ⟨fun k _ => nodup_place_reply (hids k), hks.imp fun hne t ht ht' => hne ?_⟩
  obtain ⟨c, hc, rfl⟩ := List.mem_map.mp ht
  obtain ⟨c', hc', hcc⟩ := List.mem_map.mp ht'
  obtain ⟨-, rfl⟩ := mem_copies.mp hc
  obtain ⟨-, rfl⟩ := mem_copies.mp hc'
  exact congrArg Prod.fst hcc.symm

/-- Claimed entries are pending. -/
lemma pending_xautoclaim {k : String} {idle : ℕ → Bool} {count : ℕ} {c : Copy}
    (h : c ∈ copies k (s.xautoclaim p k idle count).1) :
    (((s.xautoclaim p k idle count).2.streams c.stream).pending c.key).isSome = true := by
  obtain ⟨rfl, hkey, -⟩ := of_mem_reply h
  have hstream : (s.xautoclaim p c.stream idle count).2.streams c.stream =
      (s.streams c.stream).xautoclaim p idle count :=
    modifyStream_self s c.stream (·.xautoclaim p idle count)
  have hpending : ((s.streams c.stream).xautoclaim p idle count).pending c.key = some p :=
    if_pos hkey
  rw [hstream, hpending]
  rfl

/-- Entries that were read are pending. -/
lemma pending_xreadgroup {ks : List String} {count : ℕ} {c : Copy}
    (h : c ∈ (s.xreadgroup p ks count).1.flatMap fun reply => copies reply.1 reply.2) :
    (((s.xreadgroup p ks count).2.streams c.stream).pending c.key).isSome = true := by
  obtain ⟨reply, hreply, hc⟩ := List.mem_flatMap.mp h
  obtain ⟨k, hk, rfl⟩ := List.mem_map.mp hreply
  obtain ⟨rfl, hkey, -⟩ := of_mem_reply hc
  have hstream : (s.xreadgroup p ks count).2.streams c.stream =
      (s.streams c.stream).xreadgroup p count := if_pos hk
  have hpending : ((s.streams c.stream).xreadgroup p count).pending c.key = some p :=
    if_pos hkey
  rw [hstream, hpending]
  rfl

/-- The body of the loop leaves the other tasks, or none. -/
lemma processStep_settled {dlq : Bool} {n : ℕ} {loop loop' : ConsumerState StreamMessage} {c : Copy}
    {timesDelivered : ℕ} {rest : List PullTask} {phase : ConsumerPhase}
    (hphase : SettledTo rest phase) :
    ProcessStep cfg s a p (.consumer ⟨dlq, n, loop, .processing c timesDelivered rest⟩)
      (.consumer ⟨dlq, n, loop', phase⟩) := by
  rcases hphase with rfl | ⟨e, rfl⟩
  · exact .goOn _ _ (List.sublist_cons_self _ _) (.refl _) (List.nil_subset _)
      fun h => Bool.noConfusion h
  · exact .leave rfl rfl rfl rfl

/-- **What a transition does to the process that acts.**

**Proof sketch.**  One case for each branch.  The new phase is the one that the branch sets; what a
fetch returns is pending and has no entry twice by the laws of the stream, and a process that leaves
its loop has nothing at hand. -/
lemma Transition.processStep {s' : RedisSystem} (h : Transition cfg s a s')
    (hs : step cfg s a = s') (hp : a.process = some p) :
    ProcessStep cfg s a p (s.processes p) (s'.processes p) := by
  cases h with
  | stay | extendVisibilityTimeout => exact .refl _
  | publish => cases hp
  | pullMessages hq =>
    obtain rfl := Option.some.inj hp
    rw [hq, setProcess_self]
    exact .start _
  | xautoclaim hq =>
    obtain rfl := Option.some.inj hp
    rw [hq, deliver, setProcess_self]
    refine .fetch (.xautoclaim _) _ _ rfl ?_ fun c hc => ?_
    · exact nodup_place_reply (GroupStream.nodup_claimable ..)
    · rw [hs]
      exact pending_xautoclaim hc
  | xreadgroup hq hreceived =>
    obtain rfl := Option.some.inj hp
    subst hreceived
    rw [hq, deliver, setProcess_self]
    refine .fetch .xreadgroup _ _ rfl ?_ fun c hc => ?_
    · unfold RedisSystem.xreadgroup
      rw [List.flatMap_map]
      exact nodup_place_replies (cfg.readStreams _).nodup fun k => List.nodup_range'
    · rw [hs]
      exact pending_xreadgroup hc
  | fail hq hpending =>
    obtain rfl := Option.some.inj hp
    rw [hq, setProcess_self]
    exact .fail _ _ _ rfl hpending
  | condemn hq hpending hcounter =>
    obtain rfl := Option.some.inj hp
    rw [hq, setProcess_self]
    exact .condemn _ _ rfl hpending hcounter
  | yield hq hcounter hle =>
    obtain rfl := Option.some.inj hp
    rw [hq, setProcess_self]
    exact .goOn _ _ (.refl _) (List.sublist_cons_self _ _) (List.nil_subset _)
      fun h => Bool.noConfusion h
  | deadLetter hq =>
    obtain rfl := Option.some.inj hp
    rw [hq, setProcess_self]
    exact .goOn _ _ (List.sublist_cons_self _ _) (.refl _) (List.nil_subset _)
      fun h => Bool.noConfusion h
  | settle hq hphase =>
    obtain rfl := Option.some.inj hp
    rw [hq, setProcess_self]
    exact processStep_settled hphase
  | ack hq hphase hmessage haccepted =>
    obtain rfl := Option.some.inj hp
    show ProcessStep cfg s _ _ _ ((s.setProcess _ _).processes _)
    rw [hq, setProcess_self]
    exact processStep_settled hphase
  | requeueClaim | requeueRead =>
    obtain rfl := Option.some.inj hp
    rw [deliver, setProcess_self]
    exact .leave rfl rfl rfl rfl
  | finishPull | finishRaising | requeueMessages | crashConsumer | crashRequeue =>
    obtain rfl := Option.some.inj hp
    rw [setProcess_self]
    exact .leave rfl rfl rfl rfl

/-- **What an action does to a process.** -/
lemma processStep_step (cfg : RedisSettings) (s : RedisSystem) (a : RedisAction) (p : ℕ) :
    ProcessStep cfg s a p (s.processes p) ((step cfg s a).processes p) := by
  by_cases hp : a.process = some p
  · exact (transition_step cfg s a).processStep rfl hp
  · rw [processes_step_of_ne hp]
    exact .refl _

end RedisSystem

end Hedwig
