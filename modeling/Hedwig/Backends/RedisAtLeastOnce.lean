import Hedwig.Backends.RedisSteps

set_option relaxedAutoImplicit false
set_option autoImplicit false

/-!
# Redis streams lose nothing

An entry that was published is acknowledged, in one of its copies, after a consumer has accepted
the message, or it still has a live copy, whatever the processes do and wherever they crash.

A live copy is either still live after a step, or the step has dealt with it, and there are only
two ways to do so: a consumer acknowledges it, or a process moves it, which adds a copy to the
main or the dead-letter stream in the same pipeline.

## Main definitions

* `Hedwig.RedisSystem.Acked` — a copy of an entry has been acknowledged.
* `Hedwig.RedisSystem.LiveIn` — some streams have a live copy of an entry.

## Main results

* `Hedwig.RedisSystem.Effect.live` — what an action does to a live copy.
* `Hedwig.run_loses_nothing` — every published entry is acknowledged or live.
-/

namespace Hedwig

namespace RedisSystem

variable {cfg : RedisSettings} {s s' : RedisSystem}

/-- A copy of the entry has been acknowledged by `ack_message`, after the hooks returned and
`process_message` returned or raised `IgnoreException` for a message with the fields of the
entry. -/
def Acked (s : RedisSystem) (e : StreamEntry) : Prop :=
  ∃ p d, .acked p d ∈ s.history ∧ d.accepted = true ∧
    (s.streams d.message.stream).entries[d.message.key]? = some e ∧ d.message.payload = e.payload

/-- One of the streams has a copy of the entry that is not delivered, or pending. -/
def LiveIn (s : RedisSystem) (ks : List String) (e : StreamEntry) : Prop :=
  ∃ k ∈ ks, ∃ id, (s.streams k).Live id e

/-- What is acknowledged stays acknowledged. -/
lemma Acked.effect {e : StreamEntry} (h : s.Acked e) (he : Effect cfg s s') : s'.Acked e := by
  obtain ⟨p, d, hd, haccepted, hentry, hpayload⟩ := h
  exact ⟨p, d, he.history_subset hd, haccepted, (he.extends _).getElem? hentry, hpayload⟩

/-- An acknowledgement deals with the given entries of its stream only. -/
lemma live_modifyStream_xack {k source : String} {ids : List ℕ} {id : ℕ} {e : StreamEntry}
    (h : (s.streams k).Live id e) (hid : k = source → id ∉ ids) :
    ((s.modifyStream source (·.xack ids)).streams k).Live id e := by
  by_cases hk : k = source
  · subst hk
    rw [modifyStream_self]
    exact GroupStream.live_xack _ h (hid rfl)
  · rwa [modifyStream_of_ne s hk]

/-- A pipeline that moves messages: a live copy stays live, or is among the messages and its entry
gets a live copy in the target stream.

**Proof sketch.** The ids that are acknowledged belong to entries that have been delivered, and
the new copies come after all of these, so the acknowledgement does not touch them even if both
streams are the same. -/
lemma live_transfer (target : String) {source : String} {messages : List RawMessage}
    (hholds : ∀ c ∈ copies source messages, s.Holds c) {k : String} {id : ℕ} {e : StreamEntry}
    (h : (s.streams k).Live id e) :
    ((s.transfer target source messages).streams k).Live id e ∨
      (s.transfer target source messages).LiveIn [target] e := by
  set added := s.modifyStream target (·.xaddAll (messages.map RawMessage.entry)) with hadded
  have htransfer : s.transfer target source messages =
      added.modifyStream source (·.xack (messages.map RawMessage.key)) := rfl
  have hretains := retains_modifyStream (f := (·.xaddAll (messages.map RawMessage.entry)))
    ((s.streams target).retains_xaddAll (messages.map RawMessage.entry)) k
  rw [htransfer]
  by_cases hmoved : k = source ∧ id ∈ messages.map RawMessage.key
  · right
    obtain ⟨rfl, hid⟩ := hmoved
    obtain ⟨m, hm, rfl⟩ := List.mem_map.mp hid
    have hentry : m.entry = e := by
      have := (hholds ⟨m, k⟩ (mem_copies.mpr ⟨hm, rfl⟩)).entry
      rw [h.1] at this
      exact (Option.some.inj this).symm
    have hmem : e ∈ messages.map RawMessage.entry := hentry ▸ List.mem_map_of_mem hm
    obtain ⟨id, hle, hlive⟩ := (s.streams target).live_xaddAll hmem
    refine ⟨target, List.mem_singleton_self _, id, live_modifyStream_xack ?_ ?_⟩
    · rwa [hadded, modifyStream_self]
    · rintro rfl hacked
      obtain ⟨m', hm', rfl⟩ := List.mem_map.mp hacked
      have hlt : m'.key < (s.streams target).lastDelivered :=
        (hholds ⟨m', target⟩ (mem_copies.mpr ⟨hm', rfl⟩)).lt
      have := (s.streams target).lastDelivered_le
      omega
  · left
    refine live_modifyStream_xack (hretains.live id e h) ?_
    intro hk hid
    exact hmoved ⟨hk, hid⟩

/-- **A live copy** is live after an action, or the action has acknowledged it, or there is a new
copy in the main or the dead-letter stream.

**Proof sketch.**  Only acknowledging ends the life of a copy.  `ack_message` is called for an
accepted message, which is recorded; and a pipeline acknowledges what it has added to its target
stream just before. -/
lemma Effect.live (h : Effect cfg s s') (hs : s.Sound cfg) {k : String} {id : ℕ} {e : StreamEntry}
    (hl : (s.streams k).Live id e) :
    (s'.streams k).Live id e ∨ s'.LiveIn [cfg.mainStream, cfg.deadletterStream] e ∨ s'.Acked e := by
  have hext := h.extends
  cases h with
  | nothing => exact .inl hl
  | proceed | yield => exact .inl hl
  | publish topic payload =>
    refine .inl (GroupStream.Retains.live ?_ id e hl)
    exact retains_modifyStream (f := (·.xadd _)) (GroupStream.retains_xadd ..) k
  | fetch p s' received q hfetch hq => exact .inl ((hfetch.retains k).live id e hl)
  | extend p k' id' =>
    refine .inl (GroupStream.Retains.live ?_ id e hl)
    exact retains_modifyStream (f := (·.xclaimJustid p id'))
      (GroupStream.retains_xclaimJustid ..) k
  | ack p c timesDelivered d q hcurrent hmessage haccepted hq =>
    have hholds := hs.holds (.inl hcurrent)
    have hstream : d.message.stream = c.stream := by rw [hmessage]; rfl
    have hkey : d.message.key = c.key := by rw [hmessage]; rfl
    by_cases hacked : k = d.message.stream ∧ id = d.message.key
    · obtain ⟨rfl, rfl⟩ := hacked
      have hentry : c.entry = e := by
        have := hholds.entry
        rw [← hstream, ← hkey, hl.1] at this
        exact (Option.some.inj this).symm
      refine .inr (.inr ⟨p, d, List.mem_cons_self, haccepted, ?_, ?_⟩)
      · exact (hext _).getElem? hl.1
      · rw [hmessage, ← hentry]
        rfl
    · left
      refine live_modifyStream_xack (s := s.setProcess p q) hl fun hk hid => hacked ⟨hk, ?_⟩
      exact List.mem_singleton.mp hid
  | transfer p target source messages events q htarget hcurrent hevents hq =>
    have hholds : ∀ c ∈ copies source messages, s.Holds c :=
      fun c hc => hs.holds (.inl (hcurrent c hc))
    rcases live_transfer target hholds hl with hlive | ⟨t, ht, id', hlive⟩
    · exact .inl hlive
    · obtain rfl := List.mem_singleton.mp ht
      refine .inr (.inl ⟨t, ?_, id', hlive⟩)
      rcases htarget with rfl | rfl <;> simp

/-- Every published entry is acknowledged, or live in its stream, the main stream or the
dead-letter stream. -/
def NotLost (cfg : RedisSettings) (s : RedisSystem) : Prop :=
  ∀ k i payload, .published k i payload ∈ s.history →
    s.Acked ⟨payload, (k, i)⟩ ∨
      s.LiveIn [k, cfg.mainStream, cfg.deadletterStream] ⟨payload, (k, i)⟩

/-- Actions lose nothing. -/
lemma NotLost.effect (hn : s.NotLost cfg) (hs : s.Sound cfg) (h : Effect cfg s s') :
    s'.NotLost cfg := by
  intro k i payload hp
  rcases h.mem_history hs hp with hold | hnew
  · rcases hn k i payload hold with hacked | ⟨t, ht, id, hlive⟩
    · exact .inl (hacked.effect h)
    · rcases h.live hs hlive with hstill | ⟨t', ht', id', hmoved⟩ | hacked
      · exact .inr ⟨t, ht, id, hstill⟩
      · exact .inr ⟨t', List.mem_cons_of_mem k ht', id', hmoved⟩
      · exact .inl hacked
  · exact .inr ⟨k, List.mem_cons_self, i, hnew⟩

/-- Runs lose nothing. -/
lemma notLost_run (role : ℕ → Role) (actions : List RedisAction) :
    (run cfg role actions).NotLost cfg := by
  refine (run_induction role ?_ ?_ actions).2
  · intro k i payload hp
    cases hp
  · intro s s' hs hn he
    exact hn.effect hs he

end RedisSystem

/-! ## At least once -/

open RedisSystem

/-- **Redis delivers at least once.**  In every run of any processes, with crashes anywhere, every
entry that was published has been acknowledged in one of its copies, by `ack_message` after the
message was processed or ignored (`RedisSystem.Acked`), or it still has a copy with its fields
that is not delivered, or pending, in the stream where it was published, the main stream or the
dead-letter stream (`RedisSystem.LiveIn`).

**Proof sketch.**  Induction on the run with the invariant that every published entry is
acknowledged or live somewhere.  An entry is live when it is published, and `Effect.live` says what
an action does to a live copy; acknowledgements stay in the history. -/
theorem run_loses_nothing (cfg : RedisSettings) (role : ℕ → Role) (actions : List RedisAction)
    (k : String) (i : ℕ) (payload : PyDict (List UInt8) (List UInt8))
    (h : RedisEvent.published k i payload ∈ (run cfg role actions).history) :
    (run cfg role actions).Acked ⟨payload, (k, i)⟩ ∨
      (run cfg role actions).LiveIn [k, cfg.mainStream, cfg.deadletterStream]
        ⟨payload, (k, i)⟩ :=
  notLost_run role actions k i payload h

/-- A consumer reads the only entry, and crashes. -/
def sampleCrash : List RedisAction :=
  [.publish "order-placed" samplePayload, .pullMessages 0, .xautoclaim 0 fun _ => true,
    .xautoclaim 0 fun _ => true, .xreadgroup 0, .crash 0]

/-- The theorem at a run in which a consumer crashes after it has read the only entry. -/
theorem run_loses_nothing_sample :
    (run sampleRedisSettings sampleRole sampleCrash).Acked
        ⟨samplePayload, ("hedwig:" ++ "order-placed", 0)⟩ ∨
      (run sampleRedisSettings sampleRole sampleCrash).LiveIn
        ["hedwig:" ++ "order-placed", sampleRedisSettings.mainStream,
          sampleRedisSettings.deadletterStream]
        ⟨samplePayload, ("hedwig:" ++ "order-placed", 0)⟩ := by
  apply run_loses_nothing
  refine List.mem_of_getLast? ?_
  rfl

end Hedwig
