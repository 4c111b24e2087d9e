import Hedwig.Backends.RedisSteps

set_option relaxedAutoImplicit false
set_option autoImplicit false

/-!
# Requeueing from the dead-letter stream

A process that runs `requeue_dead_letter` of the Redis consumer copies every entry that is pending
or undelivered in the dead-letter stream to the main stream, once and in order, and then ends,
whatever other processes do elsewhere in the meantime.

## Main definitions

* `Hedwig.RedisSystem.stepRequeue` — the next step of the method.
* `Hedwig.RedisSystem.Elsewhere` — what leaves the process and the dead-letter stream alone.
* `Hedwig.RedisSystem.requeueRun` — the steps of the method, with the entries that they add to the
  main stream.
* `Hedwig.RedisSystem.Ready` — what holds at each point of the method.
* `Hedwig.RedisSystem.work` — how much is left to be done.

## Main results

* `Hedwig.RedisSystem.stepRequeue_spec` — one step moves the first live entries, or none, and makes
  progress.
* `Hedwig.RedisSystem.requeueRun_complete` — the whole method.
-/

namespace Hedwig

namespace RedisSystem

variable {cfg : RedisSettings} {p n : ℕ} {s : RedisSystem}

/-- The main stream is not the dead-letter stream. -/
lemma mainStream_ne_deadletterStream (cfg : RedisSettings) :
    cfg.mainStream ≠ cfg.deadletterStream := by
  intro h
  have hlength := congrArg String.length h
  simp [RedisSettings.mainStream, RedisSettings.deadletterStream] at hlength

/-! ## The method -/

variable (cfg p) in
/-- The next step of `requeue_dead_letter`, by where it is. -/
def stepRequeue (s : RedisSystem) : RedisSystem :=
  match s.processes p with
  | .requeue _ (.moving _ _) => s.stepRequeueMessages cfg p
  | _ => s.stepRequeueFetch cfg p

variable (cfg) in
/-- The entries that a step adds to the main stream. -/
def mainGrowth (s s' : RedisSystem) : List StreamEntry :=
  (s'.streams cfg.mainStream).entries.drop (s.streams cfg.mainStream).entries.length

variable (cfg p) in
/-- What others do leaves the process and the dead-letter stream alone. -/
structure Elsewhere (others : RedisSystem → RedisSystem) : Prop where
  process : ∀ s, (others s).processes p = s.processes p
  deadletterStream : ∀ s, (others s).streams cfg.deadletterStream = s.streams cfg.deadletterStream

variable (cfg p) in
/-- Some steps of `requeue_dead_letter`, with what others do before each of them: the system
afterwards, and the entries that the steps added to the main stream. -/
def requeueRun : List (RedisSystem → RedisSystem) → RedisSystem → RedisSystem × List StreamEntry
  | [], s => (s, [])
  | others :: rest, s =>
    let s₁ := others s
    let s₂ := s₁.stepRequeue cfg p
    let (s', more) := requeueRun rest s₂
    (s', mainGrowth cfg s₁ s₂ ++ more)

@[simp] lemma streams_setProcess (q : Process) : (s.setProcess p q).streams = s.streams := rfl

/-! ## One step -/

/-- The messages in memory are the first pending entries of a stream. -/
structure FirstPending (g : RedisStream) (messages : List RawMessage) : Prop where
  keys : messages.map RawMessage.key = g.pendingIds.take messages.length
  entries : messages.map RawMessage.entry = g.entriesAt (g.pendingIds.take messages.length)
  nonempty : messages ≠ []

/-- What holds of the dead-letter stream, by where the method is: the first loop may have left
undelivered entries only, and in the second loop there is nothing pending but what was just read. -/
def Ready (g : RedisStream) : RequeuePhase → Prop
  | .fetching .claim => True
  | .fetching .read => g.pendingIds = []
  | .moving messages .claim => FirstPending g messages
  | .moving messages .read => FirstPending g messages ∧ messages.length = g.pendingIds.length
  | .finished => g.liveIds = []
  | .crashed => False

/-- A bound on the steps that are left, for a number of live entries. -/
def work (live : ℕ) : RequeuePhase → ℕ
  | .fetching .claim => 2 * live + 2
  | .moving _ .claim => 2 * live + 1
  | .fetching .read => 2 * live + 1
  | .moving _ .read => 2 * live
  | .finished => 0
  | .crashed => 0

section

variable {g : RedisStream} {messages : List RawMessage}

/-- The entries of a reply. -/
lemma map_entry_rawMessages (g : RedisStream) (ids : List ℕ) :
    (rawMessages g ids).map RawMessage.entry = g.entriesAt ids := by
  unfold rawMessages GroupStream.entriesAt
  rw [List.map_filterMap]
  refine List.filterMap_congr fun id _ => ?_
  cases g.entries[id]? <;> rfl

/-- The ids of a reply, if they are all in the stream. -/
lemma map_key_rawMessages_eq {ids : List ℕ} (h : ∀ id ∈ ids, id < g.entries.length) :
    (rawMessages g ids).map RawMessage.key = ids := by
  induction ids with
  | nil => rfl
  | cons id ids ih =>
    rw [List.forall_mem_cons] at h
    have hrest := ih h.2
    unfold rawMessages at hrest ⊢
    rw [List.filterMap_cons, List.getElem?_eq_getElem h.1]
    simp only [Option.map_some, List.map_cons]
    rw [hrest]

/-- The ids of a reply with the first pending entries of a stream. -/
lemma map_key_rawMessages_take (g : RedisStream) (count : ℕ) :
    (rawMessages g (g.pendingIds.take count)).map RawMessage.key = g.pendingIds.take count := by
  refine map_key_rawMessages_eq fun id hid => g.lt_of_mem_liveIds ?_
  exact List.mem_append_left _ (List.mem_of_mem_take hid)

/-- A reply with the first pending entries of a stream. -/
lemma firstPending_rawMessages {count : ℕ} (hne : rawMessages g (g.pendingIds.take count) ≠ []) :
    FirstPending g (rawMessages g (g.pendingIds.take count)) := by
  have hkeys := map_key_rawMessages_take g count
  have hlength : g.pendingIds.take (rawMessages g (g.pendingIds.take count)).length =
      g.pendingIds.take count := by
    have h := congrArg List.length hkeys
    rw [List.length_map, List.length_take] at h
    rw [h, ← List.take_take, List.take_length]
  exact ⟨by rw [hkeys, hlength], by rw [map_entry_rawMessages, hlength], hne⟩

end

variable (cfg p n) in
/-- What a step of the method does: the entries that it adds to the main stream are the first live
ones of the dead-letter stream, which are live no more, and less work is left. -/
structure Progress (s : RedisSystem) (phase : RequeuePhase) (s' : RedisSystem)
    (phase' : RequeuePhase) : Prop where
  process : s'.processes p = .requeue n phase'
  ready : Ready (s'.streams cfg.deadletterStream) phase'
  moved : mainGrowth cfg s s' ++ (s'.streams cfg.deadletterStream).liveEntries =
    (s.streams cfg.deadletterStream).liveEntries
  work : work (s'.streams cfg.deadletterStream).liveIds.length phase' ≤
    work (s.streams cfg.deadletterStream).liveIds.length phase - 1

section

variable {g : RedisStream} {messages : List RawMessage} {loop : RequeueLoop}

/-- A reply with no messages is one for no ids. -/
lemma take_eq_nil_of_rawMessages {count : ℕ} (hcount : 1 ≤ count)
    (h : rawMessages g (g.pendingIds.take count) = []) : g.pendingIds = [] := by
  have hkeys := map_key_rawMessages_take g count
  rw [h] at hkeys
  rcases List.take_eq_nil_iff.mp hkeys.symm with hzero | hnil
  · omega
  · exact hnil

/-- A command on the dead-letter stream that leaves its live entries alone, and the next phase of
the method. -/
lemma progress_fetch {f : RedisStream → RedisStream} {received : List Copy}
    {phase phase' : RequeuePhase}
    (hlive : (f (s.streams cfg.deadletterStream)).liveIds =
      (s.streams cfg.deadletterStream).liveIds)
    (hentries : (f (s.streams cfg.deadletterStream)).entries =
      (s.streams cfg.deadletterStream).entries)
    (hready : Ready (f (s.streams cfg.deadletterStream)) phase')
    (hwork : work (s.streams cfg.deadletterStream).liveIds.length phase' ≤
      work (s.streams cfg.deadletterStream).liveIds.length phase - 1) :
    Progress cfg p n s phase
      ((s.modifyStream cfg.deadletterStream f).deliver p received (.requeue n phase')) phase' := by
  have hdeadletter : ((s.modifyStream cfg.deadletterStream f).deliver p received
      (.requeue n phase')).streams cfg.deadletterStream = f (s.streams cfg.deadletterStream) :=
    s.modifyStream_self cfg.deadletterStream f
  have hmain : ((s.modifyStream cfg.deadletterStream f).deliver p received
      (.requeue n phase')).streams cfg.mainStream = s.streams cfg.mainStream :=
    s.modifyStream_of_ne (mainStream_ne_deadletterStream cfg) f
  refine ⟨Function.update_self .., ?_, ?_, ?_⟩
  · rwa [hdeadletter]
  · rw [mainGrowth, hmain, hdeadletter, List.drop_length, List.nil_append]
    simp only [GroupStream.liveEntries, GroupStream.entriesAt, hlive, hentries]
  · rwa [hdeadletter, hlive]

/-- The first loop claims the first pending entries. -/
lemma progress_claim (hp : s.processes p = .requeue n (.fetching .claim)) (hn : 1 ≤ n) :
    ∃ phase', Progress cfg p n s (.fetching .claim) (s.stepRequeueFetch cfg p) phase' := by
  set g := s.streams cfg.deadletterStream with hg
  set g' := g.xautoclaim p (fun _ => true) n with hg'
  have hpending : g'.pendingIds = g.pendingIds := g.pendingIds_xautoclaim p _ n
  have hclaimable : g.claimable (fun _ => true) n = g'.pendingIds.take n := by
    rw [g.claimable_true, hpending]
  have hstep : s.stepRequeueFetch cfg p =
      (s.modifyStream cfg.deadletterStream (·.xautoclaim p (fun _ => true) n)).deliver p
        (copies cfg.deadletterStream (rawMessages g' (g'.pendingIds.take n)))
        (.requeue n (RequeueLoop.claim.next (rawMessages g' (g'.pendingIds.take n)))) := by
    unfold stepRequeueFetch
    rw [hp]
    simp only [xautoclaim, modifyStream_self]
    rw [← hg, hclaimable]
  have hlive : g'.liveIds = g.liveIds := by
    rw [GroupStream.liveIds, hpending]
    rfl
  rw [hstep]
  refine ⟨_, progress_fetch hlive rfl ?_ ?_⟩
  · cases hmessages : rawMessages g' (g'.pendingIds.take n) with
    | nil => exact take_eq_nil_of_rawMessages hn hmessages
    | cons m messages =>
      have hfirst : FirstPending g' (rawMessages g' (g'.pendingIds.take n)) :=
        firstPending_rawMessages (by simp [hmessages])
      rwa [hmessages] at hfirst
  · cases rawMessages g' (g'.pendingIds.take n) <;> simp [RequeueLoop.next, work]

/-- The second loop reads the next undelivered entries, when nothing is pending. -/
lemma progress_read (hp : s.processes p = .requeue n (.fetching .read)) (hn : 1 ≤ n)
    (hready : Ready (s.streams cfg.deadletterStream) (.fetching .read)) :
    ∃ phase', Progress cfg p n s (.fetching .read) (s.stepRequeueFetch cfg p) phase' := by
  set g := s.streams cfg.deadletterStream with hg
  set g' := g.xreadgroup p n with hg'
  have hpending : g'.pendingIds = g.undelivered n := by
    rw [g.pendingIds_xreadgroup, show g.pendingIds = [] from hready, List.nil_append]
  have hundelivered : g.undelivered n = g'.pendingIds.take n := by
    rw [hpending, g.undelivered_eq_take, List.take_take, Nat.min_self]
  have hstep : s.stepRequeueFetch cfg p =
      (s.modifyStream cfg.deadletterStream (·.xreadgroup p n)).deliver p
        (copies cfg.deadletterStream (rawMessages g' (g'.pendingIds.take n)))
        (.requeue n (RequeueLoop.read.next (rawMessages g' (g'.pendingIds.take n)))) := by
    have hsystem : (s.xreadgroup p [cfg.deadletterStream] n).2 =
        s.modifyStream cfg.deadletterStream (·.xreadgroup p n) := by
      simp only [xreadgroup, modifyStream, List.mem_singleton]
      congr 1
      funext k
      by_cases hk : k = cfg.deadletterStream
      · rw [if_pos hk, hk, Function.update_self]
      · rw [if_neg hk, Function.update_of_ne hk]
    have hreplies : (s.xreadgroup p [cfg.deadletterStream] n).1.flatMap Prod.snd =
        rawMessages g' (g'.pendingIds.take n) := by
      simp [xreadgroup, ← hg, hundelivered, hg']
    unfold stepRequeueFetch
    rw [hp]
    simp only [hsystem, hreplies]
  have hlive : g'.liveIds = g.liveIds := g.liveIds_xreadgroup p n
  rw [hstep]
  refine ⟨_, progress_fetch hlive rfl ?_ ?_⟩
  · cases hmessages : rawMessages g' (g'.pendingIds.take n) with
    | nil =>
      have hnone : g'.pendingIds = [] := take_eq_nil_of_rawMessages hn hmessages
      rw [hpending, g.undelivered_eq_take] at hnone
      have hall : g.undeliveredIds = [] := by
        rcases List.take_eq_nil_iff.mp hnone with hzero | hnil
        · omega
        · exact hnil
      show g'.liveIds = []
      rw [hlive, GroupStream.liveIds, show g.pendingIds = [] from hready, hall]
      rfl
    | cons m messages =>
      have hfirst : FirstPending g' (rawMessages g' (g'.pendingIds.take n)) :=
        firstPending_rawMessages (by simp [hmessages])
      have hlength := congrArg List.length (map_key_rawMessages_take g' n)
      rw [List.length_map, hmessages, ← hundelivered, ← hpending] at hlength
      rw [hmessages] at hfirst
      exact ⟨hfirst, hlength⟩
  · cases rawMessages g' (g'.pendingIds.take n) <;> simp [RequeueLoop.next, work]

/-- `_requeue_messages` moves the messages in memory. -/
lemma progress_move (hp : s.processes p = .requeue n (.moving messages loop))
    (hready : Ready (s.streams cfg.deadletterStream) (.moving messages loop)) :
    Progress cfg p n s (.moving messages loop) (s.stepRequeueMessages cfg p)
      (.fetching loop) := by
  set g := s.streams cfg.deadletterStream with hg
  have hfirst : FirstPending g messages := by
    cases loop with
    | claim => exact hready
    | read => exact hready.1
  have hne := mainStream_ne_deadletterStream cfg
  have hcount : messages.length ≤ g.pendingIds.length := by
    have h := congrArg List.length hfirst.keys
    rw [List.length_map, List.length_take] at h
    omega
  have hpos : 0 < messages.length := List.length_pos_iff.mpr hfirst.nonempty
  have hstep : s.stepRequeueMessages cfg p =
      (s.transfer cfg.mainStream cfg.deadletterStream messages).setProcess p
        (.requeue n (.fetching loop)) := by
    unfold stepRequeueMessages
    rw [hp]
  have hdeadletter : (s.stepRequeueMessages cfg p).streams cfg.deadletterStream =
      g.xack (g.pendingIds.take messages.length) := by
    rw [hstep, streams_setProcess, transfer, modifyStream_self, modifyStream_of_ne _ hne.symm,
      hfirst.keys]
  have hmain : (s.stepRequeueMessages cfg p).streams cfg.mainStream =
      (s.streams cfg.mainStream).xaddAll (messages.map RawMessage.entry) := by
    rw [hstep, streams_setProcess, transfer, modifyStream_of_ne _ hne, modifyStream_self]
  have hgrowth : mainGrowth cfg s (s.stepRequeueMessages cfg p) =
      messages.map RawMessage.entry := by
    rw [mainGrowth, hmain, GroupStream.entries_xaddAll, List.drop_left]
  have hlive := g.liveIds_xack_take hcount
  refine ⟨?_, ?_, ?_, ?_⟩
  · rw [hstep]
    exact Function.update_self ..
  · rw [hdeadletter]
    cases loop with
    | claim => trivial
    | read =>
      show (g.xack _).pendingIds = []
      rw [g.pendingIds_xack_take, hready.2, List.drop_length]
  · have hentries : (g.xack (g.pendingIds.take messages.length)).entries = g.entries := rfl
    have htake : g.pendingIds.take messages.length = g.liveIds.take messages.length := by
      rw [GroupStream.liveIds, List.take_append_of_le_length hcount]
    rw [hgrowth, hdeadletter, hfirst.entries, htake]
    simp only [GroupStream.liveEntries, GroupStream.entriesAt]
    rw [← htake, hlive, hentries, ← List.filterMap_append, htake, List.take_append_drop]
  · have hlength : messages.length ≤ g.liveIds.length := by
      rw [GroupStream.liveIds, List.length_append]
      omega
    rw [hdeadletter, hlive, List.length_drop, ← hg]
    cases loop <;> simp only [work] <;> omega

/-- **One step of the method**, wherever it is.

**Proof sketch.**  By the phase.  The first loop claims the pending entries from the start of the
stream, and ends when there is none; the second one reads those not yet delivered.  The pipeline
adds the entries it has to the main stream and acknowledges them.  Each step lowers the work that is
left. -/
lemma stepRequeue_spec {phase : RequeuePhase} (hp : s.processes p = .requeue n phase) (hn : 1 ≤ n)
    (hready : Ready (s.streams cfg.deadletterStream) phase) :
    ∃ phase', Progress cfg p n s phase (s.stepRequeue cfg p) phase' := by
  unfold stepRequeue
  cases phase with
  | fetching loop =>
    rw [hp]
    cases loop with
    | claim => exact progress_claim hp hn
    | read => exact progress_read hp hn hready
  | moving messages loop =>
    rw [hp]
    exact ⟨_, progress_move hp hready⟩
  | finished =>
    have hstay : s.stepRequeueFetch cfg p = s := by
      unfold stepRequeueFetch
      rw [hp]
    rw [hp]
    simp only [hstay]
    refine ⟨.finished, hp, hready, ?_, Nat.le_refl _⟩
    rw [mainGrowth, List.drop_length, List.nil_append]
  | crashed => exact hready.elim

end

/-! ## The method as a whole -/

/-- The steps so far have moved the first live entries in order, and the others are still live: by
induction on the steps. -/
lemma requeueRun_spec {phase : RequeuePhase} {others : List (RedisSystem → RedisSystem)}
    (hothers : ∀ f ∈ others, Elsewhere cfg p f) (hp : s.processes p = .requeue n phase)
    (hn : 1 ≤ n) (hready : Ready (s.streams cfg.deadletterStream) phase) :
    ∃ phase', (requeueRun cfg p others s).1.processes p = .requeue n phase' ∧
      Ready ((requeueRun cfg p others s).1.streams cfg.deadletterStream) phase' ∧
      (requeueRun cfg p others s).2 ++
          ((requeueRun cfg p others s).1.streams cfg.deadletterStream).liveEntries =
        (s.streams cfg.deadletterStream).liveEntries ∧
      work ((requeueRun cfg p others s).1.streams cfg.deadletterStream).liveIds.length phase' ≤
        work (s.streams cfg.deadletterStream).liveIds.length phase - others.length := by
  induction others generalizing s phase with
  | nil => exact ⟨phase, hp, hready, rfl, Nat.le_refl _⟩
  | cons f rest ih =>
    rw [List.forall_mem_cons] at hothers
    obtain ⟨hf, hrest⟩ := hothers
    have hp' : (f s).processes p = .requeue n phase := by rw [hf.process, hp]
    have hready' : Ready ((f s).streams cfg.deadletterStream) phase := by
      rwa [hf.deadletterStream]
    obtain ⟨phase₁, hstep⟩ := stepRequeue_spec hp' hn hready'
    have hwork := hstep.work
    have hmoved := hstep.moved
    rw [hf.deadletterStream] at hwork hmoved
    obtain ⟨phase', hprocess, hend, hmore, hless⟩ := ih hrest hstep.process hstep.ready
    refine ⟨phase', hprocess, hend, ?_, ?_⟩
    · rw [← hmoved, ← hmore, ← List.append_assoc]
      rfl
    · rw [List.length_cons]
      exact hless.trans (by omega)

/-- A method with no work left has ended. -/
lemma eq_finished_of_work {g : RedisStream} {phase : RequeuePhase} (hready : Ready g phase)
    (hwork : work g.liveIds.length phase = 0) : phase = .finished := by
  cases phase with
  | fetching loop => cases loop <;> simp [work] at hwork
  | moving messages loop =>
    cases loop with
    | claim => simp [work] at hwork
    | read =>
      obtain ⟨hfirst, hlength⟩ := hready
      have hpos := List.length_pos_iff.mpr hfirst.nonempty
      rw [work, GroupStream.liveIds, List.length_append] at hwork
      omega
  | finished => rfl
  | crashed => exact hready.elim

/-- A step only adds to the main stream. -/
lemma append_mainGrowth (s : RedisSystem) :
    (s.streams cfg.mainStream).entries ++ mainGrowth cfg s (s.stepRequeue cfg p) =
      ((s.stepRequeue cfg p).streams cfg.mainStream).entries := by
  have hext : (s.streams cfg.mainStream).Extends
      ((s.stepRequeue cfg p).streams cfg.mainStream) := by
    unfold stepRequeue
    split
    · exact (effect_step s (.requeueMessages p)).extends cfg.mainStream
    · exact (effect_step s (.requeueFetch p)).extends cfg.mainStream
  exact List.prefix_iff_eq_append.mp hext.entries

/-- If nobody else adds to the main stream, it has grown by what the steps added: by induction on
the steps. -/
lemma entries_requeueRun {others : List (RedisSystem → RedisSystem)}
    (hmain : ∀ f ∈ others, ∀ s : RedisSystem,
      ((f s).streams cfg.mainStream).entries = (s.streams cfg.mainStream).entries) :
    ((requeueRun cfg p others s).1.streams cfg.mainStream).entries =
      (s.streams cfg.mainStream).entries ++ (requeueRun cfg p others s).2 := by
  induction others generalizing s with
  | nil => simp [requeueRun]
  | cons f rest ih =>
    rw [List.forall_mem_cons] at hmain
    show ((requeueRun cfg p rest ((f s).stepRequeue cfg p)).1.streams cfg.mainStream).entries =
      (s.streams cfg.mainStream).entries ++
        (mainGrowth cfg (f s) ((f s).stepRequeue cfg p) ++
          (requeueRun cfg p rest ((f s).stepRequeue cfg p)).2)
    rw [ih hmain.2, ← append_mainGrowth, hmain.1, List.append_assoc]

/-- **Requeueing is complete and exact.**  Start `requeue_dead_letter` with any dead-letter stream
and `num_messages` of at least one, and let others do whatever they do elsewhere between its steps.
After two steps for each live entry and two more it has ended; it has then added to the main stream
a copy of each entry that was pending or undelivered, in order, and nothing else, and no entry of
the dead-letter stream is pending or undelivered.

**Proof sketch.**  What is copied to the main stream, followed by the live entries of the
dead-letter stream, is the same after each step, whatever the others do elsewhere.  The work that is
left falls with each step until the method has finished, and then no entry is live. -/
theorem requeueRun_complete (others : List (RedisSystem → RedisSystem))
    (hothers : ∀ f ∈ others, Elsewhere cfg p f) (hn : 1 ≤ n)
    (hp : s.processes p = .requeue n (.fetching .claim))
    (hlength : 2 * (s.streams cfg.deadletterStream).liveIds.length + 2 ≤ others.length) :
    (requeueRun cfg p others s).1.processes p = .requeue n .finished ∧
      (requeueRun cfg p others s).2 = (s.streams cfg.deadletterStream).liveEntries ∧
      (∀ id e, ¬ ((requeueRun cfg p others s).1.streams cfg.deadletterStream).Live id e) ∧
      ((∀ f ∈ others, ∀ s : RedisSystem,
          ((f s).streams cfg.mainStream).entries = (s.streams cfg.mainStream).entries) →
        ((requeueRun cfg p others s).1.streams cfg.mainStream).entries =
          (s.streams cfg.mainStream).entries ++
            (s.streams cfg.deadletterStream).liveEntries) := by
  obtain ⟨phase, hprocess, hready, hmoved, hwork⟩ :=
    requeueRun_spec hothers hp hn (show Ready _ (.fetching .claim) from trivial)
  obtain rfl := eq_finished_of_work hready (by
    have hbound : work (s.streams cfg.deadletterStream).liveIds.length (.fetching .claim) =
        2 * (s.streams cfg.deadletterStream).liveIds.length + 2 := rfl
    omega)
  have hnone : ((requeueRun cfg p others s).1.streams cfg.deadletterStream).liveIds = [] := hready
  have hall : (requeueRun cfg p others s).2 =
      (s.streams cfg.deadletterStream).liveEntries := by
    rw [GroupStream.liveEntries, hnone] at hmoved
    rw [← hmoved]
    exact (List.append_nil _).symm
  refine ⟨hprocess, hall, fun id e hlive => ?_, fun hmain => ?_⟩
  · have hmem := (GroupStream.mem_liveIds _).mpr ⟨e, hlive⟩
    rw [hnone] at hmem
    cases hmem
  · rw [entries_requeueRun hmain, hall]

/-! ## A sample -/

/-- A dead-letter stream with two entries, the first of them pending for some consumer. -/
def sampleDeadLetters : RedisStream :=
  ((GroupStream.empty.xadd ⟨samplePayload, ("hedwig:order-placed", 0)⟩).xadd
    ⟨samplePayload, ("hedwig:order-placed", 1)⟩).xreadgroup 5 1

/-- A process is about to requeue it, one entry at a time. -/
def sampleRequeue : RedisSystem where
  streams k := if k = sampleRedisSettings.deadletterStream then sampleDeadLetters else .empty
  processes _ := .requeue 1 (.fetching .claim)
  history := []

/-- The theorem where messages are published all the time. -/
theorem requeueRun_complete_sample :
    (requeueRun sampleRedisSettings 0 (List.replicate 6 (publish "order-placed" samplePayload))
        sampleRequeue).1.processes 0 = .requeue 1 .finished ∧
      (requeueRun sampleRedisSettings 0 (List.replicate 6 (publish "order-placed" samplePayload))
        sampleRequeue).2 = [⟨samplePayload, ("hedwig:order-placed", 0)⟩,
          ⟨samplePayload, ("hedwig:order-placed", 1)⟩] := by
  have hne : sampleRedisSettings.deadletterStream ≠ "hedwig:" ++ "order-placed" := by decide
  have hothers : ∀ f ∈ List.replicate 6 (publish "order-placed" samplePayload),
      Elsewhere sampleRedisSettings 0 f := by
    intro f hf
    obtain rfl := List.eq_of_mem_replicate hf
    refine ⟨fun _ => rfl, fun s => ?_⟩
    simp only [publish, record]
    exact modifyStream_of_ne s hne _
  have hdeadletter : sampleRequeue.streams sampleRedisSettings.deadletterStream =
      sampleDeadLetters := by
    simp [sampleRequeue]
  obtain ⟨hfinished, hmoved, -, -⟩ := requeueRun_complete _ hothers (Nat.le_refl 1)
    (show sampleRequeue.processes 0 = .requeue 1 (.fetching .claim) from rfl)
    (by rw [hdeadletter]; decide)
  refine ⟨hfinished, ?_⟩
  rw [hmoved, hdeadletter]
  rfl

end RedisSystem

end Hedwig
