import Hedwig.Backends.RedisDeliveryBound
import Hedwig.Backends.RedisLookup

set_option relaxedAutoImplicit false
set_option autoImplicit false

/-!
# Moving an entry to the dead-letter stream

`_process_raw_messages` reads the counter of an entry with one command, and moves the entry with a
later pipeline that does not look at the counter again, nor at what `XACK` returns.  Two consumers
that have claimed an entry one after the other can both read a counter that is too high, and then
both copy the entry.  This file shows that an entry is copied twice only in this way.

## Main definitions

* `Hedwig.RedisSystem.copiesOf` — how often an entry was copied to the dead-letter stream.
* `Hedwig.RedisSystem.DecidesAlone` — nobody else is about to move the entry that a consumer
  decides to move.
* `Hedwig.RedisSystem.Once` — the invariant: no entry is copied twice, or about to be.

## Main results

* `Hedwig.RedisSystem.moves_step` — which actions copy an entry.
* `Hedwig.RedisSystem.Once.step` — the invariant is kept while consumers decide alone.
* `Hedwig.run_deadLetters_once` — the runs in which no entry is copied twice.
-/

namespace Hedwig

namespace RedisSystem

variable {cfg : RedisSettings} {s : RedisSystem} {a : RedisAction} {p : ℕ}

/-! ## Which actions copy an entry -/

/-- The event copies this entry to the dead-letter stream. -/
def isCopyOf (place : String × ℕ) : RedisEvent → Bool
  | .deadLettered _ c _ => decide (c.place = place)
  | _ => false

/-- How often the entry was copied to the dead-letter stream. -/
def copiesOf (s : RedisSystem) (place : String × ℕ) : ℕ := s.history.countP (isCopyOf place)

/-- What an action records of copies to the dead-letter stream. -/
inductive Moves (cfg : RedisSettings) (s : RedisSystem) (a : RedisAction) : Prop
  /-- Nothing is copied. -/
  | nothing (h : ∀ place, (step cfg s a).copiesOf place = s.copiesOf place)
  /-- A consumer copies the entry that it has decided to move, and goes on. -/
  | move (p : ℕ) (c : Copy) (hc : c ∈ (s.processes p).condemned)
      (hprocess : ((step cfg s a).processes p).condemned = [])
      (hdone : c.key < (s.streams c.stream).lastDelivered → (step cfg s a).Done c.place)
      (h : ∀ place, (step cfg s a).copiesOf place =
        s.copiesOf place + if c.place = place then 1 else 0)

/-- Events that copy nothing. -/
lemma copiesOf_record {events : List RedisEvent}
    (h : ∀ e ∈ events, ∀ place, isCopyOf place e = false) (place : String × ℕ) :
    (s.record events).copiesOf place = s.copiesOf place := by
  unfold copiesOf record
  rw [List.countP_append, List.countP_eq_zero.mpr, Nat.zero_add]
  intro e he
  rw [h e he place]
  exact Bool.false_ne_true

lemma copiesOf_deliver (copies : List Copy) (q : Process) (place : String × ℕ) :
    (s.deliver p copies q).copiesOf place = s.copiesOf place := by
  refine copiesOf_record (s := s) (fun e he place => ?_) place
  obtain ⟨c, -, rfl⟩ := List.mem_map.mp he
  rfl

/-- A process that is about to move a copy. -/
lemma exists_of_mem_condemned {q : Process} {c : Copy} (h : c ∈ q.condemned) :
    ∃ dlq n loop rest, q = .consumer ⟨dlq, n, loop, .deadLettering c rest⟩ := by
  cases q with
  | requeue n phase => cases h
  | consumer consumer =>
    obtain ⟨dlq, n, loop, phase⟩ := consumer
    cases phase with
    | deadLettering c' rest =>
      obtain rfl := List.mem_singleton.mp h
      exact ⟨dlq, n, loop, rest, rfl⟩
    | _ => cases h

variable (cfg) in
/-- The pipeline copies the entry and acknowledges it. -/
lemma stepDeadLetter_of_condemned {c : Copy} (hc : c ∈ (s.processes p).condemned) :
    ((s.stepDeadLetter cfg p).processes p).condemned = [] ∧
      (c.key < (s.streams c.stream).lastDelivered → (s.stepDeadLetter cfg p).Done c.place) ∧
      ∀ place, (s.stepDeadLetter cfg p).copiesOf place =
        s.copiesOf place + if c.place = place then 1 else 0 := by
  obtain ⟨dlq, n, loop, rest, hp⟩ := exists_of_mem_condemned hc
  unfold stepDeadLetter
  rw [hp]
  refine ⟨?_, fun hlt => ?_, fun place => ?_⟩
  · rw [setProcess_self]
    rfl
  · show ((s.transfer cfg.deadletterStream c.stream [c.toRawMessage]).streams c.stream).Done c.key
    unfold transfer
    rw [modifyStream_self]
    have hext := extends_modifyStream (k := cfg.deadletterStream) (f := (·.xaddAll _))
      ((s.streams cfg.deadletterStream).retains_xaddAll [c.entry]).toExtends c.stream
    exact GroupStream.done_xack _ (.inr ⟨List.mem_singleton_self _,
      hlt.trans_le hext.lastDelivered⟩)
  · show (RedisEvent.deadLettered p c _ :: s.history).countP (isCopyOf place) = _
    rw [List.countP_cons]
    simp only [isCopyOf, decide_eq_true_eq]
    rfl

/-- **Only the pipeline of `_process_raw_messages` copies an entry.** -/
lemma Transition.moves {s' : RedisSystem} (h : Transition cfg s a s') (hs : step cfg s a = s') :
    Moves cfg s a := by
  have hnothing (hcopies : ∀ place, s'.copiesOf place = s.copiesOf place) : Moves cfg s a := by
    rw [← hs] at hcopies
    exact .nothing hcopies
  cases h with
  | @deadLetter q dlq n loop c rest hq =>
    have hc : c ∈ (s.processes q).condemned := by
      rw [hq]
      exact List.mem_singleton_self c
    obtain ⟨hprocess, hdone, hcopies⟩ := stepDeadLetter_of_condemned cfg hc
    exact .move q c hc hprocess hdone hcopies
  | publish | yield | ack => exact hnothing (copiesOf_record (by simp [isCopyOf]))
  | xautoclaim | xreadgroup | requeueClaim | requeueRead => exact hnothing (copiesOf_deliver _ _)
  | _ => exact hnothing fun _ => rfl

/-- An action copies an entry only in this way. -/
lemma moves_step (cfg : RedisSettings) (s : RedisSystem) (a : RedisAction) : Moves cfg s a :=
  (transition_step cfg s a).moves rfl

/-! ## Deciding alone -/

/-- If this action looks up an entry whose counter is too high, no other process is about to move
the entry. -/
def DecidesAlone (cfg : RedisSettings) (s : RedisSystem) (a : RedisAction) : Prop :=
  ∀ p c n, a = .xpending p → (s.processes p).inspecting = some c →
    (s.streams c.stream).timesDelivered? c.key = some n → cfg.hedwigMaxDeliveryAttempts < n →
    ∀ q c', q ≠ p → c' ∈ (s.processes q).condemned → c'.place ≠ c.place

/-- What is about to be moved was so before, or has just been decided. -/
lemma ProcessStep.condemned {q q' : Process} (h : ProcessStep cfg s a p q q') {c : Copy}
    (hc : c ∈ q'.condemned) : c ∈ q.condemned ∨ a = .xpending p ∧ q.inspecting = some c ∧
      ∃ n, (s.streams c.stream).timesDelivered? c.key = some n ∧
        cfg.hedwigMaxDeliveryAttempts < n := by
  cases h with
  | goOn q q' htasks hwaiting hcondemned hraises => exact .inl (hcondemned hc)
  | condemn c' rest ha hpending hcounter =>
    obtain rfl := List.mem_singleton.mp hc
    obtain ⟨k, hk⟩ := Option.isSome_iff_exists.mp hpending
    refine .inr ⟨ha, rfl, _, ?_, hcounter⟩
    unfold GroupStream.timesDelivered?
    rw [hk]
    rfl
  | _ => cases hc

/-- No entry was copied twice, or is about to be. -/
structure Once (s : RedisSystem) : Prop where
  /-- No two processes are about to move one entry. -/
  alone : ∀ p q c c', p ≠ q → c ∈ (s.processes p).condemned → c' ∈ (s.processes q).condemned →
    c.place ≠ c'.place
  /-- An entry that is about to be moved was not copied before. -/
  fresh : ∀ p c, c ∈ (s.processes p).condemned → s.copiesOf c.place = 0
  /-- An entry that was copied is acknowledged. -/
  done : ∀ place, 0 < s.copiesOf place → s.Done place
  le_one : ∀ place, s.copiesOf place ≤ 1

/-- An entry that is being looked up and is pending was not copied before. -/
lemma Once.fresh_of_pending (h : s.Once) {c : Copy} {n : ℕ}
    (hn : (s.streams c.stream).timesDelivered? c.key = some n) : s.copiesOf c.place = 0 := by
  refine Nat.eq_zero_of_not_pos fun hpos => ?_
  have hnone : (s.streams c.stream).pending c.key = none := (h.done c.place hpos).2
  rw [GroupStream.timesDelivered?_eq_none_iff.mpr hnone] at hn
  cases hn

/-- At most one consumer decides at a time, and it decides alone. -/
lemma Once.alone_step (h : s.Once) (ha : s.DecidesAlone cfg a) {p q : ℕ} {c c' : Copy}
    (hne : p ≠ q) (hc : c ∈ ((step cfg s a).processes p).condemned)
    (hc' : c' ∈ ((step cfg s a).processes q).condemned) : c.place ≠ c'.place := by
  rcases (processStep_step cfg s a p).condemned hc with hold | ⟨hp, hi, n, hn, hgt⟩
  · rcases (processStep_step cfg s a q).condemned hc' with hold' | ⟨hq, hi', n', hn', hgt'⟩
    · exact h.alone p q c c' hne hold hold'
    · exact ha q c' n' hq hi' hn' hgt' p c hne hold
  · rcases (processStep_step cfg s a q).condemned hc' with hold' | ⟨hq, hi', n', hn', hgt'⟩
    · exact (ha p c n hp hi hn hgt q c' hne.symm hold').symm
    · rw [hp] at hq
      exact absurd (RedisAction.xpending.inj hq) hne

/-- Where an action copies an entry, another entry is about to be moved. -/
lemma Once.fresh_step (h : s.Once) (ha : s.DecidesAlone cfg a) {p : ℕ} {c : Copy}
    (hc : c ∈ ((step cfg s a).processes p).condemned) : (step cfg s a).copiesOf c.place = 0 := by
  have hzero : s.copiesOf c.place = 0 := by
    rcases (processStep_step cfg s a p).condemned hc with hold | ⟨-, -, n, hn, -⟩
    · exact h.fresh p c hold
    · exact h.fresh_of_pending hn
  rcases moves_step cfg s a with hcopies | ⟨q, c', hc', hprocess, -, hcopies⟩
  · rw [hcopies, hzero]
  · have hpq : q ≠ p := by
      rintro rfl
      rw [hprocess] at hc
      cases hc
    have hplace : c'.place ≠ c.place := by
      rcases (processStep_step cfg s a p).condemned hc with hold | ⟨hp, hi, n, hn, hgt⟩
      · exact h.alone q p c' c hpq hc' hold
      · exact ha p c n hp hi hn hgt q c' hpq hc'
    rw [hcopies, hzero, if_neg hplace]

/-- **The invariant is kept by an action that decides alone.**

**Proof sketch.**  The counter of copies grows only when a condemned entry is moved.  By the
invariant no other process has the entry at hand then, and it has no copy yet; afterwards it is
done, and never pending again, so no consumer condemns it a second time. -/
lemma Once.step (h : s.Once) (hs : s.Sound cfg) (ha : s.DecidesAlone cfg a) :
    (step cfg s a).Once where
  alone p q c c' hne hc hc' := h.alone_step ha hne hc hc'
  fresh p c hc := h.fresh_step ha hc
  done place hpos := by
    rcases moves_step cfg s a with hcopies | ⟨q, c, hc, -, hdone, hcopies⟩
    · rw [hcopies] at hpos
      exact (h.done place hpos).step a
    · by_cases hplace : c.place = place
      · subst hplace
        exact hdone (hs.holds (.inl (mem_current_of_mem_condemned hc))).lt
      · rw [hcopies, if_neg hplace] at hpos
        exact (h.done place hpos).step a
  le_one place := by
    rcases moves_step cfg s a with hcopies | ⟨q, c, hc, -, -, hcopies⟩
    · rw [hcopies]
      exact h.le_one place
    · rw [hcopies]
      by_cases hplace : c.place = place
      · subst hplace
        rw [h.fresh q c hc, if_pos rfl]
      · rw [if_neg hplace]
        exact h.le_one place

/-! ## Runs -/

variable {role : ℕ → Role}

lemma once_init (role : ℕ → Role) : (init role).Once := by
  have hcondemned : ∀ p c, ¬ c ∈ ((init role).processes p).condemned := by
    intro p c hc
    have hmem : c ∈ (role p).start.condemned := hc
    cases hrole : role p <;> rw [hrole] at hmem <;> cases hmem
  refine ⟨fun p q c c' _ hc => absurd hc (hcondemned p c), fun p c hc => ?_, fun place hpos => ?_,
    fun place => Nat.zero_le 1⟩
  · exact absurd hc (hcondemned p c)
  · exact absurd hpos (Nat.lt_irrefl 0)

lemma sound_run (actions : List RedisAction) : (run cfg role actions).Sound cfg :=
  (run_induction (P := fun _ => True) role trivial (fun _ _ _ _ _ => trivial) actions).1

/-- By induction on the actions. -/
lemma once_run {actions : List RedisAction}
    (h : AtEach (fun before a _ => (run cfg role before).DecidesAlone cfg a) [] actions) :
    (run cfg role actions).Once := by
  induction actions using List.reverseRecOn with
  | nil => exact once_init role
  | append_singleton before a ih =>
    rw [run_concat]
    exact (ih h.of_append).step (sound_run before) (h.at rfl)

/-- A process that does not act stays as it was started, by induction on the actions. -/
lemma processes_run_of_ne {actions : List RedisAction} (h : ∀ a ∈ actions, a.process ≠ some p) :
    (run cfg role actions).processes p = (role p).start := by
  induction actions using List.reverseRecOn with
  | nil => rfl
  | append_singleton before a ih =>
    rw [run_concat, processes_step_of_ne (h a (by simp))]
    exact ih fun a' ha' => h a' (List.mem_append_left _ ha')

/-- A single consumer decides alone. -/
lemma decidesAlone_of_single {actions : List RedisAction} (p : ℕ)
    (h : ∀ a ∈ actions, a.process = none ∨ a.process = some p) :
    AtEach (fun before a _ => (run cfg role before).DecidesAlone cfg a) [] actions := by
  rintro before a after rfl p' c n rfl - - - q c' hqp hc'
  have hp : p' = p := by
    rcases h (.xpending p') (by simp) with hnone | hsome
    · cases hnone
    · exact Option.some.inj hsome
  have hidle : (run cfg role ([] ++ before)).processes q = (role q).start := by
    refine processes_run_of_ne fun a ha hq => ?_
    rcases h a (List.mem_append_left _ ha) with hnone | hsome
    · rw [hnone] at hq
      cases hq
    · rw [hsome] at hq
      exact hqp (hp.trans (Option.some.inj hq)).symm
  rw [hidle] at hc'
  cases hrole : role q <;> rw [hrole] at hc' <;> cases hc'

/-- A consumer that finds the counter too high is about to move the entry. -/
lemma mem_condemned_stepXpending {c : Copy} {n : ℕ} (hi : (s.processes p).inspecting = some c)
    (hn : (s.streams c.stream).timesDelivered? c.key = some n)
    (hgt : cfg.hedwigMaxDeliveryAttempts < n) :
    c ∈ ((step cfg s (.xpending p)).processes p).condemned := by
  obtain ⟨dlq, n', loop, rest, hp⟩ := Process.exists_of_inspecting hi
  show c ∈ ((s.stepXpending cfg p).processes p).condemned
  unfold stepXpending
  rw [hp]
  simp only [hn, if_pos hgt, setProcess_self]
  exact List.mem_singleton_self c

/-- Two processes that are about to move one entry both copy it. -/
lemma two_le_copiesOf {q : ℕ} {c c' : Copy} (hne : q ≠ p) (hplace : c'.place = c.place)
    (hc : c ∈ (s.processes p).condemned) (hc' : c' ∈ (s.processes q).condemned) :
    2 ≤ (step cfg (step cfg s (.deadLetter q)) (.deadLetter p)).copiesOf c.place := by
  have hfirst : (step cfg s (.deadLetter q)).copiesOf c.place = s.copiesOf c.place + 1 := by
    have hcopies := (stepDeadLetter_of_condemned cfg hc').2.2 c.place
    rwa [if_pos hplace] at hcopies
  have hstill : c ∈ ((step cfg s (.deadLetter q)).processes p).condemned := by
    rwa [processes_step_of_ne (a := .deadLetter q) fun h => hne (Option.some.inj h)]
  have hsecond := (stepDeadLetter_of_condemned cfg hstill).2.2 c.place
  show 2 ≤ ((step cfg s (.deadLetter q)).stepDeadLetter cfg p).copiesOf c.place
  rw [hsecond, hfirst, if_pos rfl]
  omega

end RedisSystem

open RedisSystem

/-- **When an entry is moved once.**  In a run of any processes in which every consumer that finds a
counter too high is then the only one about to move the entry, each entry is copied to the
dead-letter stream at most once.  Wherever this fails, there are two consumers whose pipelines can
follow and copy an entry twice.

**Proof sketch.**  The invariant says that a condemned entry has one process and no copy, and that
an entry with a copy is done.  It holds at the start and is kept by an action that decides alone, so
it holds in the whole run.  Where a decision is not taken alone, the two pipelines that follow it
both add a copy. -/
theorem run_deadLetters_once (cfg : RedisSettings) (role : ℕ → Role) :
    (∀ actions, AtEach (fun before a _ => (run cfg role before).DecidesAlone cfg a) [] actions →
      ∀ place, (run cfg role actions).copiesOf place ≤ 1) ∧
    (∀ before a, ¬ (run cfg role before).DecidesAlone cfg a → ∃ p q place,
      2 ≤ (run cfg role (before ++ [a, .deadLetter q, .deadLetter p])).copiesOf place) := by
  refine ⟨fun actions h => (once_run h).le_one, fun before a h => ?_⟩
  unfold DecidesAlone at h
  push Not at h
  obtain ⟨p, c, n, rfl, hi, hn, hgt, q, c', hqp, hc', hplace⟩ := h
  have hdecided := mem_condemned_stepXpending hi hn hgt
  have hother : c' ∈ ((step cfg (run cfg role before) (.xpending p)).processes q).condemned := by
    rwa [processes_step_of_ne (a := .xpending p) fun h => hqp (Option.some.inj h).symm]
  refine ⟨p, q, c.place, ?_⟩
  have hrun : run cfg role (before ++ [.xpending p, .deadLetter q, .deadLetter p]) =
      step cfg (step cfg (step cfg (run cfg role before) (.xpending p)) (.deadLetter q))
        (.deadLetter p) := List.foldl_append ..
  rw [hrun]
  exact two_le_copiesOf hqp hplace hdecided hother

/-- The theorem at a run of one consumer, which always decides alone: it moves the only entry after
three failures. -/
theorem run_deadLetters_once_sample :
    ((run sampleRedisSettings sampleRole sampleRetries).copiesOf ("hedwig:" ++ "order-placed", 0)
      = 1) ∧
    ∀ place, (run sampleRedisSettings sampleRole sampleRetries).copiesOf place ≤ 1 := by
  refine ⟨by decide +kernel,
    (run_deadLetters_once sampleRedisSettings sampleRole).1 sampleRetries ?_⟩
  exact decidesAlone_of_single 0 (by decide)

/-- Consumer `0` finds the counter of the entry too high at its fourth delivery.  Before it moves
the entry, consumer `1` claims the entry and finds the counter too high as well. -/
def sampleTwoDecisions : List RedisAction :=
  sampleRetries.take 25 ++ [.pullMessages 1, .xautoclaim 1 fun _ => true, .xpending 1,
    .deadLetter 0, .deadLetter 1]

/-- Both consumers copy the entry to the dead-letter stream. -/
theorem run_deadLetters_once_counterexample :
    ¬ ∀ place, (run sampleRedisSettings sampleRole sampleTwoDecisions).copiesOf place ≤ 1 := by
  intro h
  have htwice : (run sampleRedisSettings sampleRole sampleTwoDecisions).copiesOf
      ("hedwig:" ++ "order-placed", 0) = 2 := by decide +kernel
  have hle := h ("hedwig:" ++ "order-placed", 0)
  rw [htwice] at hle
  exact absurd hle (by decide)

end Hedwig
