import Hedwig.Backends.RedisReleases

set_option relaxedAutoImplicit false
set_option autoImplicit false

/-!
# Looking up the entries of a batch

`pull_messages` claims a batch at once, and looks up the entries one by one, as the loop asks for
messages.  By then another process may have claimed and acknowledged an entry of the batch, and
the look-up of that entry raises.  This file shows that nothing else makes `pull_messages` raise.

## Main definitions

* `Hedwig.Process.InOrder` — the entries of a batch are different, and looked up before the next
  command.
* `Hedwig.RedisSystem.ReleasedByOther` — another process has acknowledged an entry in a run.
* `Hedwig.RedisSystem.Survives` — no consumer raises, and an entry that is not pending is skipped.
* `Hedwig.RedisSystem.Undisturbed` — nobody else has acknowledged the entry that is looked up.

## Main results

* `Hedwig.RedisSystem.pending_or_releasedByOther` — an entry in the batch of a consumer is pending,
  or another process has acknowledged it.
* `Hedwig.pullMessages_survives_iff` — the runs in which every consumer survives.
-/

namespace Hedwig

open scoped List

/-! ## Batches -/

namespace Process

/-- The copy that `_process_raw_messages` looks up next. -/
def inspecting : Process → Option Copy
  | .consumer ⟨_, _, _, .pulling (.inspect c :: _)⟩ => some c
  | _ => none

/-- What was claimed is looked up before the next command, and is of different entries. -/
structure InOrder (q : Process) : Prop where
  order : q.tasks.Pairwise fun t t' => t.copy? = none → t'.copy? = none
  nodup : ((waitingCopies q.tasks).map Copy.place).Nodup

/-- Fewer tasks. -/
lemma InOrder.sublist {q q' : Process} (h : q.InOrder) (htasks : q'.tasks <+ q.tasks) :
    q'.InOrder :=
  ⟨h.order.sublist htasks, h.nodup.sublist ((htasks.filterMap _).map _)⟩

lemma inOrder_of_tasks_eq_nil {q : Process} (h : q.tasks = []) : q.InOrder := by
  refine ⟨?_, ?_⟩
  · rw [h]
    exact List.Pairwise.nil
  · rw [h]
    exact List.nodup_nil

/-- The message at hand is not among those that are still to be looked up. -/
lemma InOrder.place_ne {cfg : RedisSettings} {q : Process} (h : q.InOrder) {c c' : Copy}
    (hc : c ∈ q.waiting) (hc' : c' ∈ q.current cfg) : c'.place ≠ c.place := by
  cases q with
  | requeue n phase => cases hc
  | consumer consumer =>
    obtain ⟨dlq, n, loop, phase⟩ := consumer
    have hnodup := h.nodup
    cases phase with
    | deadLettering c₀ rest =>
      obtain rfl := List.mem_singleton.mp hc'
      intro heq
      exact (List.nodup_cons.mp hnodup).1 (heq ▸ List.mem_map_of_mem hc)
    | processing c₀ timesDelivered rest =>
      obtain rfl := List.mem_singleton.mp hc'
      intro heq
      exact (List.nodup_cons.mp hnodup).1 (heq ▸ List.mem_map_of_mem hc)
    | _ => cases hc'

/-- A process that inspects a copy. -/
lemma exists_of_inspecting {q : Process} {c : Copy} (h : q.inspecting = some c) :
    ∃ dlq n loop rest, q = .consumer ⟨dlq, n, loop, .pulling (.inspect c :: rest)⟩ := by
  unfold inspecting at h
  split at h
  · rename_i dlq n loop c' rest
    obtain rfl := Option.some.inj h
    exact ⟨dlq, n, loop, rest, rfl⟩
  · cases h

end Process

namespace RedisSystem

variable {cfg : RedisSettings} {s : RedisSystem} {a : RedisAction} {p : ℕ} {q q' : Process}

/-- **Batches stay in order**: a command gives a consumer new entries when it has looked up the
last ones.

**Proof sketch.**  Looking up goes on in the same batch, and a sublist of a batch in order is in
order.  New entries come from a call, and then the order says that no look-up is left behind it. -/
lemma ProcessStep.inOrder (h : ProcessStep cfg s a p q q') (hq : q.InOrder) : q'.InOrder := by
  cases h with
  | goOn q q' htasks hwaiting hcondemned hraises => exact hq.sublist htasks
  | start ks =>
    have hcalls : waitingCopies (ks.map .xautoclaim ++ [.xreadgroup]) = [] := waitingCopies_pull ks
    refine ⟨List.pairwise_of_forall_mem_list fun t _ t' ht' _ => ?_, ?_⟩
    · exact List.filterMap_eq_nil_iff.mp hcalls t' ht'
    · show ((waitingCopies (ks.map .xautoclaim ++ [.xreadgroup])).map Copy.place).Nodup
      rw [hcalls]
      exact List.nodup_nil
  | fetch task rest received htask hnodup hpending =>
    obtain ⟨hhead, htail⟩ := List.pairwise_cons.mp hq.order
    have hcalls : waitingCopies rest = [] := by
      refine List.filterMap_eq_nil_iff.mpr fun t ht => ?_
      exact hhead t ht htask
    refine ⟨?_, ?_⟩
    · refine List.pairwise_append.mpr ⟨?_, htail, ?_⟩
      · refine List.pairwise_map.mpr (List.pairwise_of_forall fun c c' hnone => ?_)
        cases hnone
      · intro t ht t' ht' hnone
        obtain ⟨c, -, rfl⟩ := List.mem_map.mp ht
        cases hnone
    · show ((waitingCopies (received.map .inspect ++ rest)).map Copy.place).Nodup
      rwa [waitingCopies_append, waitingCopies_inspect, hcalls, List.append_nil]
  | condemn c rest ha hpending hcounter => exact hq.sublist (.refl _)
  | fail c rest e ha hpending => exact Process.inOrder_of_tasks_eq_nil rfl

/-- An entry that is still to be looked up was to be looked up before, or has just been given to
the consumer and is pending. -/
lemma ProcessStep.waiting (h : ProcessStep cfg s a p q q') {c : Copy} (hc : c ∈ q'.waiting) :
    c ∈ q.waiting ∨ (((step cfg s a).streams c.stream).pending c.key).isSome = true := by
  cases h with
  | goOn q q' htasks hwaiting hcondemned hraises => exact .inl (hwaiting.subset hc)
  | start ks =>
    have hcalls : waitingCopies (ks.map .xautoclaim ++ [.xreadgroup]) = [] := waitingCopies_pull ks
    have hmem : c ∈ waitingCopies (ks.map .xautoclaim ++ [.xreadgroup]) := hc
    rw [hcalls] at hmem
    cases hmem
  | fetch task rest received htask hnodup hpending =>
    have hmem : c ∈ waitingCopies (received.map .inspect ++ rest) := hc
    rw [waitingCopies_append, waitingCopies_inspect, List.mem_append] at hmem
    rcases hmem with hnew | hold
    · exact .inr (hpending c hnew)
    · left
      show c ∈ waitingCopies (task :: rest)
      unfold waitingCopies at hold ⊢
      rwa [List.filterMap_cons_none htask]
  | condemn c' rest ha hpending hcounter => exact .inl (List.mem_cons_of_mem _ hc)
  | fail c' rest e ha hpending => cases hc

/-! ## Runs -/

variable {role : ℕ → Role}

lemma run_concat (before : List RedisAction) (a : RedisAction) :
    run cfg role (before ++ [a]) = step cfg (run cfg role before) a :=
  List.foldl_append ..

/-- In the run, a process other than `p` has acknowledged an entry that was pending. -/
def ReleasedByOther (cfg : RedisSettings) (role : ℕ → Role) (before : List RedisAction) (p : ℕ)
    (place : String × ℕ) : Prop :=
  ∃ b a b', before = b ++ a :: b' ∧ a.process ≠ some p ∧
    (run cfg role b).Releases cfg a place

/-- It stays acknowledged. -/
lemma ReleasedByOther.done {before : List RedisAction} {place : String × ℕ}
    (h : ReleasedByOther cfg role before p place) : (run cfg role before).Done place := by
  obtain ⟨b, a, b', rfl, -, hrel⟩ := h
  unfold run at hrel ⊢
  rw [List.foldl_append]
  exact hrel.done.foldl b'

lemma ReleasedByOther.concat {before : List RedisAction} {place : String × ℕ}
    (h : ReleasedByOther cfg role before p place) (a : RedisAction) :
    ReleasedByOther cfg role (before ++ [a]) p place := by
  obtain ⟨b, a', b', rfl, hp, hrel⟩ := h
  exact ⟨b, a', b' ++ [a], by simp, hp, hrel⟩

/-- By induction on the actions. -/
lemma inOrder_run (before : List RedisAction) (p : ℕ) :
    ((run cfg role before).processes p).InOrder := by
  induction before using List.reverseRecOn with
  | nil =>
    refine Process.inOrder_of_tasks_eq_nil ?_
    show (role p).start.tasks = []
    cases role p <;> rfl
  | append_singleton before a ih =>
    rw [run_concat]
    exact (processStep_step cfg _ a p).inOrder ih

/-- **The entries in the batch of a consumer**: each is pending, or another process has acknowledged
it.  The consumer itself acknowledges only the message at hand, which is another entry; by induction
on the actions. -/
lemma pending_or_releasedByOther (before : List RedisAction) {p : ℕ} {c : Copy}
    (hc : c ∈ ((run cfg role before).processes p).waiting) :
    (((run cfg role before).streams c.stream).pending c.key).isSome = true ∨
      ReleasedByOther cfg role before p c.place := by
  induction before using List.reverseRecOn with
  | nil =>
    have hmem : c ∈ (role p).start.waiting := hc
    cases hrole : role p <;> rw [hrole] at hmem <;> cases hmem
  | append_singleton before a ih =>
    rw [run_concat] at hc ⊢
    rcases (processStep_step cfg _ a p).waiting hc with hold | hnew
    · rcases ih hold with hpending | hrel
      · by_cases hafter : (((step cfg (run cfg role before) a).streams c.stream).pending
            c.key).isSome = true
        · exact .inl hafter
        · have hrel : (run cfg role before).Releases cfg a c.place :=
            ⟨hpending, Option.not_isSome_iff_eq_none.mp hafter⟩
          obtain ⟨q, hq, c', hc', hplace⟩ := hrel.mem_current
          refine .inr ⟨before, a, [], rfl, fun hp => ?_, hrel⟩
          obtain rfl : q = p := Option.some.inj (hq.symm.trans hp)
          exact (inOrder_run before q).place_ne hold hc' hplace
      · exact .inr (hrel.concat a)
    · exact .inl hnew

/-! ## Surviving -/

/-- At this action, no consumer raises in `pull_messages`, and a consumer that looks up an entry
that is not pending goes on with the next one. -/
structure Survives (cfg : RedisSettings) (s : RedisSystem) (a : RedisAction) : Prop where
  quiet : ∀ p, ((step cfg s a).processes p).raises = false
  skips : ∀ p dlq n loop c rest, a = .xpending p →
    s.processes p = .consumer ⟨dlq, n, loop, .pulling (.inspect c :: rest)⟩ →
    (s.streams c.stream).pending c.key = none →
    (step cfg s a).processes p = .consumer ⟨dlq, n, loop, .pulling rest⟩

/-- If this action looks up an entry, no process other than the consumer that does so has
acknowledged the entry in the run so far. -/
def Undisturbed (cfg : RedisSettings) (role : ℕ → Role) (before : List RedisAction)
    (a : RedisAction) : Prop :=
  ∀ p c, a = .xpending p → ((run cfg role before).processes p).inspecting = some c →
    ¬ ReleasedByOther cfg role before p c.place

variable (cfg) in
/-- The look-up of an entry that is not pending raises. -/
lemma raises_stepXpending {c : Copy} (hc : (s.processes p).inspecting = some c)
    (hnone : (s.streams c.stream).pending c.key = none) :
    ((step cfg s (.xpending p)).processes p).raises = true := by
  obtain ⟨dlq, n, loop, rest, hp⟩ := Process.exists_of_inspecting hc
  have hcounter := GroupStream.timesDelivered?_eq_none_iff.mpr hnone
  show ((s.stepXpending cfg p).processes p).raises = true
  unfold stepXpending
  rw [hp]
  simp only [hcounter, setProcess_self]
  rfl

/-- A process that raises has done so before, or has just looked up an entry that is not pending. -/
lemma ProcessStep.raises (h : ProcessStep cfg s a p q q') (hq : q'.raises = true) :
    q.raises = true ∨ ∃ c, a = .xpending p ∧ q.inspecting = some c ∧
      (s.streams c.stream).pending c.key = none := by
  cases h with
  | goOn q q' htasks hwaiting hcondemned hraises => exact .inl (hraises hq)
  | fail c rest e ha hpending => exact .inr ⟨c, ha, rfl, hpending⟩
  | _ => cases hq

/-- What is looked up next is to be looked up. -/
lemma mem_waiting_of_inspecting {c : Copy} (h : q.inspecting = some c) : c ∈ q.waiting := by
  obtain ⟨dlq, n, loop, rest, rfl⟩ := Process.exists_of_inspecting h
  exact List.mem_cons_self

/-- An undisturbed look-up finds the entry pending. -/
lemma Undisturbed.pending {before : List RedisAction} (h : Undisturbed cfg role before a) {c : Copy}
    (ha : a = .xpending p) (hc : ((run cfg role before).processes p).inspecting = some c) :
    (((run cfg role before).streams c.stream).pending c.key).isSome = true :=
  (pending_or_releasedByOther before (mem_waiting_of_inspecting hc)).resolve_right (h p c ha hc)

/-- Nobody raises in an undisturbed run, by induction on the actions. -/
lemma raises_run {actions : List RedisAction}
    (h : AtEach (fun before a _ => Undisturbed cfg role before a) [] actions) (p : ℕ) :
    ((run cfg role actions).processes p).raises = false := by
  induction actions using List.reverseRecOn with
  | nil =>
    show (role p).start.raises = false
    cases role p <;> rfl
  | append_singleton before a ih =>
    rw [run_concat, ← Bool.not_eq_true]
    intro hraises
    rcases (processStep_step cfg _ a p).raises hraises with hold | ⟨c, ha, hc, hnone⟩
    · rw [ih h.of_append] at hold
      cases hold
    · have hpending := (h.at rfl).pending ha hc
      rw [hnone] at hpending
      cases hpending

end RedisSystem

open RedisSystem

/-- **When a pull survives the other consumers.**  In a run of any processes, no consumer raises in
`pull_messages`, and every entry that is not pending when it is looked up is skipped, if and only
if no entry that a consumer looks up was acknowledged by another process.

**Proof sketch.**  An entry that was acknowledged by another process is not pending when it is
looked up, and the look-up raises.  Conversely the entries in the batch of a consumer were pending
when they were fetched, and by `pending_or_releasedByOther` they still are unless another process
has acknowledged them. -/
theorem pullMessages_survives_iff (cfg : RedisSettings) (role : ℕ → Role)
    (actions : List RedisAction) :
    AtEach (fun before a _ => (run cfg role before).Survives cfg a) [] actions ↔
      AtEach (fun before a _ => Undisturbed cfg role before a) [] actions := by
  constructor
  · intro h before a after heq p c ha hc hrel
    rw [List.nil_append] at hc hrel
    have hraises := raises_stepXpending cfg hc hrel.done.2
    rw [← ha, (h.at heq).quiet p] at hraises
    cases hraises
  · intro h before a after heq
    refine ⟨fun p => ?_, ?_⟩
    · rw [heq, List.append_cons] at h
      have hquiet := raises_run h.of_append p
      rwa [run_concat] at hquiet
    · intro p dlq n loop c rest ha hp hnone
      rw [List.nil_append] at hp hnone
      have hc : ((run cfg role before).processes p).inspecting = some c := by
        rw [hp]
        rfl
      have hpending := (h.at heq).pending ha hc
      rw [hnone] at hpending
      cases hpending

/-- Consumer `0` reads two entries and is slow to process the first one; meanwhile consumer `1`
claims both, processes them and acknowledges them. -/
def sampleOvertaking : List RedisAction :=
  let read : ℕ → List RedisAction := fun p =>
    [.pullMessages p, .xautoclaim p fun _ => false, .xautoclaim p fun _ => false, .xreadgroup p]
  let claim : ℕ → List RedisAction := fun p => [.pullMessages p, .xautoclaim p fun _ => true]
  let process : ℕ → List RedisAction := fun p => [.xpending p, .settle p acceptedStreamDelivery]
  [.publish "order-placed" samplePayload, .publish "order-placed" samplePayload] ++
    read 0 ++ [.xpending 0] ++ claim 1 ++ process 1 ++ process 1 ++
    [.settle 0 acceptedStreamDelivery, .xpending 0]

/-- When consumer `0` comes to its second entry, `pull_messages` raises. -/
theorem pullMessages_survives_counterexample :
    ¬ AtEach (fun before a _ => (run sampleRedisSettings sampleRole before).Survives
      sampleRedisSettings a) [] sampleOvertaking := by
  intro h
  have hquiet := (h.at (a := sampleOvertaking.dropLast) (e := .xpending 0) (b := []) rfl).quiet 0
  have hraises : ((step sampleRedisSettings (run sampleRedisSettings sampleRole
      sampleOvertaking.dropLast) (.xpending 0)).processes 0).raises = true := by decide +kernel
  rw [hraises] at hquiet
  cases hquiet

end Hedwig
