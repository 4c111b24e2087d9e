import Mathlib.Data.List.Infix
import Mathlib.Data.List.Nodup
import Mathlib.Data.List.Range

set_option relaxedAutoImplicit false
set_option autoImplicit false

/-!
# Streams with a consumer group

An append-only stream, and one consumer group that reads it: which entries the group has been
given, which of them are pending and for whom, and how often each was delivered.  The commands are
those of Redis on a stream that is never trimmed.

## Main definitions

* `GroupStream` — a stream with its group.
* `GroupStream.xadd`, `GroupStream.xreadgroup`, `GroupStream.xautoclaim`,
  `GroupStream.xclaimJustid`, `GroupStream.xack`, `GroupStream.timesDelivered?` — the commands.
* `GroupStream.Live` — an entry that the group still has to deal with.
* `GroupStream.Done` — an entry that the group has dealt with.
* `GroupStream.Command` — one command that acknowledges nothing.
* `GroupStream.liveIds`, `GroupStream.entriesAt` — what the group still has to deal with, in order.
* `GroupStream.Extends`, `GroupStream.Retains` — what a later state keeps of an earlier one.

## Main results

* `GroupStream.Extends.trans`, `GroupStream.Retains.trans` — runs of commands.
* `GroupStream.retains_xadd`, `GroupStream.retains_xreadgroup`, `GroupStream.retains_xautoclaim`,
  `GroupStream.retains_xclaimJustid`, `GroupStream.extends_xack` — each command.
* `GroupStream.Command.isSome_pending`, `GroupStream.Command.done` — what is pending stays so, and
  what has been dealt with is never given out again.
* `GroupStream.liveIds_xreadgroup`, `GroupStream.liveIds_xack_take` — reading leaves everything to
  be done, and acknowledging the first entries leaves the others.

## Design

The id of an entry is its position in the stream.  Time is not modelled: which pending entries
have been idle for long enough is an argument of `xautoclaim`.  The counter of an entry is kept
after its acknowledgement, when no command reads it any more.
-/

/-- A stream of entries with a consumer group. -/
structure GroupStream (ε κ : Type) where
  /-- The entries, in the order of their ids. -/
  entries : List ε
  /-- The entries before this one have been delivered to some consumer. -/
  lastDelivered : ℕ
  /-- The consumer for which an entry is pending. -/
  pending : ℕ → Option κ
  /-- How often an entry was delivered. -/
  deliveries : ℕ → ℕ
  lastDelivered_le : lastDelivered ≤ entries.length
  pending_lt : ∀ id, (pending id).isSome = true → id < lastDelivered
  deliveries_pos : ∀ id, id < lastDelivered → 0 < deliveries id

namespace GroupStream

variable {ε κ : Type}

/-- A new stream with a new group. -/
def empty : GroupStream ε κ where
  entries := []
  lastDelivered := 0
  pending _ := none
  deliveries _ := 0
  lastDelivered_le := Nat.le_refl 0
  pending_lt := by simp
  deliveries_pos := by simp

/-! ## The commands -/

/-- `XADD`. -/
def xadd (s : GroupStream ε κ) (e : ε) : GroupStream ε κ where
  entries := s.entries ++ [e]
  lastDelivered := s.lastDelivered
  pending := s.pending
  deliveries := s.deliveries
  lastDelivered_le := by
    have := s.lastDelivered_le
    rw [List.length_append]
    omega
  pending_lt := s.pending_lt
  deliveries_pos := s.deliveries_pos

/-- `XADD` for one entry after the other. -/
def xaddAll (s : GroupStream ε κ) (es : List ε) : GroupStream ε κ := es.foldl xadd s

/-- The entries that `XREADGROUP` with `>` delivers next. -/
def undelivered (s : GroupStream ε κ) (count : ℕ) : List ℕ :=
  List.range' s.lastDelivered (min count (s.entries.length - s.lastDelivered))

lemma mem_undelivered {s : GroupStream ε κ} {count id : ℕ} :
    id ∈ s.undelivered count ↔
      s.lastDelivered ≤ id ∧ id < s.lastDelivered + (s.undelivered count).length := by
  simp [undelivered, List.mem_range'_1]

lemma length_undelivered_le (s : GroupStream ε κ) (count : ℕ) :
    s.lastDelivered + (s.undelivered count).length ≤ s.entries.length := by
  have := s.lastDelivered_le
  simp only [undelivered, List.length_range']
  omega

/-- `XREADGROUP` with `>`: the next entries become pending for the consumer, delivered once. -/
def xreadgroup (s : GroupStream ε κ) (consumer : κ) (count : ℕ) : GroupStream ε κ where
  entries := s.entries
  lastDelivered := s.lastDelivered + (s.undelivered count).length
  pending id := if id ∈ s.undelivered count then some consumer else s.pending id
  deliveries id := if id ∈ s.undelivered count then 1 else s.deliveries id
  lastDelivered_le := s.length_undelivered_le count
  pending_lt id h := by
    by_cases hid : id ∈ s.undelivered count
    · exact (mem_undelivered.mp hid).2
    · rw [if_neg hid] at h
      have := s.pending_lt id h
      omega
  deliveries_pos id h := by
    by_cases hid : id ∈ s.undelivered count
    · rw [if_pos hid]
      omega
    · rw [if_neg hid]
      apply s.deliveries_pos
      rw [mem_undelivered] at hid
      omega

/-- The entries that `XAUTOCLAIM` from `0-0` claims: it scans the pending entries in order, at
most ten times as many as it may claim, for those that are idle. -/
def claimable (s : GroupStream ε κ) (idle : ℕ → Bool) (count : ℕ) : List ℕ :=
  ((((List.range s.lastDelivered).filter fun id => (s.pending id).isSome).take
    (10 * count)).filter idle).take count

lemma pending_of_mem_claimable {s : GroupStream ε κ} {idle : ℕ → Bool} {count id : ℕ}
    (h : id ∈ s.claimable idle count) : (s.pending id).isSome = true := by
  have h₁ := List.mem_of_mem_filter (List.mem_of_mem_take h)
  exact (List.mem_filter.mp (List.mem_of_mem_take h₁)).2

lemma nodup_claimable (s : GroupStream ε κ) (idle : ℕ → Bool) (count : ℕ) :
    (s.claimable idle count).Nodup := by
  unfold claimable
  have h := (List.nodup_range (n := s.lastDelivered)).filter fun id => (s.pending id).isSome
  exact ((h.sublist (List.take_sublist _ _)).filter _).sublist (List.take_sublist _ _)

/-- `XAUTOCLAIM` from `0-0`: the entries become pending for the consumer, and count as delivered
once more. -/
def xautoclaim (s : GroupStream ε κ) (consumer : κ) (idle : ℕ → Bool) (count : ℕ) :
    GroupStream ε κ where
  entries := s.entries
  lastDelivered := s.lastDelivered
  pending id := if id ∈ s.claimable idle count then some consumer else s.pending id
  deliveries id := if id ∈ s.claimable idle count then s.deliveries id + 1 else s.deliveries id
  lastDelivered_le := s.lastDelivered_le
  pending_lt id h := by
    by_cases hid : id ∈ s.claimable idle count
    · exact s.pending_lt id (pending_of_mem_claimable hid)
    · rw [if_neg hid] at h
      exact s.pending_lt id h
  deliveries_pos id h := by
    have := s.deliveries_pos id h
    split_ifs <;> omega

/-- `XCLAIM` with `JUSTID` and no idle time: a pending entry becomes pending for the consumer, and
its counter stays. -/
def xclaimJustid (s : GroupStream ε κ) (consumer : κ) (id : ℕ) : GroupStream ε κ where
  entries := s.entries
  lastDelivered := s.lastDelivered
  pending i := if i = id then (s.pending i).map fun _ => consumer else s.pending i
  deliveries := s.deliveries
  lastDelivered_le := s.lastDelivered_le
  pending_lt i h := by
    apply s.pending_lt
    split_ifs at h
    · simpa using h
    · exact h
  deliveries_pos := s.deliveries_pos

/-- `XACK`. -/
def xack (s : GroupStream ε κ) (ids : List ℕ) : GroupStream ε κ where
  entries := s.entries
  lastDelivered := s.lastDelivered
  pending id := if id ∈ ids then none else s.pending id
  deliveries := s.deliveries
  lastDelivered_le := s.lastDelivered_le
  pending_lt id h := by
    apply s.pending_lt
    split_ifs at h
    · simp at h
    · exact h
  deliveries_pos := s.deliveries_pos

/-- `times_delivered` of the reply to `XPENDING` for one entry, `none` if the reply is empty. -/
def timesDelivered? (s : GroupStream ε κ) (id : ℕ) : Option ℕ :=
  (s.pending id).map fun _ => s.deliveries id

/-- A reply to `XPENDING` has the counter of the entry. -/
lemma timesDelivered?_eq_some {s : GroupStream ε κ} {id n : ℕ}
    (h : s.timesDelivered? id = some n) : s.deliveries id = n := by
  unfold timesDelivered? at h
  cases hp : s.pending id with
  | none => simp [hp] at h
  | some k => simpa [hp] using h

/-- There is a reply only for an entry that is pending. -/
lemma isSome_pending_of_timesDelivered? {s : GroupStream ε κ} {id n : ℕ}
    (h : s.timesDelivered? id = some n) : (s.pending id).isSome = true := by
  obtain ⟨k, hpending, -⟩ := Option.map_eq_some_iff.mp h
  rw [hpending]
  rfl

/-- The reply to `XPENDING` is empty for an entry that is not pending. -/
lemma timesDelivered?_eq_none_iff {s : GroupStream ε κ} {id : ℕ} :
    s.timesDelivered? id = none ↔ s.pending id = none := Option.map_eq_none_iff

/-! ## What a later state keeps -/

/-- The stream grows at its end, and neither the group's position nor the counter of a delivered
entry goes back. -/
structure Extends (s s' : GroupStream ε κ) : Prop where
  entries : s.entries <+: s'.entries
  lastDelivered : s.lastDelivered ≤ s'.lastDelivered
  deliveries : ∀ id, id < s.lastDelivered → s.deliveries id ≤ s'.deliveries id

/-- The entry is in the stream, and not delivered or pending. -/
def Live (s : GroupStream ε κ) (id : ℕ) (e : ε) : Prop :=
  s.entries[id]? = some e ∧ (s.lastDelivered ≤ id ∨ (s.pending id).isSome = true)

/-- A later state in which no live entry has been dealt with. -/
structure Retains (s s' : GroupStream ε κ) : Prop extends Extends s s' where
  live : ∀ id e, s.Live id e → s'.Live id e

section

variable {s s' s'' : GroupStream ε κ}

lemma Extends.refl (s : GroupStream ε κ) : s.Extends s :=
  ⟨List.prefix_rfl, Nat.le_refl _, fun _ _ => Nat.le_refl _⟩

lemma Extends.trans (h : s.Extends s') (h' : s'.Extends s'') : s.Extends s'' where
  entries := h.entries.trans h'.entries
  lastDelivered := h.lastDelivered.trans h'.lastDelivered
  deliveries id hid :=
    (h.deliveries id hid).trans (h'.deliveries id (hid.trans_le h.lastDelivered))

/-- Entries stay where they are. -/
lemma Extends.getElem? (h : s.Extends s') {id : ℕ} {e : ε} (he : s.entries[id]? = some e) :
    s'.entries[id]? = some e := by
  obtain ⟨tail, htail⟩ := h.entries
  obtain ⟨hlt, -⟩ := List.getElem?_eq_some_iff.mp he
  rw [← htail, List.getElem?_append_left hlt, he]

lemma Retains.refl (s : GroupStream ε κ) : s.Retains s := ⟨.refl s, fun _ _ h => h⟩

lemma Retains.trans (h : s.Retains s') (h' : s'.Retains s'') : s.Retains s'' :=
  ⟨h.toExtends.trans h'.toExtends, fun id e hl => h'.live id e (h.live id e hl)⟩

end

section

variable (s : GroupStream ε κ) (consumer : κ)

lemma retains_xadd (e : ε) : s.Retains (s.xadd e) where
  entries := List.prefix_append _ _
  lastDelivered := Nat.le_refl _
  deliveries _ _ := Nat.le_refl _
  live id e' h := by
    obtain ⟨hlt, -⟩ := List.getElem?_eq_some_iff.mp h.1
    refine ⟨?_, h.2⟩
    rw [← h.1]
    exact List.getElem?_append_left hlt

/-- An added entry is live. -/
lemma live_xadd (e : ε) : (s.xadd e).Live s.entries.length e :=
  ⟨by simp [xadd], .inl s.lastDelivered_le⟩

/-- Adding entries, by induction on them. -/
lemma retains_xaddAll (es : List ε) : s.Retains (s.xaddAll es) := by
  induction es generalizing s with
  | nil => exact .refl s
  | cons e es ih => exact (s.retains_xadd e).trans (ih _)

/-- Each of the added entries is live, at the end of the stream. -/
lemma live_xaddAll {es : List ε} {e : ε} (h : e ∈ es) :
    ∃ id, s.entries.length ≤ id ∧ (s.xaddAll es).Live id e := by
  induction es generalizing s with
  | nil => cases h
  | cons e' es ih =>
    rcases List.mem_cons.mp h with rfl | htail
    · exact ⟨_, Nat.le_refl _, ((s.xadd e).retains_xaddAll es).live _ _ (s.live_xadd e)⟩
    · obtain ⟨id, hle, hlive⟩ := ih (s.xadd e') htail
      refine ⟨id, ?_, hlive⟩
      rw [xadd, List.length_append] at hle
      omega

lemma retains_xreadgroup (count : ℕ) : s.Retains (s.xreadgroup consumer count) where
  entries := List.prefix_rfl
  lastDelivered := Nat.le_add_right _ _
  deliveries id hid := by
    have hn : id ∉ s.undelivered count := by
      rw [mem_undelivered]
      omega
    show s.deliveries id ≤ if id ∈ s.undelivered count then 1 else s.deliveries id
    rw [if_neg hn]
  live id e h := by
    refine ⟨h.1, ?_⟩
    show _ ∨ (if id ∈ s.undelivered count then some consumer else s.pending id).isSome = true
    by_cases hid : id ∈ s.undelivered count
    · right
      rw [if_pos hid]
      rfl
    · rw [if_neg hid]
      rcases h.2 with hle | hp
      · left
        rw [mem_undelivered] at hid
        show s.lastDelivered + _ ≤ id
        omega
      · exact .inr hp

lemma retains_xautoclaim (idle : ℕ → Bool) (count : ℕ) :
    s.Retains (s.xautoclaim consumer idle count) where
  entries := List.prefix_rfl
  lastDelivered := Nat.le_refl _
  deliveries id _ := by
    show s.deliveries id ≤
      if id ∈ s.claimable idle count then s.deliveries id + 1 else s.deliveries id
    split_ifs <;> omega
  live id e h := by
    refine ⟨h.1, h.2.imp_right fun hp => ?_⟩
    show (if id ∈ s.claimable idle count then some consumer else s.pending id).isSome = true
    split_ifs
    · rfl
    · exact hp

lemma retains_xclaimJustid (id : ℕ) : s.Retains (s.xclaimJustid consumer id) where
  entries := List.prefix_rfl
  lastDelivered := Nat.le_refl _
  deliveries _ _ := Nat.le_refl _
  live i e h := by
    refine ⟨h.1, h.2.imp_right fun hp => ?_⟩
    show (if i = id then (s.pending i).map fun _ => consumer else s.pending i).isSome = true
    split_ifs
    · simpa using hp
    · exact hp

lemma extends_xack (ids : List ℕ) : s.Extends (s.xack ids) :=
  ⟨List.prefix_rfl, Nat.le_refl _, fun _ _ => Nat.le_refl _⟩

/-- Acknowledging other entries keeps an entry live. -/
lemma live_xack {ids : List ℕ} {id : ℕ} {e : ε} (h : s.Live id e) (hid : id ∉ ids) :
    (s.xack ids).Live id e := by
  refine ⟨h.1, h.2.imp_right fun hp => ?_⟩
  show (if id ∈ ids then none else s.pending id).isSome = true
  rwa [if_neg hid]

end

/-! ## Entries that have been dealt with -/

/-- The entry was delivered, and is not pending any more. -/
def Done (s : GroupStream ε κ) (id : ℕ) : Prop := id < s.lastDelivered ∧ s.pending id = none

/-- One command that acknowledges nothing, or none. -/
inductive Command : GroupStream ε κ → GroupStream ε κ → Prop
  | nothing (s : GroupStream ε κ) : Command s s
  | xaddAll (s : GroupStream ε κ) (es : List ε) : Command s (s.xaddAll es)
  | xreadgroup (s : GroupStream ε κ) (consumer : κ) (count : ℕ) :
      Command s (s.xreadgroup consumer count)
  | xautoclaim (s : GroupStream ε κ) (consumer : κ) (idle : ℕ → Bool) (count : ℕ) :
      Command s (s.xautoclaim consumer idle count)
  | xclaimJustid (s : GroupStream ε κ) (consumer : κ) (id : ℕ) :
      Command s (s.xclaimJustid consumer id)

section

variable {s s' : GroupStream ε κ} {id : ℕ}

/-- Added entries are not pending, by induction on them. -/
@[simp] lemma pending_xaddAll (s : GroupStream ε κ) (es : List ε) :
    (s.xaddAll es).pending = s.pending := by
  induction es generalizing s with
  | nil => rfl
  | cons e es ih => exact ih (s.xadd e)

@[simp] lemma lastDelivered_xaddAll (s : GroupStream ε κ) (es : List ε) :
    (s.xaddAll es).lastDelivered = s.lastDelivered := by
  induction es generalizing s with
  | nil => rfl
  | cons e es ih => exact ih (s.xadd e)

/-- The stream with the added entries at its end, by induction on them. -/
@[simp] lemma entries_xaddAll (s : GroupStream ε κ) (es : List ε) :
    (s.xaddAll es).entries = s.entries ++ es := by
  induction es generalizing s with
  | nil => simp [xaddAll]
  | cons e es ih =>
    have hrest := ih (s.xadd e)
    simpa [xaddAll, xadd] using hrest

/-- What is pending stays pending. -/
lemma Command.isSome_pending (h : s.Command s') (hid : (s.pending id).isSome = true) :
    (s'.pending id).isSome = true := by
  cases h with
  | nothing => exact hid
  | xaddAll es => rwa [pending_xaddAll]
  | xreadgroup consumer count =>
    show (if id ∈ s.undelivered count then some consumer else s.pending id).isSome = true
    split_ifs
    · rfl
    · exact hid
  | xautoclaim consumer idle count =>
    show (if id ∈ s.claimable idle count then some consumer else s.pending id).isSome = true
    split_ifs
    · rfl
    · exact hid
  | xclaimJustid consumer i =>
    show (if id = i then (s.pending id).map fun _ => consumer else s.pending id).isSome = true
    split_ifs
    · rwa [Option.isSome_map]
    · exact hid

/-- **What has been dealt with is not given out again**: `XREADGROUP` gives out later entries, and
`XAUTOCLAIM` and `XCLAIM` pending ones.

**Proof sketch.**  One case for each command.  Adding entries changes neither the pending ones nor
the last delivered id.  A read gives out ids beyond that one only, and what is claimed was pending
before. -/
lemma Command.done (h : s.Command s') (hid : s.Done id) : s'.Done id := by
  obtain ⟨hlt, hnone⟩ := hid
  cases h with
  | nothing => exact ⟨hlt, hnone⟩
  | xaddAll es =>
    refine ⟨?_, ?_⟩
    · rwa [lastDelivered_xaddAll]
    · rwa [pending_xaddAll]
  | xreadgroup consumer count =>
    have hid : id ∉ s.undelivered count := by
      rw [mem_undelivered]
      omega
    refine ⟨hlt.trans_le (Nat.le_add_right _ _), ?_⟩
    show (if id ∈ s.undelivered count then some consumer else s.pending id) = none
    rw [if_neg hid, hnone]
  | xautoclaim consumer idle count =>
    have hid : id ∉ s.claimable idle count := by
      intro hid
      have hpending := pending_of_mem_claimable hid
      rw [hnone] at hpending
      cases hpending
    refine ⟨hlt, ?_⟩
    show (if id ∈ s.claimable idle count then some consumer else s.pending id) = none
    rw [if_neg hid, hnone]
  | xclaimJustid consumer i =>
    refine ⟨hlt, ?_⟩
    show (if id = i then (s.pending id).map fun _ => consumer else s.pending id) = none
    rw [hnone, Option.map_none, ite_self]

/-- Acknowledging deals with entries, and undoes nothing. -/
lemma done_xack (ids : List ℕ) (h : s.Done id ∨ id ∈ ids ∧ id < s.lastDelivered) :
    (s.xack ids).Done id := by
  have hpending : (s.xack ids).pending id = if id ∈ ids then none else s.pending id := rfl
  rcases h with ⟨hlt, hnone⟩ | ⟨hmem, hlt⟩
  · refine ⟨hlt, ?_⟩
    rw [hpending, hnone, ite_self]
  · exact ⟨hlt, by rw [hpending, if_pos hmem]⟩

/-- Only what is acknowledged stops being pending. -/
lemma mem_of_pending_xack {ids : List ℕ} (h : (s.pending id).isSome = true)
    (hnone : (s.xack ids).pending id = none) : id ∈ ids := by
  by_contra hid
  have hpending : (s.xack ids).pending id = s.pending id := if_neg hid
  rw [← hpending, hnone] at h
  cases h

end

/-! ## What is left to be done -/

/-- The pending entries, in order. -/
def pendingIds (s : GroupStream ε κ) : List ℕ :=
  (List.range s.lastDelivered).filter fun id => (s.pending id).isSome

/-- The entries that have not been delivered, in order. -/
def undeliveredIds (s : GroupStream ε κ) : List ℕ :=
  List.range' s.lastDelivered (s.entries.length - s.lastDelivered)

/-- The entries that the group still has to deal with, in order. -/
def liveIds (s : GroupStream ε κ) : List ℕ := s.pendingIds ++ s.undeliveredIds

/-- The entries with these ids. -/
def entriesAt (s : GroupStream ε κ) (ids : List ℕ) : List ε := ids.filterMap (s.entries[·]?)

/-- The entries that the group still has to deal with. -/
def liveEntries (s : GroupStream ε κ) : List ε := s.entriesAt s.liveIds

section

variable (s : GroupStream ε κ)

/-- Each live entry is listed. -/
lemma mem_liveIds {id : ℕ} : id ∈ s.liveIds ↔ ∃ e, s.Live id e := by
  have hle := s.lastDelivered_le
  simp only [liveIds, pendingIds, undeliveredIds, Live, List.mem_append, List.mem_filter,
    List.mem_range, List.mem_range'_1]
  constructor
  · intro h
    have hlt : id < s.entries.length := by omega
    refine ⟨s.entries[id], List.getElem?_eq_getElem hlt, ?_⟩
    rcases h with h | h
    · exact .inr h.2
    · exact .inl h.1
  · rintro ⟨e, he, h⟩
    obtain ⟨hlt, -⟩ := List.getElem?_eq_some_iff.mp he
    rcases h with h | h
    · right
      omega
    · exact .inl ⟨s.pending_lt id h, h⟩

/-- Every listed entry is in the stream. -/
lemma lt_of_mem_liveIds {id : ℕ} (h : id ∈ s.liveIds) : id < s.entries.length := by
  obtain ⟨e, he, -⟩ := s.mem_liveIds.mp h
  exact (List.getElem?_eq_some_iff.mp he).1

lemma nodup_pendingIds : s.pendingIds.Nodup := List.nodup_range.filter _

/-- `XAUTOCLAIM` without idle time claims the first pending entries. -/
lemma claimable_true (count : ℕ) :
    s.claimable (fun _ => true) count = s.pendingIds.take count := by
  have hmin : min count (10 * count) = count := by omega
  rw [claimable, List.filter_true, List.take_take, hmin]
  rfl

/-- `XREADGROUP` delivers the first undelivered entries. -/
lemma undelivered_eq_take (count : ℕ) : s.undelivered count = s.undeliveredIds.take count := by
  refine List.ext_getElem (by simp [undelivered, undeliveredIds]) fun i _ _ => ?_
  simp [undelivered, undeliveredIds]

/-- Claiming entries changes nothing about which are left. -/
lemma pendingIds_xautoclaim (consumer : κ) (idle : ℕ → Bool) (count : ℕ) :
    (s.xautoclaim consumer idle count).pendingIds = s.pendingIds := by
  refine List.filter_congr fun id _ => ?_
  show (if id ∈ s.claimable idle count then some consumer else s.pending id).isSome = _
  by_cases hid : id ∈ s.claimable idle count
  · rw [if_pos hid, pending_of_mem_claimable hid]
    rfl
  · rw [if_neg hid]

/-- Delivered entries become the last pending ones. -/
lemma pendingIds_xreadgroup (consumer : κ) (count : ℕ) :
    (s.xreadgroup consumer count).pendingIds = s.pendingIds ++ s.undelivered count := by
  have hpending : ∀ id, ((s.xreadgroup consumer count).pending id).isSome =
      (decide (id ∈ s.undelivered count) || (s.pending id).isSome) := by
    intro id
    show (if id ∈ s.undelivered count then some consumer else s.pending id).isSome = _
    by_cases hid : id ∈ s.undelivered count <;> simp [hid]
  have hrange : List.range (s.lastDelivered + (s.undelivered count).length) =
      List.range s.lastDelivered ++ s.undelivered count := by
    have hstart : 0 + s.lastDelivered = s.lastDelivered := by omega
    rw [List.range_eq_range', List.range_eq_range', undelivered, List.length_range', ←
      List.range'_append_1, hstart]
  show (List.range (s.lastDelivered + (s.undelivered count).length)).filter _ = _
  rw [hrange, List.filter_append]
  congr 1
  · refine List.filter_congr fun id hid => ?_
    have hnot : id ∉ s.undelivered count := by
      rw [mem_undelivered]
      have := List.mem_range.mp hid
      omega
    simp [hpending, hnot]
  · refine List.filter_eq_self.mpr fun id hid => ?_
    simp [hpending, hid]

/-- Delivered entries are no longer undelivered. -/
lemma undeliveredIds_xreadgroup (consumer : κ) (count : ℕ) :
    (s.xreadgroup consumer count).undeliveredIds = s.undeliveredIds.drop count := by
  have hlast : (s.xreadgroup consumer count).lastDelivered =
      s.lastDelivered + min count (s.entries.length - s.lastDelivered) := by
    simp [xreadgroup, undelivered]
  have hentries : (s.xreadgroup consumer count).entries = s.entries := rfl
  rw [undeliveredIds, undeliveredIds, hlast, hentries, List.drop_range']
  by_cases hcount : count ≤ s.entries.length - s.lastDelivered
  · have hmin : min count (s.entries.length - s.lastDelivered) = count := by omega
    rw [hmin, Nat.mul_one, Nat.sub_add_eq]
  · have hmin : s.entries.length - (s.lastDelivered + min count
        (s.entries.length - s.lastDelivered)) = 0 := by omega
    have hnone : s.entries.length - s.lastDelivered - count = 0 := by omega
    rw [hmin, hnone, List.range'_zero, List.range'_zero]

/-- Acknowledged entries are not pending any more. -/
lemma pendingIds_xack (ids : List ℕ) :
    (s.xack ids).pendingIds = s.pendingIds.filter (· ∉ ids) := by
  rw [pendingIds, pendingIds, List.filter_filter]
  refine List.filter_congr fun id _ => ?_
  show (if id ∈ ids then none else s.pending id).isSome = _
  by_cases hid : id ∈ ids <;> simp [hid]

/-- Reading entries changes nothing about which are left. -/
lemma liveIds_xreadgroup (consumer : κ) (count : ℕ) :
    (s.xreadgroup consumer count).liveIds = s.liveIds := by
  rw [liveIds, pendingIds_xreadgroup, undeliveredIds_xreadgroup, undelivered_eq_take,
    List.append_assoc, List.take_append_drop, liveIds]

/-- Acknowledging the first pending entries. -/
lemma pendingIds_xack_take (n : ℕ) :
    (s.xack (s.pendingIds.take n)).pendingIds = s.pendingIds.drop n := by
  have hsplit := List.take_append_drop n s.pendingIds
  have hdisjoint := s.nodup_pendingIds
  rw [← hsplit, List.nodup_append] at hdisjoint
  have hfirst : (s.pendingIds.take n).filter (· ∉ s.pendingIds.take n) = [] :=
    List.filter_eq_nil_iff.mpr fun id hid => by simpa using hid
  have hrest : (s.pendingIds.drop n).filter (· ∉ s.pendingIds.take n) = s.pendingIds.drop n :=
    List.filter_eq_self.mpr fun id hid => by
      simpa using fun hmem => hdisjoint.2.2 id hmem id hid rfl
  calc (s.xack (s.pendingIds.take n)).pendingIds
      = (s.pendingIds.take n ++ s.pendingIds.drop n).filter (· ∉ s.pendingIds.take n) := by
        rw [pendingIds_xack, hsplit]
    _ = s.pendingIds.drop n := by rw [List.filter_append, hfirst, hrest, List.nil_append]

/-- Dealing with the first pending entries leaves the others. -/
lemma liveIds_xack_take {n : ℕ} (hn : n ≤ s.pendingIds.length) :
    (s.xack (s.pendingIds.take n)).liveIds = s.liveIds.drop n := by
  have hundelivered : (s.xack (s.pendingIds.take n)).undeliveredIds = s.undeliveredIds := rfl
  rw [liveIds, pendingIds_xack_take, hundelivered, liveIds, List.drop_append_of_le_length hn]

end

end GroupStream
