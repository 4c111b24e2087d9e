import Hedwig.Backends.RedisSteps
import Hedwig.Lib.Ledger

set_option relaxedAutoImplicit false
set_option autoImplicit false

/-!
# How often an entry of a Redis stream is yielded

A consumer looks up the counter of an entry long after it has claimed it, so the number that it
finds may belong to a later claim of another consumer.  The bound on the deliveries holds all the
same: each delivery of an entry gives one consumer a ticket with the value of the counter, a yield
spends a ticket, and a ticket is at most the counter that is looked up when it is spent.

## Main definitions

* `Hedwig.RedisSystem.ledger` — the tickets that were given out, those of the copies that are
  still to be inspected, and those of the messages that were yielded.
* `Hedwig.RedisSystem.yields` — the event is a yield for an entry.

## Main results

* `Hedwig.RedisSystem.Effect.balanced`, `Hedwig.RedisSystem.Effect.nodup_issued` — the ledger is
  balanced, and no ticket is given out twice.
* `Hedwig.run_bounds_deliveries` — yields and delivery attempts are bounded.
-/

namespace Hedwig

open scoped List

namespace RedisSystem

variable {cfg : RedisSettings} {s s' : RedisSystem}

/-! ## The ledger -/

/-- The token that is given out. -/
def issuedToken? : RedisEvent → Option (ℕ × (String × ℕ) × ℕ)
  | .delivered p c => some (p, token c)
  | _ => none

/-- The token that is spent. -/
def spentToken? : RedisEvent → Option (ℕ × (String × ℕ) × ℕ)
  | .yielded p ticket m => some (p, (m.stream, m.key), ticket)
  | _ => none

/-- The tokens of the deliveries, of the copies that are still to be inspected, and of the
yields. -/
def ledger (s : RedisSystem) : Ledger ℕ ((String × ℕ) × ℕ) where
  issued := s.history.filterMap issuedToken?
  held p := (s.processes p).waiting.map token
  spent := s.history.filterMap spentToken?

/-- Deliveries give out the tokens of the copies. -/
lemma filterMap_issuedToken?_delivered (p : ℕ) (received : List Copy) :
    (received.map (RedisEvent.delivered p)).filterMap issuedToken? =
      (received.map token).map (Prod.mk p) := by
  rw [List.filterMap_map, List.map_map]
  exact congrFun List.filterMap_eq_map received

/-- Deliveries spend nothing. -/
lemma filterMap_spentToken?_delivered (p : ℕ) (received : List Copy) :
    (received.map (RedisEvent.delivered p)).filterMap spentToken? = [] := by
  rw [List.filterMap_eq_nil_iff]
  intro e he
  obtain ⟨c, -, rfl⟩ := List.mem_map.mp he
  rfl

/-- Moves to the dead-letter stream neither give out nor spend a token. -/
lemma filterMap_deadLettered {events : List RedisEvent}
    (h : ∀ e ∈ events, ∃ p c n, e = .deadLettered p c n) :
    events.filterMap issuedToken? = [] ∧ events.filterMap spentToken? = [] := by
  constructor <;> rw [List.filterMap_eq_nil_iff] <;> intro e he <;>
    obtain ⟨p, c, n, rfl⟩ := h e he <;> rfl

/-- One process goes on: it is given the tokens of the copies that it receives, it spends some, and
what it spends and still has to inspect is covered. -/
lemma balanced_update (hb : s.ledger.Balanced) {p : ℕ} {q : Process} {received : List Copy}
    {spent : List ((String × ℕ) × ℕ)}
    (hprocesses : s'.processes = Function.update s.processes p q)
    (hissued : s'.ledger.issued = (received.map token).map (Prod.mk p) ++ s.ledger.issued)
    (hspent : s'.ledger.spent = spent.map (Prod.mk p) ++ s.ledger.spent)
    (hwaiting : spent ++ q.waiting.map token <+~
      received.map token ++ (s.processes p).waiting.map token) : s'.ledger.Balanced := by
  refine hb.transfer hissued hspent ?_ ?_
  · show spent ++ (s'.processes p).waiting.map token <+~ _
    rwa [hprocesses, Function.update_self]
  · intro j hj
    show (s'.processes j).waiting.map token = _
    rw [hprocesses, Function.update_of_ne hj]
    rfl

/-- A process that goes on has the tokens of copies that it had or receives. -/
lemma Follows.subperm_token {p : ℕ} {received : List Copy} {q : Process}
    (hq : s.Follows cfg p received q) :
    [] ++ q.waiting.map token <+~ received.map token ++ (s.processes p).waiting.map token := by
  obtain ⟨l, hperm, hsub⟩ := hq.waiting
  rw [← List.map_append]
  exact ⟨l.map token, hperm.map token, hsub.map token⟩

/-- **The ledger stays balanced.**  A process that fetches is given tokens, one that yields spends
a token, and otherwise tokens are at most dropped.

**Proof sketch.**  An effect changes the tokens of one process.  A fetch issues the tokens of the
copies that it gives to the process, a yield spends one that the process held, and the other effects
leave a part of them. -/
lemma Effect.balanced (h : Effect cfg s s') (hb : s.ledger.Balanced) : s'.ledger.Balanced := by
  cases h with
  | nothing => exact hb
  | publish topic payload => exact hb
  | extend p k id => exact hb
  | proceed p q hq => exact balanced_update hb rfl rfl rfl hq.subperm_token
  | fetch p s' received q hfetch hq =>
    have hhistory : (s'.deliver p received q).history =
        received.map (RedisEvent.delivered p) ++ s.history := by rw [← hfetch.history]; rfl
    refine balanced_update hb (p := p) (q := q) ?_ ?_ ?_ hq.subperm_token
    · rw [← hfetch.processes]
      rfl
    · unfold ledger
      simp only [hhistory, List.filterMap_append, filterMap_issuedToken?_delivered]
    · unfold ledger
      simp only [hhistory, List.filterMap_append, filterMap_spentToken?_delivered]
      rfl
  | yield p c timesDelivered q hcounter hle hcurrent hwaiting hc =>
    have htokens : [token c] ++ q.waiting.map token <+~
        ([] : List Copy).map token ++ (s.processes p).waiting.map token := by
      obtain ⟨l, hperm, hsub⟩ := hwaiting
      exact ⟨l.map token, hperm.map token, hsub.map token⟩
    exact balanced_update hb rfl rfl rfl htokens
  | ack p c timesDelivered d q hcurrent hmessage haccepted hq =>
    exact balanced_update hb (p := p) (q := q) rfl rfl rfl hq.subperm_token
  | transfer p target source messages events q htarget hcurrent hevents hq =>
    have hdead : ∀ e ∈ events, ∃ p c n, e = .deadLettered p c n := by
      intro e he
      obtain ⟨c, -, rfl⟩ := hevents e he
      exact ⟨p, c, _, rfl⟩
    obtain ⟨hissued, hspent⟩ := filterMap_deadLettered hdead
    refine balanced_update hb (p := p) (q := q) rfl ?_ ?_ hq.subperm_token
    · show (events ++ s.history).filterMap issuedToken? = _
      rw [List.filterMap_append, hissued]
      rfl
    · show (events ++ s.history).filterMap spentToken? = _
      rw [List.filterMap_append, hspent]
      rfl

/-- A token that was given out is of a copy that was delivered. -/
lemma exists_delivered {t : (String × ℕ) × ℕ} (h : t ∈ s.ledger.issued.map Prod.snd) :
    ∃ p c, .delivered p c ∈ s.history ∧ token c = t := by
  obtain ⟨⟨p, t⟩, hissued, rfl⟩ := List.mem_map.mp h
  obtain ⟨e, he, heq⟩ := List.mem_filterMap.mp hissued
  cases e with
  | delivered p' c =>
    obtain ⟨rfl, rfl⟩ := Prod.mk.inj (Option.some.inj heq)
    exact ⟨p', c, he, rfl⟩
  | _ => cases heq

/-- **No token is given out twice**: the counter of an entry has a new value each time it is
delivered.

**Proof sketch.**  A token is an entry with the value that its counter has when it is delivered.  A
fetch raises the counters of the entries that it returns, so the new tokens have a larger counter
than every older token of the same entry. -/
lemma Effect.nodup_issued (h : Effect cfg s s') (hs : s.Sound cfg)
    (hn : (s.ledger.issued.map Prod.snd).Nodup) : (s'.ledger.issued.map Prod.snd).Nodup := by
  cases h with
  | nothing => exact hn
  | publish | extend | proceed | yield | ack => exact hn
  | fetch p s' received q hfetch hq =>
    have hissued : (s'.deliver p received q).ledger.issued =
        (received.map token).map (Prod.mk p) ++ s.ledger.issued := by
      show (received.map (RedisEvent.delivered p) ++ s'.history).filterMap issuedToken? = _
      rw [List.filterMap_append, filterMap_issuedToken?_delivered, hfetch.history]
      rfl
    rw [hissued, List.map_append, List.map_map, List.nodup_append]
    refine ⟨?_, hn, ?_⟩
    · simpa using hfetch.nodup
    · intro t hnew t' hold heq
      subst heq
      obtain ⟨t', ht', rfl⟩ := List.mem_map.mp hnew
      obtain ⟨c, hc, rfl⟩ := List.mem_map.mp ht'
      obtain ⟨p', c', hdelivered, htoken⟩ := exists_delivered hold
      have hholds := hs.delivered p' c' hdelivered
      have hkey : c'.stream = c.stream ∧ c'.key = c.key ∧ c'.ticket = c.ticket := by
        simpa [token, and_assoc] using htoken
      have hlt := hholds.lt
      have hle := hholds.ticket_le
      rw [hkey.1, hkey.2.1] at hlt hle
      rw [hkey.2.2] at hle
      rcases (hfetch.given c hc).fresh with h | h <;> omega
  | transfer p target source messages events q htarget hcurrent hevents hq =>
    have hdead : ∀ e ∈ events, ∃ p c n, e = .deadLettered p c n := by
      intro e he
      obtain ⟨c, -, rfl⟩ := hevents e he
      exact ⟨p, c, _, rfl⟩
    show (((events ++ s.history).filterMap issuedToken?).map Prod.snd).Nodup
    rwa [List.filterMap_append, (filterMap_deadLettered hdead).1]

/-! ## Attempts -/

/-- Each yield was for a ticket that its attempt is not below, and its attempt is not above the
bound. -/
def AttemptsBounded (cfg : RedisSettings) (s : RedisSystem) : Prop :=
  ∀ p ticket m, .yielded p ticket m ∈ s.history →
    1 ≤ ticket ∧ ticket ≤ m.deliveryAttempt ∧ m.deliveryAttempt ≤ cfg.hedwigMaxDeliveryAttempts

/-- Each entry that was moved to the dead-letter stream had been delivered too often. -/
def DeadLettersExceed (cfg : RedisSettings) (s : RedisSystem) : Prop :=
  ∀ p c deliveries, .deadLettered p c deliveries ∈ s.history →
    cfg.hedwigMaxDeliveryAttempts < deliveries

/-! ## Yields of one entry -/

/-- The event is a yield of a message for this entry. -/
def yields (k : String) (id : ℕ) : RedisEvent → Bool
  | .yielded _ _ m => decide (m.stream = k ∧ m.key = id)
  | _ => false

/-- The ticket of a yield for this entry. -/
def yieldTicket? (k : String) (id : ℕ) : RedisEvent → Option ℕ
  | .yielded _ ticket m => if m.stream = k ∧ m.key = id then some ticket else none
  | _ => none

/-- A yield for the entry has a ticket. -/
lemma isSome_yieldTicket? (k : String) (id : ℕ) (e : RedisEvent) :
    (yieldTicket? k id e).isSome = yields k id e := by
  cases e with
  | yielded p ticket m => by_cases h : m.stream = k ∧ m.key = id <;> simp [yieldTicket?, yields, h]
  | _ => rfl

/-- The tickets of the yields for one entry are among the tokens that were spent. -/
lemma map_yieldTicket?_sublist (k : String) (id : ℕ) (history : List RedisEvent) :
    (history.filterMap (yieldTicket? k id)).map (Prod.mk (k, id)) <+
      (history.filterMap spentToken?).map Prod.snd := by
  induction history with
  | nil => exact .refl _
  | cons e history ih =>
    cases e with
    | yielded p ticket m =>
      rw [List.filterMap_cons_some (show spentToken? (.yielded p ticket m) = some _ from rfl)]
      by_cases h : m.stream = k ∧ m.key = id
      · obtain ⟨rfl, rfl⟩ := h
        rw [List.filterMap_cons_some
          (show yieldTicket? m.stream m.key (.yielded p ticket m) = some ticket by
            simp [yieldTicket?])]
        exact ih.cons_cons _
      · rw [List.filterMap_cons_none (by simp [yieldTicket?, h])]
        exact ih.cons _
    | _ => exact ih

/-- An entry is yielded at most as often as the bound says: its yields have spent different
tickets, and these are between `1` and the bound. -/
lemma countP_yields_le (hn : (s.ledger.spent.map Prod.snd).Nodup) (ha : s.AttemptsBounded cfg)
    (k : String) (id : ℕ) : s.history.countP (yields k id) ≤ cfg.hedwigMaxDeliveryAttempts := by
  have hnodup : (s.history.filterMap (yieldTicket? k id)).Nodup :=
    List.Nodup.of_map _ (hn.sublist (map_yieldTicket?_sublist k id s.history))
  have hbounds : ∀ x ∈ s.history.filterMap (yieldTicket? k id),
      1 ≤ x ∧ x ≤ cfg.hedwigMaxDeliveryAttempts := by
    intro x hx
    obtain ⟨e, he, hticket⟩ := List.mem_filterMap.mp hx
    cases e with
    | yielded p ticket m =>
      obtain ⟨hpos, hle, hmax⟩ := ha p ticket m he
      by_cases h : m.stream = k ∧ m.key = id
      · obtain rfl : ticket = x := by simpa [yieldTicket?, h] using hticket
        exact ⟨hpos, hle.trans hmax⟩
      · simp [yieldTicket?, h] at hticket
    | _ => cases hticket
  calc s.history.countP (yields k id)
      = s.history.countP (fun e => (yieldTicket? k id e).isSome) := by
        simp only [isSome_yieldTicket?]
    _ = (s.history.filterMap (yieldTicket? k id)).length :=
        List.length_filterMap_eq_countP.symm
    _ ≤ cfg.hedwigMaxDeliveryAttempts := length_le_of_nodup hnodup hbounds

/-! ## Runs -/

/-- At the start nothing has been delivered. -/
lemma ledger_init (role : ℕ → Role) : (init role).ledger.Balanced := by
  intro p x
  have hheld : (init role).ledger.held p = [] := by
    show (role p).start.waiting.map token = []
    cases role p <;> rfl
  rw [hheld]
  exact Nat.le_refl 0

/-- What the ledger and the history say of every run. -/
structure Bounded (cfg : RedisSettings) (s : RedisSystem) : Prop where
  balanced : s.ledger.Balanced
  nodup_issued : (s.ledger.issued.map Prod.snd).Nodup
  attempts : s.AttemptsBounded cfg
  deadLetters : s.DeadLettersExceed cfg

lemma bounded_run (role : ℕ → Role) (actions : List RedisAction) :
    (run cfg role actions).Bounded cfg := by
  refine (run_induction role ?_ ?_ actions).2
  · refine ⟨ledger_init role, List.nodup_nil, ?_, ?_⟩
    · intro p ticket m hm
      cases hm
    · intro p c deliveries hm
      cases hm
  · intro s s' hs h he
    refine ⟨he.balanced h.balanced, he.nodup_issued hs h.nodup_issued, ?_, ?_⟩
    · intro p ticket m hm
      exact (he.mem_history hs hm).elim (h.attempts p ticket m) id
    · intro p c deliveries hm
      exact (he.mem_history hs hm).elim (h.deadLetters p c deliveries) id

end RedisSystem

/-! ## The bound -/

open RedisSystem

/-- **Redis bounds the deliveries.**  In every run of any processes, each entry is yielded at most
`HEDWIG_MAX_DELIVERY_ATTEMPTS` times, by all consumers together; every message that is yielded has
a delivery attempt between `1` and that number; and an entry is moved to the dead-letter stream
only when its counter exceeds that number.

**Proof sketch.**  Every delivery gives out one token and every message that is yielded spends one.
No token is given out twice, and spent tokens have been given out, so an entry is yielded at most
once for each value of its counter; and it is yielded only for values up to the bound. -/
theorem run_bounds_deliveries (cfg : RedisSettings) (role : ℕ → Role)
    (actions : List RedisAction) :
    (∀ k id, (run cfg role actions).history.countP (yields k id) ≤
      cfg.hedwigMaxDeliveryAttempts) ∧
    (∀ p ticket m, RedisEvent.yielded p ticket m ∈ (run cfg role actions).history →
      1 ≤ m.deliveryAttempt ∧ m.deliveryAttempt ≤ cfg.hedwigMaxDeliveryAttempts) ∧
    (∀ p c deliveries, RedisEvent.deadLettered p c deliveries ∈ (run cfg role actions).history →
      cfg.hedwigMaxDeliveryAttempts < deliveries) := by
  have h : (run cfg role actions).Bounded cfg := bounded_run role actions
  refine ⟨?_, ?_, h.deadLetters⟩
  · exact countP_yields_le (h.balanced.nodup_spent h.nodup_issued) h.attempts
  · intro p ticket m hm
    obtain ⟨hpos, hle, hmax⟩ := h.attempts p ticket m hm
    exact ⟨hpos.trans hle, hmax⟩

/-- A delivery whose callback raises. -/
def failedStreamDelivery : Delivery StreamMessage where
  message := ⟨"hedwig:" ++ "order-placed", 0, samplePayload, 1⟩
  receivedAt := 0
  preProcessHook := .ok ()
  extensions := []
  processMessage := .error (.new .runtimeError "failed")
  heartbeat := ⟨0, .ok ()⟩
  postProcessHook := .ok ()
  ackMessage := .ok ()
  nackMessage := .ok ()

/-- A consumer fails to process the only entry three times, and then moves it to the dead-letter
stream. -/
def sampleRetries : List RedisAction :=
  let claim : RedisAction := .xautoclaim 0 fun _ => true
  let finish : RedisAction := .finishPull 0 0 ⟨0, .ok ()⟩
  let retry := [.pullMessages 0, claim, .xpending 0, .settle 0 failedStreamDelivery, claim,
    .xreadgroup 0, finish]
  [.publish "order-placed" samplePayload, .pullMessages 0, claim, claim, .xreadgroup 0,
    .xpending 0, .settle 0 failedStreamDelivery, finish] ++ retry ++ retry ++
    [.pullMessages 0, claim, .xpending 0, .deadLetter 0, claim, .xreadgroup 0, finish]

/-- The theorem at a run in which the bound is met: the only entry is yielded three times, and
moved to the dead-letter stream at its fourth delivery. -/
theorem run_bounds_deliveries_sample :
    ((run sampleRedisSettings sampleRole sampleRetries).history.countP
      (yields ("hedwig:" ++ "order-placed") 0) = 3) ∧
    (∀ k id, (run sampleRedisSettings sampleRole sampleRetries).history.countP (yields k id) ≤ 3) ∧
    (∀ p ticket m, RedisEvent.yielded p ticket m ∈
        (run sampleRedisSettings sampleRole sampleRetries).history →
      1 ≤ m.deliveryAttempt ∧ m.deliveryAttempt ≤ 3) ∧
    (∀ p c deliveries, RedisEvent.deadLettered p c deliveries ∈
        (run sampleRedisSettings sampleRole sampleRetries).history →
      3 < deliveries) :=
  ⟨by decide +kernel,
    run_bounds_deliveries sampleRedisSettings sampleRole sampleRetries⟩

end Hedwig
