import Botmev.Hyperliquid.Subscriptions

/-!
# The discipline of subscriptions

The exchange should get three requests for a subscription at most, and none after it has confirmed it.
What is sent again is not confirmed and was requested less than three times. The first requests of a
connection are sent without looking, one for each time the coin is listed, and the configuration may
list a coin as often as it likes.

## What is proved

* `sends_forEach`: a loop sends some of the requests that it is for, in their order.
* `governed_runMessageLoop`: on a connection, what was sent and confirmed is recorded, nothing is
  requested after it was confirmed, and the attempts of a coin are three at most, or as many as it is
  listed.
* `subscribe_reliable`: over a network that never fails, all the first requests are sent.
* `alwaysDisciplined_iff`: the discipline is kept on every connection just where no coin is listed more
  than three times.
-/

namespace Botmev.Hyperliquid

open Botmev.Rust Botmev.Library

namespace Connection

/-- **The discipline**: no more than three requests for a subscription, and none after it is confirmed. -/
structure Disciplined (log : List Notice) : Prop where
  /-- "Max 3 attempts". -/
  atMostThree : ∀ coin subscriptionType, log.count (.requested coin subscriptionType) ≤ 3
  /-- None after its confirmation. -/
  noneAfter : log.Pairwise fun earlier later => ∀ coin subscriptionType,
    earlier = .confirmed coin subscriptionType → later ≠ .requested coin subscriptionType

/-- **Some of the requests are sent**, in their order. -/
inductive Sends : List (String × String) → Connection → Connection → Prop where
  /-- There is none. -/
  | nil (connection : Connection) : Sends [] connection connection
  /-- One is not sent. -/
  | skip {request : String × String} {requests : List (String × String)} {before after : Connection} :
      Sends requests before after → Sends (request :: requests) before after
  /-- One is sent. -/
  | send {coin subscriptionType : String} {requests : List (String × String)}
      {before between after : Connection} : Requests coin subscriptionType before between →
      Sends requests between after → Sends ((coin, subscriptionType) :: requests) before after

variable {fromStr : String → Except String Value} {network : ℕ → SendOutcome}
  {requests requests' : List (String × String)} {before between after connection : Connection}

/-! ### Sending some -/

theorem Sends.none (requests : List (String × String)) (connection : Connection) :
    Sends requests connection connection := by
  induction requests with
  | nil => exact .nil connection
  | cons request requests ih => exact .skip ih

theorem Sends.append (h : Sends requests before between) (h' : Sends requests' between after) :
    Sends (requests ++ requests') before after := by
  induction h with
  | nil => exact h'
  | skip _ ih => exact .skip (ih h')
  | send hrequest _ ih => exact .send hrequest (ih h')

theorem Sends.keeps (h : Sends requests before after) : Keeps before after := by
  induction h with
  | nil connection => exact .refl connection
  | skip _ ih => exact ih
  | send hrequest _ ih => exact hrequest.keeps.trans ih

theorem Sends.attempts_le (h : Sends requests before after) (k t : String) :
    after.attempts k t ≤ before.attempts k t + requests.count (k, t) := by
  induction h with
  | nil => exact Nat.le_add_right _ _
  | skip _ ih => exact Nat.le_trans ih (Nat.add_le_add_left List.count_le_count_cons _)
  | @send coin subscriptionType requests before between after hrequest _ ih =>
    by_cases heq : (k, t) = (coin, subscriptionType)
    · obtain ⟨rfl, rfl⟩ := Prod.mk.inj heq
      rw [hrequest.attempts_eq] at ih
      rw [List.count_cons_self]
      omega
    · rw [hrequest.attempts_of_ne k t heq] at ih
      rwa [List.count_cons_of_ne (Ne.symm heq)]

theorem Sends.sent_le (h : Sends requests before after) (k t : String) : before.sent k t ≤ after.sent k t := by
  induction h with
  | nil => exact Nat.le_refl _
  | skip _ ih => exact ih
  | send hrequest _ ih =>
    refine Nat.le_trans ?_ ih
    rcases hrequest.log_eq with hlog | hlog
    · rw [sent, sent, hlog]
    · rw [sent, sent, hlog, List.count_append]
      exact Nat.le_add_right _ _

/-! ### The loops -/

theorem sends_andThen {r : Result Unit × Connection} {f : Connection → Result Unit × Connection}
    (h : Sends requests connection r.2) (hf : Sends requests' r.2 (f r.2).2) :
    Sends (requests ++ requests') connection (andThen f r).2 := by
  rcases snd_andThen f r with heq | heq
  · rw [heq]
    exact h.append (.none _ _)
  · rw [heq]
    exact h.append hf

/-- **A loop sends some of the requests** that its steps may send. -/
theorem sends_forEach {α : Type} {f : α → Connection → Result Unit × Connection}
    {of : α → List (String × String)} {as : List α}
    (hstep : ∀ a ∈ as, ∀ c, Keeps connection c → Sends (of a) c (f a c).2) :
    Sends (as.flatMap of) connection (forEach f as connection).2 := by
  have hall : ∀ c, Keeps connection c → Sends (as.flatMap of) c (forEach f as c).2 := by
    induction as with
    | nil => exact fun c _ => .nil c
    | cons a as ih =>
      intro c hkeeps
      rw [List.forall_mem_cons] at hstep
      have hfirst : Sends (of a) c (logged (f a c)).2 := by
        rw [snd_logged]
        exact hstep.1 c hkeeps
      exact sends_andThen hfirst (ih hstep.2 _ (hkeeps.trans hfirst.keeps))
  exact hall connection (.refl connection)

variable (network) in
theorem sends_sendSubscription {coin subscriptionType : String}
    (hcoin : coin ∈ connection.service.subscriptionStates) (htype : subscriptionType ∈ subscriptionTypes) :
    Sends [(coin, subscriptionType)] connection (sendSubscription network coin subscriptionType connection).2 := by
  rcases sendSubscription_cases network hcoin htype with ⟨⟨failure, h⟩, -⟩ | ⟨h, -⟩
  · rw [h]
    exact .none _ _
  · exact .send h (.nil _)

/-- What a pair asks for. -/
def wanted (pair : TradingPair) : List (String × String) :=
  (if pair.subscribeTrades then [(pair.coin, "trades")] else []) ++
    if pair.subscribeOrderbook then [(pair.coin, "l2Book")] else []

variable (network) in
theorem sends_subscribeWithRetry {pair : TradingPair}
    (hcoin : pair.coin ∈ connection.service.subscriptionStates) :
    Sends (wanted pair) connection (subscribeWithRetry network pair connection).2 := by
  have hflag : ∀ (flag : Bool) (t : String) (c : Connection), t ∈ subscriptionTypes → Keeps connection c →
      Sends (if flag then [(pair.coin, t)] else []) c
        (if flag then sendSubscription network pair.coin t c else (.ok (), c)).2 := by
    intro flag t c ht hkeeps
    cases flag with
    | false => exact .nil c
    | true => exact sends_sendSubscription network ((hkeeps.mem_iff _).mpr hcoin) ht
  have htrades := hflag pair.subscribeTrades "trades" connection List.mem_cons_self (.refl connection)
  exact sends_andThen htrades
    (hflag pair.subscribeOrderbook "l2Book" _ (List.mem_cons_of_mem _ List.mem_cons_self) htrades.keeps)

variable (network) in
/-- **The first requests** of a connection are some of what the pairs ask for. -/
theorem sends_subscribe {pairs : List TradingPair}
    (hcoins : ∀ pair ∈ pairs, pair.coin ∈ connection.service.subscriptionStates) :
    Sends (pairs.flatMap wanted) connection (forEach (subscribeWithRetry network) pairs connection).2 :=
  sends_forEach fun pair hpair _ hkeeps =>
    sends_subscribeWithRetry network ((hkeeps.mem_iff _).mpr (hcoins pair hpair))

variable (network connection) in
/-- **A tick** sends some of what is to be sent again. -/
theorem sends_retry (order : List String) (clock : String → String → Instant) :
    Sends (toRetry connection.service.subscriptionStates clock order) connection
      (retryFailedSubscriptions network order clock connection).2 := by
  have h : Sends ((toRetry connection.service.subscriptionStates clock order).flatMap fun request => [request])
      connection (retryFailedSubscriptions network order clock connection).2 := by
    refine sends_forEach ?_
    rintro ⟨coin, t⟩ hmem c hkeeps
    obtain ⟨hcoin, ht, -⟩ := of_mem_toRetry hmem
    exact sends_sendSubscription network ((hkeeps.mem_iff _).mpr hcoin) ht
  rwa [List.flatMap_singleton'] at h

/-! ### What is recorded -/

/-- **What was sent and confirmed is recorded**, and nothing was requested after it was confirmed. -/
structure Recorded (connection : Connection) : Prop where
  /-- What was sent is among the attempts. -/
  sent_le : ∀ k t, connection.sent k t ≤ connection.attempts k t
  /-- What was confirmed is recorded, if it is of a subscription that there is. -/
  confirmed_of_mem : ∀ k t, .confirmed k t ∈ connection.log → k ∈ connection.service.subscriptionStates →
    t ∈ subscriptionTypes → connection.confirmed k t = true
  /-- Nothing was requested after it was confirmed. -/
  noneAfter : connection.log.Pairwise fun earlier later => ∀ k t,
    earlier = .confirmed k t → later ≠ .requested k t

theorem Recorded.request {k t : String} (h : Recorded before) (hrequest : Requests k t before after)
    (hnot : .confirmed k t ∉ before.log) : Recorded after := by
  obtain ⟨hsent, hconfirmed, hafter⟩ := h
  refine ⟨fun k' t' => ?_, fun k' t' hmem hk ht => ?_, ?_⟩
  · have hsent := hsent k' t'
    by_cases heq : (k', t') = (k, t)
    · obtain ⟨rfl, rfl⟩ := Prod.mk.inj heq
      rw [hrequest.attempts_eq]
      rcases hrequest.log_eq with hlog | hlog
      · rw [sent, hlog]
        exact Nat.le_succ_of_le hsent
      · rw [sent, hlog, List.count_append, List.count_singleton_self]
        exact Nat.succ_le_succ hsent
    · rw [hrequest.attempts_of_ne k' t' heq]
      rcases hrequest.log_eq with hlog | hlog
      · rwa [sent, hlog]
      · have hne : Notice.requested k t ≠ .requested k' t' := by
          intro h
          obtain ⟨rfl, rfl⟩ := Notice.requested.inj h
          exact heq rfl
        rwa [sent, hlog, List.count_append, List.count_cons_of_ne hne, List.count_nil, Nat.add_zero]
  · rw [hrequest.confirmed_eq]
    refine hconfirmed k' t' ?_ ((hrequest.keeps.mem_iff k').mp hk) ht
    rcases hrequest.log_eq with hlog | hlog
    · rwa [hlog] at hmem
    · simpa [hlog] using hmem
  · rcases hrequest.log_eq with hlog | hlog
    · rwa [hlog]
    · rw [hlog, List.pairwise_append]
      refine ⟨hafter, List.pairwise_singleton .., ?_⟩
      rintro earlier hmem later hlater k' t' rfl hrequested
      obtain ⟨rfl, rfl⟩ := Notice.requested.inj ((List.mem_singleton.mp hlater).symm.trans hrequested)
      exact hnot hmem

theorem Recorded.sends (h : Recorded before) (hsends : Sends requests before after)
    (hnot : ∀ k t, (k, t) ∈ requests → .confirmed k t ∉ before.log) : Recorded after := by
  induction hsends with
  | nil => exact h
  | skip _ ih => exact ih h fun k t hmem => hnot k t (List.mem_cons_of_mem _ hmem)
  | send hrequest _ ih =>
    refine ih (h.request hrequest (hnot _ _ List.mem_cons_self)) fun k t hmem hconfirmed => ?_
    refine hnot k t (List.mem_cons_of_mem _ hmem) ?_
    rcases hrequest.log_eq with hlog | hlog
    · rwa [hlog] at hconfirmed
    · simpa [hlog] using hconfirmed

theorem Recorded.confirms {message : Message} (h : Recorded before)
    (hconfirms : Confirms (confirmations fromStr message) before after) : Recorded after := by
  obtain ⟨hsent, hconfirmed, hafter⟩ := h
  have hnone : ∀ k t, .requested k t ∉ confirmations fromStr message := by
    intro k t hmem
    rcases confirmations_cases fromStr message with hc | ⟨_, _, hc⟩ <;> simp [hc] at hmem
  refine ⟨fun k t => ?_, fun k t hmem hk ht => ?_, ?_⟩
  · rw [sent, hconfirms.log_eq, List.count_append, List.count_eq_zero.mpr (hnone k t), hconfirms.attempts_eq]
    exact hsent k t
  · rw [hconfirms.log_eq, List.mem_append] at hmem
    have hk := (hconfirms.keeps.mem_iff k).mp hk
    rcases hmem with hmem | hmem
    · exact hconfirms.confirmed_of_confirmed k t (hconfirmed k t hmem hk ht)
    · exact hconfirms.confirmed_of_mem k t hmem hk ht
  · rw [hconfirms.log_eq, List.pairwise_append]
    refine ⟨hafter, ?_, ?_⟩
    · refine List.pairwise_of_forall_mem_list fun earlier _ later hlater k t _ hrequested => ?_
      exact hnone k t (hrequested ▸ hlater)
    · intro earlier _ later hlater k t _ hrequested
      exact hnone k t (hrequested ▸ hlater)

/-! ### A connection -/

variable {service start : WsService}

/-- A new connection has the pairs and the coins of the service. -/
theorem connected_mem_iff (service : WsService) (k : String) :
    k ∈ (connected service).service.subscriptionStates ↔ k ∈ service.subscriptionStates := by
  rw [← AList.lookup_isSome, ← AList.lookup_isSome, connected, Table.lookup_mapValues, Option.isSome_map]

@[simp] theorem attempts_connected (service : WsService) (k t : String) : (connected service).attempts k t = 0 := by
  simp only [attempts, connected, Table.lookup_mapValues]
  cases service.subscriptionStates.lookup k with
  | none => rfl
  | some state =>
    simp only [Option.map_some, Option.bind_some, SubscriptionState.attempts]
    split <;> rfl

theorem recorded_connected (service : WsService) : Recorded (connected service) :=
  ⟨fun _ _ => Nat.zero_le _, fun _ _ h => (List.not_mem_nil h).elim, List.Pairwise.nil⟩

/-- How often a coin is in a list of pairs. -/
def listed (pairs : List TradingPair) (coin : String) : ℕ := (pairs.map TradingPair.coin).count coin

/-- **What holds on a connection** of the service. -/
structure Governed (service : WsService) (connection : Connection) : Prop where
  /-- What was sent and confirmed is recorded. -/
  recorded : Recorded connection
  /-- The attempts of a coin are three at most, or as many as it is listed. -/
  attempts_le : ∀ k t, connection.attempts k t ≤ max 3 (listed service.subscriptions k)
  /-- The pairs and the coins are those of the service. -/
  keeps : Keeps (connected service) connection

/-- **An event** keeps that. -/
theorem Governed.step (h : Governed service connection) (event : ConnectionEvent) :
    Governed service (step fromStr network event connection).2 := by
  obtain ⟨hrecorded, hattempts, hkeeps⟩ := h
  cases event with
  | message closing message =>
    rcases step_message_cases fromStr network connection closing message
      with ⟨failure, hstep⟩ | hconfirms
    · rw [hstep]
      exact ⟨hrecorded, hattempts, hkeeps⟩
    · refine ⟨hrecorded.confirms hconfirms, fun k t => ?_, hkeeps.trans hconfirms.keeps⟩
      rw [hconfirms.attempts_eq]
      exact hattempts k t
  | retryTick order clock =>
    simp only [Connection.step]
    split
    next hperm =>
      have hsends := sends_retry network connection order clock
      refine ⟨hrecorded.sends hsends ?_, fun k t => ?_, hkeeps.trans hsends.keeps⟩
      · intro k t hmem hconfirmed
        obtain ⟨hk, ht, hnot, -⟩ := of_mem_toRetry hmem
        rw [hrecorded.confirmed_of_mem k t hconfirmed hk ht] at hnot
        cases hnot
      · have hle := hsends.attempts_le k t
        by_cases hmem : (k, t) ∈ toRetry connection.service.subscriptionStates clock order
        · -- What is sent again was requested less than three times, and it is sent once.
          obtain ⟨-, -, -, hlt⟩ := of_mem_toRetry hmem
          have hnodup := toRetry_nodup connection.service.subscriptionStates clock
            (hperm.nodup_iff.mpr (AList.keys_nodup _))
          have hone := List.nodup_iff_count_le_one.mp hnodup (k, t)
          omega
        · rw [List.count_eq_zero.mpr hmem] at hle
          exact Nat.le_trans hle (hattempts k t)
    next => exact ⟨hrecorded, hattempts, hkeeps⟩

/-- Each time a coin is listed, each of its subscriptions is requested once at most. -/
theorem count_wanted_le (pairs : List TradingPair) (k t : String) :
    (pairs.flatMap wanted).count (k, t) ≤ listed pairs k := by
  induction pairs with
  | nil => exact Nat.le_refl _
  | cons pair pairs ih =>
    have hone : (wanted pair).count (k, t) ≤ [pair.coin].count k := by
      by_cases hk : pair.coin = k
      · subst hk
        have hnodup : (wanted pair).Nodup := by
          unfold wanted
          split <;> split <;> simp
        rw [List.count_singleton_self]
        exact List.nodup_iff_count_le_one.mp hnodup _
      · have hnot : (k, t) ∉ wanted pair := by
          intro hmem
          rcases List.mem_append.mp hmem with hmem | hmem
          · split at hmem <;> simp_all
          · split at hmem <;> simp_all
        rw [List.count_eq_zero.mpr hnot]
        exact Nat.zero_le _
    rw [List.flatMap_cons, List.count_append, listed, List.map_cons, ← List.singleton_append, List.count_append]
    exact Nat.add_le_add hone ih

variable (fromStr network) in
/-- **So it holds on every connection.** -/
theorem governed_runMessageLoop (events : List ConnectionEvent)
    (hcoins : ∀ pair ∈ service.subscriptions, pair.coin ∈ service.subscriptionStates) :
    Governed service (runMessageLoop fromStr network events service).2 := by
  have hsends := sends_subscribe network fun pair hpair =>
    (connected_mem_iff service _).mpr (hcoins pair hpair)
  have hfirst : Governed service
      (forEach (subscribeWithRetry network) service.subscriptions (connected service)).2 := by
    refine ⟨(recorded_connected service).sends hsends fun _ _ _ h => (List.not_mem_nil h).elim, fun k t => ?_,
      hsends.keeps⟩
    have hle := hsends.attempts_le k t
    rw [attempts_connected, Nat.zero_add] at hle
    exact Nat.le_trans (Nat.le_trans hle (count_wanted_le _ k t)) (Nat.le_max_right _ _)
  rcases snd_andThen (forEach (step fromStr network) events)
    (forEach (subscribeWithRetry network) service.subscriptions (connected service)) with heq | heq
  · rw [runMessageLoop, heq]
    exact hfirst
  · rw [runMessageLoop, heq]
    exact forEach_preserves (fun event _ h => h.step event) events hfirst

/-! ### A network that lets everything through -/

/-- It never fails. -/
def reliable (_ : ℕ) : SendOutcome := ⟨0, .ok ()⟩

/-- Some subscription was requested more than three times. -/
def Overrun (connection : Connection) : Prop := ∃ k t, 3 < connection.sent k t

theorem Overrun.sends (h : Overrun before) (hsends : Sends requests before after) : Overrun after := by
  obtain ⟨k, t, hlt⟩ := h
  exact ⟨k, t, Nat.lt_of_lt_of_le hlt (hsends.sent_le k t)⟩

/-- Each attempt was sent. -/
def AllSent (connection : Connection) : Prop := ∀ k t, connection.attempts k t ≤ connection.sent k t

theorem AllSent.request {k t : String} (h : AllSent before) (hrequest : Requests k t before after)
    (hlog : after.log = before.log ++ [.requested k t]) : AllSent after := by
  intro k' t'
  have hle := h k' t'
  rw [sent, hlog, List.count_append]
  by_cases heq : (k', t') = (k, t)
  · obtain ⟨rfl, rfl⟩ := Prod.mk.inj heq
    rw [hrequest.attempts_eq, List.count_singleton_self]
    exact Nat.succ_le_succ hle
  · rw [hrequest.attempts_of_ne k' t' heq]
    exact Nat.le_trans hle (Nat.le_add_right _ _)

/-- **A request over a network that lets it through** is sent, unless too many were. -/
theorem sendSubscription_reliable {coin subscriptionType : String} (hall : AllSent connection)
    (hcoin : coin ∈ connection.service.subscriptionStates) (htype : subscriptionType ∈ subscriptionTypes) :
    Overrun (sendSubscription reliable coin subscriptionType connection).2 ∨
      (sendSubscription reliable coin subscriptionType connection).1 = .ok () ∧
        AllSent (sendSubscription reliable coin subscriptionType connection).2 ∧
        (sendSubscription reliable coin subscriptionType connection).2.log =
          connection.log ++ [.requested coin subscriptionType] := by
  rcases sendSubscription_cases reliable hcoin htype with ⟨⟨failure, h⟩, hle⟩ | ⟨hrequest, hsent⟩
  · -- The attempts cannot be counted any more, and each was sent.
    refine .inl ⟨coin, subscriptionType, ?_⟩
    have hall := hall coin subscriptionType
    rw [h]
    simp only
    omega
  · obtain ⟨hok, hlog⟩ := hsent rfl
    exact .inr ⟨hok, hall.request hrequest hlog, hlog⟩

theorem sent_add_count {coin t : String} (hlog : after.log = before.log ++ [.requested coin t]) (k : String) :
    before.sent k t + [coin].count k = after.sent k t := by
  rw [sent, sent, hlog, List.count_append, List.count_singleton, List.count_singleton]
  simp

theorem subscribeWithRetry_reliable {pair : TradingPair} (hall : AllSent connection)
    (hcoin : pair.coin ∈ connection.service.subscriptionStates) (htrades : pair.subscribeTrades = true) :
    Overrun (subscribeWithRetry reliable pair connection).2 ∨
      (subscribeWithRetry reliable pair connection).1 = .ok () ∧
        AllSent (subscribeWithRetry reliable pair connection).2 ∧
        ∀ k, connection.sent k "trades" + [pair.coin].count k ≤
          (subscribeWithRetry reliable pair connection).2.sent k "trades" := by
  have hkeeps := (sends_sendSubscription reliable hcoin List.mem_cons_self).keeps
  have htrades' := sendSubscription_reliable hall hcoin List.mem_cons_self
  rw [subscribeWithRetry, if_pos htrades]
  generalize hr : sendSubscription reliable pair.coin "trades" connection = r at hkeeps htrades'
  obtain ⟨result, between⟩ := r
  have hcoin' := (hkeeps.mem_iff pair.coin).mpr hcoin
  have hbook : "l2Book" ∈ subscriptionTypes := List.mem_cons_of_mem _ List.mem_cons_self
  rcases htrades' with hover | ⟨hok, hall', hlog⟩
  · left
    rcases snd_andThen (fun c => if pair.subscribeOrderbook then sendSubscription reliable pair.coin "l2Book" c
      else (.ok (), c)) (result, between) with heq | heq
    · rw [heq]
      exact hover
    · rw [heq]
      split
      · exact hover.sends (sends_sendSubscription reliable hcoin' hbook)
      · exact hover
  · simp only at hok hall' hlog
    subst hok
    have hsent := sent_add_count hlog
    simp only [andThen]
    split
    · rcases sendSubscription_reliable hall' hcoin' hbook with hover | ⟨hok, hall'', hlog'⟩
      · exact .inl hover
      · refine .inr ⟨hok, hall'', fun k => ?_⟩
        rw [hsent k]
        exact (sends_sendSubscription reliable hcoin' hbook).sent_le k "trades"
    · exact .inr ⟨rfl, hall', fun k => Nat.le_of_eq (hsent k)⟩

/-- **The first requests over a network that lets them through** are all sent, unless too many are. -/
theorem subscribe_reliable {pairs : List TradingPair} (hall : AllSent connection)
    (hcoins : ∀ pair ∈ pairs, pair.coin ∈ connection.service.subscriptionStates)
    (htrades : ∀ pair ∈ pairs, pair.subscribeTrades = true) :
    Overrun (forEach (subscribeWithRetry reliable) pairs connection).2 ∨
      ∀ k, connection.sent k "trades" + listed pairs k ≤
        (forEach (subscribeWithRetry reliable) pairs connection).2.sent k "trades" := by
  induction pairs generalizing connection with
  | nil => exact .inr fun k => Nat.le_refl _
  | cons pair pairs ih =>
    rw [List.forall_mem_cons] at hcoins htrades
    have hkeeps := (sends_subscribeWithRetry reliable hcoins.1).keeps
    have hpair := subscribeWithRetry_reliable hall hcoins.1 htrades.1
    rw [forEach]
    generalize subscribeWithRetry reliable pair connection = r at hkeeps hpair
    obtain ⟨result, between⟩ := r
    have hcoins' : ∀ p ∈ pairs, p.coin ∈ between.service.subscriptionStates := fun p hp =>
      (hkeeps.mem_iff _).mpr (hcoins.2 p hp)
    rcases hpair with hover | ⟨hok, hall', hsent⟩
    · left
      rcases snd_andThen (forEach (subscribeWithRetry reliable) pairs) (logged (result, between)) with heq | heq
      · rw [heq, snd_logged]
        exact hover
      · rw [heq, snd_logged]
        exact hover.sends (sends_subscribe reliable hcoins')
    · simp only at hok hall' hsent
      subst hok
      simp only [logged, andThen]
      refine (ih hall' hcoins' htrades.2).imp_right fun hrest k => ?_
      have hfirst := hsent k
      have hrest := hrest k
      rw [listed, List.map_cons, ← List.singleton_append, List.count_append]
      rw [listed] at hrest
      omega

/-! ### The service -/

/-- **The service after some connections**, none of which ended it. -/
inductive Served (fromStr : String → Except String Value) (start : WsService) : WsService → Prop where
  /-- There was none. -/
  | start : Served fromStr start start
  /-- There was one more. -/
  | connection {service : WsService} {ended : Connection} (network : ℕ → SendOutcome)
      (events : List ConnectionEvent) : Served fromStr start service →
      runMessageLoop fromStr network events service = (.ok (), ended) → Served fromStr start ended.service

/-- **The discipline is kept on every connection.** -/
def AlwaysDisciplined (fromStr : String → Except String Value) (start : WsService) : Prop :=
  ∀ service, Served fromStr start service → ∀ network events,
    Disciplined (runMessageLoop fromStr network events service).2.log

theorem coins_of_served (hcoins : ∀ pair ∈ start.subscriptions, pair.coin ∈ start.subscriptionStates)
    (h : Served fromStr start service) :
    service.subscriptions = start.subscriptions ∧
      ∀ pair ∈ service.subscriptions, pair.coin ∈ service.subscriptionStates := by
  induction h with
  | start => exact ⟨rfl, hcoins⟩
  | @connection service ended network events _ hrun ih =>
    obtain ⟨hpairs, hcoins⟩ := ih
    have hkeeps := (governed_runMessageLoop fromStr network events hcoins).keeps
    rw [hrun] at hkeeps
    have hpairs' : ended.service.subscriptions = service.subscriptions := hkeeps.subscriptions_eq
    refine ⟨hpairs'.trans hpairs, fun pair hpair => ?_⟩
    rw [hpairs'] at hpair
    exact (hkeeps.mem_iff _).mpr ((connected_mem_iff service _).mpr (hcoins pair hpair))

/-- **The discipline of a connection**, where no coin is listed more than three times. -/
theorem disciplined_of_listed (hcoins : ∀ pair ∈ service.subscriptions, pair.coin ∈ service.subscriptionStates)
    (hlisted : ∀ coin, listed service.subscriptions coin ≤ 3) (events : List ConnectionEvent) :
    Disciplined (runMessageLoop fromStr network events service).2.log := by
  obtain ⟨hrecorded, hattempts, -⟩ := governed_runMessageLoop fromStr network events hcoins
  refine ⟨fun k t => ?_, hrecorded.noneAfter⟩
  calc (runMessageLoop fromStr network events service).2.log.count (.requested k t)
      ≤ (runMessageLoop fromStr network events service).2.attempts k t := hrecorded.sent_le k t
    _ ≤ max 3 (listed service.subscriptions k) := hattempts k t
    _ ≤ 3 := Nat.max_le.mpr ⟨Nat.le_refl 3, hlisted k⟩

theorem mem_foldl_insert {states : Table String SubscriptionState} {pairs : List TradingPair} {k : String} :
    k ∈ pairs.foldl (fun states pair => states.insert pair.coin (.new pair)) states ↔
      k ∈ states ∨ ∃ pair ∈ pairs, pair.coin = k := by
  induction pairs generalizing states with
  | nil => simp
  | cons pair pairs ih =>
    rw [List.foldl_cons, ih, AList.mem_insert, List.exists_mem_cons_iff, @eq_comm _ k]
    tauto

theorem subscriptions_of_new {config : HyperLiquidConfig} {messageTx : UnboundedSender} {now : Instant}
    (h : WsService.new config messageTx now = .ok service) :
    service.subscriptions.map TradingPair.coin = config.tradingPairs ∧
      (∀ pair ∈ service.subscriptions, pair.subscribeTrades = true) ∧
      ∀ pair ∈ service.subscriptions, pair.coin ∈ service.subscriptionStates := by
  obtain ⟨_, -, h⟩ := bind_eq_ok_iff.mp h
  cases h
  refine ⟨?_, ?_, fun pair hpair => mem_foldl_insert.mpr (.inr ⟨pair, hpair, rfl⟩)⟩
  · rw [List.map_map]
    refine (List.map_congr_left fun coin _ => ?_).trans (List.map_id _)
    simp only [Function.comp_apply]
    split <;> rfl
  · rw [List.forall_mem_map]
    intro coin _
    split <;> rfl

/-- **Where the discipline is kept**: a service that is made of a valid configuration keeps it on every
connection, whatever happens on it, just where no coin is listed more than three times. -/
theorem alwaysDisciplined_iff {config : HyperLiquidConfig} (hvalid : config.validate = .ok ())
    (fromStr : String → Except String Value) (messageTx : UnboundedSender) (now : Instant) :
    (∀ start, WsService.new config messageTx now = .ok start → AlwaysDisciplined fromStr start) ↔
      ∀ coin, config.tradingPairs.count coin ≤ 3 := by
  constructor
  · intro h coin
    obtain ⟨start, hnew⟩ := wsService_of_validate hvalid messageTx now
    obtain ⟨hpairs, htrades, hcoins⟩ := subscriptions_of_new hnew
    have hdisciplined := h start hnew start .start reliable []
    by_contra hlt
    have hall : AllSent (connected start) := fun k t => by
      rw [attempts_connected]
      exact Nat.zero_le _
    have hrun : (runMessageLoop fromStr reliable [] start).2 =
        (forEach (subscribeWithRetry reliable) start.subscriptions (connected start)).2 := by
      rcases snd_andThen (forEach (step fromStr reliable) [])
        (forEach (subscribeWithRetry reliable) start.subscriptions (connected start)) with heq | heq
      · exact heq
      · exact heq
    rw [hrun] at hdisciplined
    rcases subscribe_reliable hall (fun pair hpair => (connected_mem_iff start _).mpr (hcoins pair hpair)) htrades
      with ⟨k, t, hover⟩ | hsent
    · exact absurd (hdisciplined.atMostThree k t) (Nat.not_le.mpr hover)
    · have hsent := hsent coin
      rw [listed, hpairs] at hsent
      have hle := hdisciplined.atMostThree coin "trades"
      rw [← sent] at hle
      omega
  · intro h start hnew service hserved network events
    obtain ⟨hpairs, -, hcoins⟩ := subscriptions_of_new hnew
    obtain ⟨hsame, hcoins'⟩ := coins_of_served hcoins hserved
    refine disciplined_of_listed hcoins' (fun coin => ?_) events
    rw [listed, hsame, hpairs]
    exact h coin

/-- The default configuration lists each coin once. -/
theorem default_disciplined : ∃ start, WsService.new .default ⟨[], false⟩ 0 = .ok start ∧
    AlwaysDisciplined (fun _ => .error "expected value at line 1 column 1") start := by
  obtain ⟨start, hnew⟩ := wsService_of_validate HyperLiquidConfig.validate_default ⟨[], false⟩ 0
  have honce := alwaysDisciplined_iff HyperLiquidConfig.validate_default
    (fun _ => .error "expected value at line 1 column 1") ⟨[], false⟩ 0
  refine ⟨start, hnew, honce.mpr (fun coin => ?_) start hnew⟩
  exact Nat.le_trans List.count_le_length (by decide)

/-- The default configuration, with one coin four times. -/
def fourTimes : HyperLiquidConfig :=
  { HyperLiquidConfig.default with tradingPairs := ["BTC", "BTC", "BTC", "BTC"] }

/-- **A coin that is listed four times is requested four times**, when the connection is made. -/
theorem requested_four_times : fourTimes.validate = .ok () ∧
    ∃ start, WsService.new fourTimes ⟨[], false⟩ 0 = .ok start ∧
      (runMessageLoop (fun _ => .error "expected value at line 1 column 1") reliable [] start).2.log =
        List.replicate 4 (.requested "BTC" "trades") ∧
      ¬AlwaysDisciplined (fun _ => .error "expected value at line 1 column 1") start := by
  have hvalid : fourTimes.validate = .ok () := by decide
  obtain ⟨start, hnew⟩ := wsService_of_validate hvalid ⟨[], false⟩ 0
  have hstart := hnew
  rw [WsService.new, hvalid] at hstart
  have hlog : (runMessageLoop (fun _ => .error "expected value at line 1 column 1") reliable [] start).2.log =
      List.replicate 4 (.requested "BTC" "trades") := by
    cases hstart
    decide
  refine ⟨hvalid, start, hnew, hlog, fun h => ?_⟩
  have hle := (h start .start reliable []).atMostThree "BTC" "trades"
  rw [hlog] at hle
  exact absurd hle (by decide)

end Connection

end Botmev.Hyperliquid
