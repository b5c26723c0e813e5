import Botmev.Hyperliquid.ServiceManager

/-!
# Subscribing to the feed

What `HyperLiquidWsService` does on one connection (`run_message_loop`,
`mev-hyperliquid/src/websocket.rs`): it resets the state of its subscriptions, sends a request for
each that its list of pairs asks for, and then handles messages, and every five seconds sends again
what is not confirmed. An attempt is recorded before the request is sent, under the coin; the list may
have a coin more than once, and then there is one state for all of these.

The handlers of an event run to their end before the next event. Pings, the end of the stream and the
shutdown are left out, as they end the connection or leave it as it is, and so is the metric of the
subscriptions that are confirmed. What is sent and confirmed is kept in a log.

## What is proved

* `sendSubscription_cases`: a request adds one to the attempts of its subscription and leaves the
  others alone, or panics before it is sent.
* `of_mem_toRetry`, `toRetry_nodup`: what is sent again was not confirmed, and is sent once.
* `step_message_cases`: a message leaves the subscriptions as they are, but for what it confirms.
-/

namespace Botmev.Hyperliquid

open Botmev.Rust Botmev.Library TradeMessageParser

/-! ### The state of a subscription -/

namespace SubscriptionState

variable (state : SubscriptionState)

/-- The attempts of a type. -/
def attempts : String → Option (BitVec 32)
  | "trades" => some state.tradesAttempts
  | "l2Book" => some state.orderbookAttempts
  | _ => none

/-- `should_retry`: "after 5 seconds, max 3 attempts". -/
def shouldRetry (subscriptionType : String) (now : Instant) : Bool :=
  match state.attempts subscriptionType with
  | none => false
  | some attempts =>
    if 3 ≤ attempts then false
    else
      match state.lastAttempt with
      | some last => fromSecs 5 ≤ now - last
      | none => true

/-- `record_attempt`. -/
def recordAttempt (subscriptionType : String) (now : Instant) : Result SubscriptionState :=
  match subscriptionType with
  | "trades" => do
    let tradesAttempts ← Uint.add state.tradesAttempts 1
    pure { state with tradesAttempts, lastAttempt := some now }
  | "l2Book" => do
    let orderbookAttempts ← Uint.add state.orderbookAttempts 1
    pure { state with orderbookAttempts, lastAttempt := some now }
  | _ => pure { state with lastAttempt := some now }

/-- `reset`: "for reconnection". -/
def reset : SubscriptionState where
  pair := state.pair
  tradesAttempts := 0
  orderbookAttempts := 0
  tradesConfirmed := false
  orderbookConfirmed := false
  lastAttempt := none

/-- Whether a type is confirmed. -/
def confirmed : String → Bool
  | "trades" => state.tradesConfirmed
  | "l2Book" => state.orderbookConfirmed
  | _ => false

end SubscriptionState

/-! ### A connection -/

/-- What the exchange gets and what it confirms. -/
inductive Notice where
  /-- A request to subscribe is sent. -/
  | requested (coin subscriptionType : String)
  /-- A confirmation is received. -/
  | confirmed (coin subscriptionType : String)
  deriving DecidableEq, Repr

/-- The service on a connection. -/
structure Connection where
  /-- The service. -/
  service : WsService
  /-- How often it has tried to send. -/
  tried : ℕ
  /-- What was sent and confirmed on the connection, in order. -/
  log : List Notice

/-- What comes of sending a request. -/
structure SendOutcome where
  /-- When it is recorded. -/
  now : Instant
  /-- Whether the message goes out. -/
  sent : Except String Unit

/-- What happens on a connection. -/
inductive ConnectionEvent where
  /-- A message comes. The receiver of what is parsed may be closed while the queue is drained. -/
  | message (closing : Option ℕ) (message : Message)
  /-- The retry interval ticks. The map gives its coins in this order, and the clock is read for each of
  their subscriptions. -/
  | retryTick (order : List String) (clock : String → String → Instant)

namespace Connection

/-- `result?`, with what comes after it. -/
def andThen (f : Connection → Result Unit × Connection) : Result Unit × Connection → Result Unit × Connection
  | (.ok (), connection) => f connection
  | (.error failure, connection) => (.error failure, connection)

/-- `if let Err(e) = result { error!(..); }`: a panic goes on. -/
def logged : Result Unit × Connection → Result Unit × Connection
  | (.error (.err _), connection) => (.ok (), connection)
  | result => result

/-- One after the other, each error being logged. -/
def forEach {α : Type} (f : α → Connection → Result Unit × Connection) :
    List α → Connection → Result Unit × Connection
  | [], connection => (.ok (), connection)
  | a :: as, connection => andThen (forEach f as) (logged (f a connection))

/-- "Record the attempt". -/
def recordAttempt (states : Table String SubscriptionState) (coin subscriptionType : String) (now : Instant) :
    Result (Table String SubscriptionState) :=
  match states.lookup coin with
  | some state => do
    let state ← state.recordAttempt subscriptionType now
    pure (states.insert coin state)
  | none => pure states

/-- A request goes out, or does not. -/
def sendRequest (outcome : SendOutcome) (coin subscriptionType : String) (connection : Connection) :
    Result Unit × Connection :=
  match context ("Failed to send " ++ subscriptionType ++ " subscription for " ++ coin) outcome.sent with
  | .error failure => (.error failure, { connection with tried := connection.tried + 1 })
  | .ok () =>
    (.ok (),
      { connection with
        tried := connection.tried + 1
        log := connection.log ++ [.requested coin subscriptionType] })

/-- `send_subscription`. -/
def sendSubscription (network : ℕ → SendOutcome) (coin subscriptionType : String) (connection : Connection) :
    Result Unit × Connection :=
  let outcome := network connection.tried
  match recordAttempt connection.service.subscriptionStates coin subscriptionType outcome.now with
  | .error failure => (.error failure, connection)
  | .ok subscriptionStates =>
    sendRequest outcome coin subscriptionType
      { connection with service := { connection.service with subscriptionStates } }

/-- `subscribe_with_retry`. -/
def subscribeWithRetry (network : ℕ → SendOutcome) (pair : TradingPair) (connection : Connection) :
    Result Unit × Connection :=
  andThen
    (fun connection =>
      if pair.subscribeOrderbook then sendSubscription network pair.coin "l2Book" connection
      else (.ok (), connection))
    (if pair.subscribeTrades then sendSubscription network pair.coin "trades" connection
      else (.ok (), connection))

/-- What is to be sent again for a coin. -/
def retriesOf (clock : String → String → Instant) (coin : String) (state : SubscriptionState) :
    List (String × String) :=
  (if state.pair.subscribeTrades && !state.tradesConfirmed && state.shouldRetry "trades" (clock coin "trades") then
    [(coin, "trades")] else []) ++
  if state.pair.subscribeOrderbook && !state.orderbookConfirmed &&
      state.shouldRetry "l2Book" (clock coin "l2Book") then
    [(coin, "l2Book")] else []

/-- "Check which subscriptions need retry". -/
def toRetry (states : Table String SubscriptionState) (clock : String → String → Instant) (order : List String) :
    List (String × String) :=
  order.flatMap fun coin => ((states.lookup coin).map (retriesOf clock coin)).getD []

/-- `retry_failed_subscriptions`. -/
def retryFailedSubscriptions (network : ℕ → SendOutcome) (order : List String)
    (clock : String → String → Instant) (connection : Connection) : Result Unit × Connection :=
  forEach (fun (coin, subscriptionType) => sendSubscription network coin subscriptionType)
    (toRetry connection.service.subscriptionStates clock order) connection

/-- What a message confirms, by its data. -/
def confirmationsOf : MessageData → List Notice
  | .subscriptionResponse response =>
    if response.success then [.confirmed response.coin response.subscriptionType] else []
  | .trade _ | .orderBook _ | .error _ => []

/-- What a message confirms. -/
def confirmations (fromStr : String → Except String Value) : Message → List Notice
  | .text text =>
    match parseMessage fromStr text with
    | .ok parsedMessage => confirmationsOf parsedMessage.data
    | .error _ => []
  | .binary | .ping | .pong | .close | .frame => []

variable (fromStr : String → Except String Value) (network : ℕ → SendOutcome)

/-- An event of the loop. -/
def step : ConnectionEvent → Connection → Result Unit × Connection
  | .message closing message, connection =>
    match connection.service.toHyperLiquidWsService.handleMessage fromStr closing message with
    | .error failure => (.error failure, connection)
    | .ok service =>
      (.ok (),
        { connection with
          service := { connection.service with toHyperLiquidWsService := service }
          log := connection.log ++ confirmations fromStr message })
  | .retryTick order clock, connection =>
    -- A map gives each of its keys once, in some order.
    if order.Perm connection.service.subscriptionStates.keys then
      retryFailedSubscriptions network order clock connection
    else (.ok (), connection)

/-- "Reset subscription states on new connection". -/
def connected (service : WsService) : Connection where
  service :=
    { service with subscriptionStates := Table.mapValues SubscriptionState.reset service.subscriptionStates }
  tried := 0
  log := []

/-- `run_message_loop`, for as long as these events. -/
def runMessageLoop (events : List ConnectionEvent) (service : WsService) : Result Unit × Connection :=
  andThen (forEach (step fromStr network) events)
    (forEach (subscribeWithRetry network) service.subscriptions (connected service))

/-! ### What they do -/

/-- The attempts that are recorded of a subscription. -/
def attempts (connection : Connection) (coin subscriptionType : String) : ℕ :=
  (((connection.service.subscriptionStates.lookup coin).bind fun state =>
    state.attempts subscriptionType).map BitVec.toNat).getD 0

/-- Whether a subscription is recorded as confirmed. -/
def confirmed (connection : Connection) (coin subscriptionType : String) : Bool :=
  ((connection.service.subscriptionStates.lookup coin).map fun state =>
    state.confirmed subscriptionType).getD false

/-- How many requests were sent for a subscription. -/
def sent (connection : Connection) (coin subscriptionType : String) : ℕ :=
  connection.log.count (.requested coin subscriptionType)

/-- The types of subscriptions that there are. -/
def subscriptionTypes : List String := ["trades", "l2Book"]

/-- The pairs and the coins are those that were there. -/
structure Keeps (before after : Connection) : Prop where
  /-- The pairs. -/
  subscriptions_eq : after.service.subscriptions = before.service.subscriptions
  /-- The coins. -/
  mem_iff : ∀ k, k ∈ after.service.subscriptionStates ↔ k ∈ before.service.subscriptionStates

/-- **What a request does**: it is recorded, and sent if the network lets it. -/
structure Requests (coin subscriptionType : String) (before after : Connection) : Prop where
  /-- The pairs and the coins stay. -/
  keeps : Keeps before after
  /-- An attempt is recorded. -/
  attempts_eq : after.attempts coin subscriptionType = before.attempts coin subscriptionType + 1
  /-- None is recorded of the others. -/
  attempts_of_ne : ∀ k t, (k, t) ≠ (coin, subscriptionType) → after.attempts k t = before.attempts k t
  /-- Nothing is confirmed by it. -/
  confirmed_eq : ∀ k t, after.confirmed k t = before.confirmed k t
  /-- It may not be sent. -/
  log_eq : after.log = before.log ∨ after.log = before.log ++ [.requested coin subscriptionType]

variable {fromStr} {network} {connection : Connection} {coin subscriptionType : String}

theorem Keeps.refl (connection : Connection) : Keeps connection connection := ⟨rfl, fun _ => Iff.rfl⟩

theorem Keeps.trans {before between after : Connection} (h : Keeps before between) (h' : Keeps between after) :
    Keeps before after :=
  ⟨h'.subscriptions_eq.trans h.subscriptions_eq, fun k => (h'.mem_iff k).trans (h.mem_iff k)⟩

theorem snd_logged (r : Result Unit × Connection) : (logged r).2 = r.2 := by
  rcases r with ⟨(_ | _) | _, _⟩ <;> rfl

theorem snd_andThen (f : Connection → Result Unit × Connection) (r : Result Unit × Connection) :
    (andThen f r).2 = r.2 ∨ (andThen f r).2 = (f r.2).2 := by
  rcases r with ⟨_ | _, _⟩
  · exact .inl rfl
  · exact .inr rfl

theorem forEach_preserves {α : Type} {P : Connection → Prop} {f : α → Connection → Result Unit × Connection}
    (hstep : ∀ a c, P c → P (f a c).2) (as : List α) (h : P connection) : P (forEach f as connection).2 := by
  induction as generalizing connection with
  | nil => exact h
  | cons a as ih =>
    have hfirst : P (logged (f a connection)).2 := by
      rw [snd_logged]
      exact hstep a connection h
    rw [forEach]
    rcases snd_andThen (forEach f as) (logged (f a connection)) with heq | heq
    · rw [heq]
      exact hfirst
    · rw [heq]
      exact ih hfirst

theorem exists_attempts (state : SubscriptionState) (htype : subscriptionType ∈ subscriptionTypes) :
    ∃ n, state.attempts subscriptionType = some n := by
  simp only [subscriptionTypes, List.mem_cons, List.not_mem_nil, or_false] at htype
  rcases htype with rfl | rfl
  · exact ⟨_, rfl⟩
  · exact ⟨_, rfl⟩

theorem recordAttempt_state {state state' : SubscriptionState} {now : Instant}
    (htype : subscriptionType ∈ subscriptionTypes) (h : state.recordAttempt subscriptionType now = .ok state') :
    (∃ n n', state.attempts subscriptionType = some n ∧ state'.attempts subscriptionType = some n' ∧
        n'.toNat = n.toNat + 1) ∧
      (∀ t ≠ subscriptionType, state'.attempts t = state.attempts t) ∧
      ∀ t, state'.confirmed t = state.confirmed t := by
  simp only [subscriptionTypes, List.mem_cons, List.not_mem_nil, or_false] at htype
  rcases htype with rfl | rfl
  · obtain ⟨n, hn, h⟩ := bind_eq_ok_iff.mp h
    cases h
    refine ⟨⟨_, n, rfl, rfl, Uint.add_eq_ok_iff.mp hn⟩, fun t ht => ?_, fun t => rfl⟩
    unfold SubscriptionState.attempts
    split <;> simp_all
  · obtain ⟨n, hn, h⟩ := bind_eq_ok_iff.mp h
    cases h
    refine ⟨⟨_, n, rfl, rfl, Uint.add_eq_ok_iff.mp hn⟩, fun t ht => ?_, fun t => rfl⟩
    unfold SubscriptionState.attempts
    split <;> simp_all

/-- Where none can be recorded, there are as many as can be counted. -/
theorem exists_recordAttempt_state {state : SubscriptionState} {n : BitVec 32} (now : Instant)
    (hn : state.attempts subscriptionType = some n) (hlt : n.toNat + 1 < 2 ^ 32) :
    ∃ state', state.recordAttempt subscriptionType now = .ok state' := by
  have hadd : ∃ m, Uint.add n 1 = .ok m := Uint.exists_add_eq_ok_iff.mpr hlt
  obtain ⟨m, hm⟩ := hadd
  unfold SubscriptionState.attempts at hn
  split at hn
  · obtain rfl := Option.some.inj hn
    exact ⟨_, bind_eq_ok_iff.mpr ⟨m, hm, rfl⟩⟩
  · obtain rfl := Option.some.inj hn
    exact ⟨_, bind_eq_ok_iff.mpr ⟨m, hm, rfl⟩⟩
  · cases hn

/-- A state that is recorded in place of another, with one attempt more. -/
theorem requests_of_insert {state state' : SubscriptionState} {after : Connection}
    (hstate : connection.service.subscriptionStates.lookup coin = some state)
    (hsucc : ∃ n n', state.attempts subscriptionType = some n ∧ state'.attempts subscriptionType = some n' ∧
      n'.toNat = n.toNat + 1)
    (hother : ∀ t ≠ subscriptionType, state'.attempts t = state.attempts t)
    (hconfirmed : ∀ t, state'.confirmed t = state.confirmed t)
    (hpairs : after.service.subscriptions = connection.service.subscriptions)
    (hafter : after.service.subscriptionStates = connection.service.subscriptionStates.insert coin state')
    (hlog : after.log = connection.log ∨ after.log = connection.log ++ [.requested coin subscriptionType]) :
    Requests coin subscriptionType connection after := by
  obtain ⟨n, n', hn, hn', hsucc⟩ := hsucc
  refine ⟨⟨hpairs, fun k => ?_⟩, ?_, fun k t hne => ?_, fun k t => ?_, hlog⟩
  · rw [hafter, AList.mem_insert]
    constructor
    · rintro (rfl | hk)
      · exact Table.mem_of_lookup hstate
      · exact hk
    · exact .inr
  · simp only [attempts, hafter, AList.lookup_insert, hstate, Option.bind_some, hn, hn', Option.map_some,
      Option.getD_some, hsucc]
  · by_cases hk : k = coin
    · subst hk
      have ht : t ≠ subscriptionType := fun h => hne (by rw [h])
      simp only [attempts, hafter, AList.lookup_insert, hstate, Option.bind_some, hother t ht]
    · simp only [attempts, hafter, AList.lookup_insert_ne hk]
  · by_cases hk : k = coin
    · subst hk
      simp only [confirmed, hafter, AList.lookup_insert, hstate, Option.map_some, hconfirmed]
    · simp only [confirmed, hafter, AList.lookup_insert_ne hk]

/-- An attempt is recorded in the state of its coin, unless it is one too many to be counted. -/
theorem recordAttempt_cases (hcoin : coin ∈ connection.service.subscriptionStates)
    (htype : subscriptionType ∈ subscriptionTypes) (now : Instant) :
    (∃ failure, recordAttempt connection.service.subscriptionStates coin subscriptionType now = .error failure ∧
        2 ^ 32 ≤ connection.attempts coin subscriptionType + 1) ∨
      ∃ state state', connection.service.subscriptionStates.lookup coin = some state ∧
        state.recordAttempt subscriptionType now = .ok state' ∧
        recordAttempt connection.service.subscriptionStates coin subscriptionType now =
          .ok (connection.service.subscriptionStates.insert coin state') := by
  obtain ⟨state, hstate⟩ := Option.isSome_iff_exists.mp (AList.lookup_isSome.mpr hcoin)
  obtain ⟨n, hn⟩ := exists_attempts state htype
  simp only [recordAttempt, hstate]
  cases hrecord : state.recordAttempt subscriptionType now with
  | error failure =>
    refine .inl ⟨failure, rfl, ?_⟩
    by_contra hlt
    simp only [attempts, hstate, Option.bind_some, hn, Option.map_some, Option.getD_some, not_le] at hlt
    obtain ⟨state', hstate'⟩ := exists_recordAttempt_state now hn hlt
    rw [hrecord] at hstate'
    cases hstate'
  | ok state' => exact .inr ⟨state, state', rfl, hrecord, rfl⟩

variable (network) in
/-- **A request** goes through, or panics at the last attempt that can be counted, before it is sent. -/
theorem sendSubscription_cases (hcoin : coin ∈ connection.service.subscriptionStates)
    (htype : subscriptionType ∈ subscriptionTypes) :
    ((∃ failure, sendSubscription network coin subscriptionType connection = (.error failure, connection)) ∧
        2 ^ 32 ≤ connection.attempts coin subscriptionType + 1) ∨
      Requests coin subscriptionType connection
          (sendSubscription network coin subscriptionType connection).2 ∧
        ((network connection.tried).sent = .ok () →
          (sendSubscription network coin subscriptionType connection).1 = .ok () ∧
            (sendSubscription network coin subscriptionType connection).2.log =
              connection.log ++ [.requested coin subscriptionType]) := by
  unfold sendSubscription
  rcases recordAttempt_cases hcoin htype (network connection.tried).now with
    ⟨failure, hrecord, hle⟩ | ⟨state, state', hstate, hstate', hrecord⟩
  · simp only [hrecord]
    exact .inl ⟨⟨failure, rfl⟩, hle⟩
  · obtain ⟨hsucc, hother, hconfirmed⟩ := recordAttempt_state htype hstate'
    simp only [hrecord]
    refine .inr ?_
    cases hsent : (network connection.tried).sent with
    | error message =>
      simp only [sendRequest, hsent, context]
      exact ⟨requests_of_insert hstate hsucc hother hconfirmed rfl rfl (.inl rfl), fun h => by cases h⟩
    | ok u =>
      simp only [sendRequest, hsent, context]
      exact ⟨requests_of_insert hstate hsucc hother hconfirmed rfl rfl (.inr rfl), by simp⟩

/-! ### What is sent again -/

theorem attempts_lt_of_shouldRetry {state : SubscriptionState} {now : Instant}
    (h : state.shouldRetry subscriptionType now = true) :
    ∃ n, state.attempts subscriptionType = some n ∧ n.toNat < 3 := by
  unfold SubscriptionState.shouldRetry at h
  split at h
  · cases h
  · rename_i n hn
    split at h
    · cases h
    · rename_i hlt
      exact ⟨n, hn, by simpa [BitVec.le_def] using hlt⟩

theorem of_mem_retriesOf {clock : String → String → Instant} {state : SubscriptionState} {k : String}
    (h : (k, subscriptionType) ∈ retriesOf clock coin state) :
    k = coin ∧ subscriptionType ∈ subscriptionTypes ∧ state.confirmed subscriptionType = false ∧
      state.shouldRetry subscriptionType (clock coin subscriptionType) = true := by
  rcases List.mem_append.mp h with h | h
  · split at h
    next hretry =>
      obtain ⟨rfl, rfl⟩ := Prod.mk.inj (List.mem_singleton.mp h)
      simp only [Bool.and_eq_true, Bool.not_eq_true'] at hretry
      exact ⟨rfl, List.mem_cons_self, hretry.1.2, hretry.2⟩
    next => cases h
  · split at h
    next hretry =>
      obtain ⟨rfl, rfl⟩ := Prod.mk.inj (List.mem_singleton.mp h)
      simp only [Bool.and_eq_true, Bool.not_eq_true'] at hretry
      exact ⟨rfl, List.mem_cons_of_mem _ List.mem_cons_self, hretry.1.2, hretry.2⟩
    next => cases h

theorem exists_of_mem_toRetry {states : Table String SubscriptionState} {clock : String → String → Instant}
    {order : List String} {request : String × String} (h : request ∈ toRetry states clock order) :
    ∃ coin state, states.lookup coin = some state ∧ request ∈ retriesOf clock coin state := by
  obtain ⟨coin, -, h⟩ := List.mem_flatMap.mp h
  cases hstate : states.lookup coin with
  | none =>
    rw [hstate] at h
    cases h
  | some state =>
    rw [hstate] at h
    exact ⟨coin, state, hstate, h⟩

/-- **What is sent again** was not confirmed, and was not requested three times. -/
theorem of_mem_toRetry {clock : String → String → Instant} {order : List String}
    (h : (coin, subscriptionType) ∈ toRetry connection.service.subscriptionStates clock order) :
    coin ∈ connection.service.subscriptionStates ∧ subscriptionType ∈ subscriptionTypes ∧
      connection.confirmed coin subscriptionType = false ∧ connection.attempts coin subscriptionType < 3 := by
  obtain ⟨k, state, hstate, hmem⟩ := exists_of_mem_toRetry h
  obtain ⟨rfl, htype, hconfirmed, hretry⟩ := of_mem_retriesOf hmem
  obtain ⟨n, hn, hlt⟩ := attempts_lt_of_shouldRetry hretry
  refine ⟨Table.mem_of_lookup hstate, htype, ?_, ?_⟩
  · simp only [confirmed, hstate, Option.map_some, Option.getD_some, hconfirmed]
  · simpa only [attempts, hstate, Option.bind_some, hn, Option.map_some, Option.getD_some] using hlt

/-- **It is sent once.** -/
theorem toRetry_nodup (states : Table String SubscriptionState) (clock : String → String → Instant)
    {order : List String} (horder : order.Nodup) : (toRetry states clock order).Nodup := by
  have hcoin : ∀ coin, ∀ request ∈ ((states.lookup coin).map (retriesOf clock coin)).getD [], request.1 = coin := by
    intro coin request h
    cases hstate : states.lookup coin with
    | none =>
      rw [hstate] at h
      cases h
    | some state =>
      rw [hstate] at h
      exact (of_mem_retriesOf h).1
  rw [toRetry, List.nodup_flatMap]
  constructor
  · intro coin _
    cases states.lookup coin with
    | none => exact List.nodup_nil
    | some state =>
      simp only [retriesOf, Option.map_some, Option.getD_some]
      split <;> split <;> simp
  · refine horder.imp fun {coin coin'} hne => ?_
    intro request h h'
    exact hne ((hcoin coin request h).symm.trans (hcoin coin' request h'))

/-! ### What a message does -/

/-- A notice is recorded in the state of its coin, if it is a confirmation. -/
def recordNotice (states : Table String SubscriptionState) : Notice → Table String SubscriptionState
  | .confirmed coin subscriptionType =>
    match states.lookup coin with
    | some state => states.insert coin (state.recordConfirmation subscriptionType)
    | none => states
  | .requested .. => states

theorem subscriptionStates_of_push {service pushed : HyperLiquidWsService} {parsed : HyperLiquidMessage}
    (h : service.pushMessage parsed = .ok pushed) (closing : Option ℕ) :
    (pushed.processMessageQueue closing).subscriptionStates = service.subscriptionStates := by
  obtain ⟨queue, -, h⟩ := bind_eq_ok_iff.mp h
  cases h
  rfl

theorem subscriptionStates_of_dispatch {service service' : HyperLiquidWsService} {closing : Option ℕ}
    {parsed : HyperLiquidMessage} (h : service.dispatch closing parsed = .ok service') :
    service'.subscriptionStates = (confirmationsOf parsed.data).foldl recordNotice service.subscriptionStates := by
  obtain ⟨channel, data⟩ := parsed
  cases data with
  | subscriptionResponse response =>
    cases h
    unfold HyperLiquidWsService.handleSubscriptionResponse
    cases hsuccess : response.success <;> cases hstate : service.subscriptionStates.lookup response.coin <;>
      simp [confirmationsOf, recordNotice, hsuccess, hstate]
  | error e =>
    cases h
    rfl
  | trade trade =>
    obtain ⟨pushed, hpush, h⟩ := bind_eq_ok_iff.mp h
    cases h
    exact subscriptionStates_of_push hpush closing
  | orderBook orderbook =>
    obtain ⟨pushed, hpush, h⟩ := bind_eq_ok_iff.mp h
    cases h
    exact subscriptionStates_of_push hpush closing

/-- **A message that is handled** leaves the subscriptions as they are, but for what it confirms. -/
theorem subscriptionStates_of_handleMessage {service service' : HyperLiquidWsService} {closing : Option ℕ}
    {message : Message} (h : service.handleMessage fromStr closing message = .ok service') :
    service'.subscriptionStates = (confirmations fromStr message).foldl recordNotice service.subscriptionStates := by
  cases message with
  | text text =>
    cases hparse : parseMessage fromStr text with
    | error e =>
      simp only [HyperLiquidWsService.handleMessage, hparse] at h
      cases h
      simp only [confirmations, hparse, List.foldl_nil]
    | ok parsed =>
      simp only [HyperLiquidWsService.handleMessage, hparse] at h
      simp only [confirmations, hparse]
      have hstates := subscriptionStates_of_dispatch h
      exact hstates
  | close => cases h
  | binary | ping | pong | frame =>
    cases h
    rfl

/-- **What a message does** on a connection: what it confirms is recorded. -/
structure Confirms (notices : List Notice) (before after : Connection) : Prop where
  /-- The pairs and the coins stay. -/
  keeps : Keeps before after
  /-- No attempt is recorded. -/
  attempts_eq : ∀ k t, after.attempts k t = before.attempts k t
  /-- What was confirmed is. -/
  confirmed_of_confirmed : ∀ k t, before.confirmed k t = true → after.confirmed k t = true
  /-- What is confirmed is recorded, if it is of a subscription that there is. -/
  confirmed_of_mem : ∀ k t, .confirmed k t ∈ notices → k ∈ before.service.subscriptionStates →
    t ∈ subscriptionTypes → after.confirmed k t = true
  /-- It is in the log. -/
  log_eq : after.log = before.log ++ notices

theorem confirmations_cases (fromStr : String → Except String Value) (message : Message) :
    confirmations fromStr message = [] ∨ ∃ k t, confirmations fromStr message = [.confirmed k t] := by
  have hof : ∀ data, confirmationsOf data = [] ∨ ∃ k t, confirmationsOf data = [.confirmed k t] := by
    intro data
    cases data with
    | subscriptionResponse response =>
      simp only [confirmationsOf]
      split
      · exact .inr ⟨_, _, rfl⟩
      · exact .inl rfl
    | trade | orderBook | error => exact .inl rfl
  cases message with
  | text text =>
    simp only [confirmations]
    split
    · exact hof _
    · exact .inl rfl
  | binary | ping | pong | close | frame => exact .inl rfl

theorem mem_recordNotice {states : Table String SubscriptionState} {notice : Notice} {k : String} :
    k ∈ recordNotice states notice ↔ k ∈ states := by
  cases notice with
  | requested => rfl
  | confirmed coin subscriptionType =>
    simp only [recordNotice]
    split
    next state hstate =>
      rw [AList.mem_insert]
      constructor
      · rintro (rfl | hk)
        · exact Table.mem_of_lookup hstate
        · exact hk
      · exact .inr
    next => rfl

theorem lookup_recordNotice (states : Table String SubscriptionState) (coin t k : String) :
    (recordNotice states (.confirmed coin t)).lookup k =
      (states.lookup k).map fun state => if k = coin then state.recordConfirmation t else state := by
  simp only [recordNotice]
  by_cases hk : k = coin
  · subst hk
    cases hstate : states.lookup k with
    | none => simp [hstate]
    | some state => simp
  · simp only [if_neg hk, Option.map_id']
    split
    · exact AList.lookup_insert_ne hk
    · rfl

theorem attempts_recordConfirmation (state : SubscriptionState) (t t' : String) :
    (state.recordConfirmation t).attempts t' = state.attempts t' := by
  unfold SubscriptionState.recordConfirmation
  split <;> rfl

theorem confirmed_recordConfirmation (state : SubscriptionState) (t t' : String) :
    (state.recordConfirmation t).confirmed t' =
      (state.confirmed t' || decide (t' = t ∧ t ∈ subscriptionTypes)) := by
  unfold SubscriptionState.recordConfirmation
  split
  · unfold SubscriptionState.confirmed
    split <;> simp_all [subscriptionTypes]
  · unfold SubscriptionState.confirmed
    split <;> simp_all [subscriptionTypes]
  · simp_all [subscriptionTypes]

theorem confirms_of_recordNotice {after : Connection} {k t : String}
    (hpairs : after.service.subscriptions = connection.service.subscriptions)
    (hstates : after.service.subscriptionStates =
      recordNotice connection.service.subscriptionStates (.confirmed k t))
    (hlog : after.log = connection.log ++ [.confirmed k t]) :
    Confirms [.confirmed k t] connection after := by
  refine ⟨⟨hpairs, fun k' => by rw [hstates, mem_recordNotice]⟩, fun k' t' => ?_, fun k' t' h => ?_,
    fun k' t' h hk ht => ?_, hlog⟩
  · simp only [attempts, hstates, lookup_recordNotice]
    cases connection.service.subscriptionStates.lookup k' with
    | none => rfl
    | some state =>
      simp only [Option.map_some, Option.bind_some]
      split
      · rw [attempts_recordConfirmation]
      · rfl
  · simp only [confirmed, hstates, lookup_recordNotice] at h ⊢
    cases hstate : connection.service.subscriptionStates.lookup k' with
    | none =>
      rw [hstate] at h
      cases h
    | some state =>
      rw [hstate] at h
      simp only [Option.map_some, Option.getD_some] at h ⊢
      split
      · rw [confirmed_recordConfirmation, h, Bool.true_or]
      · exact h
  · obtain ⟨rfl, rfl⟩ := Notice.confirmed.inj (List.mem_singleton.mp h)
    obtain ⟨state, hstate⟩ := Option.isSome_iff_exists.mp (AList.lookup_isSome.mpr hk)
    simp only [confirmed, hstates, lookup_recordNotice, hstate, Option.map_some, Option.getD_some, if_true,
      confirmed_recordConfirmation, ht, and_self, decide_true, Bool.or_true]

variable (fromStr network connection) in
/-- **A message** is not handled, or what it confirms is recorded. -/
theorem step_message_cases (closing : Option ℕ) (message : Message) :
    (∃ failure, step fromStr network (.message closing message) connection = (.error failure, connection)) ∨
      Confirms (confirmations fromStr message) connection
        (step fromStr network (.message closing message) connection).2 := by
  cases hhandle : connection.service.toHyperLiquidWsService.handleMessage fromStr closing message with
  | error failure => exact .inl ⟨failure, by simp only [step, hhandle]⟩
  | ok service =>
    refine .inr ?_
    have hstates := subscriptionStates_of_handleMessage hhandle
    simp only [step, hhandle]
    rcases confirmations_cases fromStr message with hnone | ⟨k, t, hone⟩
    · rw [hnone, List.foldl_nil] at hstates
      rw [hnone, List.append_nil]
      refine ⟨⟨rfl, fun k => by simp only [hstates]⟩, fun k t => ?_, fun k t h => ?_, fun k t h => ?_,
        (List.append_nil _).symm⟩
      · simp only [attempts, hstates]
      · simpa only [confirmed, hstates] using h
      · cases h
    · rw [hone] at hstates ⊢
      exact confirms_of_recordNotice rfl hstates rfl

end Connection

end Botmev.Hyperliquid
