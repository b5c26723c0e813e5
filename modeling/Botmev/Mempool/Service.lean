import Botmev.Mempool.ExactlyOnce

/-!
# The mempool service

`MempoolService::start` (`mev-mempool/src/lib.rs`) watches the pending transactions of a node: over a
WebSocket (`mev-mempool/src/websocket.rs`), by polling, or over a WebSocket until it ends and by polling
from then on. What the WebSocket and the node bring so far is a parameter; a run is observed at any point,
so its last session may still be under way.

What the service has processed is kept with the state of polling. The requests that are sent, the count of
the transactions, which is only logged, and the pauses are left out.

## What is proved

* `listen_eq`: what is processed of a session.
* `run_after`: polling goes on from transactions that were processed before as it starts without them.
* `start_processed`: what is processed in each mode; the service never returns.
* `auto_repeats`: what polling processes again.
-/

namespace Botmev.Mempool

open Botmev.Rust Botmev.Library Botmev.Core

/-- "Mempool monitoring mode". -/
inductive MempoolMode where
  /-- "Try WebSocket, fallback to polling". -/
  | auto
  /-- "WebSocket only". -/
  | webSocket
  /-- "HTTP polling only". -/
  | polling
  deriving DecidableEq, Repr

/-- A `tungstenite::Message`. -/
inductive Message where
  | text (text : String)
  | close
  | ping
  | other

/-- What `ws_stream.next()` gives: nothing after its end. -/
abbrev Frame := Option (Except String Message)

/-- What comes of waiting for the response to the subscription. -/
inductive Waited where
  /-- Something in time. -/
  | received (frame : Frame)
  /-- Nothing. -/
  | timedOut

/-- What a WebSocket brings, so far. -/
structure Session where
  /-- Whether it can be connected. -/
  connected : Except String Unit
  /-- Whether the request to subscribe can be sent. -/
  sent : Except String Unit
  /-- What comes then. -/
  reply : Waited
  /-- What comes after it. -/
  frames : List Frame

section Model

variable (env : Environment) (fromStr : String → Except String Value)

/-- "Parse incoming transaction notification". -/
def parseTransactionNotification (message : String) : Result (Option Value) := do
  let notification ← match fromStr message with
    | .ok notification => pure notification
    | .error e => .error (.err ("Failed to parse notification: " ++ e))
  if (notification.get "method").bind Value.asStr = some "eth_subscription" then
    pure ((notification.get "params").bind (Value.get "result"))
  else pure none

/-- "Send eth_subscribe request for pending transactions with timeout": the first message counts,
whatever it is. -/
def sendSubscribeRequest (timeoutSecs : U64) (session : Session) : Result String :=
  match session.sent with
  | .error e => .error (.err ("Failed to send subscribe request: " ++ e))
  | .ok () =>
    match session.reply with
    | .received (some (.ok (.text text))) =>
      match fromStr text with
      | .error e => .error (.err ("Failed to parse subscription response: " ++ e))
      | .ok response =>
        match response.get "result" with
        | some result => okOr "Invalid subscription ID format" result.asStr
        | none =>
          match response.get "error" with
          | some error => .error (.err ("Subscription error: " ++ env.display error))
          | none => .error (.err "No response received for subscription request")
    | .received (some (.ok .close)) => .error (.err "WebSocket connection closed during subscription")
    | .received (some (.ok _)) => .error (.err "No response received for subscription request")
    | .received (some (.error e)) => .error (.err ("WebSocket error during subscription: " ++ e))
    | .received none => .error (.err "WebSocket stream ended before receiving subscription response")
    | .timedOut =>
      .error (.err ("Timeout waiting for subscription response after " ++ toString timeoutSecs.toNat ++ " seconds"))

/-- The loop of `run_mempool_monitor`: what it returns, if it has ended. -/
def listen (poller : Poller) : List Frame → Result (Option (Result Unit) × Poller)
  | [] => pure (none, poller)
  | none :: _ => pure (some (.error (.err "WebSocket stream ended")), poller)
  | some (.ok (.text text)) :: frames =>
    match parseTransactionNotification fromStr text with
    | .ok (some txData) => do
      processTransaction env txData
      listen { poller with processed := poller.processed ++ [txData] } frames
    | _ => listen poller frames
  -- "WebSocket connection closed"
  | some (.ok .close) :: _ => pure (some (.error (.err "WebSocket stream ended")), poller)
  | some (.ok _) :: frames => listen poller frames
  | some (.error _) :: _ => pure (some (.error (.err "WebSocket stream ended")), poller)

/-- "Run the main mempool monitoring loop": what it returns, if it has. -/
def runMempoolMonitor (timeoutSecs : U64) (poller : Poller) (session : Session) :
    Result (Option (Result Unit) × Poller) :=
  match session.connected with
  | .error e => pure (some (.error (.err ("Failed to connect to WebSocket: " ++ e))), poller)
  | .ok () =>
    match sendSubscribeRequest env fromStr timeoutSecs session with
    | .error e => pure (some (.error e), poller)
    | .ok _ => listen env fromStr poller session.frames

/-- "Start WebSocket mode with retry loop", so far. -/
def startWebsocketMode (timeoutSecs : U64) (poller : Poller) : List Session → Result Poller
  | [] => pure poller
  | session :: sessions => do
    let (returned, poller) ← runMempoolMonitor env fromStr timeoutSecs poller session
    match returned with
    | none => pure poller
    -- "restarting"
    | some _ => startWebsocketMode timeoutSecs poller sessions

/-- "Start HTTP polling mode", so far. -/
def startPollingMode (poller : Poller) (polls : List Poll) : Result Poller := polls.foldlM (Poller.step env) poller

/-- "Start the mempool monitoring service": what it returns, if it has, and what it has done so far. -/
def start (mode : MempoolMode) (timeoutSecs : U64) (sessions : List Session) (polls : List Poll) :
    Result (Option (Result Unit) × Poller) :=
  match mode with
  | .auto =>
    match sessions with
    | [] => pure (none, .new)
    | session :: _ => do
      let (returned, poller) ← runMempoolMonitor env fromStr timeoutSecs .new session
      match returned with
      | none => pure (none, poller)
      -- "WebSocket mode stopped, restarting..."
      | some (.ok ()) => pure (some (.ok ()), poller)
      -- "Falling back to HTTP polling mode"
      | some (.error _) => do
        let poller ← startPollingMode env poller polls
        pure (none, poller)
  | .webSocket => do
    let poller ← startWebsocketMode env fromStr timeoutSecs .new sessions
    pure (none, poller)
  | .polling => do
    let poller ← startPollingMode env .new polls
    pure (none, poller)

/-! ### What should be processed -/

/-- The stream goes on after this. -/
def goesOn : Frame → Bool
  | some (.ok .close) | some (.error _) | none => false
  | _ => true

/-- The transaction that is notified. -/
def notification : Frame → Option Value
  | some (.ok (.text text)) => (parseTransactionNotification fromStr text).toOption.join
  | _ => none

/-- The session is connected, and subscribed. -/
def Session.subscribed (timeoutSecs : U64) (session : Session) : Bool :=
  session.connected.isOk && (sendSubscribeRequest env fromStr timeoutSecs session).isOk

/-- What is notified in the session before its stream ends. -/
def Session.notified (timeoutSecs : U64) (session : Session) : List Value :=
  if session.subscribed env fromStr timeoutSecs then
    (session.frames.takeWhile goesOn).filterMap (notification fromStr)
  else []

/-- The session is over. -/
def Session.over (timeoutSecs : U64) (session : Session) : Bool :=
  !session.subscribed env fromStr timeoutSecs || !session.frames.all goesOn

/-- The sessions up to the first that is not over. -/
def reached (timeoutSecs : U64) : List Session → List Session
  | [] => []
  | session :: sessions =>
    if session.over env fromStr timeoutSecs then session :: reached timeoutSecs sessions else [session]

end Model

variable {env : Environment} {fromStr : String → Except String Value} {timeoutSecs : U64} {poller poller' : Poller}
  {returned : Option (Result Unit)} {session : Session} {sessions : List Session} {polls : List Poll}
  {frames : List Frame}

/-- With transactions that were processed before. -/
def Poller.after (earlier : List Value) (poller : Poller) : Poller :=
  { poller with processed := earlier ++ poller.processed }

/-! ### A session -/

/-- Whether the loop has ended, and how. -/
def ending (ended : Bool) : Option (Result Unit) :=
  if ended then some (.error (.err "WebSocket stream ended")) else none

/-- **What is processed of a session**: every transaction that is notified before the stream ends, in order. -/
theorem listen_eq (h : listen env fromStr poller frames = .ok (returned, poller')) :
    returned = ending (!frames.all goesOn) ∧
      poller' = { poller with processed :=
        poller.processed ++ (frames.takeWhile goesOn).filterMap (notification fromStr) } := by
  induction frames generalizing poller with
  | nil =>
    cases h
    exact ⟨rfl, by simp⟩
  | cons frame frames ih =>
    have hclosed (hends : goesOn frame = false)
        (hlisten : listen env fromStr poller (frame :: frames) = pure (ending true, poller)) :
        returned = ending (!(frame :: frames).all goesOn) ∧
          poller' = { poller with processed :=
            poller.processed ++ ((frame :: frames).takeWhile goesOn).filterMap (notification fromStr) } := by
      rw [hlisten] at h
      cases h
      simp [hends]
    have hskipped (hgoes : goesOn frame = true) (hnothing : notification fromStr frame = none)
        (hlisten : listen env fromStr poller (frame :: frames) = listen env fromStr poller frames) :
        returned = ending (!(frame :: frames).all goesOn) ∧
          poller' = { poller with processed :=
            poller.processed ++ ((frame :: frames).takeWhile goesOn).filterMap (notification fromStr) } := by
      rw [hlisten] at h
      simpa [hgoes, hnothing] using ih h
    match frame with
    | none => exact hclosed rfl rfl
    | some (.error e) => exact hclosed rfl rfl
    | some (.ok .close) => exact hclosed rfl rfl
    | some (.ok .ping) => exact hskipped rfl rfl rfl
    | some (.ok .other) => exact hskipped rfl rfl rfl
    | some (.ok (.text text)) =>
      rcases hparsed : parseTransactionNotification fromStr text with e | _ | txData
      · exact hskipped rfl (by simp [notification, hparsed, Except.toOption]) (by simp only [listen, hparsed])
      · exact hskipped rfl (by simp [notification, hparsed, Except.toOption]) (by simp only [listen, hparsed])
      · simp only [listen, hparsed] at h
        obtain ⟨-, -, h⟩ := bind_eq_ok_iff.mp h
        have hnotified : notification fromStr (some (.ok (.text text))) = some txData := by
          simp [notification, hparsed, Except.toOption]
        have hgoes : goesOn (some (.ok (.text text))) = true := rfl
        simpa [hgoes, hnotified] using ih h

theorem runMempoolMonitor_eq
    (h : runMempoolMonitor env fromStr timeoutSecs poller session = .ok (returned, poller')) :
    returned ≠ some (.ok ()) ∧ returned.isSome = session.over env fromStr timeoutSecs ∧
      poller' = { poller with processed := poller.processed ++ session.notified env fromStr timeoutSecs } := by
  rw [runMempoolMonitor] at h
  rcases hconnected : session.connected with e | _
  · rw [hconnected] at h
    cases h
    simp [Session.over, Session.notified, Session.subscribed, hconnected, Except.isOk, Except.toBool]
  · rw [hconnected] at h
    rcases hsubscribed : sendSubscribeRequest env fromStr timeoutSecs session with e | id
    · rw [hsubscribed] at h
      cases h
      simp [Session.over, Session.notified, Session.subscribed, hsubscribed, Except.isOk, Except.toBool]
    · rw [hsubscribed] at h
      obtain ⟨rfl, rfl⟩ := listen_eq h
      have hstands : session.subscribed env fromStr timeoutSecs = true := by
        simp [Session.subscribed, hconnected, hsubscribed, Except.isOk, Except.toBool]
      rw [Session.over, Session.notified, hstands, if_pos rfl]
      cases !session.frames.all goesOn <;> simp [ending]

theorem startWebsocketMode_eq (h : startWebsocketMode env fromStr timeoutSecs poller sessions = .ok poller') :
    poller' = { poller with processed := poller.processed ++
      (reached env fromStr timeoutSecs sessions).flatMap (Session.notified env fromStr timeoutSecs) } := by
  induction sessions generalizing poller with
  | nil =>
    cases h
    simp [reached]
  | cons session sessions ih =>
    obtain ⟨⟨returned, between⟩, hmonitor, h⟩ := bind_eq_ok_iff.mp h
    obtain ⟨-, hover, rfl⟩ := runMempoolMonitor_eq hmonitor
    cases returned with
    | none =>
      cases h
      simp [reached, ← hover]
    | some result =>
      rw [ih h]
      simp [reached, ← hover]

/-! ### Polling -/

theorem see_after (earlier : List Value) (n : ℕ) (poller : Poller) (tx : Value) :
    see env (n, poller.after earlier) tx =
      (fun (n, poller) => (n, Poller.after earlier poller)) <$> see env (n, poller) tx := by
  unfold see
  rcases tx.getStr "hash" with _ | hash
  · rfl
  · by_cases hseen : hash ∈ poller.seenTxs
    · have hseen' : hash ∈ (poller.after earlier).seenTxs := hseen
      simp only [if_pos hseen, if_pos hseen']
      rfl
    · have hseen' : hash ∉ (poller.after earlier).seenTxs := hseen
      simp only [if_neg hseen, if_neg hseen']
      rcases processTransaction env tx with failure | _
      · rfl
      · simp [pure, Except.pure, bind, Except.bind, Functor.map, Except.map, Poller.after]

theorem foldlM_see_after (earlier : List Value) (transactions : List Value) (n : ℕ) (poller : Poller) :
    transactions.foldlM (see env) (n, poller.after earlier) =
      (fun (n, poller) => (n, Poller.after earlier poller)) <$> transactions.foldlM (see env) (n, poller) := by
  induction transactions generalizing n poller with
  | nil => rfl
  | cons tx transactions ih =>
    rw [List.foldlM_cons, List.foldlM_cons, see_after]
    rcases see env (n, poller) tx with failure | ⟨n', poller'⟩
    · rfl
    · exact ih n' poller'

theorem step_after (earlier : List Value) (poller : Poller) (poll : Poll) :
    (poller.after earlier).step env poll = Poller.after earlier <$> poller.step env poll := by
  simp only [Poller.step, pollPendingTransactions, Poller.after]
  rcases Uint.add poller.requestId 1 with failure | requestId
  · rfl
  · rcases pendingTransactions env poll.answer with e | transactions
    · rfl
    · have hloop := @foldlM_see_after env earlier transactions 0 { poller with requestId }
      simp only [Poller.after] at hloop
      simp only [ok_bind, hloop]
      rcases transactions.foldlM (see env) (0, { poller with requestId }) with failure | ⟨n, polled⟩ <;> rfl

/-- **Polling goes on** from transactions that were processed before as it starts without them. -/
theorem run_after (earlier : List Value) (poller : Poller) (polls : List Poll) :
    startPollingMode env (poller.after earlier) polls =
      Poller.after earlier <$> startPollingMode env poller polls := by
  induction polls generalizing poller with
  | nil => rfl
  | cons poll polls ih =>
    simp only [startPollingMode, List.foldlM_cons, step_after] at ih ⊢
    rcases poller.step env poll with failure | poller'
    · rfl
    · exact ih poller'

/-! ### The service -/

/-- What the service should have processed: over a WebSocket, what is notified in each session; with polling,
what polling processes; and in auto mode, what is notified in the first session and, once this is over, all
that polling processes by itself. -/
def Processes (env : Environment) (fromStr : String → Except String Value) (mode : MempoolMode) (timeoutSecs : U64)
    (sessions : List Session) (polls : List Poll) (poller : Poller) : Prop :=
  match mode with
  | .webSocket => poller.processed =
      (reached env fromStr timeoutSecs sessions).flatMap (Session.notified env fromStr timeoutSecs)
  | .polling => Poller.run env polls = .ok poller
  | .auto => ∃ polled,
      Poller.run env (if sessions.head?.any (Session.over env fromStr timeoutSecs) then polls else []) =
          .ok polled ∧
        poller = polled.after (sessions.head?.toList.flatMap (Session.notified env fromStr timeoutSecs))

/-- In auto mode, polling begins when the first session is over, as if there had been none. -/
theorem start_auto (h : start env fromStr .auto timeoutSecs sessions polls = .ok (returned, poller)) :
    returned = none ∧ Processes env fromStr .auto timeoutSecs sessions polls poller := by
  cases sessions with
  | nil =>
    cases h
    exact ⟨rfl, .new, rfl, rfl⟩
  | cons session sessions =>
    obtain ⟨⟨returned', between⟩, hmonitor, h⟩ := bind_eq_ok_iff.mp h
    obtain ⟨hnever, hover, rfl⟩ := runMempoolMonitor_eq hmonitor
    match returned' with
    | none =>
      cases h
      have hunder : session.over env fromStr timeoutSecs = false := hover.symm
      refine ⟨rfl, .new, ?_, by simp [Poller.after, Poller.new]⟩
      simp only [List.head?_cons, Option.any_some, hunder]
      rfl
    | some (.ok ()) => exact absurd rfl hnever
    | some (.error e) =>
      obtain ⟨poller', hpolling, h⟩ := bind_eq_ok_iff.mp h
      cases h
      have hended : session.over env fromStr timeoutSecs = true := hover.symm
      have hstart : Poller.mk Poller.new.requestId Poller.new.seenTxs
          (Poller.new.processed ++ session.notified env fromStr timeoutSecs) =
          Poller.new.after (session.notified env fromStr timeoutSecs) := by
        simp [Poller.after, Poller.new]
      rw [hstart, run_after] at hpolling
      rcases hrun : startPollingMode env .new polls with failure | polled
      · rw [hrun] at hpolling
        cases hpolling
      · rw [hrun] at hpolling
        cases hpolling
        exact ⟨rfl, polled, by simpa [hended, Poller.run, startPollingMode] using hrun, by simp⟩

/-- **What the service processes**, in every mode, and that it never returns, unless the parser panics. -/
theorem start_processed {mode : MempoolMode}
    (h : start env fromStr mode timeoutSecs sessions polls = .ok (returned, poller)) :
    returned = none ∧ Processes env fromStr mode timeoutSecs sessions polls poller := by
  cases mode with
  | webSocket =>
    obtain ⟨poller', hstart, h⟩ := bind_eq_ok_iff.mp h
    cases h
    obtain rfl := startWebsocketMode_eq hstart
    exact ⟨rfl, rfl⟩
  | polling =>
    obtain ⟨poller', hstart, h⟩ := bind_eq_ok_iff.mp h
    cases h
    exact ⟨rfl, hstart⟩
  | auto => exact start_auto h

/-- A response to the subscription. -/
def subscribedText : String := "\x7b\"jsonrpc\":\"2.0\",\"id\":1,\"result\":\"0x1\"\x7d"

/-- A notification of a transaction. -/
def notifiedText : String :=
  "\x7b\"method\":\"eth_subscription\",\"params\":\x7b\"result\":\x7b\"hash\":\"0xab\"," ++
    "\"from\":\"0x742d35cc6634c0532925a3b8d4c9db7c4c4c4c4c\"\x7d\x7d\x7d"

/-- What `serde_json` reads from these texts. -/
def readTexts (text : String) : Except String Value :=
  if text = subscribedText then
    .ok (.object [("jsonrpc", .string "2.0"), ("id", .number (.posInt 1)), ("result", .string "0x1")])
  else if text = notifiedText then
    .ok (.object [("method", .string "eth_subscription"), ("params", .object [("result", transactionWith "0xab")])])
  else .error "expected value at line 1 column 1"

/-- A session in which a transaction is notified before the stream is closed. -/
def closedSession : Session where
  connected := .ok ()
  sent := .ok ()
  reply := .received (some (.ok (.text subscribedText)))
  frames := [some (.ok (.text notifiedText)), some (.ok .ping), some (.ok .close)]

/-- One that is closed before there is a response. -/
def failedSession : Session where
  connected := .ok ()
  sent := .ok ()
  reply := .received (some (.ok .close))
  frames := []

/-- After a session that fails, the service goes on with the next one. -/
theorem closedSession_processed : ∃ poller,
    start plainEnvironment readTexts .webSocket 3 [failedSession, closedSession] [] = .ok (none, poller) ∧
      poller.processed = [transactionWith "0xab"] := by
  obtain ⟨poller, h⟩ : ∃ poller,
      start plainEnvironment readTexts .webSocket 3 [failedSession, closedSession] [] = .ok (none, poller) :=
    ⟨_, rfl⟩
  exact ⟨poller, h, (start_processed h).2⟩

theorem timesProcessed_after (earlier : List Value) (poller : Poller) (hash : String) :
    (poller.after earlier).timesProcessed hash = (hashes earlier).count hash + poller.timesProcessed hash := by
  simp [Poller.timesProcessed, Poller.after, hashes, List.filterMap_append, List.count_append]

/-- **What polling processes again**: once the session is over, every hash that comes in a block is processed
once more, however often it was notified; and what is notified is processed as often as it is. Polling forgets
hashes once it has seen more than ten thousand, so no more of them come in the blocks here. -/
theorem auto_repeats (h : start env fromStr .auto timeoutSecs (session :: sessions) polls = .ok (returned, poller))
    (hover : session.over env fromStr timeoutSecs = true)
    (hfew : (blocks env polls).flatten.toFinset.card ≤ 10000) (hash : String) :
    poller.timesProcessed hash = (hashes (session.notified env fromStr timeoutSecs)).count hash +
      if hash ∈ (blocks env polls).flatten then 1 else 0 := by
  obtain ⟨-, polled, hrun, rfl⟩ := start_auto h
  simp only [List.head?_cons, Option.any_some, hover, if_true] at hrun
  rw [timesProcessed_after, (run_of_few hrun hfew).2 hash]
  simp

/-- A poll with the same transaction. -/
def blockAgain : Poll := ⟨blockOf ["0xab"], .sorted⟩

/-- It is processed again when the pending block has it. -/
theorem closedSession_repeated : ∃ poller,
    start plainEnvironment readTexts .auto 3 [closedSession] [blockAgain] = .ok (none, poller) ∧
      poller.timesProcessed "0xab" = 2 := by
  obtain ⟨poller, h⟩ : ∃ poller,
      start plainEnvironment readTexts .auto 3 [closedSession] [blockAgain] = .ok (none, poller) := ⟨_, rfl⟩
  refine ⟨poller, h, ?_⟩
  rw [auto_repeats h (by decide) (by decide)]
  decide

end Botmev.Mempool
