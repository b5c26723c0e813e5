import Botmev.Core.AbiDecoder
import Botmev.Hyperliquid.TradeAdapter
import Botmev.Strategies.Evaluation
import Botmev.Strategies.EvaluationModes
import Botmev.Strategies.OpportunityCache

/-!
# From trades to strategies

The task that `main` (`mev-bot/src/main.rs`) spawns for the market data of HyperLiquid: every trade is
adapted, made a transaction, and evaluated by the strategy engine. An order book is only logged.

When the engine is asked, how long a strategy takes and which times it reads, and in which order hash
maps are iterated, are parameters. So is, through the configuration, in which mode the engine is.

## What is proved

* `findsNothing_tradeTransaction`: no strategy makes anything of such a transaction.
* `process_exact`: what the task has done, after one more event.
* `nothing_found`: in every run the task counts what it should, and never finds an opportunity.
-/

namespace Botmev.Pipeline

open Botmev.Rust Botmev.Library Botmev.Core Botmev.Hyperliquid Botmev.Strategies
open Botmev.Hyperliquid.TradeDataAdapter (adaptTrade_never_panics)

/-- "Market data events from WebSocket", as they are received. -/
inductive ReceivedEvent where
  /-- "Trade data received". -/
  | trade (trade : TradeData)
  /-- "Order book update received". -/
  | orderBook (orderbook : OrderBookData)

/-- "Convert AdaptedTradeEvent to ParsedTransaction". -/
def tradeTransaction (adaptedEvent : AdaptedTradeEvent) : ParsedTransaction where
  transaction :=
    { hash := adaptedEvent.hash
      fromAddress := formatAddress adaptedEvent.fromAddress
      toAddress := some (formatAddress adaptedEvent.toAddress)
      value := toString adaptedEvent.value.toNat
      gasPrice := toString adaptedEvent.gasPrice.toNat
      gasLimit := "0"
      nonce := 0
      input := "0x" }
  decodedInput := none
  targetType := .orderBook

/-- The task that processes market data. -/
structure MarketDataProcessor where
  /-- `strategy_engine`. -/
  engine : StrategyEngine
  /-- `processed_count`. -/
  processedCount : U64
  /-- `inc_transactions_processed("hyperliquid", "orderbook", false)`. -/
  transactionsProcessed : ℕ
  /-- `inc_adaptation_errors`: with which labels. -/
  adaptationErrors : List (String × String)
  /-- `set_buffer_utilization("trade_processor", utilization)`. -/
  bufferUtilization : Option ℕ
  /-- "Found MEV opportunities from HyperLiquid trade". -/
  found : List DetectedOpportunity

/-- An event, with what the engine reads of the world meanwhile. -/
structure Received where
  /-- The event. -/
  event : ReceivedEvent
  /-- The order of the keys of the cache. -/
  keyOrder : List String → List String
  /-- The time. -/
  currentTime : U64

namespace MarketDataProcessor

/-- "Evaluate with strategy engine". -/
def evaluate (s : MarketDataProcessor) (received : Received) (tx : ParsedTransaction) :
    Option (Result Unit × MarketDataProcessor) :=
  (s.engine.evaluateTransaction received.keyOrder received.currentTime tx).map fun (evaluated, engine) =>
    match evaluated with
    | .ok opportunities => (.ok (), { s with engine, found := s.found ++ opportunities })
    | .error (.err _) => (.ok (), { s with engine })
    | .error (.panic message) => (.error (.panic message), { s with engine })

/-- "HyperLiquid market data processor stats". -/
def updateStats (s : MarketDataProcessor) : MarketDataProcessor :=
  if s.processedCount % 100 = 0 then
    { s with bufferUtilization := some (if 1000 < s.processedCount then 75 else 25) }
  else s

/-- What is done with a trade. -/
def processTrade (adapter : TradeDataAdapter) (received : Received) (trade : TradeData) (s : MarketDataProcessor) :
    Option (Result Unit × MarketDataProcessor) :=
  match Uint.add s.processedCount 1 with
  | .error failure => some (.error failure, s)
  | .ok processedCount =>
    let s := { s with processedCount }
    let (adapted, counted) := adapter.adaptTrade trade
    let s := { s with adaptationErrors := s.adaptationErrors ++ counted.toList }
    let evaluated :=
      match adapted with
      | .ok adaptedEvent =>
        { s with transactionsProcessed := s.transactionsProcessed + 1 }.evaluate received (tradeTransaction adaptedEvent)
      | .error (.err _) => some (.ok (), s)
      | .error (.panic message) => some (.error (.panic message), s)
    evaluated.map fun (ended, s) => (ended, if ended.isOk then s.updateStats else s)

/-- What is done with an event. -/
def process (adapter : TradeDataAdapter) (received : Received) (s : MarketDataProcessor) :
    Option (Result Unit × MarketDataProcessor) :=
  match received.event with
  | .trade trade => s.processTrade adapter received trade
  | .orderBook _ => some (.ok (), s)

/-- `while let Some(market_event) = market_data_rx.recv().await`: what has been done with the events when they
are through, or when the task has panicked; none if it waits for ever. -/
def run (adapter : TradeDataAdapter) : List Received → MarketDataProcessor → Option (Result Unit × MarketDataProcessor)
  | [], s => some (.ok (), s)
  | received :: rest, s =>
    match s.process adapter received with
    | some (.ok (), s) => run adapter rest s
    | ended => ended

end MarketDataProcessor

/-! ### The engine -/

/-- A strategy, as the engine sees it. -/
def engineStrategy (strategy : MevStrategy) (durationMs : ParsedTransaction → Option ℕ)
    (idTime expiryTime : ParsedTransaction → UtcNow) : Strategy where
  name := strategy.config.name
  config := strategy.config
  evaluateTransaction tx :=
    { durationMs := durationMs tx
      result := do
        match ← strategy.evaluateTransaction (idTime tx) (expiryTime tx) tx with
        | none => pure .noOpportunity
        | some opportunity => pure (.opportunity opportunity.toDetectedOpportunity) }

/-- The strategies of an engine are those that there are. -/
def KnownStrategy (strategy : Strategy) : Prop :=
  ∃ mevStrategy durationMs idTime expiryTime, strategy = engineStrategy mevStrategy durationMs idTime expiryTime

/-- An engine that has found nothing yet, with room to evaluate. -/
structure Quiet (engine : StrategyEngine) : Prop where
  /-- Its strategies are those that there are. -/
  strategies : ∀ name strategy, engine.strategies.lookup name = some strategy → KnownStrategy strategy
  /-- There is a permit. -/
  permits : engine.config.maxConcurrentEvaluations ≠ 0
  /-- The semaphore can be made. -/
  semaphore : engine.config.maxConcurrentEvaluations.toNat ≤ maxPermits
  /-- No opportunity is kept. -/
  opportunities : engine.opportunities = ∅
  /-- None has been counted. -/
  opportunitiesFound : engine.stats.opportunitiesFound = 0

variable {engine : StrategyEngine} {adaptedEvent : AdaptedTradeEvent}

theorem quiet_new {config : StrategyEngineConfig} (hpermits : config.maxConcurrentEvaluations ≠ 0)
    (hsemaphore : config.maxConcurrentEvaluations.toNat ≤ maxPermits) {strategies : List Strategy}
    (hknown : ∀ strategy ∈ strategies, KnownStrategy strategy) :
    Quiet (strategies.foldl StrategyEngine.registerStrategy (.new config)) := by
  have hregister : ∀ engine : StrategyEngine, Quiet engine →
      Quiet (strategies.foldl StrategyEngine.registerStrategy engine) := by
    induction strategies with
    | nil => exact fun _ h => h
    | cons strategy rest ih =>
      obtain ⟨hstrategy, hrest⟩ := List.forall_mem_cons.mp hknown
      refine fun engine h => ih hrest _ { h with strategies := fun name other hother => ?_ }
      by_cases hname : name = strategy.name
      · subst hname
        obtain rfl := Option.some.inj ((AList.lookup_insert _).symm.trans hother)
        exact hstrategy
      · exact h.strategies name other ((AList.lookup_insert_ne hname).symm.trans hother)
  exact hregister _ ⟨fun _ _ h => (nomatch h), hpermits, hsemaphore, rfl, rfl⟩

/-- **No strategy makes anything of a trade**: it looks at the exchanges that it knows. -/
theorem evaluateTransaction_tradeTransaction (strategy : MevStrategy) (idTime expiryTime : UtcNow) :
    strategy.evaluateTransaction idTime expiryTime (tradeTransaction adaptedEvent) = .ok none := by
  cases strategy with
  | arbitrage strategy =>
    have hcandidate : ArbitrageStrategy.isArbitrageCandidate (tradeTransaction adaptedEvent) = false := rfl
    rw [MevStrategy.evaluateTransaction, ArbitrageStrategy.evaluateTransaction, if_pos hcandidate, ite_self]
    rfl
  | backrun strategy =>
    have hcandidate : strategy.isBackrunCandidate (tradeTransaction adaptedEvent) = false := rfl
    rw [MevStrategy.evaluateTransaction, BackrunStrategy.evaluateTransaction, if_pos hcandidate, ite_self]
    rfl
  | sandwich strategy =>
    have hvictim : strategy.isSandwichVictim (tradeTransaction adaptedEvent) = false := rfl
    rw [MevStrategy.evaluateTransaction, SandwichStrategy.evaluateTransaction, if_pos hvictim, ite_self]
    rfl

theorem findsNothing_tradeTransaction {strategy : Strategy} (hknown : KnownStrategy strategy) :
    engine.FindsNothing (tradeTransaction adaptedEvent) strategy := by
  obtain ⟨mevStrategy, durationMs, idTime, expiryTime, rfl⟩ := hknown
  simp only [StrategyEngine.FindsNothing, engineStrategy, Evaluation.withTimeout, evaluateTransaction_tradeTransaction,
    ok_bind]
  rcases durationMs (tradeTransaction adaptedEvent) with _ | duration
  · trivial
  · by_cases hintime : duration ≤ engine.config.evaluationTimeoutMs.toNat <;> simp [hintime, pure, Except.pure]

theorem Quiet.recordOpportunities (h : Quiet engine) (keyOrder : List String → List String) (currentTime : U64) :
    engine.recordOpportunities keyOrder currentTime (.ok []) = (.ok [], engine) := by
  obtain ⟨config, strategies, opportunities, stats⟩ := engine
  obtain ⟨evaluated, found⟩ := stats
  obtain rfl : opportunities = ∅ := h.opportunities
  obtain rfl : found = 0 := h.opportunitiesFound
  change (Except.ok [], StrategyEngine.mk config strategies
    (Table.eraseAll ((keyOrder []).take (0 - config.opportunityCacheSize.toNat)) ∅) ⟨evaluated, 0⟩) = _
  rw [Nat.zero_sub, List.take_zero]
  rfl

/-- **An evaluation of a trade**, in whatever mode the engine is. -/
theorem Quiet.evaluateTransaction (h : Quiet engine) (adaptedEvent : AdaptedTradeEvent)
    (hroom : engine.stats.transactionsEvaluated.toNat + 1 < 2 ^ 64) (keyOrder : List String → List String)
    (currentTime : U64) :
    ∃ engine', engine.evaluateTransaction keyOrder currentTime (tradeTransaction adaptedEvent) =
        some (.ok [], engine') ∧ Quiet engine' ∧
      engine'.stats.transactionsEvaluated.toNat = engine.stats.transactionsEvaluated.toNat + 1 := by
  obtain ⟨n, hn⟩ := (Uint.exists_add_eq_ok_iff (b := (1 : U64))).mpr hroom
  have hcounted := Uint.add_eq_ok_iff.mp hn
  have hnothing : engine.evaluateStrategies (tradeTransaction adaptedEvent) = some (.ok []) := by
    unfold StrategyEngine.evaluateStrategies
    split
    · exact StrategyEngine.evaluateStrategiesParallel_eq_ok_iff.mpr ⟨h.semaphore, .inr h.permits, rfl⟩
    · refine congrArg some (StrategyEngine.evaluateStrategiesSequential_eq_nil_iff.mpr fun strategy hstrategy => ?_)
      obtain ⟨⟨name, other⟩, hentry, rfl⟩ := List.mem_map.mp (List.mem_filter.mp hstrategy).1
      exact findsNothing_tradeTransaction (h.strategies name _ (Table.lookup_eq_some_iff.mpr hentry))
  have hquiet : Quiet { engine with stats := { engine.stats with transactionsEvaluated := n } } :=
    ⟨h.strategies, h.permits, h.semaphore, h.opportunities, h.opportunitiesFound⟩
  rw [StrategyEngine.evaluateTransaction, hn]
  by_cases henabled : engine.enabledStrategies = []
  · exact ⟨_, if_pos henabled, hquiet, hcounted⟩
  · refine ⟨_, (if_neg henabled).trans ?_, hquiet, hcounted⟩
    rw [hnothing, Option.map_some, hquiet.recordOpportunities]

/-! ### The task -/

/-- The trade of an event. -/
def Received.trade? (received : Received) : Option TradeData :=
  match received.event with
  | .trade trade => some trade
  | .orderBook _ => none

/-- The trades that are adapted. -/
def adaptedTrades (adapter : TradeDataAdapter) (trades : List TradeData) : List TradeData :=
  trades.filter fun trade => (adapter.adaptTrade trade).1.isOk

/-- What the gauge of the buffer says after so many trades. -/
def utilizationAfter (n : ℕ) : Option ℕ :=
  if n < 100 then none else some (if 1000 < n / 100 * 100 then 75 else 25)

/-- The task has done what it should with these trades, and has found nothing. -/
structure ProcessedExactly (adapter : TradeDataAdapter) (trades : List TradeData) (s : MarketDataProcessor) : Prop where
  /-- The engine has found nothing. -/
  quiet : Quiet s.engine
  /-- The trades are counted. -/
  processedCount : s.processedCount.toNat = trades.length
  /-- So are those that are adapted, -/
  transactionsProcessed : s.transactionsProcessed = (adaptedTrades adapter trades).length
  /-- and these are evaluated. -/
  transactionsEvaluated : s.engine.stats.transactionsEvaluated.toNat = (adaptedTrades adapter trades).length
  /-- The errors of the others are counted. -/
  adaptationErrors : s.adaptationErrors = trades.filterMap fun trade => (adapter.adaptTrade trade).2
  /-- The gauge goes by the last hundred. -/
  bufferUtilization : s.bufferUtilization = utilizationAfter trades.length
  /-- No opportunity is found. -/
  found : s.found = []

namespace MarketDataProcessor

/-- `main`, when the task is spawned. -/
def start (engine : StrategyEngine) : MarketDataProcessor := ⟨engine, 0, 0, [], none, []⟩

variable {adapter : TradeDataAdapter} {trades : List TradeData} {s : MarketDataProcessor}

theorem updateStats_eq {n : ℕ} (hcount : s.processedCount.toNat = n + 1)
    (hgauge : s.bufferUtilization = utilizationAfter n) :
    s.updateStats = { s with bufferUtilization := utilizationAfter (n + 1) } := by
  have hzero : s.processedCount % 100 = 0 ↔ (n + 1) % 100 = 0 := by
    rw [← BitVec.toNat_inj, BitVec.toNat_umod, hcount]
    rfl
  have hlarge : (1000 : U64) < s.processedCount ↔ 1000 < n + 1 := by
    rw [BitVec.lt_def, hcount]
    rfl
  unfold updateStats
  by_cases hround : (n + 1) % 100 = 0
  · have hgauge' : utilizationAfter (n + 1) = some (if 1000 < n + 1 then 75 else 25) := by
      rw [utilizationAfter, if_neg (by omega), show (n + 1) / 100 * 100 = n + 1 by omega]
    rw [if_pos (hzero.mpr hround), hgauge']
    simp only [hlarge]
  · rw [if_neg (mt hzero.mp hround)]
    have hsame : utilizationAfter (n + 1) = utilizationAfter n := by
      rw [utilizationAfter, utilizationAfter, show (n + 1) / 100 = n / 100 by omega]
      simp only [show n + 1 < 100 ↔ n < 100 by omega]
    rw [hsame, ← hgauge]

theorem exact_updateStats {trade : TradeData} (hquiet : Quiet s.engine)
    (hcount : s.processedCount.toNat = trades.length + 1)
    (hprocessed : s.transactionsProcessed = (adaptedTrades adapter (trades ++ [trade])).length)
    (hevaluated : s.engine.stats.transactionsEvaluated.toNat = (adaptedTrades adapter (trades ++ [trade])).length)
    (herrors : s.adaptationErrors =
      (trades.filterMap fun trade => (adapter.adaptTrade trade).2) ++ (adapter.adaptTrade trade).2.toList)
    (hgauge : s.bufferUtilization = utilizationAfter trades.length) (hfound : s.found = []) :
    ProcessedExactly adapter (trades ++ [trade]) s.updateStats := by
  rw [updateStats_eq hcount hgauge]
  refine ⟨hquiet, by simpa using hcount, hprocessed, hevaluated, ?_, by simp, hfound⟩
  rw [List.filterMap_append, herrors]
  rcases hcounted : (adapter.adaptTrade trade).2 with _ | labels <;> simp [hcounted]

/-- **One more trade.** -/
theorem processTrade_exact (h : ProcessedExactly adapter trades s) (hroom : trades.length + 1 < 2 ^ 64)
    (received : Received) (trade : TradeData) :
    ∃ s', s.processTrade adapter received trade = some (.ok (), s') ∧
      ProcessedExactly adapter (trades ++ [trade]) s' := by
  obtain ⟨n, hn⟩ := (Uint.exists_add_eq_ok_iff (b := (1 : U64))).mpr (h.processedCount ▸ hroom)
  have hcount : n.toNat = trades.length + 1 := by
    rw [Uint.add_eq_ok_iff.mp hn, h.processedCount]
    rfl
  have herrors := congrArg (· ++ (adapter.adaptTrade trade).2.toList) h.adaptationErrors
  rw [processTrade, hn]
  rcases hadapt : (adapter.adaptTrade trade).1 with (message | message) | adaptedEvent
  · have hskipped : adaptedTrades adapter (trades ++ [trade]) = adaptedTrades adapter trades := by
      simp [adaptedTrades, hadapt, Except.isOk, Except.toBool]
    simp only [hadapt, Option.map_some, Except.isOk, Except.toBool, if_true]
    exact ⟨_, rfl, exact_updateStats h.quiet hcount (hskipped ▸ h.transactionsProcessed)
      (hskipped ▸ h.transactionsEvaluated) herrors h.bufferUtilization h.found⟩
  · have hnever : panics (adapter.adaptTrade trade).1 = false := adaptTrade_never_panics
    rw [hadapt] at hnever
    cases hnever
  · have hadded : (adaptedTrades adapter (trades ++ [trade])).length = (adaptedTrades adapter trades).length + 1 := by
      simp [adaptedTrades, hadapt, Except.isOk, Except.toBool]
    have hevaluated : s.engine.stats.transactionsEvaluated.toNat + 1 < 2 ^ 64 := by
      have hle : (adaptedTrades adapter trades).length ≤ trades.length := List.length_filter_le ..
      rw [h.transactionsEvaluated]
      omega
    obtain ⟨engine', heval, hquiet, hstats⟩ := h.quiet.evaluateTransaction adaptedEvent hevaluated
      received.keyOrder received.currentTime
    simp only [hadapt, evaluate, heval, Option.map_some, Except.isOk, Except.toBool, if_true]
    exact ⟨_, rfl, exact_updateStats hquiet hcount (by rw [hadded, h.transactionsProcessed])
      (by rw [hadded, hstats, h.transactionsEvaluated]) herrors h.bufferUtilization (by rw [h.found, List.nil_append])⟩

theorem process_exact (h : ProcessedExactly adapter trades s) (hroom : trades.length + 1 < 2 ^ 64)
    (received : Received) :
    ∃ s', s.process adapter received = some (.ok (), s') ∧
      ProcessedExactly adapter (trades ++ received.trade?.toList) s' := by
  unfold process Received.trade?
  rcases received.event with trade | orderbook
  · exact processTrade_exact h hroom received trade
  · exact ⟨s, rfl, by simpa using h⟩

/-- **The task, over all events**: it counts what it should, and never finds an opportunity. -/
theorem run_exact (h : ProcessedExactly adapter trades s) (events : List Received)
    (hroom : trades.length + events.length < 2 ^ 64) :
    ∃ s', run adapter events s = some (.ok (), s') ∧
      ProcessedExactly adapter (trades ++ events.filterMap Received.trade?) s' := by
  induction events generalizing trades s with
  | nil => exact ⟨s, rfl, by simpa using h⟩
  | cons received rest ih =>
    rw [List.length_cons] at hroom
    obtain ⟨s₁, hprocess, h₁⟩ := process_exact h (by omega) received
    have hlength : received.trade?.toList.length ≤ 1 := by cases received.trade? <;> simp
    obtain ⟨s', hrun, h'⟩ := ih h₁ (by rw [List.length_append]; omega)
    refine ⟨s', by rw [run, hprocess]; exact hrun, ?_⟩
    rw [List.append_assoc] at h'
    rcases htrade : received.trade? with _ | trade <;> simpa [htrade] using h'

end MarketDataProcessor

/-- **Nothing is ever found**: whatever is received, with whatever strategies and in whatever mode the engine
is, no trade is taken for an opportunity, and the task goes on. -/
theorem nothing_found {config : StrategyEngineConfig} (hpermits : config.maxConcurrentEvaluations ≠ 0)
    (hsemaphore : config.maxConcurrentEvaluations.toNat ≤ maxPermits) {strategies : List Strategy}
    (hknown : ∀ strategy ∈ strategies, KnownStrategy strategy) (adapter : TradeDataAdapter) {events : List Received}
    (hroom : events.length < 2 ^ 64) :
    ∃ s, MarketDataProcessor.run adapter events
        (.start (strategies.foldl StrategyEngine.registerStrategy (.new config))) = some (.ok (), s) ∧
      ProcessedExactly adapter (events.filterMap Received.trade?) s := by
  have hstart : ProcessedExactly adapter []
      (.start (strategies.foldl StrategyEngine.registerStrategy (.new config))) := by
    have hstats : ∀ engine : StrategyEngine,
        (strategies.foldl StrategyEngine.registerStrategy engine).stats = engine.stats := by
      clear hknown
      induction strategies with
      | nil => exact fun _ => rfl
      | cons strategy rest ih => exact fun engine => ih _
    refine ⟨quiet_new hpermits hsemaphore hknown, rfl, rfl, ?_, rfl, rfl, rfl⟩
    exact congrArg (fun stats => stats.transactionsEvaluated.toNat) (hstats _)
  obtain ⟨s, hrun, hexact⟩ := MarketDataProcessor.run_exact hstart events (by simpa using hroom)
  exact ⟨s, hrun, hexact⟩

/-- The engine of `main`, with its one strategy. -/
def mainEngine : StrategyEngine :=
  [engineStrategy (.arbitrage .new) (fun _ => some 0) (fun _ => MevStrategy.sampleTime)
    fun _ => MevStrategy.sampleTime].foldl
    StrategyEngine.registerStrategy (.new .default)

/-- An adapter for two tokens. -/
def solAdapter : TradeDataAdapter :=
  ⟨((∅ : Table String Address).insert "USDC" 3).insert "SOL" 4,
    ((∅ : Table String (BitVec 8)).insert "USDC" 6).insert "USDT" 6⟩

/-- A trade of a coin. -/
def tradeOf (coin tradeId : String) : Received :=
  ⟨.trade ⟨coin, .buy, Binary64.ofNat 100, Binary64.ofNat 1, 1696348800000, tradeId⟩, id, 0⟩

/-- One trade is adapted and evaluated; the other is of a coin that is not configured, and an error. -/
theorem soldTrades_counted : ∃ s,
    MarketDataProcessor.run solAdapter [tradeOf "SOL" "1", tradeOf "DOGE" "2"] (.start mainEngine) =
        some (.ok (), s) ∧
      s.processedCount.toNat = 2 ∧ s.transactionsProcessed = 1 ∧
      s.engine.stats.transactionsEvaluated.toNat = 1 ∧ s.adaptationErrors = [("DOGE", "unknown_coin")] ∧
      s.found = [] := by
  obtain ⟨s, hrun, hexact⟩ : ∃ s,
      MarketDataProcessor.run solAdapter [tradeOf "SOL" "1", tradeOf "DOGE" "2"] (.start mainEngine) =
          some (.ok (), s) ∧
        ProcessedExactly solAdapter ([tradeOf "SOL" "1", tradeOf "DOGE" "2"].filterMap Received.trade?) s :=
    nothing_found (by decide) (by decide) (List.forall_mem_singleton.mpr ⟨_, _, _, _, rfl⟩) _ (by decide)
  have hone : (adaptedTrades solAdapter
      ([tradeOf "SOL" "1", tradeOf "DOGE" "2"].filterMap Received.trade?)).length = 1 := by
    decide +kernel
  have herrors : (([tradeOf "SOL" "1", tradeOf "DOGE" "2"].filterMap Received.trade?).filterMap fun trade =>
      (solAdapter.adaptTrade trade).2) = [("DOGE", "unknown_coin")] := by
    decide +kernel
  exact ⟨s, hrun, hexact.processedCount, hexact.transactionsProcessed.trans hone,
    hexact.transactionsEvaluated.trans hone, hexact.adaptationErrors.trans herrors, hexact.found⟩

end Botmev.Pipeline
