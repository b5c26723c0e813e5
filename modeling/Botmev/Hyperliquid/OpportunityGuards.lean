import Botmev.Hyperliquid.OpportunityDetector
import Botmev.Library.LastWrite

/-!
# What an emitted opportunity has passed

An opportunity is emitted at one place, for a price that was compared with that of the last
trade of the coin, where the event was not too old when it was looked at, the spread was wide
enough, and the node, if it was to be asked, was not far ahead. The spread is a `u64`: one that
does not fit is the largest there is.

## What is proved

* `marketPrices_rounds`: the price that is kept for a coin is that of its last trade.
* `emitted_check`, `emitted_emitArbitrage`, `emitted_emit`: what was checked before something is
  emitted.
* `emitted_guarded`: every opportunity emitted has passed the guards.
* `spread_saturates`: with a spread that is not the exact one where this does not fit.
-/

namespace Botmev.Hyperliquid

open Botmev.Rust Botmev.Library

/-- The trade that is received, with its price. -/
def DetectorEvent.tradeWrite : DetectorEvent → Option (String × ℚ)
  | .marketData (.trade data) => some (data.coin, data.price)
  | _ => none

/-- The prices are positive. -/
def MarketDataEvent.Positive : MarketDataEvent → Prop
  | .trade data => 0 < data.price
  | .orderBook data => ∀ level ∈ data.bids ++ data.asks, 0 < level.price

/-- They are, if there are any. -/
def DetectorEvent.Positive : DetectorEvent → Prop
  | .marketData data => data.Positive
  | .stateUpdate _ => True

/-- The spread of an arbitrage. -/
def Opportunity.spreadBps? (opportunity : Opportunity) : Option U64 :=
  match opportunity.opportunityType with
  | .arbitrage _ _ _ spreadBps => some spreadBps
  | .liquidation .. | .frontRun .. => none

/-- The spread of a price over another, in basis points. -/
def exactSpread (p q : ℚ) : ℤ := ⌊10000 * |p - q| / q⌋

/-- The same, as far as there is room for it. -/
def cappedSpread (p q : ℚ) : ℤ := min (exactSpread p q) (2 ^ 64 - 1)

/-- **What an opportunity has passed** that is emitted for an event after others, given what was
asked for with the answers: `spread` is what its spread ought to be. -/
structure PassesGuards (spread : ℚ → ℚ → ℤ) (config : OpportunityDetectorConfig) (before : List DetectorEvent)
    (event : MarketDataEvent) (asked : List (Sigma DetectorI.Reply)) (opportunity : Opportunity) : Prop where
  /-- It is about the event. -/
  marketData : opportunity.marketData = event
  /-- The spread is that of the event's price over the one of the last trade, and wide enough. -/
  spread : ∃ p q spreadBps, event.hlPrice = some p ∧
    lastWrite DetectorEvent.tradeWrite before event.coin = some q ∧
    opportunity.spreadBps? = some spreadBps ∧ config.minArbitrageSpreadBps ≤ spreadBps ∧
      (spreadBps.toNat : ℤ) = spread p q
  /-- The event was not too old when it was looked at. -/
  fresh : ∃ now : U64, asked.head? = some ⟨.now, .ok now⟩ ∧
    now.toNat ≤ event.timestamp.toNat + config.maxMarketDataAgeMs.toNat
  /-- It is verified, if it is to be, and the node was at most five blocks ahead. -/
  verified : config.verifyViaRpc = true → opportunity.verified = true ∧
    ∃ state : BlockchainState, ⟨.poll, .ok state⟩ ∈ asked ∧
      state.blockNumber.toNat ≤ opportunity.blockchainState.blockNumber.toNat + 5

variable {σ : Type} {h : Handler DetectorI σ} {s : σ} {detector : OpportunityDetector}
  {opportunity emitted : Opportunity}
  {marketData : MarketDataEvent}

/-! ### The numbers -/

theorem toNat_castU64 (x : ℚ) : (castU64 x).toNat = min ⌊x⌋.toNat (2 ^ 64 - 1) := by
  rw [castU64, BitVec.toNat_ofNat]
  omega

theorem toNat_spread {p q : ℚ} (hq : 0 < q) :
    ((castU64 (|p - q| / q * 10000)).toNat : ℤ) = cappedSpread p q := by
  have hcomm : |p - q| / q * 10000 = 10000 * |p - q| / q := by ring
  have hnonneg : 0 ≤ exactSpread p q := Int.floor_nonneg.mpr (by positivity)
  rw [toNat_castU64, hcomm, cappedSpread, ← exactSpread]
  omega

/-! ### One event -/

theorem trace_systemTime {α : Type} (f : U64 → DetectorM α) :
    (systemTime >>= f).trace h s =
      ⟨.now, (h .now s).1⟩ :: match (h .now s).1 with
        | .ok now => (f now).trace h (h .now s).2
        | .error _ => [] := by
  show ⟨.now, (h .now s).1⟩ :: ((match (h .now s).1 with
    | .ok now => pure now
    | .error message => Async.done (.error (.panic message)) : DetectorM U64) >>= f).trace h (h .now s).2 = _
  rcases (h .now s).1 with message | now <;> rfl

theorem trace_new {α : Type} (opportunityType : OpportunityType) (expectedProfit : U256)
    (marketData : MarketDataEvent)
    (blockchainState : BlockchainState) (f : Opportunity → DetectorM α) :
    (Opportunity.new opportunityType expectedProfit marketData blockchainState >>= f).trace h s =
      ⟨.now, (h .now s).1⟩ :: match (h .now s).1 with
        | .ok detectedAt =>
          (f ⟨opportunityType, expectedProfit, marketData, blockchainState, false, detectedAt, none⟩).trace h
            (h .now s).2
        | .error _ => [] := by
  show ⟨.now, (h .now s).1⟩ :: (((match (h .now s).1 with
    | .ok now => pure now
    | .error message => Async.done (.error (.panic message)) : DetectorM U64) >>= fun detectedAt => pure
      ⟨opportunityType, expectedProfit, marketData, blockchainState, false, detectedAt, none⟩) >>= f).trace h
        (h .now s).2 = _
  rcases (h .now s).1 with message | now <;> rfl

theorem run_verify {s' : σ}
    (hverified : (OpportunityDetector.verifyOpportunityViaRpc opportunity).run h s = (.ok true, s')) :
    ∃ state : BlockchainState, ⟨.poll, .ok state⟩ ∈
        (OpportunityDetector.verifyOpportunityViaRpc opportunity).trace h s ∧
      state.blockNumber.toNat ≤ opportunity.blockchainState.blockNumber.toNat + 5 := by
  obtain ⟨expired, s₁, hexpired, hrest⟩ := Async.exists_of_run_bind hverified
  rw [OpportunityDetector.verifyOpportunityViaRpc, Async.trace_bind_of_ok _ hexpired]
  cases expired with
  | true => cases hrest
  | false =>
    rw [if_neg Bool.false_ne_true] at hrest ⊢
    generalize opportunity.opportunityType = opportunityType at hrest ⊢
    cases opportunityType with
    | liquidation | frontRun => cases hrest
    | arbitrage buyVenue sellVenue token spreadBps =>
      dsimp only at hrest ⊢
      rw [Async.run_request_bind] at hrest
      rw [Async.trace_request_bind]
      generalize (h .poll s₁).1 = polled at hrest ⊢
      rcases polled with (e | message) | state
      · cases hrest
      · cases hrest
      · refine ⟨state, by simp, ?_⟩
        simp only [recontext, Async.lift_eq, Async.ok_bind] at hrest
        split at hrest
        · cases hrest
        next hdiff =>
          rw [BitVec.lt_def, Uint.toNat_saturatingSub] at hdiff
          have hfive : (5 : U64).toNat = 5 := rfl
          omega

theorem within_verify :
    (OpportunityDetector.verifyOpportunityViaRpc opportunity).Within
      fun op : DetectorOp => ∀ emitted, op ≠ .send emitted := by
  have hnow : systemTime.Within fun op : DetectorOp => ∀ emitted, op ≠ .send emitted := by
    refine ⟨by simp, fun reply => ?_⟩
    rcases reply with message | now <;> trivial
  have hexpired : opportunity.isExpired.Within fun op : DetectorOp => ∀ emitted, op ≠ .send emitted := by
    unfold Opportunity.isExpired
    split
    · exact hnow.bind fun _ => trivial
    · trivial
  refine hexpired.bind fun expired => ?_
  split
  · trivial
  · split
    · refine ⟨by simp, fun polled => ?_⟩
      rcases polled with (e | message) | state
      · trivial
      · trivial
      · show Async.Within _ (ite _ _ _)
        split
        · trivial
        · split <;> trivial
    · trivial
    · trivial

theorem emitted_emit (hemitted : ⟨.send emitted, ()⟩ ∈ (detector.emit opportunity).trace h s) :
    emitted = { opportunity with verified := emitted.verified } ∧
      (detector.config.verifyViaRpc = true → emitted.verified = true ∧
        ∃ state : BlockchainState, ⟨.poll, .ok state⟩ ∈ (detector.emit opportunity).trace h s ∧
          state.blockNumber.toNat ≤ emitted.blockchainState.blockNumber.toNat + 5) := by
  unfold OpportunityDetector.emit at hemitted ⊢
  by_cases hverify : detector.config.verifyViaRpc = true
  · rw [if_pos hverify] at hemitted ⊢
    rw [Async.trace_bind_of_ok _ (Async.run_attempt _ _), Async.trace_attempt] at hemitted ⊢
    rcases List.mem_append.mp hemitted with hrest | hrest
    · exact absurd rfl (within_verify.of_mem_trace hrest emitted)
    generalize hresult : Async.run h _ _ = result at hrest ⊢
    obtain ⟨result, s'⟩ := result
    rcases result with (e | message) | verified
    · cases hrest
    · cases hrest
    · cases verified with
      | false => cases hrest
      | true =>
        cases List.mem_singleton.mp hrest
        obtain ⟨state, hpoll, hblock⟩ := run_verify hresult
        exact ⟨rfl, fun _ => ⟨rfl, state, List.mem_append_left _ hpoll, hblock⟩⟩
  · rw [if_neg hverify] at hemitted
    cases List.mem_singleton.mp hemitted
    exact ⟨rfl, fun h => absurd h hverify⟩

/-- **What is emitted** is about the event, with the spread. -/
theorem emitted_emitArbitrage {now spreadBps : U64} {p q : ℚ}
    (hemitted : ⟨.send emitted, ()⟩ ∈ (detector.emitArbitrage marketData now p q spreadBps).trace h s) :
    emitted.marketData = marketData ∧ emitted.spreadBps? = some spreadBps ∧
      (detector.config.verifyViaRpc = true → emitted.verified = true ∧
        ∃ state : BlockchainState, ⟨.poll, .ok state⟩ ∈
          (detector.emitArbitrage marketData now p q spreadBps).trace h s ∧
          state.blockNumber.toNat ≤ emitted.blockchainState.blockNumber.toNat + 5) := by
  unfold OpportunityDetector.emitArbitrage at hemitted ⊢
  rw [trace_new] at hemitted ⊢
  generalize (h .now s).1 = reading at hemitted ⊢
  rcases reading with message | detectedAt
  · cases List.mem_singleton.mp hemitted
  rcases List.mem_cons.mp hemitted with hnow | hrest
  · cases hnow
  dsimp only at hrest ⊢
  generalize Uint.add now 10000 = deadline at hrest ⊢
  rcases deadline with failure | expiresAt
  · cases hrest
  obtain ⟨heq, hverified⟩ := emitted_emit hrest
  refine ⟨by rw [heq], by rw [heq]; rfl, fun hverify => ?_⟩
  obtain ⟨htrue, state, hpoll, hblock⟩ := hverified hverify
  exact ⟨htrue, state, List.mem_cons_of_mem _ hpoll, hblock⟩

/-- **What was checked** before it. -/
theorem emitted_check
    (hemitted : ⟨.send emitted, ()⟩ ∈ (detector.checkArbitrageOpportunity marketData).trace h s) :
    ∃ now p q, (detector.checkArbitrageOpportunity marketData).trace h s =
        ⟨.now, .ok now⟩ ::
          (detector.emitArbitrage marketData now p q (castU64 (|p - q| / q * 10000))).trace h (h .now s).2 ∧
      now.toNat ≤ marketData.timestamp.toNat + detector.config.maxMarketDataAgeMs.toNat ∧
      marketData.hlPrice = some p ∧ detector.marketPrices.lookup marketData.coin = some q ∧
      detector.config.minArbitrageSpreadBps ≤ castU64 (|p - q| / q * 10000) := by
  rw [OpportunityDetector.checkArbitrageOpportunity, trace_systemTime] at hemitted ⊢
  generalize (h .now s).1 = reading at hemitted ⊢
  rcases reading with message | now
  · cases List.mem_singleton.mp hemitted
  rcases List.mem_cons.mp hemitted with hnow | hrest
  · cases hnow
  dsimp only at hrest ⊢
  by_cases hstale : detector.config.maxMarketDataAgeMs < Uint.saturatingSub now marketData.timestamp
  · rw [if_pos hstale] at hrest
    cases hrest
  rw [if_neg hstale] at hrest ⊢
  rw [BitVec.lt_def, Uint.toNat_saturatingSub] at hstale
  rcases hp : marketData.hlPrice with _ | p
  · rw [hp] at hrest
    cases hrest
  rcases hq : detector.marketPrices.lookup marketData.coin with _ | q
  · rw [hp, hq] at hrest
    cases hrest
  rw [hp, hq] at hrest
  dsimp only at hrest ⊢
  by_cases hzero : q = 0 ∨ p = 0
  · rw [if_pos hzero] at hrest
    cases hrest
  rw [if_neg hzero] at hrest ⊢
  by_cases hmin : detector.config.minArbitrageSpreadBps ≤ castU64 (|p - q| / q * 10000)
  · rw [if_pos hmin] at hrest ⊢
    exact ⟨now, p, q, rfl, by omega, rfl, rfl, hmin⟩
  · rw [if_neg hmin] at hrest
    cases hrest

/-! ### The rounds before it -/

/-- There is no error. -/
def NoErr {α : Type} (result : Result α) : Prop := ∀ e, result ≠ .error (.err e)

theorem noErr_ok {α : Type} (a : α) : NoErr (.ok a) := by simp [NoErr]

theorem noErr_panic {α : Type} (message : String) :
    NoErr (.error (.panic message) : Result α) := by simp [NoErr]

theorem NoErr.retype {α β : Type} {failure : Failure} (hno : NoErr (.error failure : Result α)) :
    NoErr (.error failure : Result β) := by
  rintro e ⟨⟩
  exact hno e rfl

theorem ends_systemTime : systemTime.Ends NoErr := by
  intro reply
  rcases reply with message | now
  · exact noErr_panic message
  · exact noErr_ok now

theorem ends_emit : (detector.emit opportunity).Ends NoErr := by
  unfold OpportunityDetector.emit
  split
  · refine (Async.ends_attempt _).bind (fun result _ => ?_) ?_
    · rcases result with (e | message) | verified
      · exact noErr_ok ()
      · exact noErr_panic message
      · cases verified with
        | false => exact noErr_ok ()
        | true => exact fun _ => noErr_ok ()
    · rintro e ⟨_, ⟨⟩⟩
  · exact fun _ => noErr_ok ()

theorem noErr_add (a b : U64) : NoErr (Uint.add a b) := by
  unfold Uint.add
  split
  · exact noErr_ok _
  · exact noErr_panic _

theorem ends_emitArbitrage {now spreadBps : U64} {p q : ℚ} :
    (detector.emitArbitrage marketData now p q spreadBps).Ends NoErr := by
  have hnew : ∀ a b c d, (Opportunity.new a b c d).Ends NoErr := fun a b c d =>
    ends_systemTime.bind (f := fun _ => pure _) (fun _ _ => noErr_ok _) fun _ h => h.retype
  have hdeadline := noErr_add now 10000
  unfold OpportunityDetector.emitArbitrage
  generalize Uint.add now 10000 = deadline at hdeadline ⊢
  refine (hnew _ _ _ _).bind (fun _ _ => ?_) fun _ h => h.retype
  rcases deadline with failure | expiresAt
  · exact hdeadline.retype
  · exact ends_emit

/-- **The check fails only by panicking**: a failed verification is logged. -/
theorem ends_check : (detector.checkArbitrageOpportunity marketData).Ends NoErr := by
  refine ends_systemTime.bind (fun now _ => ?_) fun _ h => h.retype
  dsimp only
  split
  · exact noErr_ok ()
  · split
    · split
      · exact noErr_ok ()
      · split
        · exact ends_emitArbitrage
        · exact noErr_ok ()
    · exact noErr_ok ()

variable (detector marketData) in
theorem ends_processMarketData : (detector.processMarketData marketData).Ends NoErr := by
  cases marketData with
  | trade data => exact ends_check.bind (fun _ _ => noErr_ok _) fun _ h => h.retype
  | orderBook data => exact ends_check.bind (fun _ _ => noErr_ok _) fun _ h => h.retype

theorem trace_processMarketData :
    (detector.processMarketData marketData).trace h s =
      ((detector.beforeCheck marketData).checkArbitrageOpportunity marketData).trace h s := by
  cases marketData with
  | trade data => exact Async.trace_bind_done _ (fun _ => .ok _) s
  | orderBook data => exact Async.trace_bind_done _ (fun _ => .ok _) s

theorem config_beforeCheck : (detector.beforeCheck marketData).config = detector.config := by
  cases marketData <;> rfl

theorem marketPrices_beforeCheck : (detector.beforeCheck marketData).marketPrices = detector.marketPrices := by
  cases marketData <;> rfl

theorem marketPrices_round {event : DetectorEvent} {detector' : OpportunityDetector} {s' : σ}
    (hround : OpportunityDetector.round h (detector, s) event = some (detector', s')) :
    detector'.config = detector.config ∧
      ∀ coin, detector'.marketPrices.lookup coin =
        overwrite event.tradeWrite coin (detector.marketPrices.lookup coin) := by
  cases event with
  | stateUpdate update =>
    cases hround
    cases update <;> exact ⟨rfl, fun _ => rfl⟩
  | marketData data =>
    rcases hrun : (detector.processMarketData data).run h s with ⟨(e | message) | processed, s₁⟩
    · have hno := (ends_processMarketData detector data).run h s
      rw [hrun] at hno
      exact absurd rfl (hno e)
    · simp [OpportunityDetector.round, hrun] at hround
    · simp only [OpportunityDetector.round, hrun, Option.some.injEq, Prod.mk.injEq] at hround
      obtain ⟨rfl, rfl⟩ := hround
      cases data with
      | trade data =>
        obtain ⟨_, _, _, hprocessed⟩ := Async.exists_of_run_bind hrun
        cases hprocessed
        exact ⟨rfl, fun _ => lookup_insert ..⟩
      | orderBook data =>
        obtain ⟨_, _, _, hprocessed⟩ := Async.exists_of_run_bind hrun
        cases hprocessed
        exact ⟨rfl, fun _ => rfl⟩

/-- **The price that is kept for a coin** is that of its last trade. -/
theorem marketPrices_rounds {config : OpportunityDetectorConfig} {before : List DetectorEvent} {s₀ : σ}
    (hrounds : OpportunityDetector.rounds h before (.withConfig config, s₀) = some (detector, s)) :
    detector.config = config ∧
      ∀ coin, detector.marketPrices.lookup coin = lastWrite DetectorEvent.tradeWrite before coin := by
  induction before using List.reverseRecOn generalizing detector s with
  | nil =>
    cases hrounds
    exact ⟨rfl, fun _ => rfl⟩
  | append_singleton before event ih =>
    rw [OpportunityDetector.rounds, List.foldlM_append] at hrounds
    obtain ⟨⟨previous, s₁⟩, hbefore, hround⟩ := Option.bind_eq_some_iff.mp hrounds
    simp only [List.foldlM_cons, List.foldlM_nil, bind_pure] at hround
    obtain ⟨hconfig, hprices⟩ := ih hbefore
    obtain ⟨hconfig', hprices'⟩ := marketPrices_round hround
    exact ⟨hconfig'.trans hconfig, fun coin => by rw [hprices', hprices, lastWrite_concat]⟩

/-- Where the prices of all trades are positive, so is the last one. -/
theorem lastWrite_positive {before : List DetectorEvent} {coin : String} {q : ℚ}
    (hpositive : ∀ event ∈ before, event.Positive)
    (hq : lastWrite DetectorEvent.tradeWrite before coin = some q) :
    0 < q := by
  obtain ⟨earlier, event, later, rfl, hwrite, -⟩ := lastWrite_eq_some_iff.mp hq
  have hevent := hpositive event (by simp)
  match event with
  | .marketData (.trade data) =>
    cases hwrite
    exact hevent

/-- **Every opportunity emitted has passed the guards**, whatever the detector has received
before, the clock says and the node answers. -/
theorem emitted_guarded {config : OpportunityDetectorConfig} {before : List DetectorEvent}
    {event : MarketDataEvent}
    {s₀ : σ} (hpositive : ∀ event ∈ before, event.Positive)
    (hrounds : OpportunityDetector.rounds h before (.withConfig config, s₀) = some (detector, s))
    (hemitted : ⟨.send emitted, ()⟩ ∈ (detector.processMarketData event).trace h s) :
    PassesGuards cappedSpread config before event ((detector.processMarketData event).trace h s) emitted := by
  obtain ⟨rfl, hprices⟩ := marketPrices_rounds hrounds
  rw [trace_processMarketData] at hemitted ⊢
  obtain ⟨now, p, q, htrace, hfresh, hp, hq, hmin⟩ := emitted_check hemitted
  rw [config_beforeCheck] at hfresh hmin
  rw [marketPrices_beforeCheck, hprices] at hq
  rw [htrace] at hemitted ⊢
  rcases List.mem_cons.mp hemitted with hnow | hemitted
  · cases hnow
  obtain ⟨hdata, hspread, hverified⟩ := emitted_emitArbitrage hemitted
  refine ⟨hdata, ⟨p, q, _, hp, hq, hspread, hmin, toNat_spread (lastWrite_positive hpositive hq)⟩,
    ⟨now, rfl, hfresh⟩, ?_⟩
  intro hverify
  obtain ⟨htrue, state, hpoll, hblock⟩ := hverified (by rw [config_beforeCheck]; exact hverify)
  exact ⟨htrue, state, List.mem_cons_of_mem _ hpoll, hblock⟩

/-- A clock that stands still, and a node at its first block. -/
def calm : Handler DetectorI Unit
  | .now, s => (.ok 1000, s)
  | .poll, s => (.ok (.new 1 0), s)
  | .send _, s => ((), s)

/-- A trade of a coin. -/
def coinTrade (price : ℚ) : MarketDataEvent :=
  .trade { coin := "BTC", side := .buy, price, size := 1, timestamp := 1000, tradeId := "1" }

/-- Something is emitted. -/
def sends? (asked : List (Sigma DetectorI.Reply)) : Bool :=
  asked.any fun step => match step.1 with
    | .send _ => true
    | .now | .poll => false

theorem exists_sent {asked : List (Sigma DetectorI.Reply)} (h : sends? asked = true) :
    ∃ emitted, ⟨.send emitted, ()⟩ ∈ asked := by
  obtain ⟨⟨op, reply⟩, hmem, hop⟩ := List.any_eq_true.mp h
  cases op with
  | send emitted => exact ⟨emitted, hmem⟩
  | now | poll => cases hop

/-- What the detector is after a trade, and asks for at the next one. -/
def secondTrade (first second : ℚ) : Option (OpportunityDetector × List (Sigma DetectorI.Reply)) :=
  (OpportunityDetector.rounds calm [.marketData (coinTrade first)] (.withConfig .default, ())).map fun run =>
    (run.1, (run.1.processMarketData (coinTrade second)).trace calm run.2)

theorem exists_emitted (first second : ℚ)
    (h : ((secondTrade first second).map fun run => sends? run.2) = some true) :
    ∃ detector emitted,
      OpportunityDetector.rounds calm [.marketData (coinTrade first)] (.withConfig .default, ()) =
          some (detector, ()) ∧
        ⟨.send emitted, ()⟩ ∈ (detector.processMarketData (coinTrade second)).trace calm () := by
  rw [secondTrade, Option.map_map] at h
  obtain ⟨⟨detector, ⟨⟩⟩, hrounds, hsends⟩ := Option.map_eq_some_iff.mp h
  obtain ⟨emitted, hemitted⟩ := exists_sent hsends
  exact ⟨detector, emitted, hrounds, hemitted⟩

/-- A price that rises by a tenth. -/
theorem rise_guarded :
    ∃ (detector : OpportunityDetector) (emitted : Opportunity),
      ⟨.send emitted, ()⟩ ∈ (detector.processMarketData (coinTrade 110)).trace calm () ∧
      PassesGuards cappedSpread .default [.marketData (coinTrade 100)] (coinTrade 110)
        ((detector.processMarketData (coinTrade 110)).trace calm ()) emitted := by
  have hpositive : ∀ event ∈ [DetectorEvent.marketData (coinTrade 100)], event.Positive := by
    intro event hevent
    cases List.mem_singleton.mp hevent
    show (0 : ℚ) < 100
    norm_num
  obtain ⟨detector, emitted, hrounds, hemitted⟩ := exists_emitted 100 110 (by decide +kernel)
  exact ⟨detector, emitted, hemitted, emitted_guarded hpositive hrounds hemitted⟩

/-- **A spread that does not fit**: the price rises from one to 2^64, and the opportunity says
that it is the largest number of basis points there is. -/
theorem spread_saturates :
    ∃ (detector : OpportunityDetector) (emitted : Opportunity),
      (∀ event ∈ [DetectorEvent.marketData (coinTrade 1)], event.Positive) ∧
      (coinTrade (2 ^ 64)).Positive ∧
      OpportunityDetector.rounds calm [.marketData (coinTrade 1)] (.withConfig .default, ()) =
        some (detector, ()) ∧
      ⟨.send emitted, ()⟩ ∈ (detector.processMarketData (coinTrade (2 ^ 64))).trace calm () ∧
      ¬ PassesGuards exactSpread .default [.marketData (coinTrade 1)] (coinTrade (2 ^ 64))
        ((detector.processMarketData (coinTrade (2 ^ 64))).trace calm ()) emitted := by
  obtain ⟨detector, emitted, hrounds, hemitted⟩ := exists_emitted 1 (2 ^ 64) (by decide +kernel)
  refine ⟨detector, emitted, ?_, ?_, hrounds, hemitted, fun hguards => ?_⟩
  · intro event hevent
    cases List.mem_singleton.mp hevent
    show (0 : ℚ) < 1
    norm_num
  · show (0 : ℚ) < 2 ^ 64
    norm_num
  · obtain ⟨p, q, spreadBps, hp, hq, -, -, hspread⟩ := hguards.spread
    cases hp
    cases hq
    have hexact : exactSpread (2 ^ 64) 1 = 10000 * (2 ^ 64 - 1) := by
      rw [exactSpread]
      norm_num
    have hlt := spreadBps.isLt
    have hequal : (spreadBps.toNat : ℤ) = exactSpread (2 ^ 64) 1 := hspread
    rw [hexact] at hequal
    omega

end Botmev.Hyperliquid
