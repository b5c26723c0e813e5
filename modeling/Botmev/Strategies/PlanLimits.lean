import Botmev.Strategies.Evaluation

/-!
# The limits of bundle plans

What a strategy has to find out to make a plan of an opportunity: a router for the target and a
gas price. The backrun goes for Curve, for which it has no router. It adds a twentieth to the gas
price of its target and caps the sum; the arbitrage caps a constant. The sandwich raises the gas
price of its victim by a premium, and then by a gwei, without a cap.

## What is proved

* `backrun_plan_cases`, `sandwich_plan_cases`: which opportunities a plan can be made of.
* `executable_iff`: which of the opportunities that a strategy finds.
* `capped_iff`: when no gas price of a plan is above the configured one.
-/

namespace Botmev.Strategies

open Botmev.Rust Botmev.Library Botmev.Core

/-! ### Routers and gas prices -/

/-- There is a router for it. -/
def hasRouter : TargetType → Bool
  | .uniswapV2 | .uniswapV3 | .sushiSwap => true
  | _ => false

theorem routerAddress_cases (unsupported : String) (targetType : TargetType) :
    hasRouter targetType = true ∧ (∃ address, routerAddress unsupported targetType = .ok address) ∨
      hasRouter targetType = false ∧ routerAddress unsupported targetType = .error (.err unsupported) := by
  cases targetType <;> first | exact .inl ⟨rfl, _, rfl⟩ | exact .inr ⟨rfl, rfl⟩

/-- The most to pay for a unit of gas, in wei. -/
def StrategyConfig.maxGasPriceWei (config : StrategyConfig) : ℕ := config.maxGasPriceGwei.toNat * 10 ^ 9

theorem exists_maxGasPrice (config : StrategyConfig) :
    ∃ maxGasPrice, Uint.mul (config.maxGasPriceGwei.setWidth 128) (1000000000 : U128) = .ok maxGasPrice ∧
      maxGasPrice.toNat = config.maxGasPriceWei := by
  have hgwei := config.maxGasPriceGwei.isLt
  have hwidth : (config.maxGasPriceGwei.setWidth 128).toNat = config.maxGasPriceGwei.toNat := by
    rw [BitVec.toNat_setWidth]
    omega
  have hgiga : (1000000000 : U128).toNat = 10 ^ 9 := rfl
  obtain ⟨maxGasPrice, hmul, hvalue⟩ := Uint.exists_mul_eq_ok (a := config.maxGasPriceGwei.setWidth 128)
    (b := 1000000000) (by rw [hwidth, hgiga]; omega)
  exact ⟨maxGasPrice, hmul, by rw [hvalue, hwidth, hgiga, StrategyConfig.maxGasPriceWei]⟩

/-- A gas price as it is read, or the one that stands for it. -/
def gasPriceWei (tx : ParsedTransaction) : U128 := (parseUint 128 tx.transaction.gasPrice).getD 20000000000

/-- **The arbitrage's gas price** is capped. -/
theorem ArbitrageStrategy.exists_gasPrice (strategy : ArbitrageStrategy) :
    ∃ gasPrice, strategy.calculateCompetitiveGasPrice = .ok gasPrice ∧
      gasPrice.toNat ≤ strategy.config.maxGasPriceWei := by
  obtain ⟨maxGasPrice, hmul, hvalue⟩ := exists_maxGasPrice strategy.config
  refine ⟨Uint.min 60000000000 maxGasPrice, ?_, ?_⟩
  · rw [calculateCompetitiveGasPrice, hmul]
    rfl
  · rw [toNat_min, ← hvalue]
    exact min_le_right _ _

/-- **The backrun's bid** is capped, if it can be worked out. -/
theorem BackrunStrategy.bid_cases (strategy : BackrunStrategy) (gasPrice : U128) :
    21 * gasPrice.toNat < 20 * 2 ^ 128 ∧
        (∃ bid, strategy.bid gasPrice = .ok bid ∧ bid.toNat ≤ strategy.config.maxGasPriceWei) ∨
      20 * 2 ^ 128 ≤ 21 * gasPrice.toNat ∧ overflows (strategy.bid gasPrice) = true := by
  have htwenty : (gasPrice / 20).toNat = gasPrice.toNat / 20 := BitVec.toNat_udiv ..
  obtain ⟨maxGasPrice, hmul, hvalue⟩ := exists_maxGasPrice strategy.config
  rcases Nat.lt_or_ge (21 * gasPrice.toNat) (20 * 2 ^ 128) with hfits | hlarge
  · obtain ⟨ourGasPrice, hours⟩ : ∃ ourGasPrice, Uint.add gasPrice (gasPrice / 20) = .ok ourGasPrice :=
      Uint.exists_add_eq_ok_iff.mpr (by omega)
    have hbid : strategy.bid gasPrice = .ok (if ourGasPrice ≤ maxGasPrice then ourGasPrice else maxGasPrice) := by
      rw [bid, hours, ok_bind, hmul]
      rfl
    refine .inl ⟨hfits, _, hbid, ?_⟩
    rw [← hvalue]
    split
    · exact ‹ourGasPrice ≤ maxGasPrice›
    · exact le_rfl
  · refine .inr ⟨hlarge, overflows_bind.mpr (.inl (Uint.overflows_add_iff.mpr ?_))⟩
    omega

/-- **The sandwich's gas prices**, if the raised one leaves room for another gwei, which is so
for all that are less than `2^128`. -/
theorem SandwichStrategy.frontRunGasPrice_iff (strategy : SandwichStrategy) (gasPrice : U128) :
    (∃ price, Uint.add ((strategy.raisedGasPrice gasPrice).toUint 128) 1000000000 = .ok price) ↔
      (strategy.raisedGasPrice gasPrice).Below (2 ^ 128) := by
  have hgiga : (1000000000 : U128).toNat = 1000000000 := rfl
  have hrounded : (strategy.raisedGasPrice gasPrice).Rounded := by
    unfold raisedGasPrice
    exact Binary64.rounded_mul _ _
  generalize strategy.raisedGasPrice gasPrice = raised at hrounded ⊢
  rw [Uint.exists_add_eq_ok_iff, hgiga]
  by_cases hbelow : raised.Below (2 ^ 128)
  · have hroom := hrounded.toUint_add_le (by decide) hbelow
    refine iff_of_true ?_ hbelow
    omega
  · have hlast := Binary64.toNat_toUint_of_not_below hbelow
    refine iff_of_false ?_ hbelow
    omega

/-! ### Plans -/

/-- It is an arbitrage. -/
def isArbitrage : OpportunityType → Bool
  | .arbitrage .. => true
  | _ => false

/-- It is a backrun. -/
def isBackrun : OpportunityType → Bool
  | .backrun .. => true
  | _ => false

/-- It is a sandwich. -/
def isSandwich : OpportunityType → Bool
  | .sandwich .. => true
  | _ => false

variable {opportunity : ScoredOpportunity}

/-- **The backrun's plan**: one transaction, at a capped price; or an error; or an overflow. -/
theorem backrun_plan_cases (strategy : BackrunStrategy) (opportunity : ScoredOpportunity) :
    (isBackrun opportunity.opportunityType = true ∧ hasRouter opportunity.targetTransaction.targetType = true ∧
        (21 * (gasPriceWei opportunity.targetTransaction).toNat < 20 * 2 ^ 128 ∧
            (∃ plan, strategy.createBundlePlan opportunity = .ok plan ∧
              ∀ tx ∈ plan.transactions, tx.gasPrice.toNat ≤ strategy.config.maxGasPriceWei) ∨
          20 * 2 ^ 128 ≤ 21 * (gasPriceWei opportunity.targetTransaction).toNat ∧
            overflows (strategy.createBundlePlan opportunity) = true)) ∨
      ¬ (isBackrun opportunity.opportunityType = true ∧
          hasRouter opportunity.targetTransaction.targetType = true) ∧
        ∃ message, strategy.createBundlePlan opportunity = .error (.err message) := by
  unfold BackrunStrategy.createBundlePlan BackrunStrategy.createBackrunTransaction
  rcases htype : opportunity.opportunityType with _ | ⟨hash, token, impact, action⟩ | _ | _
  case backrun =>
    rcases routerAddress_cases "Unsupported target type for backrun" opportunity.targetTransaction.targetType with
      ⟨hrouter, address, haddress⟩ | ⟨hrouter, haddress⟩
    · refine .inl ⟨rfl, hrouter, ?_⟩
      dsimp only [BackrunStrategy.getRouterAddress]
      rw [haddress, ok_bind]
      rcases strategy.bid_cases (gasPriceWei opportunity.targetTransaction) with
        ⟨hfits, bid, hbid, hcap⟩ | ⟨hlarge, hover⟩
      · refine .inl ⟨hfits, ?_⟩
        change strategy.calculateOptimalGasPrice opportunity.targetTransaction = .ok bid at hbid
        rw [hbid]
        exact ⟨_, rfl, by simpa [planFor] using hcap⟩
      · exact .inr ⟨hlarge, overflows_bind.mpr (.inl (overflows_bind.mpr (.inl hover)))⟩
    · refine .inr ⟨by simp [hrouter], "Unsupported target type for backrun", ?_⟩
      dsimp only [BackrunStrategy.getRouterAddress]
      rw [haddress]
      rfl
  all_goals exact .inr ⟨by simp [isBackrun], _, rfl⟩

/-- **The sandwich's plan**: its two gas prices are a gwei apart; or an error; or an overflow. -/
theorem sandwich_plan_cases (strategy : SandwichStrategy) (opportunity : ScoredOpportunity) :
    (isSandwich opportunity.opportunityType = true ∧ hasRouter opportunity.targetTransaction.targetType = true ∧
        ((strategy.raisedGasPrice (gasPriceWei opportunity.targetTransaction)).Below (2 ^ 128) ∧
            (∃ plan price base, strategy.createBundlePlan opportunity = .ok plan ∧
              base = (strategy.raisedGasPrice (gasPriceWei opportunity.targetTransaction)).toUint 128 ∧
              price.toNat = base.toNat + 10 ^ 9 ∧ plan.transactions.map (·.gasPrice) = [price, base]) ∨
          ¬ (strategy.raisedGasPrice (gasPriceWei opportunity.targetTransaction)).Below (2 ^ 128) ∧
            overflows (strategy.createBundlePlan opportunity) = true)) ∨
      ¬ (isSandwich opportunity.opportunityType = true ∧
          hasRouter opportunity.targetTransaction.targetType = true) ∧
        ∃ message, strategy.createBundlePlan opportunity = .error (.err message) := by
  unfold SandwichStrategy.createBundlePlan SandwichStrategy.createSandwichTransactions
  rcases htype : opportunity.opportunityType with _ | _ | ⟨hash, pair, frontRun, backRun, profit⟩ | _
  case sandwich =>
    have hprice := strategy.frontRunGasPrice_iff (gasPriceWei opportunity.targetTransaction)
    unfold gasPriceWei at hprice ⊢
    simp only [SandwichStrategy.getRouterAddress]
    generalize strategy.raisedGasPrice _ = raised at hprice ⊢
    rcases routerAddress_cases "Unsupported target type for sandwich" opportunity.targetTransaction.targetType with
      ⟨hrouter, address, haddress⟩ | ⟨hrouter, haddress⟩
    · refine .inl ⟨rfl, hrouter, ?_⟩
      rw [haddress, ok_bind]
      by_cases hbelow : raised.Below (2 ^ 128)
      · obtain ⟨price, hadd⟩ := hprice.mpr hbelow
        rw [hadd]
        exact .inl ⟨hbelow, _, price, _, rfl, rfl, Uint.add_eq_ok_iff.mp hadd, rfl⟩
      · rw [Uint.exists_add_eq_ok_iff] at hprice
        refine .inr ⟨hbelow, overflows_bind.mpr (.inl (overflows_bind.mpr (.inl ?_)))⟩
        exact Uint.overflows_add_iff.mpr (Nat.le_of_not_lt fun h => hbelow (hprice.mp h))
    · refine .inr ⟨by simp [hrouter], "Unsupported target type for sandwich", ?_⟩
      rw [haddress]
      rfl
  all_goals exact .inr ⟨by simp [isSandwich], _, rfl⟩

theorem swapOn_capped (strategy : ArbitrageStrategy) (opportunity : ArbitrageOpportunity) (i : ℕ)
    (value : U128) (action : String) :
    overflows (strategy.swapOn opportunity i value action) = false ∧
      ∀ tx, strategy.swapOn opportunity i value action = .ok tx →
        tx.gasPrice.toNat ≤ strategy.config.maxGasPriceWei := by
  obtain ⟨gasPrice, hgasPrice, hcap⟩ := strategy.exists_gasPrice
  have hrouter (dex : String) : overflows (ArbitrageStrategy.getDexRouter dex) = false := by
    unfold ArbitrageStrategy.getDexRouter
    split <;> rfl
  have hdex : overflows (dexAt opportunity.dexPath i) = false := by
    unfold dexAt
    split <;> simp [overflows, overflowMessages]
  unfold ArbitrageStrategy.swapOn
  constructor
  · rw [← Bool.not_eq_true]
    simp [overflows_bind, hdex, hrouter, hgasPrice, pure, Except.pure]
  · intro tx h
    simp only [bind_eq_ok_iff, hgasPrice] at h
    obtain ⟨_, -, _, -, _, ⟨rfl⟩, ⟨rfl⟩⟩ := h
    exact hcap

/-- **The arbitrage's plan** is at capped prices. -/
theorem arbitrage_plan_capped (strategy : ArbitrageStrategy) (opportunity : ScoredOpportunity) :
    overflows (strategy.createBundlePlan opportunity) = false ∧
      ∀ plan, strategy.createBundlePlan opportunity = .ok plan →
        ∀ tx ∈ plan.transactions, tx.gasPrice.toNat ≤ strategy.config.maxGasPriceWei := by
  unfold ArbitrageStrategy.createBundlePlan ArbitrageStrategy.createArbitrageTransactions
  rcases opportunity.opportunityType with ⟨tokenIn, tokenOut, amountIn, profit, path⟩ | _ | _ | _
  case arbitrage =>
    dsimp only
    generalize ArbitrageOpportunity.mk _ _ _ _ _ _ = details
    have hbuy := swapOn_capped strategy details 0 amountIn "Buy"
    have hsell := swapOn_capped strategy details 1 0 "Sell"
    constructor
    · rw [← Bool.not_eq_true]
      simp only [overflows_bind, hbuy.1, hsell.1, pure, Except.pure, overflows_ok, Bool.false_eq_true, and_false,
        exists_false, or_false, not_false_eq_true]
    · intro plan h
      simp only [bind_eq_ok_iff] at h
      obtain ⟨_, ⟨buyTx, hbuyTx, sellTx, hsellTx, ⟨rfl⟩⟩, ⟨rfl⟩⟩ := h
      simpa [planFor] using ⟨hbuy.2 buyTx hbuyTx, hsell.2 sellTx hsellTx⟩
  all_goals exact ⟨rfl, by rintro _ ⟨⟩⟩

theorem arbitrage_plan_ok (strategy : ArbitrageStrategy) {amountIn profit : U128}
    (h : opportunity.opportunityType = .arbitrage "WETH" "USDC" amountIn profit ["UniswapV2", "SushiSwap"]) :
    ∃ plan, strategy.createBundlePlan opportunity = .ok plan := by
  obtain ⟨gasPrice, hgasPrice, -⟩ := strategy.exists_gasPrice
  unfold ArbitrageStrategy.createBundlePlan ArbitrageStrategy.createArbitrageTransactions
    ArbitrageStrategy.swapOn
  rw [h]
  simp only [hgasPrice]
  exact ⟨_, rfl⟩

/-! ### Executable opportunities -/

namespace MevStrategy

variable {idTime expiryTime : UtcNow} {tx : ParsedTransaction}

/-- A plan can be made for the transaction: the backrun has a router for it, and the raised gas
price is in range. -/
def CanPlan (tx : ParsedTransaction) : MevStrategy → Prop
  | .arbitrage _ => True
  | .backrun _ => tx.targetType ≠ .curve ∧ 21 * (gasPriceWei tx).toNat < 20 * 2 ^ 128
  | .sandwich strategy => (strategy.raisedGasPrice (gasPriceWei tx)).Below (2 ^ 128)

theorem hasRouter_of_candidate {strategy : BackrunStrategy} (h : strategy.isBackrunCandidate tx = true) :
    hasRouter tx.targetType = true ↔ tx.targetType ≠ .curve := by
  unfold BackrunStrategy.isBackrunCandidate BackrunStrategy.candidate at h
  cases htarget : tx.targetType <;> simp_all [hasRouter]

theorem hasRouter_of_victim {strategy : SandwichStrategy} (h : strategy.isSandwichVictim tx = true) :
    hasRouter tx.targetType = true := by
  unfold SandwichStrategy.isSandwichVictim SandwichStrategy.victim at h
  cases htarget : tx.targetType <;> simp_all [hasRouter]

/-- **An opportunity that is found can be executed** just if a plan can be made for its
transaction. -/
theorem executable_iff {strategy : MevStrategy} {found : ScoredOpportunity}
    (h : strategy.evaluateTransaction idTime expiryTime tx = .ok (some found)) :
    (∃ plan, strategy.createBundlePlan found = .ok plan) ↔ strategy.CanPlan tx := by
  cases strategy with
  | arbitrage strategy =>
    obtain ⟨netProfit, htype⟩ := arbitrage_found h
    exact iff_of_true (arbitrage_plan_ok strategy htype) trivial
  | backrun strategy =>
    obtain ⟨hcandidate, htarget, priceImpact, htype⟩ := backrun_found h
    have hrouter := hasRouter_of_candidate hcandidate
    have hcases := backrun_plan_cases strategy found
    rw [htype, htarget, hrouter] at hcases
    simp only [createBundlePlan, CanPlan]
    rcases hcases with ⟨-, hcurve, ⟨hfits, plan, hplan, -⟩ | ⟨hlarge, hover⟩⟩ | ⟨hcurve, message, hplan⟩
    · exact iff_of_true ⟨plan, hplan⟩ ⟨hcurve, hfits⟩
    · refine iff_of_false ?_ fun hcan => absurd hcan.2 (Nat.not_lt.mpr hlarge)
      rintro ⟨plan, hplan⟩
      rw [hplan] at hover
      cases hover
    · refine iff_of_false ?_ fun hcan => hcurve ⟨rfl, hcan.1⟩
      rintro ⟨plan, hplan'⟩
      rw [hplan] at hplan'
      cases hplan'
  | sandwich strategy =>
    obtain ⟨hvictim, htarget, size, netProfit, htype⟩ := sandwich_found h
    have hrouter := hasRouter_of_victim hvictim
    have hcases := sandwich_plan_cases strategy found
    rw [htype, htarget] at hcases
    simp only [createBundlePlan, CanPlan]
    rcases hcases with
      ⟨-, -, ⟨hbelow, plan, -, -, hplan, -⟩ | ⟨hbelow, hover⟩⟩ | ⟨hnone, -⟩
    · exact iff_of_true ⟨plan, hplan⟩ hbelow
    · refine iff_of_false ?_ hbelow
      rintro ⟨plan, hplan⟩
      rw [hplan] at hover
      cases hover
    · exact absurd ⟨rfl, hrouter⟩ hnone

/-- A swap of a hundred ether. -/
def largeSwap (targetType : TargetType) (gasPrice : String) : ParsedTransaction :=
  swapWith targetType "0x1234567890abcdef" "100000000000000000000" gasPrice

theorem largeSwap_planned : ∀ gasPrice ∈ ["30000000000", "50000000000"],
    (((backrun .new).evaluateTransaction sampleTime sampleTime
      (largeSwap .uniswapV2 gasPrice)).toOption.join.bind fun found =>
        ((backrun .new).createBundlePlan found).toOption).isSome = true := by
  decide +kernel

/-- What comes of the evaluation then, and of the plan for it. -/
theorem sampleBackrun_exists {gasPrice : String} (h : gasPrice ∈ ["30000000000", "50000000000"]) :
    ∃ found plan, (backrun .new).evaluateTransaction sampleTime sampleTime (largeSwap .uniswapV2 gasPrice) =
        .ok (some found) ∧ (backrun .new).createBundlePlan found = .ok plan := by
  have hplanned := largeSwap_planned gasPrice h
  rcases hfound : (backrun .new).evaluateTransaction sampleTime sampleTime (largeSwap .uniswapV2 gasPrice) with
    failure | _ | found
  · rw [hfound] at hplanned
    cases hplanned
  · rw [hfound] at hplanned
    cases hplanned
  · rw [hfound] at hplanned
    rcases hplan : (backrun .new).createBundlePlan found with failure | plan
    · change ((backrun .new).createBundlePlan found).toOption.isSome = true at hplanned
      rw [hplan] at hplanned
      cases hplanned
    · exact ⟨found, plan, rfl, hplan⟩

/-- On Uniswap, it can be followed. -/
theorem executable_on_uniswap :
    ∃ found, (backrun .new).evaluateTransaction sampleTime sampleTime (largeSwap .uniswapV2 "50000000000") =
        .ok (some found) ∧
      ∃ plan, (backrun .new).createBundlePlan found = .ok plan := by
  obtain ⟨found, -, hfound, -⟩ := sampleBackrun_exists (List.mem_cons_of_mem _ List.mem_cons_self)
  exact ⟨found, hfound, (executable_iff hfound).mpr ⟨by decide, by decide⟩⟩

/-- **An opportunity that cannot be executed**: on Curve, the backrun finds one in it, and has
no router for it. -/
theorem not_executable_on_curve :
    ∃ found, (backrun .new).evaluateTransaction sampleTime sampleTime (largeSwap .curve "50000000000") =
        .ok (some found) ∧
      (backrun .new).createBundlePlan found = .error (.err "Unsupported target type for backrun") := by
  have hplan : ((backrun .new).evaluateTransaction sampleTime sampleTime
      (largeSwap .curve "50000000000")).toOption.join.map (fun found => (backrun .new).createBundlePlan found) =
        some (.error (.err "Unsupported target type for backrun")) := by decide +kernel
  rcases h : (backrun .new).evaluateTransaction sampleTime sampleTime (largeSwap .curve "50000000000") with
    failure | _ | found
  · rw [h] at hplan
    cases hplan
  · rw [h] at hplan
    cases hplan
  · rw [h] at hplan
    exact ⟨found, rfl, Option.some.inj hplan⟩

/-! ### Capped gas prices -/

/-- **The gas prices are capped**: working them out does not overflow, and none is above the
configured one. -/
def Capped (strategy : MevStrategy) (opportunity : ScoredOpportunity) : Prop :=
  overflows (strategy.createBundlePlan opportunity) = false ∧
    ∀ plan, strategy.createBundlePlan opportunity = .ok plan →
      ∀ tx ∈ plan.transactions, tx.gasPrice.toNat ≤ strategy.config.maxGasPriceWei

/-- The gas price of the target is in range: for the backrun, of the addition; for the sandwich,
of its cap, once it is raised. -/
def GasPriceInRange (opportunity : ScoredOpportunity) : MevStrategy → Prop
  | .arbitrage _ => True
  | .backrun _ =>
    isBackrun opportunity.opportunityType = true → hasRouter opportunity.targetTransaction.targetType = true →
      21 * (gasPriceWei opportunity.targetTransaction).toNat < 20 * 2 ^ 128
  | .sandwich strategy =>
    isSandwich opportunity.opportunityType = true → hasRouter opportunity.targetTransaction.targetType = true →
      1 ≤ strategy.config.maxGasPriceGwei.toNat ∧
        (strategy.raisedGasPrice (gasPriceWei opportunity.targetTransaction)).Below
          ((strategy.config.maxGasPriceGwei.toNat - 1) * 10 ^ 9 + 1)

theorem capped_of_err {strategy : MevStrategy} {message : String}
    (h : strategy.createBundlePlan opportunity = .error (.err message)) : strategy.Capped opportunity := by
  refine ⟨?_, fun plan hplan => ?_⟩
  · rw [h]
    rfl
  · rw [h] at hplan
    cases hplan

theorem backrun_capped_iff {strategy : BackrunStrategy} :
    Capped (.backrun strategy) opportunity ↔ GasPriceInRange opportunity (.backrun strategy) := by
  rcases backrun_plan_cases strategy opportunity with
    ⟨htype, hrouter, ⟨hfits, plan, hplan, hcap⟩ | ⟨hlarge, hover⟩⟩ | ⟨hnone, message, hplan⟩
  · refine iff_of_true ⟨?_, fun plan' hplan' => ?_⟩ fun _ _ => hfits
    · rw [createBundlePlan, hplan]
      rfl
    · obtain rfl := Except.ok.inj (hplan.symm.trans hplan')
      exact hcap
  · refine iff_of_false (fun hcapped => ?_) fun hrange => Nat.not_lt.mpr hlarge (hrange htype hrouter)
    exact Bool.eq_false_iff.mp hcapped.1 hover
  · exact iff_of_true (capped_of_err hplan) fun htype hrouter => absurd ⟨htype, hrouter⟩ hnone

/-- Both of the sandwich's gas prices, in terms of the raised one. -/
theorem sandwich_prices_iff (strategy : SandwichStrategy) {raised : Binary64} {price base : U128}
    (hbase : base = raised.toUint 128) (hprice : price.toNat = base.toNat + 10 ^ 9) :
    (∀ gasPrice ∈ [price, base], gasPrice.toNat ≤ strategy.config.maxGasPriceWei) ↔
      1 ≤ strategy.config.maxGasPriceGwei.toNat ∧
        raised.Below ((strategy.config.maxGasPriceGwei.toNat - 1) * 10 ^ 9 + 1) := by
  have hgwei := strategy.config.maxGasPriceGwei.isLt
  have hbelow := Binary64.toNat_toUint_lt_iff (w := 128) (x := raised)
    (n := (strategy.config.maxGasPriceGwei.toNat - 1) * 10 ^ 9 + 1) (by omega) (by omega)
  rw [← hbase] at hbelow
  rw [← hbelow, StrategyConfig.maxGasPriceWei]
  simp only [List.forall_mem_cons, List.not_mem_nil, false_imp_iff, implies_true, and_true]
  omega

theorem sandwich_capped_iff {strategy : SandwichStrategy} :
    Capped (.sandwich strategy) opportunity ↔ GasPriceInRange opportunity (.sandwich strategy) := by
  rcases sandwich_plan_cases strategy opportunity with
    ⟨htype, hrouter, ⟨hbelow, plan, price, base, hplan, hbase, hprice, hprices⟩ | ⟨hlarge, hover⟩⟩ |
      ⟨hnone, message, hplan⟩
  · have hiff := sandwich_prices_iff strategy hbase hprice
    rw [← hprices, List.forall_mem_map] at hiff
    rw [GasPriceInRange, forall_prop_of_true htype, forall_prop_of_true hrouter, ← hiff]
    constructor
    · rintro ⟨-, hcapped⟩
      exact hcapped plan hplan
    · intro hcap
      refine ⟨?_, fun plan' hplan' => ?_⟩
      · rw [createBundlePlan, hplan]
        rfl
      · obtain rfl := Except.ok.inj (hplan.symm.trans hplan')
        exact hcap
  · refine iff_of_false (fun hcapped => Bool.eq_false_iff.mp hcapped.1 hover) fun hrange => hlarge ?_
    have hgwei := strategy.config.maxGasPriceGwei.isLt
    exact (hrange htype hrouter).2.mono (by omega)
  · exact iff_of_true (capped_of_err hplan) fun htype hrouter => absurd ⟨htype, hrouter⟩ hnone

/-- **No gas price is above the configured one** just if that of the target is in range. -/
theorem capped_iff (strategy : MevStrategy) (opportunity : ScoredOpportunity) :
    strategy.Capped opportunity ↔ strategy.GasPriceInRange opportunity := by
  cases strategy with
  | arbitrage strategy => exact iff_of_true (arbitrage_plan_capped strategy opportunity) trivial
  | backrun strategy => exact backrun_capped_iff
  | sandwich strategy => exact sandwich_capped_iff

/-- An opportunity to sandwich a swap at 500 gwei, as far as a plan depends on it. -/
def sampleSandwich : ScoredOpportunity where
  id := "sandwich_12345678_1700000000000"
  strategyName := "sandwich"
  targetTransaction := largeSwap .uniswapV2 "500000000000"
  opportunityType := .sandwich "0x1234567890abcdef" ("ETH", "TOKEN") 150 150 1000
  estimatedProfitWei := 1000
  expiryTimestamp := 1700000015
  estimatedGasCostWei := 40000000000000000
  confidenceScore := .ofDecimal 9 1
  priority := 200

/-- An opportunity to follow a swap at the highest gas price. -/
def sampleBackrun : ScoredOpportunity :=
  { sampleSandwich with
    targetTransaction := largeSwap .uniswapV2 "340282366920938463463374607431768211455"
    opportunityType := .backrun "0x1234567890abcdef" "UNKNOWN" (.ofDecimal 5 2) "arbitrage_swap" }

/-- **Gas prices above the configured one**: the sandwich's are 551 and 550 gwei, where 200 are
configured; and the backrun's overflows. -/
theorem not_capped :
    SandwichStrategy.new.config.maxGasPriceWei = 200000000000 ∧
      (∃ plan, (sandwich .new).createBundlePlan sampleSandwich = .ok plan ∧
        plan.transactions.map (·.gasPrice) = [551000000000, 550000000000]) ∧
      ¬ (sandwich .new).Capped sampleSandwich ∧
      overflows ((backrun .new).createBundlePlan sampleBackrun) = true := by
  have hprices : ((sandwich .new).createBundlePlan sampleSandwich).toOption.map
      (fun plan => plan.transactions.map (·.gasPrice)) = some [551000000000, 550000000000] := by decide +kernel
  rcases hplan : (sandwich .new).createBundlePlan sampleSandwich with failure | plan
  · rw [hplan] at hprices
    cases hprices
  rw [hplan] at hprices
  have hprices : plan.transactions.map (·.gasPrice) = [551000000000, 550000000000] := Option.some.inj hprices
  refine ⟨by decide, ⟨plan, rfl, hprices⟩, fun hcapped => ?_, by decide⟩
  have hfirst : (551000000000 : U128) ∈ plan.transactions.map (·.gasPrice) := by
    rw [hprices]
    exact List.mem_cons_self
  obtain ⟨tx, htx, hprice⟩ := List.mem_map.mp hfirst
  have hcap := hcapped.2 plan hplan tx htx
  rw [hprice] at hcap
  exact absurd hcap (by decide)

end MevStrategy

end Botmev.Strategies
