import Botmev.Strategies.PlanLimits

/-!
# The path of an arbitrage

The plan of an arbitrage buys on the first exchange of the path and sells on the second. Every
exchange is looked up, and one without a router is an error; but how long the path is, is never
asked. On a path that ends too early the planning panics, and of a longer path only the first two
exchanges are in the plan.

## What is proved

* `traded_eq`: where the transactions of a plan go.
* `followsPath_iff`: the paths that a plan follows, or that are turned down without a panic.
-/

namespace Botmev.Strategies

open Botmev.Rust Botmev.Library Botmev.Core

namespace ArbitrageStrategy

/-- There is a router for it. -/
def dexSupported (dex : String) : Bool := (getDexRouter dex).isOk

theorem getDexRouter_cases (dex : String) :
    dexSupported dex = true ∧ (∃ router, getDexRouter dex = .ok router) ∨
      dexSupported dex = false ∧ getDexRouter dex = .error (.err ("Unsupported DEX: " ++ dex)) := by
  unfold dexSupported getDexRouter
  split
  case h_4 => exact .inr ⟨rfl, rfl⟩
  all_goals exact .inl ⟨rfl, _, rfl⟩

/-- Where the transactions of a plan for this path go. -/
def tradedRouters (path : List String) : Result (List String) := do
  let firstDex ← dexAt path 0
  let buyRouter ← getDexRouter firstDex
  let secondDex ← dexAt path 1
  let sellRouter ← getDexRouter secondDex
  pure [buyRouter, sellRouter]

variable {strategy : ArbitrageStrategy} {opportunity : ScoredOpportunity} {tokenIn tokenOut : String}
  {amountIn profit : U128} {path : List String}

variable (strategy) in
/-- **Where the transactions go** is all that can fail. -/
theorem traded_eq (h : opportunity.opportunityType = .arbitrage tokenIn tokenOut amountIn profit path) :
    (fun plan => plan.transactions.map (·.toAddress)) <$> strategy.createBundlePlan opportunity =
      tradedRouters path := by
  obtain ⟨gasPrice, hgasPrice, -⟩ := strategy.exists_gasPrice
  unfold createBundlePlan createArbitrageTransactions swapOn tradedRouters
  rw [h]
  simp only [hgasPrice]
  rcases dexAt path 0 with _ | firstDex
  · rfl
  simp only [ok_bind]
  rcases getDexRouter firstDex with _ | buyRouter
  · rfl
  simp only [ok_bind]
  rcases dexAt path 1 with _ | secondDex
  · rfl
  simp only [ok_bind]
  rcases getDexRouter secondDex with _ | sellRouter <;> rfl

/-- **A plan follows its path**: making it does not panic, and its transactions go to the
exchanges of the path, one after the other. -/
def FollowsPath (strategy : ArbitrageStrategy) (opportunity : ScoredOpportunity) (path : List String) : Prop :=
  panics (strategy.createBundlePlan opportunity) = false ∧
    ∀ plan, strategy.createBundlePlan opportunity = .ok plan →
      path.mapM getDexRouter = .ok (plan.transactions.map (·.toAddress))

/-- A path that can be followed, or is turned down: of two exchanges; or of one, without a
router; or longer, if there is no router for one of the first two. -/
def GoodPath : List String → Prop
  | [] => False
  | [only] => dexSupported only = false
  | [_, _] => True
  | first :: second :: _ => dexSupported first = false ∨ dexSupported second = false

theorem followsPath_iff_traded
    (h : opportunity.opportunityType = .arbitrage tokenIn tokenOut amountIn profit path) :
    strategy.FollowsPath opportunity path ↔
      panics (tradedRouters path) = false ∧
        ∀ routers, tradedRouters path = .ok routers → path.mapM getDexRouter = .ok routers := by
  rw [FollowsPath, ← traded_eq strategy h, panics_map]
  refine and_congr_right fun _ => ?_
  rcases strategy.createBundlePlan opportunity with failure | plan
  · exact iff_of_true (by rintro _ ⟨⟩) (by rintro _ ⟨⟩)
  · constructor
    · rintro hplan _ ⟨⟩
      exact hplan plan rfl
    · rintro hrouters _ ⟨⟩
      exact hrouters _ rfl

/-- What is left of a path after the first two exchanges does not matter for where the
transactions go. -/
theorem tradedRouters_cons_cons (first second : String) (others : List String) :
    tradedRouters (first :: second :: others) = [first, second].mapM getDexRouter := by
  simp only [tradedRouters, dexAt, List.getElem?_cons_zero, List.getElem?_cons_succ, ok_bind, List.mapM_cons,
    List.mapM_nil]
  rcases getDexRouter first with _ | buyRouter
  · rfl
  rcases getDexRouter second with _ | sellRouter <;> rfl

theorem length_of_mapM_eq_ok {dexes routers : List String} (h : dexes.mapM getDexRouter = .ok routers) :
    routers.length = dexes.length := by
  induction dexes generalizing routers with
  | nil =>
    cases h
    rfl
  | cons dex dexes ih =>
    rw [List.mapM_cons] at h
    obtain ⟨router, -, h⟩ := bind_eq_ok_iff.mp h
    obtain ⟨others, hothers, h⟩ := bind_eq_ok_iff.mp h
    cases h
    rw [List.length_cons, List.length_cons, ih hothers]

theorem not_panics_mapM (dexes : List String) : panics (dexes.mapM getDexRouter) = false := by
  induction dexes with
  | nil => rfl
  | cons dex dexes ih =>
    rw [List.mapM_cons]
    rcases getDexRouter_cases dex with ⟨-, router, hrouter⟩ | ⟨-, hrouter⟩
    · rw [hrouter, ok_bind]
      rcases h : dexes.mapM getDexRouter with failure | routers
      · rw [h] at ih
        exact ih
      · rfl
    · rw [hrouter]
      rfl

/-- The first two exchanges both have routers, or looking them up is an error. -/
theorem mapM_pair_cases (first second : String) :
    (dexSupported first = true ∧ dexSupported second = true ∧
        ∃ routers, [first, second].mapM getDexRouter = .ok routers) ∨
      (dexSupported first = false ∨ dexSupported second = false) ∧
        ∃ message, [first, second].mapM getDexRouter = .error (.err message) := by
  simp only [List.mapM_cons, List.mapM_nil]
  rcases getDexRouter_cases first with ⟨hfirst, buyRouter, hbuy⟩ | ⟨hfirst, hbuy⟩
  · rcases getDexRouter_cases second with ⟨hsecond, sellRouter, hsell⟩ | ⟨hsecond, hsell⟩
    · exact .inl ⟨hfirst, hsecond, _, by rw [hbuy, hsell]; rfl⟩
    · exact .inr ⟨.inr hsecond, _, by rw [hbuy, hsell]; rfl⟩
  · exact .inr ⟨.inl hfirst, _, by rw [hbuy]; rfl⟩

/-- **A plan follows its path** just if it is a good one. -/
theorem followsPath_iff (strategy : ArbitrageStrategy)
    (h : opportunity.opportunityType = .arbitrage tokenIn tokenOut amountIn profit path) :
    strategy.FollowsPath opportunity path ↔ GoodPath path := by
  rw [followsPath_iff_traded h]
  match path with
  | [] => exact iff_of_false (fun h => Bool.noConfusion h.1) id
  | [only] =>
    rw [GoodPath, tradedRouters, show dexAt [only] 0 = .ok only from rfl, ok_bind]
    rcases getDexRouter_cases only with ⟨honly, router, hrouter⟩ | ⟨honly, hrouter⟩
    · rw [hrouter, ok_bind]
      exact iff_of_false (fun h => Bool.noConfusion h.1) (by simp [honly])
    · rw [hrouter]
      exact iff_of_true ⟨rfl, by rintro _ ⟨⟩⟩ honly
  | [first, second] =>
    rw [tradedRouters_cons_cons]
    exact iff_of_true ⟨not_panics_mapM _, fun _ hrouters => hrouters⟩ trivial
  | first :: second :: third :: others =>
    rw [tradedRouters_cons_cons, GoodPath]
    rcases mapM_pair_cases first second with ⟨hfirst, hsecond, routers, hrouters⟩ | ⟨hnone, message, hrouters⟩
    · -- Two transactions are not enough for three exchanges.
      refine iff_of_false (fun h => ?_) (by simp [hfirst, hsecond])
      have hlength := length_of_mapM_eq_ok (h.2 routers hrouters)
      rw [length_of_mapM_eq_ok hrouters] at hlength
      simp only [List.length_cons, List.length_nil] at hlength
      omega
    · refine iff_of_true ⟨not_panics_mapM _, fun routers h => ?_⟩ hnone
      rw [hrouters] at h
      cases h
    · simp

/-- An arbitrage over this path, as far as a plan depends on it. -/
def sampleArbitrage (path : List String) : ScoredOpportunity :=
  { MevStrategy.sampleSandwich with
    opportunityType := .arbitrage "WETH" "USDC" 1000000000000000000 18000000000000000 path }

/-- The path of the arbitrages that are found. -/
theorem found_followed :
    ArbitrageStrategy.new.FollowsPath (sampleArbitrage ["UniswapV2", "SushiSwap"]) ["UniswapV2", "SushiSwap"] :=
  (followsPath_iff .new rfl).mpr trivial

/-- **Paths that are not followed**: without an exchange, or with one only, the planning panics;
of three exchanges the plan goes to two. -/
theorem not_followed :
    panics (ArbitrageStrategy.new.createBundlePlan (sampleArbitrage [])) = true ∧
      panics (ArbitrageStrategy.new.createBundlePlan (sampleArbitrage ["UniswapV2"])) = true ∧
      ¬ ArbitrageStrategy.new.FollowsPath (sampleArbitrage ["UniswapV2"]) ["UniswapV2"] ∧
      (fun plan => plan.transactions.map (·.toAddress)) <$>
          ArbitrageStrategy.new.createBundlePlan (sampleArbitrage ["UniswapV2", "SushiSwap", "UniswapV3"]) =
        .ok ["0x7a250d5630B4cF539739dF2C5dAcb4c659F2488D", "0xd9e1cE17f2641f24aE83637ab66a2cca9C378B9F"] := by
  have hsole : panics (ArbitrageStrategy.new.createBundlePlan (sampleArbitrage ["UniswapV2"])) = true := by
    decide
  refine ⟨by decide, hsole, fun hfollows => ?_, ?_⟩
  · rw [hfollows.1] at hsole
    cases hsole
  · rw [traded_eq _ rfl]
    rfl

end ArbitrageStrategy

end Botmev.Strategies
