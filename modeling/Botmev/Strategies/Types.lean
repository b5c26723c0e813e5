import Botmev.Core.Types
import Botmev.Rust.Json

/-!
# Strategies

What the strategies share (`mev-strategies/src/strategy_types.rs`). Machine integers are
those of a build with overflow checks.
-/

namespace Botmev.Strategies

open Botmev.Rust Botmev.Library Botmev.Core

/-- "Strategy configuration". -/
structure StrategyConfig where
  /-- The strategy's name. -/
  name : String
  /-- Whether it takes part. -/
  enabled : Bool
  /-- Its base priority. -/
  priority : BitVec 8
  /-- The least profit worth going for. -/
  minProfitWei : U128
  /-- The most to pay for a unit of gas. -/
  maxGasPriceGwei : U64
  /-- "0.0 to 1.0". -/
  riskTolerance : Binary64
  /-- What only this strategy reads. -/
  parameters : String → Option Value

/-- `self.config.parameters.get(key).and_then(|v| v.as_f64()).unwrap_or(default)`. -/
def StrategyConfig.parameter (config : StrategyConfig) (key : String) (default : Binary64) : Binary64 :=
  ((config.parameters key).bind Value.asF64).getD default

/-- How many wei make one ether. -/
def weiPerEth : Binary64 := Binary64.ofNat 1000000000000000000

/-- "Estimate gas cost for a transaction". -/
def estimateGasCost (gasLimit : U128) (gasPriceGwei : U64) : Result U128 := do
  let gasPrice ← Uint.mul (gasPriceGwei.setWidth 128) 1000000000
  Uint.mul gasLimit gasPrice

/-- `get_router_address`, of a strategy that has this to say of the other protocols. -/
def routerAddress (unsupported : String) : TargetType → Result String
  | .uniswapV2 => pure "0x7a250d5630B4cF539739dF2C5dAcb4c659F2488D"
  | .uniswapV3 => pure "0xE592427A0AEce92De3Edee1F18E0157C05861564"
  | .sushiSwap => pure "0xd9e1cE17f2641f24aE83637ab66a2cca9C378B9F"
  | _ => .error (.err unsupported)

end Botmev.Strategies
