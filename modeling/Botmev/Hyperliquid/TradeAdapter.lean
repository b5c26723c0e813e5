import Botmev.Hyperliquid.ConfigConversion
import Botmev.Hyperliquid.Types
import Botmev.Library.Table

/-!
# Trades as transactions

`TradeDataAdapter` (`mev-hyperliquid/src/adapter.rs`) makes of a trade what the strategy engine can
read: a transaction without value between two addresses that stand for the exchange and for the other
side, with the swap that the trade was. What it is worth is in USDC, and rounded down to the smallest
unit of either token. `Address::from_str` is a parameter.

## What is proved

* `adaptTrade_ok_iff`: which trades are adapted.
* `adapts_of_validate`: an adapter can be made from a valid configuration, and what it adapts.
-/

namespace Botmev.Hyperliquid

open Botmev.Rust Botmev.Library

/-- "Swap data representing a DEX trade". -/
structure SwapData where
  /-- `dex`. -/
  dex : String
  /-- "Input token address (what was sold)". -/
  tokenIn : Address
  /-- "Output token address (what was bought)". -/
  tokenOut : Address
  /-- `amount_in`. -/
  amountIn : U256
  /-- `amount_out`. -/
  amountOut : U256
  /-- `price`. -/
  price : Binary64

/-- "Adapted trade event compatible with the strategy engine". -/
structure AdaptedTradeEvent where
  /-- `hash`. -/
  hash : String
  /-- `from`. -/
  fromAddress : Address
  /-- `to`. -/
  toAddress : Address
  /-- `value`. -/
  value : U256
  /-- `gas_price`. -/
  gasPrice : U256
  /-- "Timestamp in seconds". -/
  timestamp : U64
  /-- `swap_data`. -/
  swapData : Option SwapData

/-- "Adapter to convert HyperLiquid trade data into a format compatible with the strategy engine". -/
structure TradeDataAdapter where
  /-- `token_mapping`. -/
  tokenMapping : Table String Address
  /-- `token_decimals`. -/
  tokenDecimals : Table String (BitVec 8)

namespace TradeDataAdapter

/-- "Convert string addresses to Address type". -/
def parseMapping (parseAddress : String → Except String Address) :
    List (String × String) → Table String Address → Result (Table String Address)
  | [], parsed => pure parsed
  | (coin, addrStr) :: rest, parsed =>
    match parseAddress addrStr with
    | .error e => .error (.err ("Invalid address for " ++ coin ++ ": " ++ e))
    | .ok address => parseMapping parseAddress rest (parsed.insert coin address)

/-- `TradeDataAdapter::new`. -/
def new (parseAddress : String → Except String Address) (tokenMapping : List (String × String)) :
    Result TradeDataAdapter := do
  let parsedMapping ← parseMapping parseAddress tokenMapping ∅
  pure ⟨parsedMapping, ((∅ : Table String (BitVec 8)).insert "USDC" 6).insert "USDT" 6⟩

/-- `10_f64.powi(decimals)`: a power of ten, which is one up to 22. -/
def powerOfTen (decimals : BitVec 8) : Binary64 := Binary64.ofNat (10 ^ decimals.toNat)

/-- `float_to_u256`. -/
def floatToU256 (value : Binary64) (decimals : BitVec 8) : Result U256 :=
  if value.lt (Binary64.ofNat 0) then .error (.err "Cannot convert negative value to U256")
  else
    let scaledValue := value.mul (powerOfTen decimals)
    if (Binary64.ofNat (2 ^ 128 - 1)).lt scaledValue then .error (.err "Value too large to convert to U256")
    else .ok (U256.ofUint (scaledValue.toUint 128))

variable (adapter : TradeDataAdapter) (trade : TradeData)

/-- `map_coin_to_address`. -/
def mapCoinToAddress (coin : String) : Option Address := adapter.tokenMapping.lookup coin

/-- `get_token_decimals`: "Most other tokens use 18 decimals". -/
def getTokenDecimals (coin : String) : BitVec 8 := (adapter.tokenDecimals.lookup coin).getD 18

/-- "Calculate swap amounts from trade data". -/
def calculateSwapAmounts : Result (U256 × U256) := do
  let coinDecimals := adapter.getTokenDecimals trade.coin
  let usdcDecimals := adapter.getTokenDecimals "USDC"
  let usdcValue := trade.price.mul trade.size
  match trade.side with
  | .buy => do
    let amountIn ← floatToU256 usdcValue usdcDecimals
    let amountOut ← floatToU256 trade.size coinDecimals
    pure (amountIn, amountOut)
  | .sell => do
    let amountIn ← floatToU256 trade.size coinDecimals
    let amountOut ← floatToU256 usdcValue usdcDecimals
    pure (amountIn, amountOut)

/-- "Create swap data from a trade", and under which labels an adaptation error is counted. -/
def createSwapData : Result SwapData × Option (String × String) :=
  match adapter.mapCoinToAddress trade.coin with
  | none => (.error (.err ("Unknown coin: " ++ trade.coin)), some (trade.coin, "unknown_coin"))
  | some coinAddress =>
    match adapter.mapCoinToAddress "USDC" with
    | none => (.error (.err "USDC not configured in token mapping"), some ("USDC", "missing_usdc_mapping"))
    | some usdcAddress =>
      let (tokenIn, tokenOut) :=
        match trade.side with
        | .buy => (usdcAddress, coinAddress)
        | .sell => (coinAddress, usdcAddress)
      (do
        let (amountIn, amountOut) ← adapter.calculateSwapAmounts trade
        pure { dex := "HyperLiquid", tokenIn, tokenOut, amountIn, amountOut, price := trade.price },
        none)

/-- "Adapt a HyperLiquid trade into an AdaptedTradeEvent". -/
def adaptTrade : Result AdaptedTradeEvent × Option (String × String) :=
  let (swapData, counted) := adapter.createSwapData trade
  (do
    let swapData ← swapData
    pure
      { hash := "hl_trade_" ++ trade.tradeId
        fromAddress := 1
        toAddress := 2
        value := 0
        gasPrice := 0
        timestamp := trade.timestamp / 1000
        swapData := some swapData },
    counted)

/-! ### What is adapted -/

variable {adapter : TradeDataAdapter} {trade : TradeData} {value : Binary64} {decimals : BitVec 8}

/-- A quantity that is neither negative nor too large. -/
def Converts (value : Binary64) (decimals : BitVec 8) : Prop :=
  value.lt (Binary64.ofNat 0) = false ∧ (Binary64.ofNat (2 ^ 128 - 1)).lt (value.mul (powerOfTen decimals)) = false

theorem floatToU256_ok_iff : (∃ amount, floatToU256 value decimals = .ok amount) ↔ Converts value decimals := by
  unfold floatToU256 Converts
  by_cases hnegative : value.lt (Binary64.ofNat 0) = true
  · rw [if_pos hnegative]
    simp only [hnegative, Bool.true_eq_false, reduceCtorEq, exists_false, false_and]
  rw [if_neg hnegative]
  by_cases hlarge : (Binary64.ofNat (2 ^ 128 - 1)).lt (value.mul (powerOfTen decimals)) = true
  · rw [if_pos hlarge]
    simp only [hlarge, reduceCtorEq, exists_false, and_false]
  · rw [if_neg hlarge]
    exact iff_of_true ⟨_, rfl⟩ ⟨(Bool.not_eq_true _).mp hnegative, (Bool.not_eq_true _).mp hlarge⟩

theorem calculateSwapAmounts_ok_iff : (∃ amounts, adapter.calculateSwapAmounts trade = .ok amounts) ↔
    Converts (trade.price.mul trade.size) (adapter.getTokenDecimals "USDC") ∧
      Converts trade.size (adapter.getTokenDecimals trade.coin) := by
  rw [← floatToU256_ok_iff, ← floatToU256_ok_iff, calculateSwapAmounts]
  cases trade.side <;> simp only [bind_eq_ok_iff] <;> constructor
  · rintro ⟨_, usdc, husdc, coin, hcoin, -⟩
    exact ⟨⟨usdc, husdc⟩, coin, hcoin⟩
  · rintro ⟨⟨usdc, husdc⟩, coin, hcoin⟩
    exact ⟨_, usdc, husdc, coin, hcoin, rfl⟩
  · rintro ⟨_, coin, hcoin, usdc, husdc, -⟩
    exact ⟨⟨usdc, husdc⟩, coin, hcoin⟩
  · rintro ⟨⟨usdc, husdc⟩, coin, hcoin⟩
    exact ⟨_, coin, hcoin, usdc, husdc, rfl⟩

/-- **Which trades are adapted**: those of a coin that has an address, where USDC has one, too, and with
quantities that can be converted. -/
theorem adaptTrade_ok_iff : (∃ event, (adapter.adaptTrade trade).1 = .ok event) ↔
    (∃ address, adapter.mapCoinToAddress trade.coin = some address) ∧
      (∃ address, adapter.mapCoinToAddress "USDC" = some address) ∧
      Converts (trade.price.mul trade.size) (adapter.getTokenDecimals "USDC") ∧
      Converts trade.size (adapter.getTokenDecimals trade.coin) := by
  rw [← calculateSwapAmounts_ok_iff]
  unfold adaptTrade createSwapData
  rcases adapter.mapCoinToAddress trade.coin with _ | coinAddress
  · simp [bind, Except.bind]
  rcases adapter.mapCoinToAddress "USDC" with _ | usdcAddress
  · simp [bind, Except.bind]
  simp only [bind_eq_ok_iff, Option.some.injEq, exists_eq', true_and]
  constructor
  · rintro ⟨_, _, ⟨amounts, hamounts, -⟩, -⟩
    exact ⟨amounts, hamounts⟩
  · rintro ⟨amounts, hamounts⟩
    exact ⟨_, _, ⟨amounts, hamounts, rfl⟩, rfl⟩

theorem bind_never_panics {α β : Type} {r : Result α} {f : α → Result β} (hr : panics r = false)
    (hf : ∀ a, panics (f a) = false) : panics (r >>= f) = false := by
  rcases r with (_ | _) | a
  · rfl
  · cases hr
  · exact hf a

theorem floatToU256_never_panics (value : Binary64) (decimals : BitVec 8) :
    panics (floatToU256 value decimals) = false := by
  unfold floatToU256
  by_cases hnegative : value.lt (Binary64.ofNat 0) = true
  · rw [if_pos hnegative]
    exact panics_err _
  rw [if_neg hnegative]
  by_cases hlarge : (Binary64.ofNat (2 ^ 128 - 1)).lt (value.mul (powerOfTen decimals)) = true
  · rw [if_pos hlarge]
    exact panics_err _
  · rw [if_neg hlarge]
    exact panics_ok _

/-- **To adapt a trade does not panic.** -/
theorem adaptTrade_never_panics : panics (adapter.adaptTrade trade).1 = false := by
  have hamounts : panics (adapter.calculateSwapAmounts trade) = false := by
    unfold calculateSwapAmounts
    cases trade.side
    all_goals
      refine bind_never_panics (floatToU256_never_panics _ _) fun amountIn => ?_
      exact bind_never_panics (floatToU256_never_panics _ _) fun amountOut => panics_ok _
  unfold adaptTrade createSwapData
  rcases adapter.mapCoinToAddress trade.coin with _ | coinAddress
  · exact panics_err _
  rcases adapter.mapCoinToAddress "USDC" with _ | usdcAddress
  · exact panics_err _
  refine bind_never_panics ?_ fun swapData => panics_ok _
  exact bind_never_panics hamounts fun amounts => panics_ok _

/-! ### A valid configuration -/

variable {parseAddress : String → Except String Address}

theorem parseMapping_ok_iff {tokenMapping : List (String × String)} {parsed : Table String Address} :
    (∃ parsed', parseMapping parseAddress tokenMapping parsed = .ok parsed') ↔
      ∀ entry ∈ tokenMapping, ∃ address, parseAddress entry.2 = .ok address := by
  induction tokenMapping generalizing parsed with
  | nil => simp [parseMapping, pure, Except.pure]
  | cons entry rest ih =>
    rw [parseMapping, List.forall_mem_cons]
    rcases hentry : parseAddress entry.2 with e | address
    · simp
    · simpa using ih

theorem lookup_parseMapping {tokenMapping : List (String × String)} {parsed parsed' : Table String Address}
    (h : parseMapping parseAddress tokenMapping parsed = .ok parsed') (coin : String) :
    (∃ address, parsed'.lookup coin = some address) ↔
      coin ∈ tokenMapping.map Prod.fst ∨ ∃ address, parsed.lookup coin = some address := by
  induction tokenMapping generalizing parsed with
  | nil =>
    obtain rfl := Except.ok.inj h
    simp
  | cons entry rest ih =>
    rw [parseMapping] at h
    split at h
    · cases h
    · rw [ih h, List.map_cons, List.mem_cons]
      by_cases hcoin : coin = entry.1
      · subst hcoin
        exact iff_of_true (.inr ⟨_, AList.lookup_insert _⟩) (.inl (.inl rfl))
      · rw [AList.lookup_insert_ne hcoin, or_iff_right hcoin]

/-- `Address::from_str` reads what a valid configuration has for an address. -/
def ReadsAddresses (parseAddress : String → Except String Address) : Prop :=
  ∀ s, IsAddress s → ∃ address, parseAddress s = .ok address

/-- The decimals of a coin. -/
def decimalsOf (coin : String) : BitVec 8 := if coin = "USDC" ∨ coin = "USDT" then 6 else 18

/-- **Which trades are adapted under a valid configuration**: those of its coins, if USDC is one of them, with
quantities that can be converted. -/
theorem adapts_of_validate (hreads : ReadsAddresses parseAddress) {config : HyperLiquidConfig}
    (hvalid : config.validate = .ok ()) :
    ∃ adapter, new parseAddress config.tokenMapping = .ok adapter ∧
      ∀ trade : TradeData, (∃ event, (adapter.adaptTrade trade).1 = .ok event) ↔
        trade.coin ∈ config.tokenMapping.map Prod.fst ∧ "USDC" ∈ config.tokenMapping.map Prod.fst ∧
        Converts (trade.price.mul trade.size) 6 ∧ Converts trade.size (decimalsOf trade.coin) := by
  have htokens := (HyperLiquidConfig.validate_eq_ok_iff.mp hvalid).2.2.2.2.2.2
  have hmapping : ∀ entry ∈ config.tokenMapping, ∃ address, parseAddress entry.2 = .ok address :=
    fun entry hentry => hreads _ (HyperLiquidConfig.validateToken_eq_ok_iff.mp (htokens entry hentry)).2
  obtain ⟨parsed, hparsed⟩ : ∃ parsed, parseMapping parseAddress config.tokenMapping ∅ = .ok parsed :=
    parseMapping_ok_iff.mpr hmapping
  refine ⟨_, bind_eq_ok_iff.mpr ⟨parsed, hparsed, rfl⟩, fun trade => ?_⟩
  have hdecimals (coin : String) : (TradeDataAdapter.mk parsed
      (((∅ : Table String (BitVec 8)).insert "USDC" 6).insert "USDT" 6)).getTokenDecimals coin = decimalsOf coin := by
    unfold getTokenDecimals decimalsOf
    by_cases husdt : coin = "USDT"
    · subst husdt
      rw [AList.lookup_insert, if_pos (.inr rfl)]
      rfl
    · rw [AList.lookup_insert_ne husdt]
      by_cases husdc : coin = "USDC"
      · subst husdc
        rw [AList.lookup_insert, if_pos (.inl rfl)]
        rfl
      · rw [AList.lookup_insert_ne husdc, if_neg (by simp [husdt, husdc])]
        rfl
  have hcoin (coin : String) := lookup_parseMapping hparsed coin
  simp only [AList.lookup_empty, reduceCtorEq, exists_false, or_false] at hcoin
  rw [adaptTrade_ok_iff, hdecimals, hdecimals, ← hcoin, ← hcoin]
  rfl

/-- `Address::from_str`, of what is written as an address. -/
def readAddress (s : String) : Except String Address :=
  match s.toList with
  | '0' :: 'x' :: digits =>
    if digits.length = 40 ∧ digits.all HyperLiquidConfig.isAsciiHexdigit then
      .ok (BitVec.ofNat 160 (Numeral.value 16 (digits.filterMap (Numeral.digit? 16))))
    else .error "Invalid input length"
  | _ => .error "Invalid input length"

theorem readsAddresses_readAddress : ReadsAddresses readAddress := by
  rintro s ⟨digits, hs, hlength, hall⟩
  rw [readAddress, hs]
  exact ⟨_, if_pos ⟨hlength, List.all_eq_true.mpr hall⟩⟩

/-- With these tokens. -/
def sampleTokens (tokenMapping : List (String × String)) : HyperLiquidConfig :=
  { (sampleMevConfig 1000).typed none with tokenMapping }

/-- A bitcoin is bought. -/
def boughtBitcoin : TradeData := ⟨"BTC", .buy, Binary64.ofNat 45000, Binary64.ofNat 1, 1696348800000, "1"⟩

/-- The same trade is adapted with USDC among the coins, and not without it. -/
theorem boughtBitcoin_adapted_with_usdc :
    (∃ adapter, new readAddress (sampleTokens
        [("BTC", "0x2260FAC5E5542a773Aa44fBCfeDf7C193bc2C599"),
          ("USDC", "0xA0b86991c6218b36c1d19D4a2e9Eb0cE3606eB48")]).tokenMapping = .ok adapter ∧
      ∃ event, (adapter.adaptTrade boughtBitcoin).1 = .ok event) ∧
    ∃ adapter, new readAddress (sampleTokens
        [("BTC", "0x2260FAC5E5542a773Aa44fBCfeDf7C193bc2C599")]).tokenMapping = .ok adapter ∧
      ¬∃ event, (adapter.adaptTrade boughtBitcoin).1 = .ok event := by
  constructor
  · have hvalid : (sampleTokens [("BTC", "0x2260FAC5E5542a773Aa44fBCfeDf7C193bc2C599"),
        ("USDC", "0xA0b86991c6218b36c1d19D4a2e9Eb0cE3606eB48")]).validate = .ok () := by decide
    obtain ⟨adapter, hadapter, hadapts⟩ := adapts_of_validate readsAddresses_readAddress hvalid
    refine ⟨adapter, hadapter, (hadapts boughtBitcoin).mpr ⟨?_, ?_, ?_, ?_⟩⟩
    · simp [sampleTokens, boughtBitcoin]
    · simp [sampleTokens]
    · unfold Converts
      decide +kernel
    · unfold Converts
      decide +kernel
  · have hvalid : (sampleTokens [("BTC", "0x2260FAC5E5542a773Aa44fBCfeDf7C193bc2C599")]).validate = .ok () := by
      decide
    obtain ⟨adapter, hadapter, hadapts⟩ := adapts_of_validate readsAddresses_readAddress hvalid
    refine ⟨adapter, hadapter, fun hadapted => ?_⟩
    obtain ⟨-, husdc, -⟩ := (hadapts _).mp hadapted
    simp [sampleTokens] at husdc

end TradeDataAdapter

end Botmev.Hyperliquid
