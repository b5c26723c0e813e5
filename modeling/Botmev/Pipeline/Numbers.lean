import Botmev.Bundles.Target
import Botmev.Mempool.Filters
import Botmev.Mempool.Parser
import Botmev.Strategies.Arbitrage
import Botmev.Strategies.Backrun
import Botmev.Strategies.Sandwich

/-!
# What the numbers of a pending transaction mean

The node writes value and gas price as `0x` and hexadecimal digits, and the parser passes
the strings on. Behind it, the filters, the strategies and the simulator read them as
decimal, and have each their own way with what they cannot read.

## What is proved

* `parsed_numbers`: no decimal parser reads them.
* `numbers_mean_the_same_iff`: the filters, the strategies' tests and estimates and the
  simulator take the numbers for what they are just when both are zero, and no strategy
  goes for a transaction of no value.
* `bid_regardless`: the backrun bids against 20 gwei, whatever the gas price is.
* `builder_reads_numbers`: only the bundle builder reads the numbers as they are.
-/

namespace Botmev.Pipeline

open Botmev.Rust Botmev.Library Botmev.Core Botmev.Bundles Botmev.Mempool Botmev.Strategies

/-- Everything that reads the numbers of a pending transaction, up to the simulator. -/
structure Consumers where
  /-- `str::to_lowercase`. -/
  toLowercase : String → String
  /-- The hour of the day. -/
  currentHour : ℕ
  /-- `Address::from_str`. -/
  parseAddress : String → Except String Address
  /-- The backrun strategy. -/
  backrun : BackrunStrategy
  /-- The sandwich strategy. -/
  sandwich : SandwichStrategy

/-- Each of them does with the transaction what it does with a value and a gas price that
it can read and that are these. -/
structure Consumers.ReadAs (C : Consumers) (tx : ParsedTransaction) (value : U128)
    (gasPrice : U64) : Prop where
  /-- The `ValueRange` conditions. -/
  valueRange : ∀ minWei maxWei, evaluateCondition C.toLowercase C.currentHour (.valueRange minWei maxWei) tx =
    .ok (valueInRange minWei maxWei value)
  /-- The `GasPriceRange` conditions. -/
  gasPriceRange : ∀ minGwei maxGwei,
    evaluateCondition C.toLowercase C.currentHour (.gasPriceRange minGwei maxGwei) tx =
      .ok (gasPriceInRange minGwei maxGwei gasPrice)
  /-- The backrun's test. -/
  backrunCandidate : C.backrun.isBackrunCandidate tx = C.backrun.candidate tx.targetType (some value)
  /-- The backrun's price impact. -/
  backrunImpact : BackrunStrategy.analyzePriceImpact tx = BackrunStrategy.priceImpact tx.targetType value
  /-- The backrun's profit. -/
  backrunProfit : ∀ priceImpact, BackrunStrategy.calculateBackrunProfit tx priceImpact =
    BackrunStrategy.profit tx.targetType value priceImpact
  /-- The sandwich's test. -/
  sandwichVictim : C.sandwich.isSandwichVictim tx = C.sandwich.victim tx.targetType tx.decodedInput (some value)
  /-- The sandwich's profit. -/
  sandwichProfit : C.sandwich.calculateSandwichProfit tx = C.sandwich.profit tx.targetType value
  /-- The arbitrage's test. -/
  arbitrageCandidate : ArbitrageStrategy.isArbitrageCandidate tx =
    ArbitrageStrategy.candidate tx.targetType (some value)
  /-- The value in the simulator. -/
  simulatedValue : (SimulationTransaction.ofParsed C.parseAddress tx).value = U256.ofUint value
  /-- The gas price in the simulator. -/
  simulatedGasPrice : (SimulationTransaction.ofParsed C.parseAddress tx).gasPrice = U256.ofUint gasPrice

/-- **The numbers mean the same everywhere**: `v` and `g`. -/
def Consumers.MeanTheSame (C : Consumers) (tx : ParsedTransaction) (v g : ℕ) : Prop :=
  ∃ (value : U128) (gasPrice : U64), value.toNat = v ∧ gasPrice.toNat = g ∧ C.ReadAs tx value gasPrice

/-- The node writes the value `v` and the gas price `g`. -/
structure Writes (rawTx : Value) (v g : ℕ) : Prop where
  /-- The value. -/
  value : rawTx.get "value" = some (.string (formatHex v))
  /-- The gas price. -/
  gasPrice : rawTx.get "gasPrice" = some (.string (formatHex g))

variable {C : Consumers} {decoder : AbiDecoder} {toLowercase : String → String} {rawTx : Value}
  {tx : ParsedTransaction} {v g : ℕ}

theorem Writes.parsed (h : Writes rawTx v g) (hp : parseTransaction decoder toLowercase rawTx = .ok tx) :
    tx.transaction.value = formatHex v ∧ tx.transaction.gasPrice = formatHex g := by
  obtain ⟨hvalue, hgasPrice⟩ := extractTransactionFields_ok (parseTransaction_ok hp)
  refine ⟨hvalue.trans ?_, hgasPrice.trans ?_⟩
  · simp [Value.getStr, h.value, Value.asStr]
  · simp [Value.getStr, h.gasPrice, Value.asStr]

/-- **No decimal parser reads the numbers.** -/
theorem parsed_numbers (h : Writes rawTx v g) (hp : parseTransaction decoder toLowercase rawTx = .ok tx) :
    (∀ w, parseUint w tx.transaction.value = none) ∧ (∀ w, parseUint w tx.transaction.gasPrice = none) ∧
      U256.fromDecStr tx.transaction.value = none ∧ U256.fromDecStr tx.transaction.gasPrice = none := by
  obtain ⟨hvalue, hgasPrice⟩ := h.parsed hp
  rw [hvalue, hgasPrice]
  exact ⟨fun w => parseUint_formatHex w v, fun w => parseUint_formatHex w g, fromDecStr_formatHex v,
    fromDecStr_formatHex g⟩

theorem arbitrage_not_candidate (targetType : TargetType) :
    ArbitrageStrategy.candidate targetType (some 0) = false := by
  cases targetType <;> decide +kernel

theorem Consumers.MeanTheSame.eq_zero (hm : C.MeanTheSame tx v g) (h : Writes rawTx v g)
    (hp : parseTransaction decoder toLowercase rawTx = .ok tx) : v = 0 ∧ g = 0 := by
  obtain ⟨-, -, hdecValue, hdecGasPrice⟩ := parsed_numbers h hp
  obtain ⟨value, gasPrice, rfl, rfl, hread⟩ := hm
  constructor
  · have := congrArg BitVec.toNat hread.simulatedValue
    simp only [SimulationTransaction.ofParsed, hdecValue, Option.getD_none, U256.toNat_ofUint_u128] at this
    exact this.symm
  · have := congrArg BitVec.toNat hread.simulatedGasPrice
    simp only [SimulationTransaction.ofParsed, hdecGasPrice, Option.getD_none,
      U256.toNat_ofUint_u64] at this
    exact this.symm

/-- No strategy goes for a transaction of no value. -/
def Consumers.IgnoreWorthless (C : Consumers) (tx : ParsedTransaction) : Prop :=
  C.backrun.candidate tx.targetType (some 0) = false ∧
    C.sandwich.victim tx.targetType tx.decodedInput (some 0) = false

/-- **The numbers mean the same everywhere** just when both are zero, and no strategy goes
for a transaction of no value. -/
theorem numbers_mean_the_same_iff (h : Writes rawTx v g)
    (hp : parseTransaction decoder toLowercase rawTx = .ok tx) :
    C.MeanTheSame tx v g ↔ v = 0 ∧ g = 0 ∧ C.IgnoreWorthless tx := by
  obtain ⟨hvalue, hgasPrice, hdecValue, hdecGasPrice⟩ := parsed_numbers h hp
  -- The strategies' tests see no value at all.
  have hbackrun : C.backrun.isBackrunCandidate tx = false := by
    rw [BackrunStrategy.isBackrunCandidate, hvalue]
    cases tx.targetType <;> rfl
  have hsandwich : C.sandwich.isSandwichVictim tx = false := by
    rw [SandwichStrategy.isSandwichVictim, hvalue]
    cases tx.targetType <;> rfl
  have harbitrage : ArbitrageStrategy.isArbitrageCandidate tx = false := by
    rw [ArbitrageStrategy.isArbitrageCandidate, hvalue]
    cases tx.targetType <;> rfl
  constructor
  · intro hm
    obtain ⟨rfl, rfl⟩ := hm.eq_zero h hp
    obtain ⟨value, gasPrice, hv, -, hread⟩ := hm
    obtain rfl : value = 0 := BitVec.toNat_inj.mp hv
    refine ⟨rfl, rfl, ?_, ?_⟩
    · rw [← hread.backrunCandidate, hbackrun]
    · rw [← hread.sandwichVictim, hsandwich]
  · rintro ⟨rfl, rfl, hnoBackrun, hnoSandwich⟩
    refine ⟨0, 0, rfl, rfl, ?_⟩
    constructor
    · intro minWei maxWei
      simp only [evaluateCondition, hvalue, Option.getD_none]
      rfl
    · intro minGwei maxGwei
      simp only [evaluateCondition, hgasPrice, Option.getD_none]
      rfl
    · rw [hbackrun, hnoBackrun]
    · rw [BackrunStrategy.analyzePriceImpact, hvalue, Option.getD_none]
    · intro priceImpact
      rw [BackrunStrategy.calculateBackrunProfit, hvalue, Option.getD_none]
    · rw [hsandwich, hnoSandwich]
    · rw [SandwichStrategy.calculateSandwichProfit, hvalue, Option.getD_none]
    · rw [harbitrage, arbitrage_not_candidate]
    · simp only [SimulationTransaction.ofParsed, hdecValue, Option.getD_none]
      rfl
    · simp only [SimulationTransaction.ofParsed, hdecGasPrice, Option.getD_none]
      rfl

/-! ### Instances -/

/-- The strategies as they come. -/
def Consumers.sample : Consumers where
  toLowercase := String.map Char.toLower
  currentHour := 12
  parseAddress := Ethers.sample.parseAddress
  backrun := .new
  sandwich := .new

theorem Consumers.sample_ignoreWorthless (tx : ParsedTransaction) :
    Consumers.sample.IgnoreWorthless tx := by
  constructor
  · cases tx.targetType <;> decide +kernel
  · have hmin : decide (Consumers.sample.sandwich.minValueWei ≤ 0) = false := by decide +kernel
    cases tx.targetType <;> simp only [SandwichStrategy.victim, hmin, Bool.false_and]

/-- What the node sends about a swap. -/
def swap (value gasPrice : String) : Value :=
  .object
    [("hash", .string "0x123abc"), ("from", .string "0x742d35Cc6634C0532925a3b8D4C9db96C4b5Da5e"),
      ("to", .string "0x7a250d5630B4cF539739dF2C5dAcb4c659F2488D"), ("value", .string value),
      ("gasPrice", .string gasPrice), ("gas", .string "0x5208"), ("nonce", .string "0x1"),
      ("input", .string "0x7ff36ab5")]

/-- **The numbers mean the same** where there is nothing to read. -/
theorem numbers_mean_the_same_of_nothing :
    ∃ tx, parseTransaction .new Consumers.sample.toLowercase (swap "0x0" "0x0") = .ok tx ∧
      Consumers.sample.MeanTheSame tx 0 0 := by
  have hok : (parseTransaction .new Consumers.sample.toLowercase (swap "0x0" "0x0")).isOk = true := by decide
  obtain ⟨tx, htx⟩ := exists_ok_of_isOk hok
  have hwrites : Writes (swap "0x0" "0x0") 0 0 := ⟨rfl, rfl⟩
  exact ⟨tx, htx, (numbers_mean_the_same_iff hwrites htx).mpr ⟨rfl, rfl, Consumers.sample_ignoreWorthless tx⟩⟩

/-- **They do not for a swap of one ether at 20 gwei**: the filters, the strategies and the
simulator have a value of nothing and a gas price of nothing. -/
theorem numbers_differ_for_a_swap :
    Writes (swap "0xde0b6b3a7640000" "0x4a817c800") 1000000000000000000 20000000000 ∧
      ∃ tx, parseTransaction .new Consumers.sample.toLowercase (swap "0xde0b6b3a7640000" "0x4a817c800") = .ok tx ∧
        evaluateCondition Consumers.sample.toLowercase 12 (.valueRange (some "1") none) tx = .ok false ∧
        evaluateCondition Consumers.sample.toLowercase 12 (.gasPriceRange (some 1) none) tx = .ok false ∧
        BackrunStrategy.new.isBackrunCandidate tx = false ∧
        (SimulationTransaction.ofParsed Consumers.sample.parseAddress tx).value = 0 ∧
        (SimulationTransaction.ofParsed Consumers.sample.parseAddress tx).gasPrice = 0 ∧
        ¬ Consumers.sample.MeanTheSame tx 1000000000000000000 20000000000 := by
  have hvalue : formatHex 1000000000000000000 = "0xde0b6b3a7640000" := by decide
  have hgasPrice : formatHex 20000000000 = "0x4a817c800" := by decide
  have hwrites : Writes (swap "0xde0b6b3a7640000" "0x4a817c800") 1000000000000000000 20000000000 := by
    constructor
    · rw [hvalue]
      rfl
    · rw [hgasPrice]
      rfl
  have hok : (parseTransaction .new Consumers.sample.toLowercase (swap "0xde0b6b3a7640000" "0x4a817c800")).isOk =
      true := by decide
  obtain ⟨tx, htx⟩ := exists_ok_of_isOk hok
  obtain ⟨hreadValue, hreadGasPrice, hdecValue, hdecGasPrice⟩ := parsed_numbers hwrites htx
  refine ⟨hwrites, tx, htx, ?_, ?_, ?_, ?_, ?_, ?_⟩
  · simp only [evaluateCondition, hreadValue, Option.getD_none]
    decide
  · simp only [evaluateCondition, hreadGasPrice, Option.getD_none]
    decide
  · rw [BackrunStrategy.isBackrunCandidate, hreadValue]
    cases tx.targetType <;> rfl
  · rw [SimulationTransaction.ofParsed, hdecValue, Option.getD_none]
  · rw [SimulationTransaction.ofParsed, hdecGasPrice, Option.getD_none]
  · intro hm
    exact absurd (hm.eq_zero hwrites htx).1 (by decide)

/-! ### The other readers -/

/-- **The backrun bids against 20 gwei**, whatever the gas price is. -/
theorem bid_regardless (strategy : BackrunStrategy) (h : Writes rawTx v g)
    (hp : parseTransaction decoder toLowercase rawTx = .ok tx) :
    strategy.calculateOptimalGasPrice tx = strategy.bid 20000000000 := by
  rw [BackrunStrategy.calculateOptimalGasPrice, (parsed_numbers h hp).2.1, Option.getD_none]

/-- **The bundle builder reads the numbers as they are.** -/
theorem builder_reads_numbers {Wallet Signature : Type} {E : Ethers Wallet Signature}
    {opportunity : Opportunity}
    {target : SignedTransaction} (h : Writes rawTx v g)
    (hp : parseTransaction decoder toLowercase rawTx = .ok opportunity.targetTransaction)
    (ht : createTargetSignedTransaction E opportunity = .ok target) (hv : v < 2 ^ 256) (hg : g < 2 ^ 256) :
    target.value.toNat = v ∧ target.maxFeePerGas.toNat = g := by
  obtain ⟨hvalue, -, hgasPrice⟩ := createTargetSignedTransaction_ok ht
  obtain ⟨hvalue', hgasPrice'⟩ := h.parsed hp
  rw [hvalue', fromStr_formatHex hv, Option.some.injEq] at hvalue
  rw [hgasPrice', fromStr_formatHex hg, Option.some.injEq] at hgasPrice
  rw [← hvalue, ← hgasPrice, BitVec.toNat_ofNat, BitVec.toNat_ofNat, Nat.mod_eq_of_lt hv,
    Nat.mod_eq_of_lt hg]
  exact ⟨rfl, rfl⟩

end Botmev.Pipeline
