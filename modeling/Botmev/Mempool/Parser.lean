import Botmev.Mempool.AbiDecoder
import Botmev.Rust.Json

/-!
# The mempool parser

`TransactionParser` (`mev-mempool/src/parser.rs`) turns what the node sends about a
pending transaction into a `ParsedTransaction`. A node writes numbers as `0x` and
hexadecimal digits, and the parser passes value, gas price and gas limit on as the strings
they are. `extract_value_wei` and `extract_gas_price_wei` read such strings; nothing in
the source calls them.

The time stamps are left out.

## What is proved

* `parseTransaction_ok`: the strings of a parsed transaction are those of the JSON value.
* `extractValueWei_formatHex`, `extractGasPriceWei_formatHex`: the parser's own readers
  read what a node writes.
-/

namespace Botmev.Mempool

open Botmev.Rust Botmev.Library Botmev.Core

/-- `extract_transaction_fields`. -/
def extractTransactionFields (rawTx : Value) : Result Transaction := do
  let hash ← okOr "Missing or invalid transaction hash" (rawTx.getStr "hash")
  let fromAddress ← okOr "Missing or invalid from address" (rawTx.getStr "from")
  let nonce := (rawTx.getStr "nonce").bind fun s =>
    fromStrRadix 64 16 (String.ofList (trimStartMatches0x s.toList))
  pure
    { hash, fromAddress
      toAddress := rawTx.getStr "to"
      value := (rawTx.getStr "value").getD "0x0"
      gasPrice := (rawTx.getStr "gasPrice").getD "0x0"
      gasLimit := (rawTx.getStr "gas").getD "0x0"
      nonce := nonce.getD 0
      input := (rawTx.getStr "input").getD "0x" }

variable (decoder : AbiDecoder) (toLowercase : String → String)

/-- The call of a transaction, if it has calldata that can be decoded. -/
def decodeTransactionInput (transaction : Transaction) : Result (Option DecodedInput) :=
  if transaction.input ≠ "" ∧ transaction.input ≠ "0x" then
    Option.join <$> catchErr (decoder.decodeInput transaction.input)
  else pure none

/-- `parse_transaction`. -/
def parseTransaction (rawTx : Value) : Result ParsedTransaction := do
  let transaction ← extractTransactionFields rawTx
  let decodedInput ← decodeTransactionInput decoder transaction
  let functionSignature := (decodedInput.map (·.functionSignature)).getD ""
  let targetType := decoder.determineTargetType toLowercase transaction.toAddress functionSignature
  pure { transaction, decodedInput, targetType }

/-- `extract_gas_price_wei`. -/
def extractGasPriceWei (gasPriceHex : String) : Option U64 :=
  fromStrRadix 64 16 (String.ofList (trimStartMatches0x gasPriceHex.toList))

/-- `extract_value_wei`. -/
def extractValueWei (valueHex : String) : Option U128 :=
  match trimStartMatches0x valueHex.toList with
  | [] => some 0
  | cleaned => fromStrRadix 128 16 (String.ofList cleaned)

variable {decoder toLowercase} {rawTx : Value} {tx : ParsedTransaction}

theorem parseTransaction_ok (h : parseTransaction decoder toLowercase rawTx = .ok tx) :
    extractTransactionFields rawTx = .ok tx.transaction := by
  simp only [parseTransaction, bind_eq_ok_iff] at h
  obtain ⟨transaction, htransaction, _, -, h⟩ := h
  cases h
  exact htransaction

theorem extractTransactionFields_ok {transaction : Transaction}
    (h : extractTransactionFields rawTx = .ok transaction) :
    transaction.value = (rawTx.getStr "value").getD "0x0" ∧
      transaction.gasPrice = (rawTx.getStr "gasPrice").getD "0x0" := by
  simp only [extractTransactionFields, bind_eq_ok_iff] at h
  obtain ⟨_, -, _, -, h⟩ := h
  cases h
  exact ⟨rfl, rfl⟩

/-- What a node writes for a gas price, the parser's own reader reads. -/
theorem extractGasPriceWei_formatHex {g : ℕ} (h : g < 2 ^ 64) :
    extractGasPriceWei (formatHex g) = some (BitVec.ofNat 64 g) := fromStrRadix_formatHex h

/-- What a node writes for a value, the parser's own reader reads. -/
theorem extractValueWei_formatHex {v : ℕ} (h : v < 2 ^ 128) :
    extractValueWei (formatHex v) = some (BitVec.ofNat 128 v) := by
  have hread := fromStrRadix_formatHex h
  unfold extractValueWei
  split
  · rename_i hnil
    rw [hnil] at hread
    cases hread
  · exact hread

end Botmev.Mempool
