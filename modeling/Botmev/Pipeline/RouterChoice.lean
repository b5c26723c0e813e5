import Botmev.Mempool.Parser
import Botmev.Strategies.Backrun
import Botmev.Strategies.Sandwich

/-!
# Which router the strategies go to

The decoder takes the protocol of a pending transaction from the selector of its call,
"First check by function signature", and only where the selector is not in its table from
the router it was sent to. The backrun and the sandwich send their own transactions to the
router of that protocol. The forks of one DEX share their selectors, and the table knows
one protocol for each; `0x38ed1739` it is given twice.

## What is proved

* `functionSignature_parsed`: which selector a parsed transaction has.
* `protocol_of_signature`: the protocol follows the router if the selector is in the table
  for no other protocol, and it does not follow it if the selector is there, but not for
  the router's; and so do the strategies.
* `sushiSwap_victim_misrouted`: a swap on SushiSwap whose backrun goes to Uniswap.
-/

namespace Botmev.Pipeline

open Botmev.Rust Botmev.Library Botmev.Core Botmev.Mempool Botmev.Strategies

/-- The addresses that the decoder knows as routers, and their protocols. -/
inductive IsRouter : String → TargetType → Prop where
  /-- "Uniswap V2 Router". -/
  | uniswapV2 : IsRouter "0x7a250d5630b4cf539739df2c5dacb4c659f2488d" .uniswapV2
  /-- "Uniswap V3 Router". -/
  | uniswapV3 : IsRouter "0xe592427a0aece92de3edee1f18e0157c05861564" .uniswapV3
  /-- "SushiSwap Router". -/
  | sushiSwap : IsRouter "0xd9e1ce17f2641f24ae83637ab66a2cca9c378b9f" .sushiSwap

/-- The selector of the call of a transaction, or nothing if it has none. -/
def functionSignature (tx : ParsedTransaction) : String := (tx.decodedInput.map (·.functionSignature)).getD ""

/-- The protocols for which the decoder was given a selector. -/
def registered (signature : String) : List TargetType :=
  (AbiDecoder.new.functionSignatures.filter fun entry => entry.1 == signature).map fun entry => entry.2.2

/-- A strategy that chooses its routers so sends to this one: hexadecimal digits are the
same in upper and lower case. -/
def SendsTo (getRouterAddress : TargetType → Result String) (targetType : TargetType) (router : String) : Prop :=
  ∃ address, getRouterAddress targetType = .ok address ∧ address.toLower = router

/-- **The protocol follows the router**, and the strategies send to the victim's. -/
structure FollowsRouter (router : String) (protocol : TargetType) (tx : ParsedTransaction) : Prop where
  /-- The protocol is the router's. -/
  targetType : tx.targetType = protocol
  /-- The backrun goes to the same router. -/
  backrun : SendsTo BackrunStrategy.getRouterAddress tx.targetType router
  /-- So does the sandwich. -/
  sandwich : SendsTo SandwichStrategy.getRouterAddress tx.targetType router

/-- It does not, and no strategy sends to the victim's router. -/
structure LeavesRouter (router : String) (protocol : TargetType) (tx : ParsedTransaction) : Prop where
  /-- The protocol is another. -/
  targetType : tx.targetType ≠ protocol
  /-- The backrun goes elsewhere, or nowhere. -/
  backrun : ¬ SendsTo BackrunStrategy.getRouterAddress tx.targetType router
  /-- So does the sandwich. -/
  sandwich : ¬ SendsTo SandwichStrategy.getRouterAddress tx.targetType router

variable {toLowercase : String → String} {rawTx : Value} {tx : ParsedTransaction} {router signature : String}
  {protocol : TargetType}

/-! ### The strategies -/

theorem IsRouter.unique {router' : String} {targetType : TargetType} (h : IsRouter router protocol)
    (h' : IsRouter router' targetType) (heq : router' = router) : targetType = protocol := by
  cases h <;> cases h' <;> first | rfl | exact absurd heq (by decide)

/-- The strategies know a router of a protocol if they know an address for it. -/
theorem exists_isRouter {unsupported address : String} {targetType : TargetType}
    (h : routerAddress unsupported targetType = .ok address) : ∃ router, IsRouter router targetType := by
  cases targetType with
  | uniswapV2 => exact ⟨_, .uniswapV2⟩
  | uniswapV3 => exact ⟨_, .uniswapV3⟩
  | sushiSwap => exact ⟨_, .sushiSwap⟩
  | _ => cases h

theorem toLower_eq {s lower : String} (h : s.toList.map Char.toLower = lower.toList) : s.toLower = lower := by
  apply String.toList_inj.mp
  calc (s.map Char.toLower).toList = s.toList.map Char.toLower := String.toList_map ..
    _ = lower.toList := h

theorem sendsTo_of_isRouter (hrouter : IsRouter router protocol) (unsupported : String) :
    SendsTo (routerAddress unsupported) protocol router := by
  cases hrouter <;> exact ⟨_, rfl, toLower_eq (by simp)⟩

theorem sendsTo_iff (hrouter : IsRouter router protocol) (unsupported : String) (targetType : TargetType) :
    SendsTo (routerAddress unsupported) targetType router ↔ targetType = protocol := by
  constructor
  · rintro ⟨address, haddress, hlower⟩
    obtain ⟨router', hrouter'⟩ := exists_isRouter haddress
    obtain ⟨address', haddress', hlower'⟩ := sendsTo_of_isRouter hrouter' unsupported
    rw [haddress, Except.ok.injEq] at haddress'
    apply hrouter.unique hrouter'
    rw [← hlower', ← haddress', hlower]
  · rintro rfl
    exact sendsTo_of_isRouter hrouter unsupported

theorem followsRouter_of_eq (hrouter : IsRouter router protocol) (h : tx.targetType = protocol) :
    FollowsRouter router protocol tx :=
  ⟨h, (sendsTo_iff hrouter _ _).mpr h, (sendsTo_iff hrouter _ _).mpr h⟩

theorem leavesRouter_of_ne (hrouter : IsRouter router protocol) (h : tx.targetType ≠ protocol) :
    LeavesRouter router protocol tx :=
  ⟨h, fun hs => h ((sendsTo_iff hrouter _ _).mp hs), fun hs => h ((sendsTo_iff hrouter _ _).mp hs)⟩

/-! ### The decoder -/

/-- A selector that is in the table is there for the protocol it is looked up for. -/
theorem mem_registered {name : String} {targetType : TargetType}
    (h : AbiDecoder.new.functionSignatures.lookup signature = some (name, targetType)) :
    targetType ∈ registered signature := by
  obtain ⟨before, after, hentries, -⟩ := List.lookup_eq_some_iff.mp h
  simp only [registered, hentries, List.filter_append, List.map_append, List.mem_append]
  exact .inr (by simp)

theorem registered_eq_nil (h : AbiDecoder.new.functionSignatures.lookup signature = none) :
    registered signature = [] := by
  simp only [registered, List.map_eq_nil_iff, List.filter_eq_nil_iff]
  intro entry hmem heq
  have hne := List.lookup_eq_none_iff.mp h entry hmem
  simp [eq_of_beq heq] at hne

theorem determineTargetType_cases (signature : String) (hrouter : IsRouter router protocol) {toAddress : Option String}
    (haddress : toAddress.map toLowercase = some router) :
    (registered signature = [] ∧ AbiDecoder.new.determineTargetType toLowercase toAddress signature = protocol) ∨
      AbiDecoder.new.determineTargetType toLowercase toAddress signature ∈ registered signature := by
  unfold AbiDecoder.determineTargetType
  rcases hlookup : AbiDecoder.new.functionSignatures.lookup signature with _ | ⟨name, targetType⟩
  · refine .inl ⟨registered_eq_nil hlookup, ?_⟩
    simp only [haddress]
    cases hrouter <;> rfl
  · exact .inr (mem_registered hlookup)

/-- The protocol of a parsed transaction is determined from its recipient and its selector. -/
theorem targetType_parsed (h : parseTransaction AbiDecoder.new toLowercase rawTx = .ok tx) :
    tx.targetType =
      AbiDecoder.new.determineTargetType toLowercase tx.transaction.toAddress (functionSignature tx) := by
  simp only [parseTransaction, bind_eq_ok_iff] at h
  obtain ⟨transaction, -, decodedInput, -, h⟩ := h
  cases h
  rfl

/-- A decoded call has the selector that its calldata begins with. -/
theorem slice_of_decodeInput {decoder : AbiDecoder} {input : String} {decoded : DecodedInput}
    (h : decoder.decodeInput input = .ok (some decoded)) : slice input 0 10 = .ok decoded.functionSignature := by
  rw [AbiDecoder.decodeInput] at h
  split at h
  · cases h
  · obtain ⟨selector, hselector, h⟩ := bind_eq_ok_iff.mp h
    rcases hlookup : decoder.functionSignatures.lookup selector with _ | ⟨name, targetType⟩
    · simp only [hlookup, catchErr_eq_ok_some_iff, AbiDecoder.decodeGenericFunction, hselector, ok_bind] at h
      obtain ⟨data, -, h⟩ := bind_eq_ok_iff.mp h
      cases h
      exact hselector
    · simp only [hlookup] at h
      obtain ⟨parameters, -, h⟩ := bind_eq_ok_iff.mp h
      cases h
      exact hselector

/-- **The selector of a parsed transaction**: the first ten bytes of its calldata, or nothing. -/
theorem functionSignature_parsed {decoder : AbiDecoder} (h : parseTransaction decoder toLowercase rawTx = .ok tx) :
    functionSignature tx = "" ∨ slice tx.transaction.input 0 10 = .ok (functionSignature tx) := by
  simp only [parseTransaction, bind_eq_ok_iff] at h
  obtain ⟨transaction, -, decodedInput, hdecoded, h⟩ := h
  cases h
  rcases decodedInput with _ | decoded
  · exact .inl rfl
  · refine .inr ?_
    unfold decodeTransactionInput at hdecoded
    split at hdecoded
    · rcases hinput : decoder.decodeInput transaction.input with (_ | _) | (_ | _)
      all_goals rw [hinput] at hdecoded
      all_goals cases hdecoded
      exact slice_of_decodeInput hinput
    · cases hdecoded

/-- **Where the protocol follows the router**: for no call, and for one whose selector is
in the table for the router's protocol only or not at all. Where the selector is there for
others only, the protocol is one of these, whatever the router, and the strategies send
elsewhere. -/
theorem protocol_of_signature (hrouter : IsRouter router protocol)
    (haddress : tx.transaction.toAddress.map toLowercase = some router)
    (h : parseTransaction AbiDecoder.new toLowercase rawTx = .ok tx) :
    ((∀ p ∈ registered (functionSignature tx), p = protocol) → FollowsRouter router protocol tx) ∧
      (registered (functionSignature tx) ≠ [] → tx.targetType ∈ registered (functionSignature tx)) ∧
        (registered (functionSignature tx) ≠ [] → protocol ∉ registered (functionSignature tx) →
          LeavesRouter router protocol tx) := by
  have hcases := determineTargetType_cases (functionSignature tx) hrouter haddress
  rw [← targetType_parsed h] at hcases
  rcases hcases with ⟨hnil, heq⟩ | hmem
  · refine ⟨fun _ => followsRouter_of_eq hrouter heq, fun hne => absurd hnil hne, fun hne => absurd hnil hne⟩
  · refine ⟨fun hall => followsRouter_of_eq hrouter (hall _ hmem), fun _ => hmem, fun _ hnot => ?_⟩
    apply leavesRouter_of_ne hrouter
    intro heq
    exact hnot (heq ▸ hmem)

/-- A call of `swapExactETHForTokens`, without its arguments. -/
def swapSentTo (router : String) : Value :=
  .object [("hash", .string "0x01"), ("from", .string "0x02"), ("to", .string router), ("input", .string "0x7ff36ab5")]

/-- What the parser makes of it. -/
def parsedSwap (router : String) : ParsedTransaction where
  transaction :=
    { hash := "0x01", fromAddress := "0x02", toAddress := some router, value := "0x0", gasPrice := "0x0"
      gasLimit := "0x0", nonce := 0, input := "0x7ff36ab5" }
  decodedInput := some
    { functionName := "swapExactETHForTokens", functionSignature := "0x7ff36ab5"
      parameters := [⟨"data", "bytes", ""⟩] }
  targetType := .uniswapV2

/-- On Uniswap V2 it is followed. -/
theorem uniswapV2_victim_followed :
    FollowsRouter "0x7a250d5630b4cf539739df2c5dacb4c659f2488d" .uniswapV2
      (parsedSwap "0x7a250d5630B4cF539739dF2C5dAcb4c659F2488D") :=
  have h : parseTransaction .new String.toLower (swapSentTo "0x7a250d5630B4cF539739dF2C5dAcb4c659F2488D") =
      .ok (parsedSwap "0x7a250d5630B4cF539739dF2C5dAcb4c659F2488D") := by decide
  have hlower : "0x7a250d5630B4cF539739dF2C5dAcb4c659F2488D".toLower =
      "0x7a250d5630b4cf539739df2c5dacb4c659f2488d" := toLower_eq (by simp)
  (protocol_of_signature .uniswapV2 (by exact congrArg some hlower) h).1 (by decide)

/-- **A shared selector**: on SushiSwap it is taken for a call of Uniswap V2, and the backrun
sends to the router of Uniswap V2. -/
theorem sushiSwap_victim_misrouted :
    parseTransaction .new String.toLower (swapSentTo "0xd9e1cE17f2641f24aE83637ab66a2cca9C378B9F") =
        .ok (parsedSwap "0xd9e1cE17f2641f24aE83637ab66a2cca9C378B9F") ∧
      "0xd9e1cE17f2641f24aE83637ab66a2cca9C378B9F".toLower = "0xd9e1ce17f2641f24ae83637ab66a2cca9c378b9f" ∧
      SendsTo BackrunStrategy.getRouterAddress
        (parsedSwap "0xd9e1cE17f2641f24aE83637ab66a2cca9C378B9F").targetType
        "0x7a250d5630b4cf539739df2c5dacb4c659f2488d" ∧
      ¬ FollowsRouter "0xd9e1ce17f2641f24ae83637ab66a2cca9c378b9f" .sushiSwap
        (parsedSwap "0xd9e1cE17f2641f24aE83637ab66a2cca9C378B9F") := by
  refine ⟨by decide, toLower_eq (by simp), ⟨_, rfl, toLower_eq (by simp)⟩, ?_⟩
  intro h
  cases h.targetType

end Botmev.Pipeline
