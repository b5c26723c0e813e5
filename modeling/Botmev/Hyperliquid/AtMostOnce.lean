import Botmev.Hyperliquid.Submission

/-!
# A transaction that is submitted once

Each attempt asks for the nonce anew. As long as nothing of the call has been mined, all its
attempts have nonces that are not used yet, and of the transactions they send at most one can
be mined with each; but an attempt that asks when an earlier one has been mined, whose answer
was lost, gets the next nonce, and the trade is made twice.

## What is proved

* `follows_submitTransaction`: what a call sends has the nonce that it was told last.
* `mined_at_most_once`: as long as no nonce is told to the call when a transaction of its own
  has been mined, at most one of them ever is.
* `mined_twice`: two of them otherwise.
-/

namespace Botmev.Hyperliquid

open Botmev.Rust Botmev.Library

variable {Wallet Signature ι : Type} [DecidableEq ι]

/-- Calls of the service and of others, with the node. -/
abbrev NetworkPool (ι : Type) := Pool NetworkI Failure H256 Network ι

/-- What a step sends. -/
def sentBytes : (op : NetworkI.Op) → NetworkI.Reply op → Option Bytes
  | .inl (.inl (.sendRawTransaction raw)), _ => some raw
  | _, _ => none

/-- What a call has sent so far. -/
def sends (i : ι) (p : NetworkPool ι) : List Bytes := Pool.own i (Pool.gather sentBytes p.history)

/-- **At most one transaction of the call is mined**, whatever the account and wherever in the
order of those that are. -/
def MinedAtMostOnce (i : ι) (p : NetworkPool ι) : Prop :=
  ∀ (a b : Address) (k l : ℕ) (x y : Bytes), (p.shared.mined a)[k]? = some x → x ∈ sends i p →
    (p.shared.mined b)[l]? = some y → y ∈ sends i p → a = b ∧ k = l

/-- The nonce that the step asks for, if the call is told it. -/
def toldNonceOf? (network : Network) : NetworkI.Op → Option Address
  | .inl (.inl (.transactionCount account)) =>
    match network.fates network.asked with
    | .answered => some account
    | .fails _ _ | .timesOut _ => none
  | _ => none

/-- The call is told no nonce when a transaction of its own has been mined. -/
def NoLateNonce (i : ι) (p : NetworkPool ι) (j : ι) : Prop :=
  j = i → ∀ account ∈ (p.tasks j).next?.bind (toldNonceOf? p.shared), ∀ x ∈ sends i p, x ∉ p.shared.mined account

-- The nonces are those of an option, not all addresses.
instance (i : ι) (p : NetworkPool ι) (j : ι) : Decidable (NoLateNonce i p j) :=
  @instDecidableForall _ _ inferInstance (Option.decidableForallMem ..)

/-! ### What a call asks for -/

/-- Where a call is. -/
inductive CallPhase where
  /-- It is another call. -/
  | other
  /-- It has not been told a nonce. -/
  | idle
  /-- It has been told one. -/
  | holding (nonce : U256)

/-- What it may ask for: nonces, and to send what has the nonce that it was told last. -/
inductive CallMove (E : Ethers Wallet Signature) (address : Address) :
    CallPhase → (op : NetworkI.Op) → NetworkI.Reply op → CallPhase → Prop where
  /-- Another call asks for anything. -/
  | other {op : NetworkI.Op} {reply : NetworkI.Reply op} : CallMove E address .other op reply .other
  /-- It is told the nonce. -/
  | nonce {φ : CallPhase} {nonce : U256} : φ ≠ .other →
      CallMove E address φ (.inl (.inl (.transactionCount address))) (.ok nonce) (.holding nonce)
  /-- It sends. -/
  | send {nonce : U256} {raw : Bytes} {reply : Outcome H256} : E.decode raw = some ⟨address, nonce⟩ →
      CallMove E address (.holding nonce) (.inl (.inl (.sendRawTransaction raw))) reply (.holding nonce)
  /-- It does something else. -/
  | skip {φ : CallPhase} {op : NetworkI.Op} {reply : NetworkI.Reply op} : φ ≠ .other →
      sentBytes op reply = none →
      CallMove E address φ op reply φ

/-- The protocol of it. -/
@[reducible] def callProtocol (E : Ethers Wallet Signature) (address : Address) : Protocol NetworkI where
  Phase := CallPhase
  legal _ _ := True
  move := CallMove E address

section Follows

variable {E : Ethers Wallet Signature} {address : Address} {φ : CallPhase} {timeoutSecs : U64}
  {tx : TransactionRequest}

/-- The protocol of an attempt. -/
@[reducible] def attemptProtocol (E : Ethers Wallet Signature) (address : Address) : Protocol NodeI :=
  (callProtocol E address).left.left

theorem follows_ask {op : NodeOp} (hφ : φ ≠ .other) (hop : ∀ reply, sentBytes (.inl (.inl op)) reply = none) :
    (attemptProtocol E address).Follows (fun φ' (_ : Result (Except String op.Value)) => φ' = φ) φ
      (ask timeoutSecs op) := by
  intro reply _
  refine ⟨φ, .skip hφ (hop reply), ?_⟩
  rcases reply with value | e | _ <;> rfl

theorem follows_fillNonce {wallet : Wallet} (haddress : E.address wallet = address) (hφ : φ ≠ .other)
    (hnonce : tx.nonce = none) :
    (attemptProtocol E address).Follows
      (fun φ' (r : Result TransactionRequest) => φ' ≠ .other ∧
        ∀ filled, r = .ok filled → ∃ nonce, φ' = .holding nonce ∧ filled.nonce = some nonce) φ
      (HyperLiquidRpcService.fillNonce E timeoutSecs wallet tx) := by
  subst haddress
  unfold HyperLiquidRpcService.fillNonce
  rw [hnonce]
  rintro (nonce | e | _) -
  · refine ⟨.holding nonce, .nonce hφ, by simp, ?_⟩
    rintro _ ⟨⟩
    exact ⟨nonce, rfl, rfl⟩
  · exact ⟨φ, .skip hφ rfl, hφ, by simp⟩
  · exact ⟨φ, .skip hφ rfl, hφ, by simp⟩

/-- What is filled in after it leaves it as it is. -/
def KeepsNonce (φ : CallPhase) (tx : TransactionRequest) (φ' : CallPhase)
    (r : Result TransactionRequest) : Prop :=
  φ' = φ ∧ ∀ filled, r = .ok filled → filled.nonce = tx.nonce

theorem follows_fillGas (hφ : φ ≠ .other) :
    (attemptProtocol E address).Follows (KeepsNonce φ tx) φ (HyperLiquidRpcService.fillGas timeoutSecs tx) := by
  unfold HyperLiquidRpcService.fillGas
  split
  · refine ⟨rfl, ?_⟩
    rintro _ ⟨⟩
    rfl
  · refine (follows_ask hφ fun _ => rfl).bind ?_ fun φ' e hφ' => ⟨hφ', by simp⟩
    rintro φ' (e | gasEstimate) rfl
    · refine ⟨rfl, ?_⟩
      rintro _ ⟨⟩
      rfl
    · refine Protocol.follows_lift_bind (fun scaled _ => ⟨rfl, ?_⟩) fun _ _ => ⟨rfl, by simp⟩
      rintro _ ⟨⟩
      rfl

theorem follows_fillGasPrice (hφ : φ ≠ .other) :
    (attemptProtocol E address).Follows (KeepsNonce φ tx) φ
      (HyperLiquidRpcService.fillGasPrice timeoutSecs tx) := by
  unfold HyperLiquidRpcService.fillGasPrice
  split
  · refine ⟨rfl, ?_⟩
    rintro _ ⟨⟩
    rfl
  · refine (follows_ask hφ fun _ => rfl).bind ?_ fun φ' e hφ' => ⟨hφ', by simp⟩
    rintro φ' (e | gasPrice) rfl
    all_goals
      refine ⟨rfl, ?_⟩
      rintro _ ⟨⟩
      rfl

/-- **An attempt sends what has the nonce that it was told.** -/
theorem follows_submitOnce (hE : E.Lawful) {wallet : Wallet} (haddress : E.address wallet = address)
    (hφ : φ ≠ .other)
    (hnonce : tx.nonce = none) :
    (attemptProtocol E address).Follows (fun φ' _ => φ' ≠ .other) φ
      (HyperLiquidRpcService.submitOnce E timeoutSecs wallet tx) := by
  refine (follows_ask hφ fun _ => rfl).bind ?_ fun φ' _ hφ' => hφ' ▸ hφ
  rintro φ' chainId rfl
  refine Protocol.follows_lift_bind (fun chainId _ => ?_) fun _ _ => hφ
  refine Protocol.follows_lift_bind (fun chainId _ => ?_) fun _ _ => hφ
  have haddress' := (hE.address_withChainId wallet chainId).trans haddress
  refine (follows_fillNonce haddress' hφ hnonce).bind ?_ fun _ _ h => h.1
  rintro φ' tx ⟨hφ', hfilled⟩
  obtain ⟨nonce, rfl, htx⟩ := hfilled tx rfl
  refine (follows_fillGas hφ').bind ?_ fun _ _ h => h.1 ▸ hφ'
  rintro φ' withGas ⟨rfl, hgas⟩
  refine (follows_fillGasPrice hφ').bind ?_ fun _ _ h => h.1 ▸ hφ'
  rintro φ' withPrice ⟨rfl, hprice⟩
  refine Protocol.follows_lift_bind (fun raw hraw => ?_) fun _ _ => hφ'
  obtain ⟨signature, hsignature, hrlp⟩ := bind_eq_ok_iff.mp hraw
  cases hrlp
  have hdecode := hE.decode_rlpSigned _ _ _ nonce (context_eq_ok_iff.mp hsignature)
    ((hprice _ rfl).trans ((hgas _ rfl).trans htx))
  rw [haddress'] at hdecode
  intro reply _
  refine ⟨.holding nonce, .send hdecode, ?_⟩
  rcases reply with hash | e | _ <;> exact hφ'

theorem follows_other (t : Async NetworkI Failure H256) :
    (callProtocol E address).Follows (fun _ _ => True) .other t := by
  induction t with
  | done r => trivial
  | await op k ih => exact fun reply _ => ⟨.other, .other, ih reply⟩

/-- **A call follows its protocol.** -/
theorem follows_submitTransaction (hE : E.Lawful) {service : HyperLiquidRpcService Wallet}
    (hnonce : tx.nonce = none)
    (haddress : ∀ wallet ∈ service.wallet, E.address wallet = address) :
    (callProtocol E address).Follows (fun φ _ => φ ≠ .other) .idle
      (service.submitTransaction E tx).inl := by
  refine Protocol.Follows.toSum (Protocol.follows_lift_bind (fun wallet hwallet => ?_) fun _ _ => by simp)
  refine follows_executeWithRetry (fun φ op reply hφ => .skip hφ rfl) (fun φ hφ => ?_) (by simp)
  exact follows_submitOnce hE (haddress wallet (okOr_eq_ok_iff.mp hwallet)) hφ hnonce

end Follows

/-! ### What is mined -/

section Mined

variable {E : Ethers Wallet Signature} {network : Network} {address : Address} {sent : List Bytes}
  {φ : CallPhase}

/-- What a step does to what is mined: nothing, or it adds the next one of an account. -/
inductive Grows (E : Ethers Wallet Signature) (mined mined' : Address → List Bytes) : Prop where
  /-- Nothing is mined. -/
  | same : mined' = mined → Grows E mined mined'
  /-- The next one is. -/
  | next {raw : Bytes} {signed : Signed} : E.decode raw = some signed →
      signed.nonce.toNat = (mined signed.sender).length →
      mined' = Function.update mined signed.sender (mined signed.sender ++ [raw]) → Grows E mined mined'

theorem mined_accept (raw : Bytes) : (network.accept E raw).2.mined = network.mined := by
  unfold Network.accept
  split
  · rfl
  · split <;> rfl

theorem mined_serve (op : NodeOp) : (network.serve E op).2.mined = network.mined := by
  cases op with
  | sendRawTransaction raw => exact mined_accept raw
  | chainId | transactionCount | estimateGas | gasPrice => rfl

theorem mined_lose (op : NodeOp) : (network.lose op).mined = network.mined := by
  cases op <;> rfl

theorem mined_request (op : NodeOp) : (network.request E op).2.mined = network.mined := by
  have hserve : (Network.serve E { network with asked := network.asked + 1 } op).2.mined = network.mined :=
    mined_serve op
  have hlose : (Network.lose { network with asked := network.asked + 1 } op).mined = network.mined :=
    mined_lose op
  unfold Network.request
  dsimp only
  split
  · split
    next hanswer => exact (congrArg (fun r => r.2.mined) hanswer).symm.trans hserve
    next hanswer => exact (congrArg (fun r => r.2.mined) hanswer).symm.trans hserve
  · split
    · exact hserve
    · exact hlose
  · split
    · exact hserve
    · exact hlose

/-- **What is mined grows by the next one of an account.** -/
theorem mined_networkHandler (op : NetworkI.Op) :
    Grows E network.mined (networkHandler E op network).2.mined := by
  match op with
  | .inl (.inl op) => exact .same (mined_request op)
  | .inl (.inr (.breaker _)) | .inl (.inr (.sleep _)) => exact .same rfl
  | .inr (.deliver k) =>
    refine .same ?_
    show (network.deliver E k).mined = _
    unfold Network.deliver
    split
    · rfl
    · exact mined_accept _
  | .inr (.mine k) =>
    show Grows E network.mined (network.mine E k).mined
    unfold Network.mine
    split
    · exact .same rfl
    · split
      · exact .same rfl
      next hdecode =>
        split
        next hnext => exact .next hdecode hnext rfl
        next => exact .same rfl

theorem told_transactionCount {account : Address} {nonce : U256}
    (h : (networkHandler E (.inl (.inl (.transactionCount account))) network).1 = .ok nonce) :
    toldNonceOf? network (.inl (.inl (.transactionCount account))) = some account ∧
      nonce.toNat = (network.mined account).length := by
  rw [networkHandler, Network.request] at h
  dsimp only at h
  split at h
  next hfate =>
    refine ⟨by simp only [toldNonceOf?, hfate], ?_⟩
    simp only [Network.serve, Network.transactionCount] at h
    split at h
    next hanswer =>
      cases h
      split at hanswer
      next hlt =>
        cases hanswer
        rw [BitVec.toNat_ofNat, Nat.mod_eq_of_lt hlt]
      next => cases hanswer
    next => cases h
  next => cases h
  next => cases h

/-- Where the mined ones are. -/
def Placed (E : Ethers Wallet Signature) (mined : Address → List Bytes) : Prop :=
  ∀ a k x, (mined a)[k]? = some x → ∃ signed, E.decode x = some signed ∧ signed.sender = a ∧
    signed.nonce.toNat = k

theorem Placed.grows {mined mined' : Address → List Bytes} (h : Placed E mined)
    (hgrows : Grows E mined mined') :
    Placed E mined' := by
  cases hgrows with
  | same heq => exact heq ▸ h
  | @next raw signed hdecode hnext heq =>
    subst heq
    intro a k x hx
    by_cases ha : a = signed.sender
    · subst ha
      rw [Function.update_self, List.getElem?_append] at hx
      split at hx
      · exact h _ k x hx
      · rw [List.getElem?_singleton] at hx
        split at hx
        · cases hx
          exact ⟨signed, hdecode, rfl, by omega⟩
        · cases hx
    · rw [Function.update_of_ne ha] at hx
      exact h a k x hx

/-- What a call has sent so far: none is past the nonce that it holds, and none before it has
been mined. -/
def SoFar (E : Ethers Wallet Signature) (address : Address) (mined : Address → List Bytes)
    (sent : List Bytes) :
    CallPhase → Prop
  | .other => False
  | .idle => sent = []
  | .holding nonce => nonce.toNat ≤ (mined address).length ∧
      ∀ x ∈ sent, ∃ n, E.decode x = some ⟨address, n⟩ ∧ n.toNat ≤ nonce.toNat ∧
        (x ∈ mined address → n = nonce)

theorem SoFar.grows {mined mined' : Address → List Bytes} (h : SoFar E address mined sent φ)
    (hgrows : Grows E mined mined') : SoFar E address mined' sent φ := by
  cases hgrows with
  | same heq => exact heq ▸ h
  | @next raw signed hdecode hnext heq =>
    cases φ with
    | other => exact h
    | idle => exact h
    | holding nonce =>
      subst heq
      by_cases haddress : address = signed.sender
      · subst haddress
        obtain ⟨hle, hsent⟩ := h
        simp only [SoFar, Function.update_self, List.length_append, List.length_singleton, List.mem_append,
          List.mem_singleton]
        refine ⟨Nat.le_succ_of_le hle, fun x hx => ?_⟩
        obtain ⟨n, hn, hle', hmined⟩ := hsent x hx
        refine ⟨n, hn, hle', ?_⟩
        rintro (hx | rfl)
        · exact hmined hx
        · -- It is the one that is mined now: its nonce is the number of those before it.
          obtain rfl : signed.nonce = n := congrArg Signed.nonce (Option.some.inj (hdecode.symm.trans hn))
          exact BitVec.eq_of_toNat_eq (Nat.le_antisymm hle' (hnext ▸ hle))
      · simpa only [SoFar, Function.update_of_ne haddress] using h

/-- The call is told the nonce, and nothing of it has been mined. -/
theorem SoFar.told {mined : Address → List Bytes} {nonce : U256} (h : SoFar E address mined sent φ)
    (hnonce : nonce.toNat = (mined address).length) (hlate : ∀ x ∈ sent, x ∉ mined address) :
    SoFar E address mined sent (.holding nonce) := by
  refine ⟨Nat.le_of_eq hnonce, fun x hx => ?_⟩
  cases φ with
  | other => exact h.elim
  | idle =>
    rw [show sent = [] from h] at hx
    cases hx
  | holding held =>
    obtain ⟨n, hn, hle, -⟩ := h.2 x hx
    exact ⟨n, hn, hnonce ▸ Nat.le_trans hle h.1, fun hmined => absurd hmined (hlate x hx)⟩

theorem SoFar.send {mined : Address → List Bytes} {nonce : U256} {raw : Bytes}
    (h : SoFar E address mined sent (.holding nonce)) (hraw : E.decode raw = some ⟨address, nonce⟩) :
    SoFar E address mined (sent ++ [raw]) (.holding nonce) := by
  refine ⟨h.1, fun x hx => ?_⟩
  rcases List.mem_append.mp hx with hx | hx
  · exact h.2 x hx
  · cases List.mem_singleton.mp hx
    exact ⟨nonce, hraw, Nat.le_refl _, fun _ => rfl⟩

end Mined

/-! ### Runs -/

section Runs

variable {E : Ethers Wallet Signature} {address : Address} {i : ι} {p : NetworkPool ι} {φ : ι → CallPhase}

/-- What holds of a call and of the node in every run. -/
structure CallInvariant (E : Ethers Wallet Signature) (address : Address) (i : ι) (p : NetworkPool ι)
    (φ : ι → CallPhase) : Prop where
  /-- The node. -/
  placed : Placed E p.shared.mined
  /-- The call. -/
  soFar : SoFar E address p.shared.mined (sends i p) (φ i)

theorem sends_after_self (op : NetworkI.Op) (k : NetworkI.Reply op → Async NetworkI Failure H256) :
    sends i (p.after (networkHandler E) i op k) =
      sends i p ++ (sentBytes op (networkHandler E op p.shared).1).toList := by
  rw [sends, Pool.gather_after, Pool.own_append_self, sends]

theorem sends_after_of_ne {j : ι} (hj : i ≠ j) (op : NetworkI.Op)
    (k : NetworkI.Reply op → Async NetworkI Failure H256) :
    sends i (p.after (networkHandler E) j op k) = sends i p := by
  rw [sends, Pool.gather_after, Pool.own_append_of_ne hj, sends]

/-- **A step keeps it**, of the call or of another. -/
theorem CallInvariant.after (h : CallInvariant E address i p φ) {j : ι} {op : NetworkI.Op}
    {k : NetworkI.Reply op → Async NetworkI Failure H256} {φ' : CallPhase} (hguard : NoLateNonce i p j)
    (hj : p.tasks j = .await op k) (hmove : CallMove E address (φ j) op (networkHandler E op p.shared).1 φ') :
    CallInvariant E address i (p.after (networkHandler E) j op k) (Function.update φ j φ') := by
  have hgrows : Grows E p.shared.mined (networkHandler E op p.shared).2.mined := mined_networkHandler op
  refine ⟨h.placed.grows hgrows, ?_⟩
  have hsoFar := h.soFar.grows hgrows
  rw [Pool.after_shared]
  by_cases hi : i = j
  · subst hi
    rw [Function.update_self, sends_after_self]
    generalize hφ : φ i = φi at hmove hsoFar
    generalize hreply : (networkHandler E op p.shared).1 = reply at hmove
    cases hmove with
    | other => exact hsoFar.elim
    | @nonce _ nonce _ =>
      obtain ⟨htold, hnonce⟩ := told_transactionCount hreply
      have hnone : sentBytes (.inl (.inl (.transactionCount address))) (.ok nonce) = none := rfl
      have hmined : (p.shared.request E (.transactionCount address)).2.mined = p.shared.mined :=
        mined_request _
      have hlate := hguard rfl address (by rw [hj]; exact htold)
      rw [hnone, Option.toList_none, List.append_nil]
      exact hsoFar.told (hmined ▸ hnonce) (hmined ▸ hlate)
    | send hraw => exact hsoFar.send hraw
    | skip _ hnone =>
      rw [hnone, Option.toList_none, List.append_nil]
      exact hsoFar
  · rw [Function.update_of_ne hi, sends_after_of_ne hi]
    exact hsoFar

/-- A transaction of the call that is mined has the nonce that the call holds. -/
theorem CallInvariant.mined (h : CallInvariant E address i p φ) {a : Address} {k : ℕ} {x : Bytes}
    (hx : (p.shared.mined a)[k]? = some x) (hsent : x ∈ sends i p) :
    a = address ∧ ∃ nonce, φ i = .holding nonce ∧ nonce.toNat = k := by
  obtain ⟨signed, hdecode, rfl, rfl⟩ := h.placed a k x hx
  have hsoFar := h.soFar
  generalize φ i = φi at hsoFar
  cases φi with
  | other => exact hsoFar.elim
  | idle =>
    rw [show sends i p = [] from hsoFar] at hsent
    cases hsent
  | holding nonce =>
    obtain ⟨n, hn, -, hmined⟩ := hsoFar.2 x hsent
    obtain rfl : signed = ⟨address, n⟩ := Option.some.inj (hdecode.symm.trans hn)
    exact ⟨rfl, nonce, rfl, congrArg BitVec.toNat (hmined (List.mem_of_getElem? hx)).symm⟩

/-- **At most one transaction of the call is ever mined**, whatever is lost and whenever the
node mines, as long as no nonce is told to the call when one of its own has been mined. -/
theorem mined_at_most_once (hE : E.Lawful) {service : HyperLiquidRpcService Wallet} {tx : TransactionRequest}
    {clock : ℕ → U64} {fates : ℕ → Fate} {chainId : U256}
      {estimates : ℕ → TransactionRequest → Except String U256}
    {gasPrices : ℕ → U256} {tasks : ι → Async NetworkI Failure H256} (hnonce : tx.nonce = none)
    (hi : tasks i = (service.submitTransaction E tx).inl)
    (hr : Pool.Reach (networkHandler E) (NoLateNonce i)
      (.start (.genesis clock fates chainId estimates gasPrices) tasks) p) : MinedAtMostOnce i p := by
  obtain ⟨address, haddress⟩ : ∃ address, ∀ wallet ∈ service.wallet, E.address wallet = address := by
    rcases service.wallet with _ | wallet
    · exact ⟨0, by simp⟩
    · exact ⟨E.address wallet, by simp⟩
  have hfollows : ∀ j, (callProtocol E address).Follows (fun _ _ => True)
      (Function.update (fun _ => CallPhase.other) i .idle j) (tasks j) := by
    intro j
    by_cases hj : j = i
    · subst hj
      rw [Function.update_self, hi]
      exact (follows_submitTransaction hE hnonce haddress).mono fun _ _ _ => trivial
    · rw [Function.update_of_ne hj]
      exact follows_other _
  have hstart : CallInvariant E address i (.start (.genesis clock fates chainId estimates gasPrices) tasks)
      (Function.update (fun _ => CallPhase.other) i .idle) := by
    constructor
    · intro a k x hx
      cases hx
    · rw [Function.update_self]
      rfl
  obtain ⟨φ, hinv, -⟩ := Protocol.exists_phases hr hfollows (CallInvariant E address i) hstart
    (fun _ _ _ _ => trivial) fun _ _ _ _ _ _ h hguard hj hmove => h.after hguard hj hmove
  intro a b k l x y hx hxs hy hys
  obtain ⟨rfl, nonce, hholds, rfl⟩ := hinv.mined hx hxs
  obtain ⟨rfl, nonce', hholds', rfl⟩ := hinv.mined hy hys
  rw [hholds] at hholds'
  cases hholds'
  exact ⟨rfl, rfl⟩

end Runs

/-- A trade. -/
def trade : TransactionRequest where
  fromAddress := none
  toAddress := some 0xcafe
  gas := some 21000
  gasPrice := some 1000000000
  value := some 1
  data := none
  nonce := none
  chainId := none

/-- What the node mines. -/
def mining : List ℕ → Async NetworkI Failure H256
  | [] => .done (.ok 0)
  | k :: ks => .await (.inr (.mine k)) fun _ => mining ks

/-- It is submitted, and the answer to the first attempt is lost. -/
def answerLost : NetworkPool ℕ :=
  .start (.genesis (fun _ => 0) (fun n => if n = 2 then .timesOut true else .answered) 998 (fun _ _ => .ok 21000)
    fun _ => 1000000000)
    fun i => if i = 0 then
      ((HyperLiquidRpcService.mk 10 (some ()) true).submitTransaction Ethers.sample trade).inl
      else mining [0, 1]

/-- The second attempt sends it again, and the node mines afterwards. -/
theorem trade_mined_once :
    MinedAtMostOnce 0 (answerLost.runSchedule (networkHandler Ethers.sample) [0, 0, 0, 0, 0, 0, 0, 0, 0, 1, 1]) :=
  mined_at_most_once Ethers.sample_lawful rfl rfl (Pool.reach_of_admits (by decide))

/-- **The trade is made twice** when the node mines before the second attempt. -/
theorem mined_twice :
    Ethers.sample.Lawful ∧ trade.nonce = none ∧
      ∃ p, Pool.Reach (networkHandler Ethers.sample) Pool.AnyStep answerLost p ∧ ¬ MinedAtMostOnce 0 p := by
  refine ⟨Ethers.sample_lawful, rfl, _, Pool.reach_runSchedule [0, 0, 0, 0, 1, 0, 0, 0, 0, 0, 1] _,
    fun honce => ?_⟩
  have htwice := honce 0xa11ce 0xa11ce 0 1 (Ethers.sample.rlpSigned { trade with nonce := some 0 } ())
    (Ethers.sample.rlpSigned { trade with nonce := some 1 } ()) (by decide) (by decide)
    (by decide) (by decide)
  exact absurd htwice.2 (by decide)

end Botmev.Hyperliquid
