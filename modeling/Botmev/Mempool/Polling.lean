import Botmev.Mempool.Parser
import Mathlib.Data.Finset.Card
import Mathlib.Data.Finset.Dedup
import Mathlib.Data.Finset.Lattice.Basic

/-!
# Polling the pending block

`MempoolService::poll_pending_transactions` (`mev-mempool/src/lib.rs`) asks the node for
the pending block and processes the transactions in it that it has not seen before. The
hashes it has seen are in a `HashSet`, and when there are more than 10000, as many as there
are too many are removed: the first ones in the order in which the set is iterated, which
may be any order.

What the node and `serde_json` make of a request is an `Answer`. Of processing, there is the
parser, which may panic; the ring buffer, the metrics and the log behind it are left out.

## What is proved

* `step_of_block`, `step_of_error`: what a poll that returns leaves behind.
* `exists_step`: it returns if no transaction of the block makes the parser panic.
-/

namespace Botmev.Mempool

open Botmev.Rust Botmev.Library Botmev.Core

/-- What comes of a request. -/
inductive Answer where
  /-- It could not be sent. -/
  | notSent (e : String)
  /-- The response could not be read. -/
  | notRead (e : String)
  /-- The response is empty. -/
  | empty
  /-- The response is not JSON. -/
  | notJson (e text : String)
  /-- The response. -/
  | json (response : Value)

/-- What the service has from elsewhere. -/
structure Environment where
  /-- `str::to_lowercase`. -/
  toLowercase : String → String
  /-- `value.to_string()`. -/
  display : Value → String
  /-- `serde_json::to_string_pretty(value)`. -/
  pretty : Value → Except String String

/-- The order in which a `HashSet<String>` is iterated. -/
structure IterationOrder where
  /-- The elements, one after the other. -/
  order : Finset String → List String
  /-- None comes twice. -/
  nodup : ∀ s, (order s).Nodup
  /-- All of them come, and no others. -/
  toFinset : ∀ s, (order s).toFinset = s

/-- A poll: what comes of the request, and the order in which the set is iterated then. -/
structure Poll where
  /-- What comes of the request. -/
  answer : Answer
  /-- The order of iteration. -/
  order : IterationOrder

/-- The state of polling. -/
structure Poller where
  /-- The number of the next request. -/
  requestId : U64
  /-- The hashes that were seen. -/
  seenTxs : Finset String
  /-- The transactions that were processed, in order. -/
  processed : List Value

/-- The state that polling starts in. -/
def Poller.new : Poller where
  requestId := 1
  seenTxs := ∅
  processed := []

variable (env : Environment)

/-- The transactions of the pending block, from the response. -/
def pendingTransactions : Answer → Result (List Value)
  | .notSent e => .error (.err ("HTTP request failed: " ++ e))
  | .notRead e => .error (.err ("Failed to read response body: " ++ e))
  | .empty => .error (.err ("Empty response from RPC endpoint - the endpoint may not support " ++
      "eth_getBlockByNumber with 'pending' parameter"))
  | .notJson e text => .error (.err ("Failed to parse response: " ++ e ++ ". Response body: " ++ text))
  | .json response =>
    match response.get "error" with
    | some error => .error (.err ("RPC error: " ++ env.display error))
    | none => do
      let block ← okOr "No result in response" (response.get "result")
      bailIf block.isNull "Pending block is null - the endpoint may not support pending transactions"
      okOr ("No transactions array in block. Block structure: " ++
          (env.pretty block).toOption.getD "Unable to serialize")
        ((block.get "transactions").bind Value.asArray)

/-- `process_transaction`: what cannot be parsed is logged. -/
def processTransaction (txData : Value) : Result Unit := do
  let _ ← catchErr (parseTransaction .new env.toLowercase txData)
  pure ()

/-- What the loop does with a transaction, and the count of the new ones with it. -/
def see (state : ℕ × Poller) (tx : Value) : Result (ℕ × Poller) :=
  match tx.getStr "hash" with
  | none => pure state
  | some hash =>
    if hash ∈ state.2.seenTxs then pure state
    else do
      processTransaction env tx
      pure (state.1 + 1,
        { state.2 with seenTxs := insert hash state.2.seenTxs, processed := state.2.processed ++ [tx] })

/-- "Cleanup: Keep only last 10k transaction hashes". -/
def cleanup (order : IterationOrder) (seenTxs : Finset String) : Finset String :=
  if 10000 < seenTxs.card then
    ((order.order seenTxs).take (seenTxs.card - 10000)).foldl (fun seenTxs hash => seenTxs.erase hash) seenTxs
  else seenTxs

/-- `poll_pending_transactions`: what it returns, and the state then, unless it panics. -/
def pollPendingTransactions (poller : Poller) (poll : Poll) : Result (Result ℕ × Poller) := do
  let requestId ← Uint.add poller.requestId 1
  match pendingTransactions env poll.answer with
  | .error e => pure (.error e, { poller with requestId })
  | .ok transactions => do
    let (newTxCount, poller) ← transactions.foldlM (see env) (0, { poller with requestId })
    pure (.ok newTxCount, { poller with seenTxs := cleanup poll.order poller.seenTxs })

/-- A poll of the loop of `start_polling_mode`, which goes on after an error. -/
def Poller.step (poller : Poller) (poll : Poll) : Result Poller := do
  let (_, poller) ← pollPendingTransactions env poller poll
  pure poller

/-- The loop of `start_polling_mode`, so far. -/
def Poller.run (polls : List Poll) : Result Poller := polls.foldlM (Poller.step env) Poller.new

/-- The hashes of some transactions. -/
def hashes (transactions : List Value) : List String := transactions.filterMap (Value.getStr "hash")

/-- How often a transaction with this hash was processed. -/
def Poller.timesProcessed (poller : Poller) (hash : String) : ℕ := (hashes poller.processed).count hash

/-- The hashes of the pending block, if there is one in the answer. -/
def block (answer : Answer) : Option (List String) :=
  match pendingTransactions env answer with
  | .ok transactions => some (hashes transactions)
  | .error _ => none

variable {env} {poller poller' : Poller} {poll : Poll} {transactions : List Value} {hash : String}

/-! ### The cleanup -/

theorem foldl_erase (removed : List String) (seenTxs : Finset String) :
    removed.foldl (fun seenTxs hash => seenTxs.erase hash) seenTxs = seenTxs \ removed.toFinset := by
  induction removed generalizing seenTxs with
  | nil => simp
  | cons hash removed ih =>
    rw [List.foldl_cons, ih, List.toFinset_cons, Finset.sdiff_insert, Finset.erase_sdiff_comm]

theorem cleanup_of_le (order : IterationOrder) {seenTxs : Finset String} (h : seenTxs.card ≤ 10000) :
    cleanup order seenTxs = seenTxs := if_neg (Nat.not_lt.mpr h)

theorem cleanup_of_lt (order : IterationOrder) {seenTxs : Finset String} (h : 10000 < seenTxs.card) :
    cleanup order seenTxs = seenTxs \ ((order.order seenTxs).take (seenTxs.card - 10000)).toFinset := by
  rw [cleanup, if_pos h, foldl_erase]

theorem card_cleanup (order : IterationOrder) {seenTxs : Finset String} (h : 10000 < seenTxs.card) :
    (cleanup order seenTxs).card = 10000 := by
  have hlen : (order.order seenTxs).length = seenTxs.card := by
    rw [← List.toFinset_card_of_nodup (order.nodup seenTxs), order.toFinset]
  have hsub : ((order.order seenTxs).take (seenTxs.card - 10000)).toFinset ⊆ seenTxs := by
    intro hash hmem
    rw [← order.toFinset seenTxs]
    exact List.mem_toFinset.mpr (List.mem_of_mem_take (List.mem_toFinset.mp hmem))
  rw [cleanup_of_lt order h, Finset.card_sdiff_of_subset hsub,
    List.toFinset_card_of_nodup ((order.nodup seenTxs).sublist (List.take_sublist _ _)), List.length_take, hlen]
  omega

/-! ### The loop -/

theorem foldlM_see {state state' : ℕ × Poller} (h : transactions.foldlM (see env) state = .ok state') :
    state'.2.requestId = state.2.requestId ∧
      state'.2.seenTxs = state.2.seenTxs ∪ (hashes transactions).toFinset ∧
      ∀ hash, state'.2.timesProcessed hash = state.2.timesProcessed hash +
        if hash ∈ hashes transactions ∧ hash ∉ state.2.seenTxs then 1 else 0 := by
  induction transactions generalizing state with
  | nil =>
    cases h
    simp [hashes]
  | cons tx transactions ih =>
    obtain ⟨between, hsee, h⟩ := bind_eq_ok_iff.mp h
    obtain ⟨hrequest, hseen, hcount⟩ := ih h
    unfold see at hsee
    rcases htx : tx.getStr "hash" with _ | hash
    · simp only [htx] at hsee
      cases hsee
      have hhashes : hashes (tx :: transactions) = hashes transactions := List.filterMap_cons_none htx
      rw [hhashes]
      exact ⟨hrequest, hseen, hcount⟩
    · simp only [htx] at hsee
      have hhashes : hashes (tx :: transactions) = hash :: hashes transactions := List.filterMap_cons_some htx
      rw [hhashes]
      split at hsee
      · rename_i hmem
        cases hsee
        refine ⟨hrequest, ?_, ?_⟩
        · rw [hseen, List.toFinset_cons, Finset.union_insert, Finset.insert_eq_of_mem (Finset.mem_union_left _ hmem)]
        · intro hash'
          rw [hcount]
          by_cases heq : hash' = hash
          · subst heq
            simp [hmem]
          · simp [heq]
      · rename_i hmem
        obtain ⟨-, -, hsee⟩ := bind_eq_ok_iff.mp hsee
        cases hsee
        refine ⟨hrequest, ?_, ?_⟩
        · rw [hseen, List.toFinset_cons, Finset.union_insert, Finset.insert_union]
        · intro hash'
          have hprocessed : hashes (state.2.processed ++ [tx]) = hashes state.2.processed ++ [hash] := by
            rw [hashes, List.filterMap_append, List.filterMap_cons_some htx]
            rfl
          rw [hcount, Poller.timesProcessed, Poller.timesProcessed, hprocessed, List.count_append]
          by_cases heq : hash' = hash
          · subst heq
            simp [hmem]
          · have hne : hash ≠ hash' := fun h => heq h.symm
            simp [heq, hne]

/-! ### A poll -/

/-- **A poll without a block** changes nothing but the number of the request. -/
theorem step_of_error (hblock : block env poll.answer = none) (h : poller.step env poll = .ok poller') :
    poller'.seenTxs = poller.seenTxs ∧ poller'.processed = poller.processed := by
  unfold block at hblock
  split at hblock
  · cases hblock
  · rename_i e he
    simp only [Poller.step, pollPendingTransactions, he] at h
    obtain ⟨result, hpoll, h⟩ := bind_eq_ok_iff.mp h
    obtain ⟨requestId, -, hpoll⟩ := bind_eq_ok_iff.mp hpoll
    cases hpoll
    cases h
    exact ⟨rfl, rfl⟩

/-- **A poll with a block** processes what was not seen before, and then cleans up. -/
theorem step_of_block {hs : List String} (hblock : block env poll.answer = some hs)
    (h : poller.step env poll = .ok poller') :
    poller'.seenTxs = cleanup poll.order (poller.seenTxs ∪ hs.toFinset) ∧
      ∀ hash, poller'.timesProcessed hash =
        poller.timesProcessed hash + if hash ∈ hs ∧ hash ∉ poller.seenTxs then 1 else 0 := by
  unfold block at hblock
  split at hblock
  · rename_i transactions htransactions
    cases hblock
    simp only [Poller.step, pollPendingTransactions, htransactions] at h
    obtain ⟨result, hpoll, h⟩ := bind_eq_ok_iff.mp h
    obtain ⟨requestId, -, hpoll⟩ := bind_eq_ok_iff.mp hpoll
    obtain ⟨state, hloop, hpoll⟩ := bind_eq_ok_iff.mp hpoll
    cases hpoll
    cases h
    obtain ⟨-, hseen, hcount⟩ := foldlM_see hloop
    exact ⟨by rw [hseen], hcount⟩
  · cases hblock

theorem exists_foldlM_see (h : ∀ tx ∈ transactions, panics (parseTransaction .new env.toLowercase tx) = false)
    (state : ℕ × Poller) : ∃ state', transactions.foldlM (see env) state = .ok state' := by
  induction transactions generalizing state with
  | nil => exact ⟨state, rfl⟩
  | cons tx transactions ih =>
    obtain ⟨between, hsee⟩ : ∃ between, see env state tx = .ok between := by
      unfold see
      split
      · exact ⟨_, rfl⟩
      · split
        · exact ⟨_, rfl⟩
        · have hparse := h tx List.mem_cons_self
          unfold processTransaction
          rcases hresult : parseTransaction .new env.toLowercase tx with (_ | _) | _
          · exact ⟨_, rfl⟩
          · rw [hresult] at hparse
            cases hparse
          · exact ⟨_, rfl⟩
    obtain ⟨state', hloop⟩ := ih (fun tx hmem => h tx (List.mem_cons_of_mem _ hmem)) between
    exact ⟨state', bind_eq_ok_iff.mpr ⟨between, hsee, hloop⟩⟩

/-- **A poll returns** if the parser does, and there is a number for the next request. -/
theorem exists_step (hrequest : poller.requestId.toNat + 1 < 2 ^ 64)
    (h : ∀ transactions, pendingTransactions env poll.answer = .ok transactions →
      ∀ tx ∈ transactions, panics (parseTransaction .new env.toLowercase tx) = false) :
    ∃ poller', poller.step env poll = .ok poller' ∧ poller'.requestId.toNat = poller.requestId.toNat + 1 := by
  have hadd : Uint.add poller.requestId 1 = .ok (poller.requestId + 1) := if_pos hrequest
  have hnext : (poller.requestId + 1).toNat = poller.requestId.toNat + 1 := Uint.add_eq_ok_iff.mp hadd
  rcases htransactions : pendingTransactions env poll.answer with e | transactions
  · refine ⟨{ poller with requestId := poller.requestId + 1 }, ?_, hnext⟩
    simp only [Poller.step, pollPendingTransactions, hadd, ok_bind, htransactions]
    rfl
  · obtain ⟨state', hloop⟩ := exists_foldlM_see (h transactions htransactions)
      (0, { poller with requestId := poller.requestId + 1 })
    obtain ⟨hrequestId, -⟩ := foldlM_see hloop
    refine ⟨{ state'.2 with seenTxs := cleanup poll.order state'.2.seenTxs }, ?_, by rw [hrequestId, hnext]⟩
    simp only [Poller.step, pollPendingTransactions, hadd, ok_bind, htransactions, hloop]
    rfl

end Botmev.Mempool
