import Botmev.Mempool.Polling
import Mathlib.Data.Finset.Sort
import Mathlib.Data.String.Basic

/-!
# Processing each pending transaction once

A transaction stays in the pending block over some polls if every block that comes with
them has it, and the last block before them has not. It should be processed once then,
and the cleanup should keep the hashes that were seen last.

## What is proved

* `run_of_few`: while there were no more than 10000 hashes, all of them are known, and each
  was processed once.
* `exactly_once_iff`: whatever the orders of iteration are, both hold just when no more than
  10000 hashes come in all, and none comes back after it was gone.
* `once_if_recent_kept`: had the cleanup kept those seen last, no transaction that stays
  would be processed twice, however many come, if a block has no more than 10000.
* `latest_hash_forgotten`: a transaction that is processed twice as it is.
-/

namespace Botmev.Mempool

open Botmev.Rust Botmev.Library Botmev.Core

variable (env : Environment)

/-- The hashes of the blocks that came, block by block. -/
def blocks (polls : List Poll) : List (List String) := polls.filterMap fun poll => block env poll.answer

/-- How many hashes came, with repetitions, since this one came last. -/
def lastSeen (polls : List Poll) (hash : String) : ℕ := (blocks env polls).flatten.reverse.idxOf hash

/-- A transaction stays in the pending block over some polls, and was not in it before. -/
structure Stays (hash : String) (before stay : List Poll) : Prop where
  /-- There is a block. -/
  polled : blocks env stay ≠ []
  /-- Every block has it. -/
  pending : ∀ block ∈ blocks env stay, hash ∈ block
  /-- The last block before had not. -/
  entered : ∀ block ∈ (blocks env before).getLast?, hash ∉ block

/-- **Exactly once**: a transaction that stays is processed once during that time. -/
def ProcessedOnce (polls : List Poll) : Prop :=
  ∀ before stay rest hash poller poller', polls = before ++ stay ++ rest → Stays env hash before stay →
    Poller.run env before = .ok poller → Poller.run env (before ++ stay) = .ok poller' →
    poller'.timesProcessed hash = poller.timesProcessed hash + 1

/-- **The last ones are kept**: what a poll removes was seen before all that it keeps. -/
def KeepsRecent (polls : List Poll) : Prop :=
  ∀ before poll rest poller poller', polls = before ++ poll :: rest →
    Poller.run env before = .ok poller → Poller.run env (before ++ [poll]) = .ok poller' →
    ∀ removed kept, (removed ∈ poller.seenTxs ∨ ∃ hs ∈ block env poll.answer, removed ∈ hs) →
      removed ∉ poller'.seenTxs → kept ∈ poller'.seenTxs →
      lastSeen env (before ++ [poll]) kept < lastSeen env (before ++ [poll]) removed

/-- Both hold, whatever the orders of iteration are. -/
def ExactlyOncePolling (polls : List Poll) : Prop :=
  ∀ polls' : List Poll, polls'.map Poll.answer = polls.map Poll.answer →
    ProcessedOnce env polls' ∧ KeepsRecent env polls'

/-- No more than 10000 hashes come, and none after a block without it. -/
structure Unforgettable (blocks : List (List String)) : Prop where
  /-- No more than 10000 come. -/
  few : blocks.flatten.toFinset.card ≤ 10000
  /-- None comes back. -/
  noReturn : ∀ before block rest, blocks = before ++ block :: rest → ∀ hash ∈ block,
    hash ∈ before.flatten → ∃ last ∈ before.getLast?, hash ∈ last

variable {env} {polls polls' before stay rest : List Poll} {poll : Poll} {poller poller' : Poller}
  {hash : String}

/-! ### Runs -/

@[simp] theorem blocks_append (polls polls' : List Poll) :
    blocks env (polls ++ polls') = blocks env polls ++ blocks env polls' := List.filterMap_append

theorem blocks_singleton (poll : Poll) : blocks env [poll] = (block env poll.answer).toList := by
  rcases h : block env poll.answer with _ | hs <;> simp [blocks, h]

theorem blocks_congr (h : polls'.map Poll.answer = polls.map Poll.answer) : blocks env polls' = blocks env polls := by
  have hmap : ∀ polls : List Poll, blocks env polls = (polls.map Poll.answer).filterMap (block env) := by
    intro polls
    rw [List.filterMap_map]
    rfl
  rw [hmap, hmap, h]

theorem run_append (h : Poller.run env (polls ++ polls') = .ok poller') :
    ∃ poller, Poller.run env polls = .ok poller ∧ polls'.foldlM (Poller.step env) poller = .ok poller' := by
  rw [Poller.run, List.foldlM_append] at h
  exact bind_eq_ok_iff.mp h

theorem run_concat (h : Poller.run env (polls ++ [poll]) = .ok poller') :
    ∃ poller, Poller.run env polls = .ok poller ∧ poller.step env poll = .ok poller' := by
  obtain ⟨poller, hrun, h⟩ := run_append h
  obtain ⟨poller'', hstep, h⟩ := bind_eq_ok_iff.mp h
  cases h
  exact ⟨poller, hrun, hstep⟩

theorem run_concat_of_step (hrun : Poller.run env polls = .ok poller) (hstep : poller.step env poll = .ok poller') :
    Poller.run env (polls ++ [poll]) = .ok poller' := by
  rw [Poller.run, List.foldlM_append]
  exact bind_eq_ok_iff.mpr ⟨poller, hrun, bind_eq_ok_iff.mpr ⟨poller', hstep, rfl⟩⟩

/-- The first of the blocks have no more hashes than all of them. -/
theorem card_flatten_le (bs bs' : List (List String)) :
    bs.flatten.toFinset.card ≤ (bs ++ bs').flatten.toFinset.card := by
  apply Finset.card_le_card
  intro hash hmem
  rw [List.mem_toFinset] at hmem ⊢
  rw [List.flatten_append]
  exact List.mem_append_left _ hmem

/-- **While there were few**, all of them are known, and each was processed once. -/
theorem run_of_few (h : Poller.run env polls = .ok poller) (hfew : (blocks env polls).flatten.toFinset.card ≤ 10000) :
    poller.seenTxs = (blocks env polls).flatten.toFinset ∧
      ∀ hash, poller.timesProcessed hash = if hash ∈ (blocks env polls).flatten then 1 else 0 := by
  induction polls using List.reverseRecOn generalizing poller with
  | nil =>
    cases h
    exact ⟨rfl, fun _ => rfl⟩
  | append_singleton polls poll ih =>
    obtain ⟨between, hrun, hstep⟩ := run_concat h
    rw [blocks_append] at hfew ⊢
    obtain ⟨hseen, hcount⟩ := ih hrun (Nat.le_trans (card_flatten_le _ _) hfew)
    rw [blocks_singleton] at hfew ⊢
    rcases hblock : block env poll.answer with _ | hs
    · obtain ⟨hseen', hprocessed⟩ := step_of_error hblock hstep
      simp only [Option.toList_none, List.append_nil, Poller.timesProcessed, hseen', hprocessed]
      exact ⟨hseen, hcount⟩
    · obtain ⟨hseen', hcount'⟩ := step_of_block hblock hstep
      simp only [hblock, Option.toList_some, List.flatten_append, List.flatten_singleton, List.toFinset_append]
        at hfew ⊢
      refine ⟨by rw [hseen', hseen, cleanup_of_le _ hfew], fun hash => ?_⟩
      rw [hcount', hcount, hseen]
      by_cases hbefore : hash ∈ (blocks env polls).flatten
      · simp [hbefore]
      · simp [hbefore]

/-! ### Enough for it -/

/-- **Few hashes, each processed once** while it stays. -/
theorem processedOnce_of_unforgettable (h : Unforgettable (blocks env polls)) : ProcessedOnce env polls := by
  intro before stay rest hash poller poller' hpolls hstays hrun hrun'
  have hblocks : blocks env polls = blocks env before ++ blocks env stay ++ blocks env rest := by
    rw [hpolls, blocks_append, blocks_append]
  have hfew : (blocks env (before ++ stay)).flatten.toFinset.card ≤ 10000 := by
    have hall := h.few
    rw [hblocks] at hall
    rw [blocks_append]
    exact Nat.le_trans (card_flatten_le _ _) hall
  obtain ⟨first, others, hstay⟩ := List.exists_cons_of_ne_nil hstays.polled
  have hfirst : hash ∈ first := hstays.pending first (by rw [hstay]; exact List.mem_cons_self)
  have hbefore : hash ∉ (blocks env before).flatten := by
    intro hmem
    rw [hstay, List.append_assoc, List.cons_append] at hblocks
    obtain ⟨last, hlast, hmem⟩ := h.noReturn _ _ _ hblocks hash hfirst hmem
    exact hstays.entered last hlast hmem
  have hafter : hash ∈ (blocks env (before ++ stay)).flatten := by
    rw [blocks_append, hstay]
    simp [hfirst]
  rw [blocks_append] at hfew
  rw [(run_of_few hrun (Nat.le_trans (card_flatten_le _ _) hfew)).2 hash, if_neg hbefore]
  rw [← blocks_append] at hfew
  rw [(run_of_few hrun' hfew).2 hash, if_pos hafter]

/-- **Few hashes, none removed.** -/
theorem keepsRecent_of_unforgettable (h : Unforgettable (blocks env polls)) : KeepsRecent env polls := by
  intro before poll rest poller poller' hpolls hrun hrun' removed kept hremoved hnot _
  have hfew : (blocks env (before ++ [poll])).flatten.toFinset.card ≤ 10000 := by
    have hall := h.few
    rw [hpolls, List.append_cons, blocks_append] at hall
    exact Nat.le_trans (card_flatten_le _ _) hall
  have hseen' := (run_of_few hrun' hfew).1
  rw [blocks_append] at hfew
  have hseen := (run_of_few hrun (Nat.le_trans (card_flatten_le _ _) hfew)).1
  rw [hseen', blocks_append, List.flatten_append, List.toFinset_append, Finset.mem_union, blocks_singleton] at hnot
  refine absurd ?_ hnot
  rcases hremoved with hmem | ⟨hs, hhs, hmem⟩
  · exact .inl (hseen ▸ hmem)
  · refine .inr ?_
    rw [Option.mem_def.mp hhs]
    simpa using hmem

/-! ### Needed for it -/

theorem IterationOrder.mem_order (order : IterationOrder) {s : Finset String} : hash ∈ order.order s ↔ hash ∈ s := by
  rw [← List.mem_toFinset, order.toFinset]

/-- The order that comes to one hash before the others. -/
def IterationOrder.startingWith (hash : String) (order : IterationOrder) : IterationOrder where
  order s := if hash ∈ s then hash :: (order.order s).erase hash else order.order s
  nodup s := by
    split
    · exact List.nodup_cons.mpr ⟨(order.nodup s).not_mem_erase, (order.nodup s).erase hash⟩
    · exact order.nodup s
  toFinset s := by
    split
    · rename_i hmem
      ext hash'
      simp only [List.mem_toFinset, List.mem_cons, (order.nodup s).mem_erase_iff, order.mem_order]
      by_cases heq : hash' = hash
      · simp [heq, hmem]
      · simp [heq]
    · exact order.toFinset s

theorem notMem_cleanup_startingWith (order : IterationOrder) {seenTxs : Finset String} (h : 10000 < seenTxs.card) :
    hash ∉ cleanup (order.startingWith hash) seenTxs := by
  rw [cleanup_of_lt _ h, Finset.mem_sdiff]
  rintro ⟨hmem, hnot⟩
  apply hnot
  obtain ⟨n, hn⟩ : ∃ n, seenTxs.card - 10000 = n + 1 := ⟨seenTxs.card - 10001, by omega⟩
  simp [IterationOrder.startingWith, hmem, hn]

/-- Another order of iteration does not keep a poll from returning. -/
theorem exists_step_of_order (h : poller.step env poll = .ok poller') (order : IterationOrder) :
    ∃ poller'', poller.step env { poll with order } = .ok poller'' := by
  obtain ⟨result, hpoll, -⟩ := bind_eq_ok_iff.mp h
  obtain ⟨requestId, hadd, hpoll⟩ := bind_eq_ok_iff.mp hpoll
  rcases htransactions : pendingTransactions env poll.answer with e | transactions
  · refine ⟨{ poller with requestId }, ?_⟩
    simp only [Poller.step, pollPendingTransactions, hadd, ok_bind, htransactions]
    rfl
  · simp only [htransactions] at hpoll
    obtain ⟨state, hloop, -⟩ := bind_eq_ok_iff.mp hpoll
    refine ⟨{ state.2 with seenTxs := cleanup order state.2.seenTxs }, ?_⟩
    simp only [Poller.step, pollPendingTransactions, hadd, ok_bind, htransactions, hloop]
    rfl

theorem lastSeen_of_concat {earlier : List String} (h : (blocks env polls).flatten = earlier ++ [hash]) :
    lastSeen env polls hash = 0 := by
  rw [lastSeen, h, List.reverse_concat, List.idxOf_cons_self]

/-- If what is kept is always what was seen last, the hash that came last is kept, if any is. -/
theorem latest_kept {earlier : List String} (hkeeps : KeepsRecent env polls) (hpolls : polls = before ++ poll :: rest)
    (hbefore : Poller.run env before = .ok poller) (hstep : poller.step env poll = .ok poller')
    (hlatest : (blocks env (before ++ [poll])).flatten = earlier ++ [hash])
    (hknown : hash ∈ poller.seenTxs ∨ ∃ hs ∈ block env poll.answer, hash ∈ hs)
    (hany : poller'.seenTxs.Nonempty) : hash ∈ poller'.seenTxs := by
  by_contra hforgotten
  obtain ⟨kept, hkept⟩ := hany
  have hlt := hkeeps before poll rest poller poller' hpolls hbefore (run_concat_of_step hbefore hstep) hash kept
    hknown hforgotten hkept
  rw [lastSeen_of_concat hlatest] at hlt
  exact Nat.not_lt_zero _ hlt

/-- If what is kept is always what was seen last, there are never too many to keep: else the
cleanup may come first to the hash that came last. -/
theorem few_of_exactlyOncePolling (h : ExactlyOncePolling env polls) (hrun : Poller.run env polls = .ok poller) :
    ∀ before rest, polls = before ++ rest → (blocks env before).flatten.toFinset.card ≤ 10000 := by
  intro before
  induction before using List.reverseRecOn with
  | nil =>
    intro _ _
    exact Nat.zero_le _
  | append_singleton before poll ih =>
    intro rest hpolls
    rw [hpolls] at hrun
    obtain ⟨_, hstart, -⟩ := run_append hrun
    obtain ⟨between, hbefore, hstep⟩ := run_concat hstart
    rw [List.append_assoc, List.singleton_append] at hpolls
    have hfew := ih (poll :: rest) hpolls
    by_contra hmany
    rw [Nat.not_le] at hmany
    rcases List.eq_nil_or_concat' (blocks env (before ++ [poll])).flatten with hnil | ⟨earlier, latest, hlatest⟩
    · rw [hnil] at hmany
      exact absurd hmany (by decide)
    · -- The set is iterated from the hash on that came last.
      have hblocks : ∀ order, blocks env (before ++ [{ poll with order }]) = blocks env (before ++ [poll]) := by
        intro order
        apply blocks_congr
        simp
      obtain ⟨after, hstep'⟩ := exists_step_of_order hstep (poll.order.startingWith latest)
      have hsame : before.map Poll.answer ++ poll.answer :: rest.map Poll.answer = polls.map Poll.answer := by
        simp [hpolls]
      have hkeeps := (h (before ++ { poll with order := poll.order.startingWith latest } :: rest)
        (by simpa using hsame)).2
      rw [← hblocks (poll.order.startingWith latest)] at hlatest
      rcases hblock : block env poll.answer with _ | hs
      · rw [blocks_append, blocks_singleton, hblock, Option.toList_none, List.append_nil] at hmany
        omega
      · have hblock' : block env (Poll.mk poll.answer (poll.order.startingWith latest)).answer = some hs := hblock
        have hflatten : (blocks env (before ++ [{ poll with order := poll.order.startingWith latest }])).flatten =
            (blocks env before).flatten ++ hs := by
          rw [blocks_append, blocks_singleton, hblock', List.flatten_append]
          simp
        have hseen := (step_of_block hblock' hstep').1
        rw [(run_of_few hbefore hfew).1, ← List.toFinset_append, ← hflatten, hblocks] at hseen
        have hcard := card_cleanup (poll.order.startingWith latest) hmany
        rw [← hseen] at hcard
        have hknown : latest ∈ between.seenTxs ∨ ∃ hs ∈ block env poll.answer, latest ∈ hs := by
          have hmem : latest ∈ (blocks env before).flatten ++ hs := by
            rw [← hflatten, hlatest]
            exact List.mem_append_right _ List.mem_cons_self
          rcases List.mem_append.mp hmem with hmem | hmem
          · left
            rw [(run_of_few hbefore hfew).1]
            exact List.mem_toFinset.mpr hmem
          · exact .inr ⟨hs, hblock, hmem⟩
        have hkept := latest_kept hkeeps rfl hbefore hstep' hlatest hknown (Finset.card_pos.mp (by omega))
        rw [hseen] at hkept
        exact notMem_cleanup_startingWith _ hmany hkept

/-- **When polling is exactly once**: when no more than 10000 hashes come in all, and none
comes back after a block without it. -/
theorem exactly_once_iff (h : Poller.run env polls = .ok poller) :
    ExactlyOncePolling env polls ↔ Unforgettable (blocks env polls) := by
  constructor
  · intro honce
    have hfew := few_of_exactlyOncePolling honce h polls [] (List.append_nil _).symm
    refine ⟨hfew, ?_⟩
    intro bs b rest hblocks hash hmem hbefore
    by_contra hreturns
    obtain ⟨before, others, hpolls, hbs, hothers⟩ := List.filterMap_eq_append_iff.mp hblocks
    obtain ⟨gap, poll, rest', rfl, hgap, hpoll, hrest⟩ := List.filterMap_eq_cons_iff.mp hothers
    -- The poll with this block is a stay of its own.
    have hpolls' : polls = (before ++ gap) ++ [poll] ++ rest' := by simp [hpolls]
    have hgap' : blocks env gap = [] := List.filterMap_eq_nil_iff.mpr hgap
    have hsingle : blocks env [poll] = [b] := by rw [blocks_singleton, hpoll, Option.toList_some]
    have hbefore' : blocks env (before ++ gap) = bs := by rw [blocks_append, hgap', List.append_nil]; exact hbs
    have hstays : Stays env hash (before ++ gap) [poll] := by
      refine ⟨by rw [hsingle]; exact List.cons_ne_nil _ _, ?_, ?_⟩
      · rw [hsingle]
        simpa using hmem
      · rw [hbefore']
        intro last hlast hmem'
        exact hreturns ⟨last, hlast, hmem'⟩
    rw [hpolls'] at h
    obtain ⟨after, hafter, -⟩ := run_append h
    obtain ⟨between, hbetween, -⟩ := run_append hafter
    have hfewAll := few_of_exactlyOncePolling honce (hpolls' ▸ h)
    have hone := (run_of_few hbetween (hfewAll _ ([poll] ++ rest') (by rw [hpolls', List.append_assoc]))).2 hash
    have hstill := (run_of_few hafter (hfewAll _ rest' hpolls')).2 hash
    rw [hbefore', if_pos hbefore] at hone
    rw [blocks_append, hbefore', if_pos (by simp [hbefore])] at hstill
    have htwice := (honce polls rfl).1 _ _ _ hash _ _ hpolls' hstays hbetween hafter
    omega
  · intro hfew polls' hsame
    rw [← blocks_congr hsame] at hfew
    exact ⟨processedOnce_of_unforgettable hfew, keepsRecent_of_unforgettable hfew⟩

/-! ### Two runs -/

/-- Nothing in these runs is lowered or displayed. -/
def plainEnvironment : Environment where
  toLowercase := String.toLower
  display := fun _ => ""
  pretty := fun _ => .ok ""

/-- A transaction of the pending block. -/
def transactionWith (hash : String) : Value :=
  .object [("hash", .string hash), ("from", .string "0x742d35cc6634c0532925a3b8d4c9db7c4c4c4c4c")]

/-- A pending block with transactions of these hashes. -/
def blockOf (hs : List String) : Answer :=
  .json (.object [("result", .object [("transactions", .array (hs.map transactionWith))])])

/-- The order of the strings. -/
def IterationOrder.sorted : IterationOrder where
  order s := s.sort (· ≤ ·)
  nodup s := s.sort_nodup (· ≤ ·)
  toFinset s := s.sort_toFinset (· ≤ ·)

/-- The hash of this number. -/
def hashOf (i : ℕ) : String := hexEncode0x (U256.toBigEndian (BitVec.ofNat 256 i))

theorem block_blockOf (hs : List String) : block env (blockOf hs) = some hs := by
  have hhashes : hashes (hs.map transactionWith) = hs := by
    rw [hashes, List.filterMap_map]
    exact List.filterMap_some
  exact congrArg some hhashes

theorem exists_step_blockOf (env : Environment) (poller : Poller) (hs : List String) (order : IterationOrder)
    (h : poller.requestId.toNat + 1 < 2 ^ 64) :
    ∃ poller', poller.step env ⟨blockOf hs, order⟩ = .ok poller' ∧
      poller'.requestId.toNat = poller.requestId.toNat + 1 := by
  apply exists_step h
  intro transactions htransactions tx hmem
  cases htransactions
  obtain ⟨hash, -, rfl⟩ := List.mem_map.mp hmem
  rfl

theorem hashOf_inj {i j : ℕ} (hi : i < 2 ^ 256) (hj : j < 2 ^ 256) (h : hashOf i = hashOf j) : i = j := by
  have hread : ∀ i, hexBytes ((hashOf i).toList.drop 2) = some (U256.toBigEndian (BitVec.ofNat 256 i)) := by
    intro i
    rw [hashOf, hexEncode0x, String.toList_append]
    exact hexBytes_hexEncode _
  have hbytes := hread i
  rw [h, hread j, Option.some.injEq] at hbytes
  have hvalue := congrArg (fun bytes => Library.Numeral.value 256 (bytes.map UInt8.toNat)) hbytes
  simp only [value_toBigEndian, BitVec.toNat_ofNat, Nat.mod_eq_of_lt hi, Nat.mod_eq_of_lt hj] at hvalue
  exact hvalue.symm

/-- Two polls of a block with one transaction are exactly once. -/
theorem one_transaction_exactly_once :
    ExactlyOncePolling plainEnvironment [⟨blockOf [hashOf 1], .sorted⟩, ⟨blockOf [hashOf 1], .sorted⟩] := by
  obtain ⟨first, hfirst, hrequest⟩ := exists_step_blockOf plainEnvironment .new [hashOf 1]
    .sorted (by decide)
  have hnumber : first.requestId.toNat = 2 := hrequest
  obtain ⟨second, hsecond, -⟩ := exists_step_blockOf plainEnvironment first [hashOf 1]
    .sorted (by omega)
  have hnone : Poller.run plainEnvironment [] = .ok .new := rfl
  have hrun := run_concat_of_step (run_concat_of_step hnone hfirst) hsecond
  have hblocks : blocks plainEnvironment [⟨blockOf [hashOf 1], .sorted⟩, ⟨blockOf [hashOf 1], .sorted⟩] =
      [[hashOf 1], [hashOf 1]] := by
    simp [blocks, block_blockOf]
  refine (exactly_once_iff hrun).mpr ?_
  rw [List.nil_append, List.singleton_append, hblocks]
  refine ⟨by simp, ?_⟩
  intro before b rest hsplit hash hmem hbefore
  have hall : ∀ hs ∈ before ++ b :: rest, hs = [hashOf 1] := by
    rw [← hsplit]
    simp
  rcases List.eq_nil_or_concat' before with rfl | ⟨earlier, last, rfl⟩
  · cases hbefore
  · refine ⟨last, by simp, ?_⟩
    rw [hall last (by simp), ← hall b (by simp)]
    exact hmem

/-- A block, and then two of another transaction each, which the cleanup comes to first. -/
def crowdedPolls (hs : List String) (latest : String) : List Poll :=
  [⟨blockOf hs, .sorted⟩, ⟨blockOf [latest], IterationOrder.startingWith latest .sorted⟩, ⟨blockOf [latest], .sorted⟩]

/-- After a block of 10000, the transaction of the second block is removed from the set, and
processed again when it is still there in the third. -/
theorem crowdedPolls_twice {hs : List String} {latest : String} (hnodup : hs.Nodup) (hlen : hs.length = 10000)
    (hnew : latest ∉ hs) :
    ∃ poller, Poller.run env (crowdedPolls hs latest) = .ok poller ∧ poller.timesProcessed latest = 2 ∧
      ¬ ProcessedOnce env (crowdedPolls hs latest) ∧ ¬ KeepsRecent env (crowdedPolls hs latest) := by
  obtain ⟨first, hfirst, hrequest⟩ := exists_step_blockOf env .new hs .sorted (by decide)
  have hnumber : first.requestId.toNat = 2 := hrequest
  obtain ⟨second, hsecond, hrequest'⟩ := exists_step_blockOf env first [latest]
    (IterationOrder.startingWith latest .sorted) (by omega)
  obtain ⟨third, hthird, -⟩ := exists_step_blockOf env second [latest] .sorted (by omega)
  have hnone : Poller.run env [] = .ok .new := rfl
  have hrun := run_concat_of_step hnone hfirst
  have hrun' := run_concat_of_step hrun hsecond
  have hrun'' := run_concat_of_step hrun' hthird
  -- What is known, and how often the transaction was processed.
  obtain ⟨hseen, hcount⟩ := step_of_block (block_blockOf hs) hfirst
  obtain ⟨hseen', hcount'⟩ := step_of_block (block_blockOf [latest]) hsecond
  obtain ⟨-, hcount''⟩ := step_of_block (block_blockOf [latest]) hthird
  have hcard : hs.toFinset.card = 10000 := by rw [List.toFinset_card_of_nodup hnodup, hlen]
  have hempty : Poller.new.seenTxs ∪ hs.toFinset = hs.toFinset := Finset.empty_union _
  rw [hempty, cleanup_of_le _ (Nat.le_of_eq hcard)] at hseen
  have hnew' : latest ∉ first.seenTxs := by
    rw [hseen, List.mem_toFinset]
    exact hnew
  have hmany : 10000 < (first.seenTxs ∪ [latest].toFinset).card := by
    rw [List.toFinset_cons, List.toFinset_nil, Finset.union_insert, Finset.union_empty,
      Finset.card_insert_of_notMem hnew', hseen, hcard]
    decide
  have hforgotten : latest ∉ second.seenTxs := by
    rw [hseen']
    exact notMem_cleanup_startingWith _ hmany
  have hzero : first.timesProcessed latest = 0 := by
    rw [hcount, if_neg (fun h => hnew h.1)]
    rfl
  have hone : second.timesProcessed latest = 1 := by
    rw [hcount', hzero, if_pos ⟨List.mem_cons_self, hnew'⟩]
  have htwo : third.timesProcessed latest = 2 := by
    rw [hcount'', hone, if_pos ⟨List.mem_cons_self, hforgotten⟩]
  refine ⟨third, hrun'', htwo, ?_, ?_⟩
  · intro honce
    have hstays : Stays env latest [⟨blockOf hs, .sorted⟩]
        [⟨blockOf [latest], IterationOrder.startingWith latest .sorted⟩, ⟨blockOf [latest], .sorted⟩] := by
      refine ⟨by simp [blocks, block_blockOf], by simp [blocks, block_blockOf], ?_⟩
      simpa [blocks, block_blockOf] using hnew
    have := honce _ _ [] _ _ _ rfl hstays hrun hrun''
    omega
  · intro hkeeps
    have hflatten : (blocks env ([⟨blockOf hs, .sorted⟩] ++
        [⟨blockOf [latest], IterationOrder.startingWith latest .sorted⟩])).flatten = hs ++ [latest] := by
      simp [blocks, block_blockOf]
    have hany : second.seenTxs.Nonempty := by
      rw [← Finset.card_pos, hseen', card_cleanup _ hmany]
      decide
    have hpolls : crowdedPolls hs latest = [⟨blockOf hs, .sorted⟩] ++
        ⟨blockOf [latest], IterationOrder.startingWith latest .sorted⟩ :: [⟨blockOf [latest], .sorted⟩] := rfl
    exact hforgotten (latest_kept hkeeps hpolls hrun hsecond hflatten
      (.inr ⟨_, block_blockOf _, List.mem_cons_self⟩) hany)

/-- **The cleanup forgets what was seen last**: a transaction that comes after 10000 others
is processed twice while it stays. -/
theorem latest_hash_forgotten :
    ∃ poller, Poller.run plainEnvironment (crowdedPolls ((List.range 10000).map hashOf) (hashOf 10000)) = .ok poller ∧
      poller.timesProcessed (hashOf 10000) = 2 ∧
      ¬ ProcessedOnce plainEnvironment (crowdedPolls ((List.range 10000).map hashOf) (hashOf 10000)) ∧
      ¬ KeepsRecent plainEnvironment (crowdedPolls ((List.range 10000).map hashOf) (hashOf 10000)) := by
  apply crowdedPolls_twice
  · apply List.Nodup.map_on _ List.nodup_range
    intro i hi j hj h
    rw [List.mem_range] at hi hj
    exact hashOf_inj (by omega) (by omega) h
  · rw [List.length_map, List.length_range]
  · rw [List.mem_map]
    rintro ⟨i, hi, h⟩
    rw [List.mem_range] at hi
    have := hashOf_inj (by omega) (by omega) h
    omega

/-! ### If the last ones were kept -/

/-- A hash that is seen sooner than one of the last block is in that block, too. -/
theorem mem_of_lastSeen_lt {earlierHashes hs : List String} {other : String}
    (h : (blocks env polls).flatten = earlierHashes ++ hs) (hmem : hash ∈ hs)
    (hlt : lastSeen env polls other < lastSeen env polls hash) : other ∈ hs := by
  rw [lastSeen, lastSeen, h, List.reverse_append,
    List.idxOf_append_of_mem (List.mem_reverse.mpr hmem)] at hlt
  have hlength := List.idxOf_lt_length_of_mem (List.mem_reverse.mpr hmem)
  by_contra hnot
  rw [List.idxOf_append_of_notMem (fun h => hnot (List.mem_reverse.mp h))] at hlt
  omega

theorem mem_of_keepsRecent {hs : List String} (hkeeps : KeepsRecent env polls) (hpolls : polls = before ++ poll :: rest)
    (hbefore : Poller.run env before = .ok poller) (hstep : poller.step env poll = .ok poller')
    (hblock : block env poll.answer = some hs) (hfew : hs.toFinset.card ≤ 10000) (hmem : hash ∈ hs) :
    hash ∈ poller'.seenTxs := by
  by_contra hnot
  have hseen := (step_of_block hblock hstep).1
  have hin : hash ∈ poller.seenTxs ∪ hs.toFinset := Finset.mem_union_right _ (List.mem_toFinset.mpr hmem)
  rcases Nat.lt_or_ge 10000 (poller.seenTxs ∪ hs.toFinset).card with hlt | hle
  · -- All that is kept is in the block, and the hash besides.
    have hsub : insert hash poller'.seenTxs ⊆ hs.toFinset := by
      intro kept hkept
      rw [List.mem_toFinset]
      rcases Finset.mem_insert.mp hkept with rfl | hkept
      · exact hmem
      · have hflatten : (blocks env (before ++ [poll])).flatten = (blocks env before).flatten ++ hs := by
          rw [blocks_append, blocks_singleton, hblock]
          simp
        refine mem_of_lastSeen_lt hflatten hmem ?_
        exact hkeeps _ _ _ _ _ hpolls hbefore (run_concat_of_step hbefore hstep) hash kept
          (.inr ⟨hs, hblock, hmem⟩) hnot hkept
    have hcard := Finset.card_le_card hsub
    rw [Finset.card_insert_of_notMem hnot, hseen, card_cleanup _ hlt] at hcard
    omega
  · rw [hseen, cleanup_of_le _ hle] at hnot
    exact hnot hin

/-- **If the last ones were kept**, and no block had more than 10000 hashes, a transaction
that stays would be processed once if it is not known when it comes, and not at all if it
is. -/
theorem once_if_recent_kept (hkeeps : KeepsRecent env polls)
    (hfew : ∀ hs ∈ blocks env polls, hs.toFinset.card ≤ 10000) (hpolls : polls = before ++ stay ++ rest)
    (hstay : ∀ hs ∈ blocks env stay, hash ∈ hs) (hbefore : Poller.run env before = .ok poller)
    (hafter : Poller.run env (before ++ stay) = .ok poller') :
    poller'.timesProcessed hash = poller.timesProcessed hash +
        (if blocks env stay = [] ∨ hash ∈ poller.seenTxs then 0 else 1) ∧
      (hash ∈ poller'.seenTxs ↔ blocks env stay ≠ [] ∨ hash ∈ poller.seenTxs) := by
  induction stay using List.reverseRecOn generalizing rest poller' with
  | nil =>
    rw [List.append_nil, hbefore] at hafter
    cases hafter
    exact ⟨by simp [blocks], by simp [blocks]⟩
  | append_singleton stay poll ih =>
    rw [← List.append_assoc] at hafter
    obtain ⟨between, hbetween, hstep⟩ := run_concat hafter
    have hpolls' : polls = before ++ stay ++ poll :: rest := by simp [hpolls]
    rw [blocks_append] at hstay ⊢
    obtain ⟨hcount, hknown⟩ := ih hpolls' (fun hs hmem => hstay hs (List.mem_append_left _ hmem)) hbetween
    rw [blocks_singleton] at hstay ⊢
    rcases hblock : block env poll.answer with _ | hs
    · obtain ⟨hseen, hprocessed⟩ := step_of_error hblock hstep
      simp only [Option.toList_none, List.append_nil, Poller.timesProcessed, hseen, hprocessed]
      exact ⟨hcount, hknown⟩
    · have hmem : hash ∈ hs := hstay hs (by simp [hblock])
      have hin : hs ∈ blocks env polls := List.mem_filterMap.mpr ⟨poll, by simp [hpolls'], hblock⟩
      refine ⟨?_, iff_of_true
        (mem_of_keepsRecent hkeeps hpolls' hbetween hstep hblock (hfew hs hin) hmem) (by simp)⟩
      rw [(step_of_block hblock hstep).2 hash, hcount]
      by_cases hbefore' : hash ∈ poller.seenTxs
      · simp [hbefore', hknown]
      · by_cases hnil : blocks env stay = []
        · simp [hbefore', hnil, hknown, hmem]
        · simp [hbefore', hnil, hknown]

end Botmev.Mempool
