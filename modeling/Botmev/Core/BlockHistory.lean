import Botmev.Core.StateManager
import Mathlib.Data.List.DropRight
import Mathlib.Data.List.ReduceOption

/-!
# Headers one after another

What the state manager has, once it is initialised and a number of headers has come in:
the history is a window on the headers, and every header that does not build on the one
before it is a reorganisation.

## What is proved

* `popFront_eq_rtake`: the history keeps the last headers.
* `updateBlockHeader_run`: what one header does.
* `block_history`: what all of them do, from the first on.
* `redelivery_reported`: the head, delivered once more, is a reorganisation of itself.
* `redeliveries_flush`: delivered often enough, it is all that is left of the history.
-/

namespace Botmev.Core

open Botmev.Rust Botmev.Library

/-- The header goes on from the one before. -/
def BlockHeader.follows (newHeader prev : BlockHeader) : Bool :=
  decide (prev.number < newHeader.number) && newHeader.parentHash == prev.hash

namespace StateManager

/-- Headers come in, each at its time: what `update_block_header` returns for each. -/
def updateBlockHeaders : List (DateTime × BlockHeader) → StateManager →
    List (Result (Option ReorgEvent)) × StateManager
  | [], s => ([], s)
  | (now, newHeader) :: headers, s =>
    let (result, s) := s.updateBlockHeader now newHeader
    let (results, s) := updateBlockHeaders headers s
    (result :: results, s)

/-- What `update_block_header` is to return for a header that comes after `prev`. -/
def reorgAfter (prev : BlockHeader) (now : DateTime) (newHeader : BlockHeader) : Option ReorgEvent :=
  if newHeader.follows prev then none else some (reorgEvent now prev newHeader)

/-- What it is to return for each of the headers that come after `prev`. -/
def reorgsAfter : BlockHeader → List (DateTime × BlockHeader) → List (Option ReorgEvent)
  | _, [] => []
  | prev, (now, newHeader) :: headers => reorgAfter prev now newHeader :: reorgsAfter newHeader headers

/-! ### The window -/

theorem popFront_eq_rtake (max : ℕ) (headers : List BlockHeader) :
    popFront max headers = headers.rtake max := by
  induction headers with
  | nil => rw [popFront, List.rtake_nil]
  | cons header headers ih =>
    rw [popFront]
    split
    · rename_i h
      rw [ih, List.rtake, List.rtake, List.length_cons,
        show headers.length + 1 - max = headers.length - max + 1 by omega, List.drop_succ_cons]
    · rename_i h
      rw [List.rtake, List.length_cons, show headers.length + 1 - max = 0 by omega, List.drop_zero]

theorem rtake_rtake_append (max : ℕ) (xs ys : List BlockHeader) :
    (xs.rtake max ++ ys).rtake max = (xs ++ ys).rtake max := by
  have hlen : (xs.rtake max).length = xs.length - (xs.length - max) := List.length_drop
  unfold List.rtake at hlen ⊢
  simp only [List.length_append, hlen, List.drop_append, List.drop_drop]
  congr 2 <;> omega

/-! ### One header -/

variable {s : StateManager}

theorem markTransactionsAsDropped_nil (hlock : s.pendingTransactions.poisoned = false) :
    s.markTransactionsAsDropped [] = (.ok (), s) := by
  obtain ⟨config, headers, head, ⟨pending, poisoned⟩, nonces, reorgs⟩ := s
  subst hlock
  rfl

/-- What a header does: it is the head then, and the last of the history, and a
reorganisation if it does not follow the head before. -/
theorem updateBlockHeader_run {prev : BlockHeader} (now : DateTime) (newHeader : BlockHeader)
    (hlock : s.pendingTransactions.poisoned = false) (hhead : s.currentHead = some prev) :
    s.updateBlockHeader now newHeader = (.ok (reorgAfter prev now newHeader),
      { s with
        currentHead := some newHeader
        blockHeaders := (s.blockHeaders ++ [newHeader]).rtake s.config.maxBlockHistory
        reorgEvents := s.reorgEvents ++ (reorgAfter prev now newHeader).toList }) := by
  have hcheck : s.checkReorg now newHeader = (.ok (reorgAfter prev now newHeader),
      { s with reorgEvents := s.reorgEvents ++ (reorgAfter prev now newHeader).toList }) := by
    have hdrop := markTransactionsAsDropped_nil hlock
    by_cases hnumber : newHeader.number ≤ prev.number
    · have hlt : ¬ prev.number < newHeader.number := BitVec.not_lt.mpr hnumber
      simp only [checkReorg, hhead, reorgAfter, BlockHeader.follows, hnumber, if_true, hlt, decide_false,
        Bool.false_and, Bool.false_eq_true, if_false, detectReorg, pushReorg, Option.toList_some]
    · have hlt : prev.number < newHeader.number := BitVec.not_le.mp hnumber
      by_cases hparent : newHeader.parentHash = prev.hash
      · simp only [checkReorg, hhead, reorgAfter, BlockHeader.follows, hnumber, if_false, hlt,
          decide_true, Bool.true_and, hparent, ne_eq, not_true_eq_false, beq_self_eq_true, if_true,
          Option.toList_none, List.append_nil]
        rw [← hhead]
      · simp only [checkReorg, hhead, reorgAfter, BlockHeader.follows, hnumber, if_false, hlt,
          decide_true, Bool.true_and, hparent, ne_eq, not_false_eq_true, if_true, beq_iff_eq, handleReorg,
          getAffectedTransactions, hdrop, pushReorg, Option.toList_some]
  simp only [updateBlockHeader, hcheck, popFront_eq_rtake]

/-! ### Any number of headers -/

theorem updateBlockHeaders_run {prev : BlockHeader} (headers : List (DateTime × BlockHeader))
    (hlock : s.pendingTransactions.poisoned = false) (hhead : s.currentHead = some prev)
    (hlen : s.blockHeaders.length ≤ s.config.maxBlockHistory) :
    s.updateBlockHeaders headers = ((reorgsAfter prev headers).map .ok,
      { s with
        currentHead := some ((prev :: headers.map Prod.snd).getLast (List.cons_ne_nil _ _))
        blockHeaders := (s.blockHeaders ++ headers.map Prod.snd).rtake s.config.maxBlockHistory
        reorgEvents := s.reorgEvents ++ (reorgsAfter prev headers).reduceOption }) := by
  induction headers generalizing s prev with
  | nil =>
    have hkeep : s.blockHeaders.rtake s.config.maxBlockHistory = s.blockHeaders := by
      rw [List.rtake, Nat.sub_eq_zero_of_le hlen, List.drop_zero]
    obtain ⟨config, blockHeaders, head, pending, nonces, reorgs⟩ := s
    subst hhead
    simp [updateBlockHeaders, reorgsAfter, hkeep, List.reduceOption]
  | cons update headers ih =>
    obtain ⟨now, newHeader⟩ := update
    have hlen' : ((s.blockHeaders ++ [newHeader]).rtake s.config.maxBlockHistory).length ≤
        s.config.maxBlockHistory := by
      rw [List.rtake, List.length_drop]
      omega
    have hone := updateBlockHeader_run now newHeader hlock hhead
    have hrest := ih (s := (s.updateBlockHeader now newHeader).2) (by rw [hone]; exact hlock) (by rw [hone])
      (by rw [hone]; exact hlen')
    simp only [updateBlockHeaders, hrest]
    rw [hone]
    simp only [reorgsAfter, List.map_cons, rtake_rtake_append, List.append_assoc, List.singleton_append,
      List.getLast_cons_cons]
    cases reorgAfter prev now newHeader <;> simp [List.reduceOption]

/-- The reorganisations after `prev` are the pairs of headers of which the second does not
follow the first. -/
theorem chains_reorgsAfter (prev : BlockHeader) (headers : List (DateTime × BlockHeader)) :
    (reorgsAfter prev headers).reduceOption.map (fun event => (event.oldChain, event.newChain)) =
      ((((prev :: headers.map Prod.snd).zip (headers.map Prod.snd)).filter
        fun pair => !pair.2.follows pair.1).map fun pair => ([pair.1], [pair.2])) := by
  induction headers generalizing prev with
  | nil => rfl
  | cons update headers ih =>
    obtain ⟨now, newHeader⟩ := update
    rw [reorgsAfter, reorgAfter, List.map_cons, List.zip_cons_cons]
    cases hf : newHeader.follows prev with
    | true =>
      rw [if_pos rfl, List.reduceOption_cons_of_none, List.filter_cons_of_neg (by simp [hf])]
      exact ih newHeader
    | false =>
      rw [if_neg Bool.false_ne_true, List.reduceOption_cons_of_some,
        List.filter_cons_of_pos (by simp [hf]), List.map_cons, List.map_cons, ← ih newHeader]
      rfl

/-- **The block history**: after the first header and any others, `update_block_header` has
returned every time, the history is the last of the headers, as many as it may hold, the
last of them is the head, and the reorganisations, which are those that were returned, are
one for each header that does not follow the one before it. -/
theorem block_history {config : StateManagerConfig} (hmax : 1 ≤ config.maxBlockHistory)
    (first : BlockHeader)
    (headers : List (DateTime × BlockHeader)) :
    ∃ (events : List (Option ReorgEvent)) (s : StateManager),
      ((new config).initializeState first).updateBlockHeaders headers = (events.map .ok, s) ∧
      s.blockHeaders <:+ first :: headers.map Prod.snd ∧
      s.blockHeaders.length = min (headers.length + 1) config.maxBlockHistory ∧
      s.blockHeaders.getLast? = s.currentHead ∧
      s.currentHead = (first :: headers.map Prod.snd).getLast? ∧
      s.reorgEvents = events.reduceOption ∧
      s.reorgEvents.map (fun event => (event.oldChain, event.newChain)) =
        ((((first :: headers.map Prod.snd).zip (headers.map Prod.snd)).filter
          fun pair => !pair.2.follows pair.1).map fun pair => ([pair.1], [pair.2])) := by
  have hrun := updateBlockHeaders_run (s := (new config).initializeState first) headers rfl rfl hmax
  refine ⟨reorgsAfter first headers, _, hrun, ?_, ?_, ?_, ?_, rfl, chains_reorgsAfter first headers⟩
  · exact List.drop_suffix _ _
  · show (List.rtake (first :: headers.map Prod.snd) config.maxBlockHistory).length = _
    rw [List.rtake, List.length_drop, List.length_cons, List.length_map]
    omega
  · show (List.rtake (first :: headers.map Prod.snd) config.maxBlockHistory).getLast? = _
    rw [List.rtake, List.getLast?_drop, List.length_cons, List.length_map, if_neg (by omega),
      List.getLast?_eq_some_getLast (List.cons_ne_nil _ _)]
  · exact (List.getLast?_eq_some_getLast (List.cons_ne_nil _ _)).symm

/-- A manager that keeps two headers gets a block, the next, and another in its place. -/
theorem block_history_of_three :
    ∃ s, (((new ⟨10, 2, 300⟩).initializeState ⟨1, "0x1", "0x0"⟩).updateBlockHeaders
        [(0, ⟨2, "0x2", "0x1"⟩), (1, ⟨2, "0x2b", "0x1"⟩)]).2 = s ∧
      s.blockHeaders.length = 2 ∧
      s.reorgEvents.map (fun event => (event.oldChain, event.newChain)) =
        [([⟨2, "0x2", "0x1"⟩], [⟨2, "0x2b", "0x1"⟩])] := by
  have hmax : 1 ≤ (⟨10, 2, 300⟩ : StateManagerConfig).maxBlockHistory := by decide
  obtain ⟨events, s, hrun, -, hlen, -, -, -, hchains⟩ :=
    block_history hmax ⟨1, "0x1", "0x0"⟩
      [(0, ⟨2, "0x2", "0x1"⟩), (1, ⟨2, "0x2b", "0x1"⟩)]
  exact ⟨s, congrArg Prod.snd hrun, hlen, hchains.trans (by decide)⟩

/-! ### The head once more -/

/-- What the head does when it is delivered once more, even where a panic has left the lock of the
pending transactions poisoned. -/
theorem updateBlockHeader_head {head : BlockHeader} (now : DateTime) (hhead : s.currentHead = some head) :
    s.updateBlockHeader now head = (.ok (some (reorgEvent now head head)),
      { s with
        blockHeaders := (s.blockHeaders ++ [head]).rtake s.config.maxBlockHistory
        reorgEvents := s.reorgEvents ++ [reorgEvent now head head] }) := by
  have hcheck : s.checkReorg now head =
      (.ok (some (reorgEvent now head head)), s.pushReorg (reorgEvent now head head)) := by
    simp only [checkReorg, hhead, BitVec.le_refl, if_true, detectReorg]
  simp only [updateBlockHeader, hcheck, popFront_eq_rtake, pushReorg, ← hhead]

theorem updateBlockHeaders_head {head : BlockHeader} (times : List DateTime)
    (hhead : s.currentHead = some head)
    (hlen : s.blockHeaders.length ≤ s.config.maxBlockHistory) :
    s.updateBlockHeaders (times.map fun now => (now, head)) =
      (times.map fun now => .ok (some (reorgEvent now head head)),
        { s with
          blockHeaders := (s.blockHeaders ++ List.replicate times.length head).rtake s.config.maxBlockHistory
          reorgEvents := s.reorgEvents ++ times.map fun now => reorgEvent now head head }) := by
  induction times generalizing s with
  | nil =>
    have hkeep : s.blockHeaders.rtake s.config.maxBlockHistory = s.blockHeaders := by
      rw [List.rtake, Nat.sub_eq_zero_of_le hlen, List.drop_zero]
    simp [updateBlockHeaders, hkeep]
  | cons now times ih =>
    have hone := updateBlockHeader_head now hhead
    have hlen' : ((s.blockHeaders ++ [head]).rtake s.config.maxBlockHistory).length ≤ s.config.maxBlockHistory := by
      rw [List.rtake, List.length_drop]
      omega
    have hrest := ih (s := (s.updateBlockHeader now head).2) (by rw [hone]; exact hhead) (by rw [hone]; exact hlen')
    simp only [List.map_cons, updateBlockHeaders, hrest]
    rw [hone]
    simp only [rtake_rtake_append, List.append_assoc, List.singleton_append, List.length_cons,
      List.replicate_succ]

/-- **A flood of redeliveries** flushes the history: as many as it may hold, and nothing else is left. -/
theorem redeliveries_flush {head : BlockHeader} (times : List DateTime) (hhead : s.currentHead = some head)
    (hlen : s.blockHeaders.length ≤ s.config.maxBlockHistory) (hmany : s.config.maxBlockHistory ≤ times.length) :
    (s.updateBlockHeaders (times.map fun now => (now, head))).2.blockHeaders =
      List.replicate s.config.maxBlockHistory head := by
  rw [updateBlockHeaders_head times hhead hlen]
  show List.rtake (s.blockHeaders ++ List.replicate times.length head) s.config.maxBlockHistory = _
  have hpast : s.blockHeaders.length ≤
      (s.blockHeaders ++ List.replicate times.length head).length - s.config.maxBlockHistory := by
    rw [List.length_append, List.length_replicate]
    omega
  rw [List.rtake, List.drop_append, List.drop_eq_nil_of_le hpast, List.nil_append, List.drop_replicate,
    List.length_append, List.length_replicate]
  congr 1
  omega

/-- **A redelivery is reported**: when the head is delivered once more, in whatever state, it stays the
head, and pending transactions and nonces stay as they are; but one reorganisation is returned and
kept, with the head as both chains, and the history gets the head once more, and loses the oldest
header if it is full. -/
theorem redelivery_reported (s : StateManager) (head : BlockHeader) (now : DateTime)
    (hhead : s.currentHead = some head) :
    let (result, s') := s.updateBlockHeader now head
    result = .ok (some (reorgEvent now head head)) ∧
      s'.currentHead = some head ∧
      s'.blockHeaders = (s.blockHeaders ++ [head]).rtake s.config.maxBlockHistory ∧
      s'.reorgEvents = s.reorgEvents ++ [reorgEvent now head head] ∧
      s'.pendingTransactions = s.pendingTransactions ∧ s'.nonceTracker = s.nonceTracker ∧
        s'.config = s.config := by
  rw [updateBlockHeader_head now hhead]
  exact ⟨rfl, hhead, rfl, rfl, rfl, rfl, rfl⟩

/-- The second block. -/
def secondHeader : BlockHeader := ⟨2, "0x2", "0x1"⟩

/-- A manager that keeps two headers, after the first block and the second. -/
def twoHeaders : StateManager :=
  (((new ⟨10, 2, 300⟩).initializeState ⟨1, "0x1", "0x0"⟩).updateBlockHeader 0 secondHeader).2

/-- At the capacity of the history, the header before is lost. -/
theorem redelivery_reported_at_capacity :
    let (result, s') := twoHeaders.updateBlockHeader 1 secondHeader
    result = .ok (some (reorgEvent 1 secondHeader secondHeader)) ∧
      s'.currentHead = some secondHeader ∧
      s'.blockHeaders = (twoHeaders.blockHeaders ++ [secondHeader]).rtake twoHeaders.config.maxBlockHistory ∧
      s'.reorgEvents = twoHeaders.reorgEvents ++ [reorgEvent 1 secondHeader secondHeader] ∧
      s'.pendingTransactions = twoHeaders.pendingTransactions ∧ s'.nonceTracker = twoHeaders.nonceTracker ∧
      s'.config = twoHeaders.config :=
  redelivery_reported twoHeaders secondHeader 1 rfl

/-- **The head comes once more** and is neither ignored nor left out of the history: it is returned as
a reorganisation, and the two headers kept are the same one. -/
theorem redelivery_not_ignored :
    twoHeaders.currentHead = some secondHeader ∧
      twoHeaders.blockHeaders = [⟨1, "0x1", "0x0"⟩, secondHeader] ∧ twoHeaders.reorgEvents = [] ∧
      (twoHeaders.updateBlockHeader 1 secondHeader).1 ≠ .ok none ∧
      (twoHeaders.updateBlockHeader 1 secondHeader).2.blockHeaders = [secondHeader, secondHeader] ∧
      (twoHeaders.updateBlockHeader 1 secondHeader).2.reorgEvents.length = 1 := by
  decide

end StateManager

end Botmev.Core
