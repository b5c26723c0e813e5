import Botmev.Mempool.FilterRuns

/-!
# The order of the rules

`load_rules` sorts the rules by their priorities. Between rules of one priority the order
of the list decides; where all priorities are distinct, it does not matter, and filtering
is a fold over the enabled rules, highest priority first.

## What is proved

* `insertionSort_eq_of_perm`: to sort a list by a key that no two elements share, it does not
  matter how it was ordered before.
* `filterTransaction_eq_fold`: `filter_transaction` is a fold over the enabled rules, left
  early where the transaction is dropped.
* `outcome_order_free`: so the order in which rules are listed makes no difference.
-/

namespace Botmev.Mempool

open Botmev.Rust Botmev.Library Botmev.Core

/-! ### Sorting by a key -/

section Key

variable {α κ : Type} [LinearOrder κ] {key : α → κ} {xs ys : List α}

theorem pairwise_insertionSort_key (key : α → κ) (xs : List α) :
    (xs.insertionSort fun a b => key b ≤ key a).Pairwise fun a b => key b ≤ key a := by
  have : Std.Total fun a b => key b ≤ key a := ⟨fun a b => le_total (key b) (key a)⟩
  have : IsTrans α fun a b => key b ≤ key a := ⟨fun a b c hab hbc => le_trans hbc hab⟩
  exact List.pairwise_insertionSort _ xs

theorem pairwise_lt_insertionSort_key (hdistinct : xs.Pairwise fun a b => key a ≠ key b) :
    (xs.insertionSort fun a b => key b ≤ key a).Pairwise fun a b => key b < key a := by
  have hne : (xs.insertionSort fun a b => key b ≤ key a).Pairwise fun a b => key a ≠ key b :=
    (List.perm_insertionSort _ xs).symm.pairwise hdistinct Ne.symm
  have hle := pairwise_insertionSort_key key xs
  exact hle.imp₂ (fun a b hba hab => lt_of_le_of_ne hba hab.symm) hne

/-- **Sorting forgets the order**, if no two elements share a key. -/
theorem insertionSort_eq_of_perm (hdistinct : xs.Pairwise fun a b => key a ≠ key b) (hperm : ys.Perm xs) :
    (ys.insertionSort fun a b => key b ≤ key a) = xs.insertionSort fun a b => key b ≤ key a := by
  have hdistinct' : ys.Pairwise fun a b => key a ≠ key b := hperm.symm.pairwise hdistinct Ne.symm
  have hlt := pairwise_lt_insertionSort_key hdistinct
  have hlt' := pairwise_lt_insertionSort_key hdistinct'
  have hsorted := (List.perm_insertionSort (fun a b => key b ≤ key a) ys).trans
    (hperm.trans (List.perm_insertionSort (fun a b => key b ≤ key a) xs).symm)
  apply hsorted.eq_of_pairwise ?_ hlt' hlt
  intro a b _ _ hba hab
  exact absurd hab (lt_asymm hba)

end Key

namespace FilterEngine

variable {toLowercase : String → String} {clock : ℕ → Reading}

/-! ### Filtering as a fold -/

/-- Where a call of `filter_transaction` stands: the next reading of the clock, the
transaction, and the engine. -/
structure Progress where
  /-- The readings that are past. -/
  t : ℕ
  /-- The transaction so far. -/
  tx : FilteredTransaction
  /-- The engine. -/
  engine : FilterEngine

/-- One enabled rule: the call goes on, or it ends here, with a panic or the transaction
dropped. -/
def applyRule (toLowercase : String → String) (clock : ℕ → Reading) (p : Progress) (rule : FilterRule) :
    Except (Result Unit × FilterEngine) Progress :=
  let t := p.t + rule.conditions.length
  match evaluateRule toLowercase clock p.t rule.conditions p.tx.transaction with
  | .error e => .error (.error e, p.engine)
  | .ok false => .ok { p with t }
  | .ok true =>
    match p.engine.applyAction (clock t).instant rule (p.tx.addMatchedRule rule.name) with
    | (.error e, engine) => .error (.error e, engine)
    | (.ok none, engine) => .error (.ok (), engine)
    | (.ok (some tx), engine) => .ok ⟨t + 1, tx, engine⟩

/-- **Filtering by rules in this order**, as a fold over those that are enabled. -/
def foldRules (toLowercase : String → String) (clock : ℕ → Reading) (rules : List FilterRule)
    (transaction : ParsedTransaction) (engine : FilterEngine) :
    Result (Option FilteredTransaction) × FilterEngine :=
  match engine.stats.countProcessed with
  | .error e => (.error e, engine)
  | .ok stats =>
    match (rules.filter (·.enabled)).foldlM (applyRule toLowercase clock)
      ⟨0, .new transaction, { engine with stats }⟩ with
    | .ok p => p.engine.finish .accepted (some p.tx)
    | .error (.ok (), engine) => (.ok none, engine)
    | .error (.error e, engine) => (.error e, engine)

theorem applyRules_eq_foldlM (rules : List FilterRule) (p : Progress) :
    applyRules toLowercase clock p.t rules p.tx p.engine =
      match (rules.filter (·.enabled)).foldlM (applyRule toLowercase clock) p with
      | .ok p => (.ok (some p.tx), p.engine)
      | .error (.ok (), engine) => (.ok none, engine)
      | .error (.error e, engine) => (.error e, engine) := by
  induction rules generalizing p with
  | nil => rfl
  | cons rule rules ih =>
    rw [applyRules]
    by_cases henabled : rule.enabled = true
    · rw [if_pos henabled, List.filter_cons_of_pos henabled, List.foldlM_cons, applyRule]
      rcases evaluateRule toLowercase clock p.t rule.conditions p.tx.transaction with e | _ | _
      · rfl
      · exact ih { p with t := p.t + rule.conditions.length }
      · simp only
        rcases p.engine.applyAction (clock (p.t + rule.conditions.length)).instant rule
          (p.tx.addMatchedRule rule.name) with ⟨e | _ | tx, engine⟩
        · rfl
        · rfl
        · exact ih ⟨p.t + rule.conditions.length + 1, tx, engine⟩
    · rw [if_neg henabled, List.filter_cons_of_neg henabled]
      exact ih p

/-- **Filtering is the fold** over the rules of the engine. -/
theorem filterTransaction_eq_fold (transaction : ParsedTransaction) (engine : FilterEngine) :
    engine.filterTransaction toLowercase clock transaction =
      foldRules toLowercase clock engine.rules transaction engine := by
  unfold filterTransaction foldRules
  rcases engine.stats.countProcessed with e | stats
  · rfl
  · simp only
    rw [applyRules_eq_foldlM engine.rules ⟨0, .new transaction, { engine with stats }⟩]
    generalize (engine.rules.filter (·.enabled)).foldlM (applyRule toLowercase clock) _ = ended
    rcases ended with ⟨e | ⟨⟩, engine'⟩ | p <;> rfl

/-! ### The order of the list -/

theorem sortRules_eq_of_perm {rules rules' : List FilterRule}
    (hdistinct : rules.Pairwise fun a b => a.priority ≠ b.priority) (hperm : rules'.Perm rules) :
    sortRules rules' = sortRules rules := insertionSort_eq_of_perm hdistinct hperm

/-- **The order in which rules are listed makes no difference**, if their priorities are
distinct: whatever the order, the engine is the same, and filtering is the fold over the
enabled rules, strictly descending in priority. -/
theorem outcome_order_free (toLowercase : String → String) {rules : List FilterRule}
    (hdistinct : rules.Pairwise fun a b => a.priority ≠ b.priority) :
    ∃ descending : List FilterRule,
      descending.Perm rules ∧ descending.Pairwise (fun a b => b.priority < a.priority) ∧
      ∀ rules' : List FilterRule, rules'.Perm rules → ∀ engine loading,
        loadRules loading rules' engine = loadRules loading rules engine ∧
        ∀ limiters stats clock transaction,
          filterTransaction toLowercase clock transaction
              { loadRules loading rules' engine with rateLimiters := limiters, stats } =
            foldRules toLowercase clock descending transaction
              { loadRules loading rules engine with rateLimiters := limiters, stats } := by
  refine ⟨sortRules rules, List.perm_insertionSort .., pairwise_lt_insertionSort_key hdistinct, ?_⟩
  intro rules' hperm engine loading
  have hload : loadRules loading rules' engine = loadRules loading rules engine := by
    simp only [loadRules, sortRules_eq_of_perm hdistinct hperm]
  refine ⟨hload, fun limiters stats clock transaction => ?_⟩
  rw [hload, filterTransaction_eq_fold]
  rfl

/-- A rule that drops transactions of a sender. -/
def blockedSender : FilterRule where
  name := "blocked_sender"
  enabled := true
  priority := 20
  conditions := [.senderAddress ["0x02"] true]
  action := .reject

/-- Two rules, loaded in either order. -/
theorem outcome_order_free_of_two :
    (filterTransaction id stoppedClock twoBytes
        (loadRules stoppedClock [largeCalldata, blockedSender] new)).1 =
      (filterTransaction id stoppedClock twoBytes
        (loadRules stoppedClock [blockedSender, largeCalldata] new)).1 := by
  have hdistinct : [blockedSender, largeCalldata].Pairwise fun a b => a.priority ≠ b.priority := by decide
  obtain ⟨descending, -, -, h⟩ := outcome_order_free id hdistinct
  rw [(h [largeCalldata, blockedSender] (List.Perm.swap ..) new stoppedClock).1]

end FilterEngine

end Botmev.Mempool
