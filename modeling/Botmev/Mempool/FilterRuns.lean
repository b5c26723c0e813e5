import Botmev.Mempool.FilterEngine

/-!
# Filtering, call after call

A `DataSize` condition measures the calldata as half the bytes of the input, less one for
the `0x`. That is the number of bytes of well-formed calldata, but of an input of less than
two bytes, an empty one for instance, it takes one from zero: the call panics with the
transaction already counted as processed, and under none of the other counters.

## What is proved

* `filtered_faithfully_iff`: after any calls, `filter_transaction` returns, with every size
  measured as it is, just when it does not come to a `DataSize` condition with such an
  input and the count of transactions has room.
* `accounting`: in a run whose calls all meet that condition, the transactions processed are
  those accepted, rejected and rate limited, and each call moves one of the three counters
  by one.
-/

namespace Botmev.Mempool

open Botmev.Rust Botmev.Core

/-- How many bytes of calldata an input holds: none, if it is empty, or half the hexadecimal
digits after `0x`. -/
def calldataSize (input : String) : Option ℕ :=
  match input.toList with
  | [] => some 0
  | '0' :: 'x' :: digits => (hexBytes digits).map List.length
  | _ => none

/-- Unless it is empty, calldata is two digits for each byte, and two characters before. -/
theorem utf8ByteSize_of_calldataSize {input : String} {size : ℕ} (h : calldataSize input = some size)
    (hlen : 2 ≤ input.utf8ByteSize) : input.utf8ByteSize = 2 * size + 2 := by
  unfold calldataSize at h
  split at h
  · rename_i hnil
    rw [utf8ByteSize_eq, hnil] at hlen
    exact absurd hlen (by decide)
  · rename_i digits hcons
    obtain ⟨bytes, hbytes, rfl⟩ := Option.map_eq_some_iff.mp h
    obtain ⟨hdigits, hone⟩ := hexBytes_eq_some hbytes
    have hstart : '0'.utf8Size + 'x'.utf8Size = 2 := rfl
    rw [utf8ByteSize_eq, hcons, byteLength_cons, byteLength_cons, byteLength_of_one hone, hdigits]
    omega
  · cases h

/-- **Well-formed calldata is measured right**, if it is not empty. -/
theorem evaluateCondition_dataSize {toLowercase : String → String} {hour size : ℕ}
    {minBytes maxBytes : Option ℕ} {transaction : ParsedTransaction}
    (h : calldataSize transaction.transaction.input = some size)
    (hlen : 2 ≤ transaction.transaction.input.utf8ByteSize) :
    evaluateCondition toLowercase hour (.dataSize minBytes maxBytes) transaction =
      .ok (inRange minBytes maxBytes size) := by
  have hbytes := utf8ByteSize_of_calldataSize h hlen
  have hhalf : transaction.transaction.input.utf8ByteSize / 2 = size + 1 := by omega
  simp only [evaluateCondition, hhalf, Nat.add_sub_cancel]
  rfl

namespace FilterEngine

/-- A call of the engine. -/
inductive Call where
  /-- `load_rules`. -/
  | loadRules (clock : ℕ → Reading) (rules : List FilterRule)
  /-- `set_rule_enabled`. -/
  | setRuleEnabled (ruleName : String) (enabled : Bool)
  /-- `filter_transaction`. -/
  | filterTransaction (clock : ℕ → Reading) (transaction : ParsedTransaction)
  /-- `reset_stats`. -/
  | resetStats

variable (toLowercase : String → String)

/-- What a call leaves of the engine, whether it returns or panics. -/
def perform (call : Call) (engine : FilterEngine) : FilterEngine :=
  match call with
  | .loadRules clock rules => engine.loadRules clock rules
  | .setRuleEnabled ruleName enabled => (engine.setRuleEnabled ruleName enabled).2
  | .filterTransaction clock transaction =>
    (engine.filterTransaction toLowercase clock transaction).2
  | .resetStats => engine.resetStats

/-- One call after the other. -/
def run (calls : List Call) (engine : FilterEngine) : FilterEngine :=
  calls.foldl (fun engine call => engine.perform toLowercase call) engine

/-- The call can be made: fewer than `2^64 - 1` transactions have been processed, and the
conditions it comes to can be evaluated. -/
def Fits (clock : ℕ → Reading) (transaction : ParsedTransaction) (engine : FilterEngine) : Prop :=
  engine.stats.totalProcessed.toNat + 1 < 2 ^ 64 ∧
    Measurable transaction (engine.evaluatedConditions toLowercase clock transaction)

instance (clock : ℕ → Reading) (transaction : ParsedTransaction) (engine : FilterEngine) :
    Decidable (Fits toLowercase clock transaction engine) := inferInstanceAs (Decidable (_ ∧ _))

variable {toLowercase} {clock : ℕ → Reading} {transaction : ParsedTransaction} {engine : FilterEngine}

@[simp] theorem run_nil (engine : FilterEngine) : run toLowercase [] engine = engine := rfl

@[simp] theorem run_cons (call : Call) (calls : List Call) (engine : FilterEngine) :
    run toLowercase (call :: calls) engine = run toLowercase calls (engine.perform toLowercase call) := rfl

variable (toLowercase clock transaction) in
/-- What the call does when the count of transactions has room. -/
theorem filterTransaction_spec (hroom : engine.stats.counted ≤ engine.stats.totalProcessed.toNat)
    (hlt : engine.stats.totalProcessed.toNat + 1 < 2 ^ 64) :
    let stats := { engine.stats with totalProcessed := engine.stats.totalProcessed + 1 }
    match engine.filterTransaction toLowercase clock transaction with
    | (.error _, engine') =>
      ¬ Measurable transaction (engine.evaluatedConditions toLowercase clock transaction) ∧
        engine'.stats = stats
    | (.ok _, engine') =>
      Measurable transaction (engine.evaluatedConditions toLowercase clock transaction) ∧
        ∃ fate, FilterStats.Counted fate stats engine'.stats := by
  have hcount := FilterStats.countProcessed_eq hlt
  have hcounted : engine.stats.counted + 1 < 2 ^ 64 := by omega
  have hspec := applyRules_spec toLowercase clock 0 engine.rules (.new transaction)
    { engine with stats := { engine.stats with totalProcessed := engine.stats.totalProcessed + 1 } } hcounted
  simp only [filterTransaction, evaluatedConditions, hcount]
  revert hspec
  rcases applyRules toLowercase clock 0 engine.rules (.new transaction) _ with ⟨e | _ | tx, engine'⟩
  · exact id
  · exact id
  · intro hspec
    obtain ⟨hm, hstats⟩ := hspec
    obtain ⟨engine'', hfinish, hc⟩ := finish_ok engine' .accepted (some tx)
      (by rw [hstats]; exact hcounted)
    simp only [hfinish]
    rw [hstats] at hc
    exact ⟨hm, .accepted, hc⟩

variable (toLowercase clock transaction) in
/-- When it has none, the call panics and leaves the engine alone. -/
theorem filterTransaction_of_full (h : ¬ engine.stats.totalProcessed.toNat + 1 < 2 ^ 64) :
    ∃ e, engine.filterTransaction toLowercase clock transaction = (.error e, engine) := by
  obtain ⟨e, hcount⟩ := FilterStats.countProcessed_error h
  exact ⟨e, by simp only [filterTransaction, hcount]⟩

/-- What a call, with room, leaves of the counters: one transaction more is processed, and
it has one fate. -/
def MovesOne (stats stats' : FilterStats) : Prop :=
  stats'.totalProcessed.toNat = stats.totalProcessed.toNat + 1 ∧
    ∃ fate, ∀ f, (stats'.counter f).toNat = (stats.counter f).toNat + if f = fate then 1 else 0

/-- **A call can be made just when it returns.** -/
theorem returns_iff (hroom : engine.stats.counted ≤ engine.stats.totalProcessed.toNat) :
    (∃ outcome, (engine.filterTransaction toLowercase clock transaction).1 = .ok outcome) ↔
      Fits toLowercase clock transaction engine := by
  by_cases hlt : engine.stats.totalProcessed.toNat + 1 < 2 ^ 64
  · have hspec := filterTransaction_spec toLowercase clock transaction hroom hlt
    rcases hcall : engine.filterTransaction toLowercase clock transaction with ⟨e | outcome, engine'⟩
    · rw [hcall] at hspec
      refine iff_of_false ?_ fun hfits => hspec.1 hfits.2
      rintro ⟨outcome, ho⟩
      cases ho
    · rw [hcall] at hspec
      exact iff_of_true ⟨outcome, rfl⟩ ⟨hlt, hspec.1⟩
  · obtain ⟨e, hcall⟩ := filterTransaction_of_full toLowercase clock transaction hlt
    refine iff_of_false ?_ fun hfits => hlt hfits.1
    rintro ⟨outcome, ho⟩
    rw [hcall] at ho
    cases ho

/-- A call that can be made moves one of the three counters by one. -/
theorem movesOne_of_fits (hroom : engine.stats.counted ≤ engine.stats.totalProcessed.toNat)
    (h : Fits toLowercase clock transaction engine) :
    MovesOne engine.stats (engine.filterTransaction toLowercase clock transaction).2.stats := by
  have hspec := filterTransaction_spec toLowercase clock transaction hroom h.1
  have hone : (1 : U64).toNat = 1 := rfl
  rcases hcall : engine.filterTransaction toLowercase clock transaction with ⟨e | outcome, engine'⟩
  · rw [hcall] at hspec
    exact absurd h.2 hspec.1
  · rw [hcall] at hspec
    obtain ⟨-, fate, hc⟩ := hspec
    refine ⟨?_, fate, hc.counters⟩
    rw [hc.processed, BitVec.toNat_add_of_lt h.1, hone]

theorem counted_le_perform (call : Call) (hroom : engine.stats.counted ≤ engine.stats.totalProcessed.toNat) :
    (engine.perform toLowercase call).stats.counted ≤
      (engine.perform toLowercase call).stats.totalProcessed.toNat := by
  cases call with
  | loadRules clock rules => exact hroom
  | setRuleEnabled ruleName enabled =>
    simp only [perform, setRuleEnabled]
    split <;> exact hroom
  | filterTransaction clock transaction =>
    simp only [perform]
    by_cases hlt : engine.stats.totalProcessed.toNat + 1 < 2 ^ 64
    · have hspec := filterTransaction_spec toLowercase clock transaction hroom hlt
      have htotal : (engine.stats.totalProcessed + 1).toNat = engine.stats.totalProcessed.toNat + 1 :=
        BitVec.toNat_add_of_lt hlt
      rcases hcall : engine.filterTransaction toLowercase clock transaction with ⟨e | outcome, engine'⟩
      · rw [hcall] at hspec
        simp only [hspec.2, htotal]
        exact Nat.le_succ_of_le hroom
      · rw [hcall] at hspec
        obtain ⟨-, fate, hc⟩ := hspec
        simp only [hc.counted_eq, hc.processed, htotal]
        exact Nat.succ_le_succ hroom
    · obtain ⟨e, hcall⟩ := filterTransaction_of_full toLowercase clock transaction hlt
      rw [hcall]
      exact hroom
  | resetStats => exact Nat.le_refl 0

variable (toLowercase) in
theorem counted_le_run (calls : List Call) (hroom : engine.stats.counted ≤ engine.stats.totalProcessed.toNat) :
    (run toLowercase calls engine).stats.counted ≤ (run toLowercase calls engine).stats.totalProcessed.toNat := by
  induction calls generalizing engine with
  | nil => exact hroom
  | cons call calls ih => exact ih (counted_le_perform call hroom)

/-! ### Totality -/

/-- The call returns, and what it measures of well-formed calldata is its size. -/
structure FilteredFaithfully (toLowercase : String → String) (clock : ℕ → Reading)
    (transaction : ParsedTransaction) (engine : FilterEngine) : Prop where
  /-- It does not panic. -/
  returns : ∃ outcome, (engine.filterTransaction toLowercase clock transaction).1 = .ok outcome
  /-- Each `DataSize` condition it comes to compares its bounds with the size of the calldata. -/
  sizes : ∀ minBytes maxBytes size hour,
    .dataSize minBytes maxBytes ∈ engine.evaluatedConditions toLowercase clock transaction →
      calldataSize transaction.transaction.input = some size →
        evaluateCondition toLowercase hour (.dataSize minBytes maxBytes) transaction =
          .ok (inRange minBytes maxBytes size)

/-- **Filtering is total and faithful**, after any calls, just when the transaction can be
counted and no input of less than two bytes is measured. -/
theorem filtered_faithfully_iff (toLowercase : String → String) (calls : List Call) (clock : ℕ → Reading)
    (transaction : ParsedTransaction) :
    FilteredFaithfully toLowercase clock transaction (run toLowercase calls new) ↔
      Fits toLowercase clock transaction (run toLowercase calls new) := by
  have hroom := counted_le_run toLowercase calls (Nat.le_refl new.stats.counted)
  constructor
  · intro h
    exact (returns_iff hroom).mp h.returns
  · intro h
    refine ⟨(returns_iff hroom).mpr h, fun minBytes maxBytes size hour hmem hsize => ?_⟩
    have hlen := h.2 (List.any_eq_true.mpr ⟨_, hmem, rfl⟩)
    exact evaluateCondition_dataSize hsize hlen

/-- Clocks that stand still. -/
def stoppedClock : ℕ → Reading := fun _ => ⟨12, 0⟩

/-- A rule on the size of the calldata. -/
def largeCalldata : FilterRule where
  name := "large_calldata"
  enabled := true
  priority := 10
  conditions := [.dataSize (some 1000) none]
  action := .tag ["large"]

/-- A plain transfer of value, its calldata empty. -/
def emptyCalldata : ParsedTransaction where
  transaction :=
    { hash := "0x01", fromAddress := "0x02", toAddress := some "0x03", value := "1", gasPrice := "1"
      gasLimit := "21000", nonce := 0, input := "" }
  decodedInput := none
  targetType := .unknown

/-- **A size below zero**: with a rule on the size of the calldata, an empty input makes
`filter_transaction` panic. -/
theorem empty_calldata_panics :
    (run id [.loadRules stoppedClock [largeCalldata]] new).filterTransaction id stoppedClock emptyCalldata =
        (.error (.panic "attempt to subtract with overflow"),
          { run id [.loadRules stoppedClock [largeCalldata]] new with stats := ⟨1, 0, 0, 0⟩ }) ∧
      ¬ FilteredFaithfully id stoppedClock emptyCalldata
        (run id [.loadRules stoppedClock [largeCalldata]] new) := by
  have hpanic : (run id [.loadRules stoppedClock [largeCalldata]] new).filterTransaction id stoppedClock
      emptyCalldata = (.error (.panic "attempt to subtract with overflow"),
        { run id [.loadRules stoppedClock [largeCalldata]] new with stats := ⟨1, 0, 0, 0⟩ }) := by
    rfl
  refine ⟨hpanic, fun h => ?_⟩
  obtain ⟨outcome, ho⟩ := h.returns
  rw [hpanic] at ho
  cases ho

/-! ### Accounting -/

/-- Every transaction processed was accepted, rejected or rate limited. -/
def Balanced (stats : FilterStats) : Prop := stats.totalProcessed.toNat = stats.counted

instance (stats : FilterStats) : Decidable (Balanced stats) := inferInstanceAs (Decidable (_ = _))

/-- What a call needs: `filter_transaction`, that it can be made. -/
def CallFits (toLowercase : String → String) (call : Call) (engine : FilterEngine) : Prop :=
  match call with
  | .filterTransaction clock transaction => Fits toLowercase clock transaction engine
  | _ => True

/-- Every call of the run can be made when it comes. -/
def AllFit (toLowercase : String → String) : List Call → FilterEngine → Prop
  | [], _ => True
  | call :: calls, engine =>
    CallFits toLowercase call engine ∧ AllFit toLowercase calls (engine.perform toLowercase call)

theorem MovesOne.counted_eq {stats stats' : FilterStats} (h : MovesOne stats stats') :
    stats'.counted = stats.counted + 1 := by
  obtain ⟨-, fate, hf⟩ := h
  have ha := hf .accepted
  have hr := hf .rejected
  have hl := hf .rateLimited
  simp only [FilterStats.counter] at ha hr hl
  simp only [FilterStats.counted, ha, hr, hl]
  cases fate <;> simp <;> omega

theorem balanced_perform {call : Call} (h : CallFits toLowercase call engine)
    (hb : Balanced engine.stats) : Balanced (engine.perform toLowercase call).stats := by
  cases call with
  | loadRules clock rules => exact hb
  | setRuleEnabled ruleName enabled =>
    simp only [perform, setRuleEnabled]
    split <;> exact hb
  | filterTransaction clock transaction =>
    have hmoves := movesOne_of_fits (Nat.le_of_eq hb.symm) h
    have hb : engine.stats.totalProcessed.toNat = engine.stats.counted := hb
    simp only [Balanced, perform, hmoves.1, hmoves.counted_eq, hb]
  | resetStats => rfl

theorem run_append (calls calls' : List Call) (engine : FilterEngine) :
    run toLowercase (calls ++ calls') engine = run toLowercase calls' (run toLowercase calls engine) :=
  List.foldl_append

theorem allFit_append {calls calls' : List Call} :
    AllFit toLowercase (calls ++ calls') engine ↔
      AllFit toLowercase calls engine ∧ AllFit toLowercase calls' (run toLowercase calls engine) := by
  induction calls generalizing engine with
  | nil => simp [AllFit]
  | cons call calls ih => simp only [List.cons_append, AllFit, ih, run_cons, and_assoc]

theorem balanced_run {calls : List Call} (h : AllFit toLowercase calls engine) (hb : Balanced engine.stats) :
    Balanced (run toLowercase calls engine).stats := by
  induction calls generalizing engine with
  | nil => exact hb
  | cons call calls ih => exact ih h.2 (balanced_perform h.1 hb)

theorem balanced_new : Balanced new.stats := rfl

/-- **The accounts**: in a run whose calls can all be made, the transactions processed are
those accepted, rejected and rate limited, and every call of `filter_transaction` moves one
of the three counters by one. -/
theorem accounting (toLowercase : String → String) {calls : List Call} (h : AllFit toLowercase calls new) :
    Balanced (run toLowercase calls new).stats ∧
      ∀ before clock transaction rest, calls = before ++ .filterTransaction clock transaction :: rest →
        MovesOne (run toLowercase before new).stats
          (run toLowercase (before ++ [.filterTransaction clock transaction]) new).stats := by
  refine ⟨balanced_run h balanced_new, ?_⟩
  rintro before clock transaction rest rfl
  obtain ⟨hbefore, hfits, -⟩ := allFit_append.mp h
  have hb := balanced_run hbefore balanced_new
  rw [run_append]
  exact movesOne_of_fits (Nat.le_of_eq hb.symm) hfits

/-- A transaction with two bytes of calldata. -/
def twoBytes : ParsedTransaction :=
  { emptyCalldata with transaction := { emptyCalldata.transaction with input := "0x1234" } }

/-- The accounts of a run: two bytes are measured, and an empty input is not, as the rule is
disabled by then. -/
theorem accounting_of_two :
    Balanced (run id [.loadRules stoppedClock [largeCalldata], .filterTransaction stoppedClock twoBytes,
      .setRuleEnabled "large_calldata" false, .filterTransaction stoppedClock emptyCalldata] new).stats :=
  have hfit : AllFit id [.loadRules stoppedClock [largeCalldata], .filterTransaction stoppedClock twoBytes,
      .setRuleEnabled "large_calldata" false, .filterTransaction stoppedClock emptyCalldata] new :=
    ⟨trivial, ⟨by decide, by decide⟩, trivial, ⟨by decide, by decide⟩, trivial⟩
  (accounting id hfit).1

/-- **Lost from the accounts**: a transaction whose empty calldata is measured is processed,
and neither accepted nor rejected nor rate limited. -/
theorem empty_calldata_unaccounted :
    ¬ Balanced (run id [.loadRules stoppedClock [largeCalldata],
      .filterTransaction stoppedClock emptyCalldata] new).stats := by
  decide

end FilterEngine

end Botmev.Mempool
