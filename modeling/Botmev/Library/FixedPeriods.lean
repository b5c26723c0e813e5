import Mathlib.Data.List.Chain
import Mathlib.Data.List.Basic

/-!
# A limit for each period

Times, in their order, are cut into periods: one ends where a time comes at least `len` after the
start of the period, and the next starts there. If only the first `n` times of each period are let
through, there may be more than `n` of them within a length `len` of time that is not a period.

## What is proved

* `atMost_iff_spaced`: no window has more than `n` of the times just when each comes at least `len`
  before the one `n` places on.
* `atMost_flatten_iff`: over periods, only two that follow one another need to be looked at.
* `atMost_firsts_iff`: so the limit for each period is one for each window just when no burst
  straddles the end of a period.
* `atMost_firsts_twice`: there are never more than twice as many.
-/

namespace Botmev.Library

/-- How many of the times are in a window. -/
def inWindow (len x : ℕ) (times : List ℕ) : ℕ := times.countP fun t => decide (x ≤ t ∧ t < x + len)

/-- **Every window** has at most `n` of the times. -/
def AtMost (n len : ℕ) (times : List ℕ) : Prop := ∀ x, inWindow len x times ≤ n

/-- **Each of the times** is at least `len` before the one `n` places on. -/
def Spaced (n len : ℕ) : List ℕ → Prop
  | [] => True
  | t :: times => (∀ later, (t :: times)[n]? = some later → t + len ≤ later) ∧ Spaced n len times

/-- The first of the periods gets a time more. -/
def consHead (t : ℕ) : List (List ℕ) → List (List ℕ)
  | [] => [[t]]
  | period :: periods => (t :: period) :: periods

/-- **The periods**, the first of which starts at `start`. -/
def periods (len : ℕ) : ℕ → List ℕ → List (List ℕ)
  | _, [] => [[]]
  | start, t :: times =>
    if start + len ≤ t then [] :: consHead t (periods len t times) else consHead t (periods len start times)

/-- The first `n` times of each. -/
def firsts (n : ℕ) (periods : List (List ℕ)) : List (List ℕ) := periods.map (·.take n)

/-- **No burst straddles**: of two periods, a time of the first comes at least `len` before the one that
is `n` places on in both, if that is in the second. -/
def NoStraddle (n len : ℕ) (first second : List ℕ) : Prop :=
  ∀ pair ∈ first.zip (second.drop (n - first.length)), pair.1 + len ≤ pair.2

instance (n len : ℕ) (first second : List ℕ) : Decidable (NoStraddle n len first second) :=
  inferInstanceAs (Decidable (∀ pair ∈ _, _))

variable {n len start x : ℕ} {times : List ℕ}

/-! ### Windows -/

theorem inWindow_append (l l' : List ℕ) : inWindow len x (l ++ l') = inWindow len x l + inWindow len x l' :=
  List.countP_append

theorem inWindow_le_length (l : List ℕ) : inWindow len x l ≤ l.length := List.countP_le_length

theorem inWindow_eq_zero {l : List ℕ} (h : ∀ t ∈ l, x + len ≤ t) : inWindow len x l = 0 :=
  List.countP_eq_zero.mpr fun t ht hin => by
    have hle := h t ht
    have hlt := (of_decide_eq_true hin).2
    omega

/-- How many of the times are before `b`: at most `n`, unless the one `n` places on is. -/
theorem countP_lt_le_iff (hsorted : times.Pairwise (· ≤ ·)) (n b : ℕ) :
    times.countP (fun t => decide (t < b)) ≤ n ↔ ∀ later, times[n]? = some later → b ≤ later := by
  induction times generalizing n with
  | nil => simp
  | cons t times ih =>
    obtain ⟨hle, hrest⟩ := List.pairwise_cons.mp hsorted
    by_cases ht : t < b
    · rw [List.countP_cons_of_pos (p := fun t => decide (t < b)) (decide_eq_true ht)]
      cases n with
      | zero => simp [ht]
      | succ n => rw [Nat.add_le_add_iff_right, ih hrest, List.getElem?_cons_succ]
    · rw [List.countP_cons_of_neg (p := fun t => decide (t < b)) (by simpa using ht)]
      have hnone : times.countP (fun t => decide (t < b)) = 0 :=
        List.countP_eq_zero.mpr fun later hlater h => by
          have := hle later hlater
          have := of_decide_eq_true h
          omega
      rw [hnone]
      refine iff_of_true (Nat.zero_le n) fun later hlater => ?_
      rcases List.mem_cons.mp (List.mem_of_getElem? hlater) with rfl | hmem
      · omega
      · have := hle later hmem
        omega

/-- A window with a time in it has no more of what comes then than the one that starts there. -/
theorem inWindow_le_of_le {t : ℕ} (hx : x ≤ t) (times : List ℕ) :
    inWindow len x times ≤ times.countP fun later => decide (later < t + len) :=
  List.countP_mono_left fun later _ hin => by
    have hlt := (of_decide_eq_true hin).2
    exact decide_eq_true (by omega)

theorem inWindow_self {t : ℕ} (hle : ∀ later ∈ times, t ≤ later) :
    inWindow len t times = times.countP fun later => decide (later < t + len) :=
  List.countP_congr fun later hlater => by simp [hle later hlater]

/-- **No window has more than `n`** just when each time is far enough from the one `n` places on. -/
theorem atMost_iff_spaced (hsorted : times.Pairwise (· ≤ ·)) : AtMost n len times ↔ Spaced n len times := by
  induction times with
  | nil => exact iff_of_true (fun x => Nat.zero_le n) trivial
  | cons t times ih =>
    obtain ⟨hle, hrest⟩ := List.pairwise_cons.mp hsorted
    have hall : ∀ later ∈ t :: times, t ≤ later := List.forall_mem_cons.mpr ⟨le_rfl, hle⟩
    rw [Spaced, ← ih hrest, ← countP_lt_le_iff hsorted]
    constructor
    · intro h
      refine ⟨(inWindow_self hall).symm.trans_le (h t), fun x => ?_⟩
      exact le_trans ((List.sublist_cons_self t times).countP_le) (h x)
    · rintro ⟨hfirst, hlater⟩ x
      by_cases hin : x ≤ t ∧ t < x + len
      · exact (inWindow_le_of_le hin.1 _).trans hfirst
      · rw [inWindow, List.countP_cons_of_neg (by simpa using hin)]
        exact hlater x

/-! ### Two periods -/

theorem spaced_of_length_le (h : times.length ≤ n) : Spaced n len times := by
  induction times with
  | nil => trivial
  | cons t times ih =>
    refine ⟨fun later hlater => ?_, ih (Nat.le_of_succ_le h)⟩
    rw [List.getElem?_eq_none h] at hlater
    cases hlater

/-- The times of two periods are far enough apart just when no burst straddles. -/
theorem spaced_append_iff {first second : List ℕ} (hfirst : first.length ≤ n) (hsecond : second.length ≤ n) :
    Spaced n len (first ++ second) ↔ NoStraddle n len first second := by
  induction first with
  | nil => exact iff_of_true (spaced_of_length_le hsecond) fun pair hpair => by cases hpair
  | cons t first ih =>
    rw [List.length_cons] at hfirst
    rw [List.cons_append, Spaced, ih (Nat.le_of_succ_le hfirst), NoStraddle, NoStraddle]
    -- the one `n` places on from `t` is the first that the second period has left
    have hat : (t :: (first ++ second))[n]? = (second.drop (n - (first.length + 1))).head? := by
      obtain ⟨k, rfl⟩ := Nat.exists_eq_add_of_le hfirst
      rw [show first.length + 1 + k = first.length + k + 1 by omega, List.getElem?_cons_succ,
        List.getElem?_append_right (Nat.le_add_right _ _), List.head?_drop]
      congr 1
      omega
    have htail : second.drop (n - first.length) = (second.drop (n - (first.length + 1))).tail := by
      rw [List.tail_drop]
      congr 1
      omega
    rw [hat, htail, List.length_cons]
    cases second.drop (n - (first.length + 1)) <;> simp

/-! ### Periods -/

/-- Periods as they are cut: each starts at a time, all its times are within `len` of that, and the
next starts `len` later or more. -/
inductive Cut (len : ℕ) : ℕ → List (List ℕ) → Prop where
  /-- The last period. -/
  | one {start : ℕ} {period : List ℕ} (h : ∀ t ∈ period, start ≤ t ∧ t < start + len) : Cut len start [period]
  /-- A period, with others after it. -/
  | cons {start next : ℕ} {period : List ℕ} {rest : List (List ℕ)}
    (h : ∀ t ∈ period, start ≤ t ∧ t < start + len) (hnext : start + len ≤ next) (hrest : Cut len next rest) :
    Cut len start (period :: rest)

theorem Cut.consHead {blocks : List (List ℕ)} {t : ℕ} (h : Cut len start blocks) (hle : start ≤ t)
    (hlt : t < start + len) : Cut len start (consHead t blocks) := by
  cases h with
  | one h => exact .one (List.forall_mem_cons.mpr ⟨⟨hle, hlt⟩, h⟩)
  | cons h hnext hrest => exact .cons (List.forall_mem_cons.mpr ⟨⟨hle, hlt⟩, h⟩) hnext hrest

theorem cut_periods (hlen : 0 < len) (hsorted : (start :: times).Pairwise (· ≤ ·)) :
    Cut len start (periods len start times) := by
  induction times generalizing start with
  | nil => exact .one fun t ht => by cases ht
  | cons t times ih =>
    obtain ⟨hle, hrest⟩ := List.pairwise_cons.mp hsorted
    rw [periods]
    split
    · next hnext =>
      exact .cons (fun t ht => by cases ht) hnext ((ih hrest).consHead le_rfl (Nat.lt_add_of_pos_right hlen))
    · next hsame =>
      have hstart : (start :: times).Pairwise (· ≤ ·) :=
        hsorted.sublist ((List.sublist_cons_self t times).cons_cons start)
      exact (ih hstart).consHead (hle t List.mem_cons_self) (Nat.lt_of_not_le hsame)

theorem flatten_consHead (t : ℕ) (blocks : List (List ℕ)) :
    (consHead t blocks).flatten = t :: blocks.flatten := by
  cases blocks <;> rfl

theorem flatten_periods (len start : ℕ) (times : List ℕ) : (periods len start times).flatten = times := by
  induction times generalizing start with
  | nil => rfl
  | cons t times ih =>
    rw [periods]
    split
    · rw [List.flatten_cons, List.nil_append, flatten_consHead, ih]
    · rw [flatten_consHead, ih]

theorem Cut.firsts {blocks : List (List ℕ)} (n : ℕ) (h : Cut len start blocks) :
    Cut len start (firsts n blocks) := by
  induction h with
  | one h => exact .one fun t ht => h t (List.mem_of_mem_take ht)
  | cons h hnext hrest ih => exact .cons (fun t ht => h t (List.mem_of_mem_take ht)) hnext ih

theorem Cut.le_of_mem {blocks : List (List ℕ)} (h : Cut len start blocks) :
    ∀ t ∈ blocks.flatten, start ≤ t := by
  induction h with
  | one h => exact fun t ht => (h t (by simpa using ht)).1
  | cons h hnext hrest ih =>
    intro t ht
    rw [List.flatten_cons, List.mem_append] at ht
    rcases ht with ht | ht
    · exact (h t ht).1
    · have := ih t ht
      omega

/-- What comes two periods on is outside of every window with a time of the first. -/
theorem Cut.inWindow_eq_zero {first second : List ℕ} {rest : List (List ℕ)}
    (h : Cut len start (first :: second :: rest))
    (hin : 0 < inWindow len x first) : inWindow len x rest.flatten = 0 := by
  obtain ⟨t, ht, hx⟩ := List.countP_pos_iff.mp hin
  have hxt := (of_decide_eq_true hx).1
  cases h with
  | cons hfirst hnext hrest =>
    have hlt := (hfirst t ht).2
    cases hrest with
    | one => rfl
    | cons hsecond hnext' hrest =>
      refine Library.inWindow_eq_zero fun later hlater => ?_
      have := hrest.le_of_mem later hlater
      omega

/-- **Only two periods** that follow one another are in one window. -/
theorem atMost_flatten_iff {m : ℕ} {blocks : List (List ℕ)} (h : Cut len start blocks)
    (hsize : ∀ period ∈ blocks, period.length ≤ m) :
    AtMost m len blocks.flatten ↔ blocks.IsChain fun first second => AtMost m len (first ++ second) := by
  induction h with
  | @one start period h =>
    refine iff_of_true (fun x => ?_) (.singleton _)
    rw [List.flatten_singleton]
    exact (inWindow_le_length period).trans (hsize period List.mem_cons_self)
  | @cons start next first rest h hnext hrest ih =>
    obtain ⟨hfirst, hsizes⟩ := List.forall_mem_cons.mp hsize
    have ih := ih hsizes
    have hcut : Cut len start (first :: rest) := .cons h hnext hrest
    obtain ⟨second, rest, rfl⟩ : ∃ second rest', rest = second :: rest' := by
      cases hrest <;> exact ⟨_, _, rfl⟩
    rw [List.isChain_cons_cons, ← ih]
    constructor
    · refine fun hall => ⟨fun x => ?_, fun x => ?_⟩
      · have hx := hall x
        rw [List.flatten_cons, List.flatten_cons, inWindow_append, inWindow_append] at hx
        rw [inWindow_append]
        omega
      · have hx := hall x
        rw [List.flatten_cons, inWindow_append] at hx
        omega
    · rintro ⟨htwo, hlater⟩ x
      rw [List.flatten_cons, inWindow_append]
      rcases Nat.eq_zero_or_pos (inWindow len x first) with hzero | hpos
      · rw [hzero, Nat.zero_add]
        exact hlater x
      · have hx := htwo x
        rw [inWindow_append] at hx
        rw [List.flatten_cons, inWindow_append, hcut.inWindow_eq_zero hpos]
        exact hx

theorem length_firsts (n : ℕ) (blocks : List (List ℕ)) : ∀ period ∈ firsts n blocks, period.length ≤ n := by
  rintro _ hperiod
  obtain ⟨period, -, rfl⟩ := List.mem_map.mp hperiod
  exact List.length_take_le n period

theorem firsts_sublist (n : ℕ) (blocks : List (List ℕ)) :
    (firsts n blocks).flatten.Sublist blocks.flatten := by
  induction blocks with
  | nil => exact .slnil
  | cons period blocks ih => exact (List.take_sublist n period).append ih

/-- Two periods that follow one another have few enough times in every window just when no burst
straddles. -/
theorem isChain_noStraddle_iff {blocks : List (List ℕ)} (hsorted : blocks.flatten.Pairwise (· ≤ ·))
    (hsize : ∀ period ∈ blocks, period.length ≤ n) :
    (blocks.IsChain fun first second => AtMost n len (first ++ second)) ↔ blocks.IsChain (NoStraddle n len) := by
  induction blocks with
  | nil => exact iff_of_true .nil .nil
  | cons first rest ih =>
    obtain ⟨hfirst, hrest⟩ := List.forall_mem_cons.mp hsize
    have ih := ih (hsorted.sublist (List.sublist_append_right _ _)) hrest
    cases rest with
    | nil => exact iff_of_true (.singleton _) (.singleton _)
    | cons second rest =>
      have hboth : (first ++ second).Pairwise (· ≤ ·) := by
        rw [List.flatten_cons, List.flatten_cons, ← List.append_assoc] at hsorted
        exact hsorted.sublist (List.sublist_append_left _ _)
      rw [List.isChain_cons_cons, List.isChain_cons_cons, ih, atMost_iff_spaced hboth,
        spaced_append_iff hfirst (hrest second List.mem_cons_self)]

/-- **A limit for each period** is one for each window just when no burst straddles. -/
theorem atMost_firsts_iff (hlen : 0 < len) (n : ℕ) (hsorted : (start :: times).Pairwise (· ≤ ·)) :
    AtMost n len (firsts n (periods len start times)).flatten ↔
      (firsts n (periods len start times)).IsChain (NoStraddle n len) := by
  have hcut := (cut_periods hlen hsorted).firsts n
  have hsize := length_firsts n (periods len start times)
  have hflat : (firsts n (periods len start times)).flatten.Pairwise (· ≤ ·) := by
    have hsub := firsts_sublist n (periods len start times)
    rw [flatten_periods] at hsub
    exact (List.Pairwise.of_cons hsorted).sublist hsub
  rw [atMost_flatten_iff hcut hsize, isChain_noStraddle_iff hflat hsize]

/-- **Never more than twice as many** as the limit are in one window. -/
theorem atMost_firsts_twice (hlen : 0 < len) (n : ℕ) (hsorted : (start :: times).Pairwise (· ≤ ·)) :
    AtMost (2 * n) len (firsts n (periods len start times)).flatten := by
  have hsize := length_firsts n (periods len start times)
  refine (atMost_flatten_iff ((cut_periods hlen hsorted).firsts n) fun period h =>
    (hsize period h).trans (by omega)).mpr (List.Pairwise.isChain ?_)
  refine List.pairwise_of_forall_mem_list fun first hfirst second hsecond x => ?_
  have hone : inWindow len x first ≤ n := (inWindow_le_length first).trans (hsize first hfirst)
  have htwo : inWindow len x second ≤ n := (inWindow_le_length second).trans (hsize second hsecond)
  rw [inWindow_append]
  omega

end Botmev.Library
