import Botmev.Library.Table
import Botmev.Rust.Basic
import Mathlib.Data.List.Rotate

/-!
# The account pool

`AccountPool` (`mev-core/src/simulation_optimizer.rs`) hands out the accounts that bundles are simulated
with. It takes the first account of its queue, counts a use of it, and moves it to the end. When the
account has been used as often as it may be, the count starts again with this use. "Find account with
lowest usage count" it does not: the counts do not choose the account.

The pool is behind a mutex, so the calls come one after the other.

## What is proved

* `Rotated.getAccount`, `Rotated.resetUsage`: what a call does.
* `account_rotation`: the calls go round the accounts, and count them up to the limit.
* `rotation_after_reset`: a reset starts the counts again, and leaves the order as it is.
-/

namespace Botmev.Core

open Botmev.Rust Botmev.Library

/-- "Reusable account pool for simulation optimization". -/
structure AccountPool where
  /-- The queue. -/
  accounts : List Address
  /-- How often each has been used. -/
  usageCount : Table Address (BitVec 32)
  /-- How often it may be, before the count starts again. -/
  maxReuse : BitVec 32

namespace AccountPool

/-- `AccountPool::new`. -/
def new (accounts : List Address) (maxReuse : BitVec 32) : AccountPool where
  accounts
  usageCount := accounts.foldl (fun usageCount account => usageCount.insert account 0) ∅
  maxReuse

/-- `get_account`. -/
def getAccount (pool : AccountPool) : Result (Option Address × AccountPool) :=
  match pool.accounts.head? with
  | some account => do
    let usage := (pool.usageCount.lookup account).getD 0
    if usage < pool.maxReuse then
      let used ← Uint.add usage 1
      -- "Rotate to back of queue".
      pure (some account,
        { pool with accounts := pool.accounts.rotate 1, usageCount := pool.usageCount.insert account used })
    else
      -- "Reset usage and use account".
      pure (some account,
        { pool with accounts := pool.accounts.rotate 1, usageCount := pool.usageCount.insert account 1 })
  | none => pure (none, pool)

/-- `reset_usage`. -/
def resetUsage (pool : AccountPool) : AccountPool :=
  { pool with usageCount := pool.usageCount.mapValues fun _ => 0 }

/-- Calls of `get_account`, and what they return. -/
def getAccounts (pool : AccountPool) : ℕ → Result (List (Option Address) × AccountPool)
  | 0 => pure ([], pool)
  | calls + 1 => do
    let (returned, pool) ← pool.getAccounts calls
    let (account, pool) ← pool.getAccount
    pure (returned ++ [account], pool)

/-- What is counted after so many uses: from one to the limit, again and again. -/
def usageAfter (maxReuse uses : ℕ) : ℕ := if uses = 0 then 0 else (uses - 1) % maxReuse + 1

/-- The accounts, one after the other and again from the first. -/
def roundRobin (accounts : List Address) (start calls : ℕ) : List (Option Address) :=
  (List.range calls).map fun i => accounts[(start + i) % accounts.length]?

/-- The pool after some calls since it was made, of which each account has some uses since the last
reset. -/
structure Rotated (accounts : List Address) (maxReuse : BitVec 32) (calls : ℕ) (uses : Address → ℕ)
    (pool : AccountPool) : Prop where
  /-- The queue has been rotated by every call. -/
  queue : pool.accounts = accounts.rotate calls
  /-- The limit is the same. -/
  limit : pool.maxReuse = maxReuse
  /-- The count of each account. -/
  usage : ∀ account ∈ accounts, ∃ usage, pool.usageCount.lookup account = some usage ∧
    usage.toNat = usageAfter maxReuse.toNat (uses account)

variable {accounts : List Address} {maxReuse : BitVec 32} {calls : ℕ} {uses : Address → ℕ} {pool : AccountPool}

/-! ### The count -/

@[simp] theorem usageAfter_zero (limit : ℕ) : usageAfter limit 0 = 0 := if_pos rfl

@[simp] theorem usageAfter_succ (limit n : ℕ) : usageAfter limit (n + 1) = n % limit + 1 := by
  simp [usageAfter]

theorem usageAfter_step {limit : ℕ} (hlimit : 0 < limit) (n : ℕ) :
    usageAfter limit (n + 1) = if usageAfter limit n < limit then usageAfter limit n + 1 else 1 := by
  cases n with
  | zero => simp [hlimit]
  | succ n =>
    have hmod : (n % limit + 1) % limit = (n + 1) % limit := Nat.mod_add_mod n limit 1
    have hlt : n % limit < limit := Nat.mod_lt n hlimit
    simp only [usageAfter_succ]
    split
    · rw [← hmod, Nat.mod_eq_of_lt ‹_›]
    · have hfull : n % limit + 1 = limit := by omega
      rw [← hmod, hfull, Nat.mod_self]

/-! ### One call -/

theorem lookup_new (accounts : List Address) (maxReuse : BitVec 32) {account : Address}
    (h : account ∈ accounts) : (new accounts maxReuse).usageCount.lookup account = some 0 := by
  rw [new]
  induction accounts using List.reverseRecOn with
  | nil => cases h
  | append_singleton accounts last ih =>
    rw [List.foldl_append, List.foldl_cons, List.foldl_nil]
    by_cases hlast : account = last
    · rw [hlast, AList.lookup_insert]
    · rw [AList.lookup_insert_ne hlast]
      exact ih (by simpa [hlast] using h)

theorem rotated_new (accounts : List Address) (maxReuse : BitVec 32) :
    Rotated accounts maxReuse 0 (fun _ => 0) (new accounts maxReuse) where
  queue := (List.rotate_zero accounts).symm
  limit := rfl
  usage account h := ⟨0, lookup_new accounts maxReuse h, by simp⟩

theorem Rotated.head?_accounts (h : Rotated accounts maxReuse calls uses pool) :
    pool.accounts.head? = accounts[calls % accounts.length]? := by
  rcases eq_or_ne accounts [] with rfl | hne
  · simp [h.queue]
  · have hpos : 0 < accounts.length := List.length_pos_of_ne_nil hne
    rw [h.queue, ← List.rotate_mod, List.head?_rotate (Nat.mod_lt calls hpos)]

/-- **A call of `get_account`** takes the account whose turn it is, and counts its use. -/
theorem Rotated.getAccount (h : Rotated accounts maxReuse calls uses pool) (hreuse : 0 < maxReuse.toNat) :
    ∃ pool', pool.getAccount = .ok (accounts[calls % accounts.length]?, pool') ∧
      Rotated accounts maxReuse (calls + 1)
        (fun account => uses account + [accounts[calls % accounts.length]?].count (some account)) pool' := by
  rw [AccountPool.getAccount, h.head?_accounts]
  rcases hturn : accounts[calls % accounts.length]? with _ | turn
  · have hnil : accounts = [] := by
      by_contra hne
      have hlt := Nat.mod_lt calls (List.length_pos_of_ne_nil hne)
      exact absurd (List.getElem?_eq_none_iff.mp hturn) (Nat.not_le.mpr hlt)
    subst hnil
    exact ⟨pool, rfl, by simp [h.queue], h.limit, by simp⟩
  · obtain ⟨usage, hlookup, husage⟩ := h.usage turn (List.mem_of_getElem? hturn)
    -- The queue and the other accounts do not depend on whether the count starts again.
    have hnext : ∀ used : BitVec 32, used.toNat = usageAfter maxReuse.toNat (uses turn + 1) →
        Rotated accounts maxReuse (calls + 1)
          (fun account => uses account + [some turn].count (some account))
          ⟨pool.accounts.rotate 1, pool.usageCount.insert turn used, maxReuse⟩ := by
      intro used hused
      refine ⟨by rw [h.queue, List.rotate_rotate], rfl, fun account hmem => ?_⟩
      by_cases haccount : account = turn
      · subst haccount
        exact ⟨used, AList.lookup_insert _, by simpa using hused⟩
      · obtain ⟨usage', hlookup', husage'⟩ := h.usage account hmem
        refine ⟨usage', by rw [AList.lookup_insert_ne haccount, hlookup'], ?_⟩
        simpa [Ne.symm haccount] using husage'
    rw [usageAfter_step hreuse, ← husage] at hnext
    simp only [hlookup, Option.getD_some, h.limit, BitVec.lt_def]
    split
    · rename_i hlt
      obtain ⟨used, hused⟩ := Uint.exists_add_eq_ok_iff.mpr
        (show usage.toNat + (1 : BitVec 32).toNat < 2 ^ 32 from Nat.lt_of_le_of_lt hlt maxReuse.isLt)
      rw [if_pos hlt] at hnext
      exact ⟨_, by rw [hused]; rfl, hnext used (Uint.add_eq_ok_iff.mp hused)⟩
    · rename_i hfull
      rw [if_neg hfull] at hnext
      exact ⟨_, rfl, hnext 1 rfl⟩

/-- **A reset** starts the counts again. -/
theorem Rotated.resetUsage (h : Rotated accounts maxReuse calls uses pool) :
    Rotated accounts maxReuse calls (fun _ => 0) pool.resetUsage where
  queue := h.queue
  limit := h.limit
  usage account hmem := by
    obtain ⟨usage, hlookup, -⟩ := h.usage account hmem
    exact ⟨0, by rw [AccountPool.resetUsage, Table.lookup_mapValues, hlookup]; rfl, by simp⟩

/-! ### Runs -/

theorem roundRobin_succ (accounts : List Address) (start calls : ℕ) :
    roundRobin accounts start (calls + 1) =
      roundRobin accounts start calls ++ [accounts[(start + calls) % accounts.length]?] := by
  simp [roundRobin, List.range_succ]

theorem Rotated.getAccounts (h : Rotated accounts maxReuse calls uses pool) (hreuse : 0 < maxReuse.toNat)
    (more : ℕ) :
    ∃ pool', pool.getAccounts more = .ok (roundRobin accounts calls more, pool') ∧
      Rotated accounts maxReuse (calls + more)
        (fun account => uses account + (roundRobin accounts calls more).count (some account)) pool' := by
  induction more with
  | zero => exact ⟨pool, rfl, by simpa [roundRobin] using h⟩
  | succ more ih =>
    obtain ⟨pool', hcalls, hrotated⟩ := ih
    obtain ⟨pool'', hcall, hrotated'⟩ := hrotated.getAccount hreuse
    refine ⟨pool'', ?_, ?_⟩
    · simp [AccountPool.getAccounts, hcalls, hcall, ok_bind, roundRobin_succ]
    · simpa [roundRobin_succ, Nat.add_assoc] using hrotated'

theorem Rotated.perm (h : Rotated accounts maxReuse calls uses pool) : pool.accounts.Perm accounts :=
  h.queue ▸ List.rotate_perm accounts calls

theorem Rotated.lookup (h : Rotated accounts maxReuse calls uses pool) {account : Address}
    (hmem : account ∈ accounts) :
    (pool.usageCount.lookup account).map BitVec.toNat = some (usageAfter maxReuse.toNat (uses account)) := by
  obtain ⟨usage, hlookup, husage⟩ := h.usage account hmem
  rw [hlookup, Option.map_some, husage]

/-- **The rotation**: the calls return the accounts in turn, the queue is always a permutation of them,
and an account's count follows from how often it has been returned. -/
theorem account_rotation (accounts : List Address) {maxReuse : BitVec 32} (hreuse : 1 ≤ maxReuse.toNat)
    (calls : ℕ) :
    ∃ returned pool, (new accounts maxReuse).getAccounts calls = .ok (returned, pool) ∧
      returned = (List.range calls).map (fun k => accounts[k % accounts.length]?) ∧
      pool.accounts.Perm accounts ∧
      ∀ account ∈ accounts, ∀ c, c = returned.count (some account) →
        (pool.usageCount.lookup account).map BitVec.toNat =
          some (if c = 0 then 0 else (c - 1) % maxReuse.toNat + 1) := by
  obtain ⟨pool, hcalls, hrotated⟩ := (rotated_new accounts maxReuse).getAccounts hreuse calls
  refine ⟨_, pool, hcalls, by simp [roundRobin], hrotated.perm, ?_⟩
  rintro account hmem c rfl
  have hlookup := hrotated.lookup hmem
  rwa [Nat.zero_add] at hlookup

/-- Three accounts that may be used twice, called eight times: the first two have been returned three
times, and their counts have started again. -/
theorem eight_calls : ∃ returned pool, (new [1, 2, 3] 2).getAccounts 8 = .ok (returned, pool) ∧
    returned = (List.range 8).map (fun k => [1, 2, 3][k % 3]?) ∧ pool.accounts.Perm [1, 2, 3] ∧
    ∀ account ∈ ([1, 2, 3] : List Address), ∀ c, c = returned.count (some account) →
      (pool.usageCount.lookup account).map BitVec.toNat = some (if c = 0 then 0 else (c - 1) % 2 + 1) :=
  account_rotation [1, 2, 3] (by decide) 8

/-- **After a reset** the calls go on with the next account, and count from there. -/
theorem rotation_after_reset (accounts : List Address) {maxReuse : BitVec 32} (hreuse : 0 < maxReuse.toNat)
    (calls more : ℕ) :
    ∃ before pool after pool', (new accounts maxReuse).getAccounts calls = .ok (before, pool) ∧
      pool.resetUsage.getAccounts more = .ok (after, pool') ∧
      before ++ after = roundRobin accounts 0 (calls + more) ∧
      ∀ account ∈ accounts, (pool'.usageCount.lookup account).map BitVec.toNat =
        some (usageAfter maxReuse.toNat (after.count (some account))) := by
  obtain ⟨pool, hbefore, hrotated⟩ := (rotated_new accounts maxReuse).getAccounts hreuse calls
  rw [Nat.zero_add] at hrotated
  obtain ⟨pool', hafter, hrotated'⟩ := hrotated.resetUsage.getAccounts hreuse more
  refine ⟨_, pool, _, pool', hbefore, hafter, ?_, fun account hmem => ?_⟩
  · simp [roundRobin, List.range_add]
  · simpa using hrotated'.lookup hmem

end AccountPool

end Botmev.Core
