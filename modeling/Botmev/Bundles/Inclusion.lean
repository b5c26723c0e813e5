import Botmev.Bundles.ExecutionTracker

/-!
# Inclusions that are missed

The tracker looks for a bundle in the blocks from the last one it looked at up to the
latest one. A block that is not fetched is passed over; afterwards the latest block is the
last one looked at all the same, and the block is not asked for again.

## What is proved

* `checkBundle_cases`: what looking for a bundle can do.
* `cursor_checkBundle_iff`: the last block looked at stays sound just when no block but
  the latest is passed over, or the bundle is found.
* `inclusion_never_missed`: in every run in which that is so, no block is left behind
  unexamined, and a bundle in a block that can be fetched is found.
* `inclusion_missed`: a run that leaves a block behind, and the bundle with it.
-/

namespace Botmev.Bundles

open Botmev.Rust Botmev.Library

variable {config : TrackerConfig} {bundle : Bundle} {bundleId : String} {latestBlock blockNumber : U64}
  {tracked : TrackedBundle} {node : Node} {s : TrackerState}

/-! ### One block -/

/-- All transactions of the bundle are in the block. -/
def AllIn (bundle : Bundle) (block : BlockInfo) : Prop :=
  ∀ tx ∈ bundle.allTransactions, ∃ info ∈ block.transactions, info.hash = tx.hashHex

instance (bundle : Bundle) (block : BlockInfo) : Decidable (AllIn bundle block) := by
  unfold AllIn
  infer_instance

/-- The block, if it is fetched `k` requests from now. -/
def fetch (node : Node) (k : ℕ) (blockNumber : U64) : Option BlockInfo :=
  blockByNumber blockNumber (node k (.getBlockByNumber blockNumber))

theorem length_foundHashes_iff {block : BlockInfo} :
    (foundHashes bundle block).length = (bundle.allTransactions.map (·.hashHex)).length ↔
      AllIn bundle block := by
  rw [foundHashes, List.length_filter_eq_length_iff]
  simp [AllIn]

theorem checkBlock_of_not_fetched (h : fetch node 0 blockNumber = none) :
    checkBlockForBundle blockNumber bundle (node 0 (.getBlockByNumber blockNumber)) = none := by
  rw [checkBlockForBundle, show blockByNumber blockNumber (node 0 (.getBlockByNumber blockNumber)) = none from h]
  rfl

theorem checkBlock_of_fetched {block : BlockInfo} (h : fetch node 0 blockNumber = some block) :
    checkBlockForBundle blockNumber bundle (node 0 (.getBlockByNumber blockNumber)) =
      if AllIn bundle block then some (some (blockNumber, foundHashes bundle block)) else some none := by
  rw [checkBlockForBundle, show blockByNumber blockNumber (node 0 (.getBlockByNumber blockNumber)) = some block from h]
  exact if_congr length_foundHashes_iff rfl rfl

/-! ### The blocks -/

variable (bundle) in
/-- A bundle is not found just when it is in none of the blocks that are fetched. -/
theorem scanBlocks_found_none_iff (blocks : List U64) (node : Node) :
    (scanBlocks bundle blocks node).found = none ↔
      ∀ k blockNumber block, blocks[k]? = some blockNumber → fetch node k blockNumber = some block →
        ¬ AllIn bundle block := by
  induction blocks generalizing node with
  | nil => simp [scanBlocks]
  | cons first blocks ih =>
    have hrest : (∀ k blockNumber block, (first :: blocks)[k]? = some blockNumber →
        fetch node k blockNumber = some block → ¬ AllIn bundle block) ↔
        (∀ block, fetch node 0 first = some block → ¬ AllIn bundle block) ∧
          (scanBlocks bundle blocks node.next).found = none := by
      rw [ih node.next]
      constructor
      · exact fun h => ⟨fun block => h 0 first block rfl, fun k => h (k + 1)⟩
      · rintro ⟨hfirst, hrest⟩ (_ | k) blockNumber block hk
        · cases hk
          exact hfirst block
        · exact hrest k blockNumber block hk
    rw [hrest, scanBlocks]
    rcases hfetch : fetch node 0 first with _ | block
    · simp [checkBlock_of_not_fetched hfetch]
    · rw [checkBlock_of_fetched hfetch]
      by_cases hall : AllIn bundle block
      · simp [hall]
      · simp [hall]

variable (bundle blockNumber) in
/-- If it is not found, the blocks that are fetched are examined. -/
theorem mem_scanBlocks_examined_iff (blocks : List U64) (node : Node)
    (hnone : (scanBlocks bundle blocks node).found = none) :
    blockNumber ∈ (scanBlocks bundle blocks node).examined ↔
      ∃ k, blocks[k]? = some blockNumber ∧ (fetch node k blockNumber).isSome := by
  induction blocks generalizing node with
  | nil => simp [scanBlocks]
  | cons first blocks ih =>
    have hrest : (∃ k, (first :: blocks)[k]? = some blockNumber ∧ (fetch node k blockNumber).isSome) ↔
        (first = blockNumber ∧ (fetch node 0 first).isSome) ∨
          ∃ k, blocks[k]? = some blockNumber ∧ (fetch node.next k blockNumber).isSome := by
      constructor
      · rintro ⟨_ | k, hk, hfetch⟩
        · cases hk
          exact .inl ⟨rfl, hfetch⟩
        · exact .inr ⟨k, hk, hfetch⟩
      · rintro (⟨rfl, hfetch⟩ | ⟨k, hk, hfetch⟩)
        · exact ⟨0, rfl, hfetch⟩
        · exact ⟨k + 1, hk, hfetch⟩
    rw [hrest]
    rw [scanBlocks] at hnone ⊢
    rcases hfetch : fetch node 0 first with _ | block
    · rw [checkBlock_of_not_fetched hfetch] at hnone ⊢
      simpa using ih node.next hnone
    · rw [checkBlock_of_fetched hfetch] at hnone ⊢
      by_cases hall : AllIn bundle block
      · simp [hall] at hnone
      · simp only [if_neg hall] at hnone ⊢
        rw [List.mem_cons, ih node.next hnone]
        exact or_congr_left ⟨fun h => ⟨h.symm, rfl⟩, fun h => h.1.symm⟩

theorem getElem?_blockRange {start last : U64} {k : ℕ} :
    (blockRange start last)[k]? = some blockNumber ↔
      start.toNat + k = blockNumber.toNat ∧ blockNumber ≤ last := by
  have hlast := last.isLt
  have hblock := blockNumber.isLt
  rw [blockRange, List.getElem?_map, Option.map_eq_some_iff, BitVec.le_def]
  constructor
  · rintro ⟨n, hn, rfl⟩
    obtain ⟨hk, rfl⟩ := List.getElem?_eq_some_iff.mp hn
    rw [List.length_range'] at hk
    rw [List.getElem_range', BitVec.toNat_ofNat, Nat.mod_eq_of_lt (by omega)]
    omega
  · rintro ⟨hk, hle⟩
    refine ⟨blockNumber.toNat, ?_, BitVec.eq_of_toNat_eq ?_⟩
    · rw [List.getElem?_range' (by omega), ← hk, one_mul]
    · rw [BitVec.toNat_ofNat, Nat.mod_eq_of_lt hblock]

theorem mem_blockRange {start last : U64} :
    blockNumber ∈ blockRange start last ↔ start ≤ blockNumber ∧ blockNumber ≤ last := by
  rw [List.mem_iff_getElem?, BitVec.le_def]
  constructor
  · rintro ⟨k, hk⟩
    obtain ⟨hk, hle⟩ := getElem?_blockRange.mp hk
    exact ⟨by omega, hle⟩
  · rintro ⟨hstart, hle⟩
    exact ⟨blockNumber.toNat - start.toNat, getElem?_blockRange.mpr ⟨by omega, hle⟩⟩

/-! ### Looking for a bundle -/

/-- It is tracked for too long. -/
def TimedOut (config : TrackerConfig) (s : TrackerState) (tracked : TrackedBundle) : Prop :=
  config.maxTrackingDuration < s.clock 0 - tracked.trackingStart

instance (s : TrackerState) (tracked : TrackedBundle) : Decidable (TimedOut config s tracked) := by
  unfold TimedOut
  infer_instance

/-- The blocks in which a bundle is looked for. -/
def blocksToCheck (tracked : TrackedBundle) (latestBlock : U64) : List U64 :=
  blockRange (Uint.max tracked.lastCheckBlock tracked.bundle.targetBlock) latestBlock

/-- What looking for a bundle that is pending, and not for too long, does. -/
inductive Checked (bundleId : String) (tracked : TrackedBundle) (latestBlock : U64)
    (s s' : TrackerState) : Prop where
  /-- It is found. -/
  | found (number : U64) (txHashes : List String)
    (hscan : (scanBlocks tracked.bundle (blocksToCheck tracked latestBlock) s.node).found ≠ none)
    (htracked : s'.trackedBundles =
      s.trackedBundles.insert bundleId { tracked with status := .included number txHashes })
  /-- It is not found. -/
  | notFound (attempts : BitVec 32)
    (hscan : (scanBlocks tracked.bundle (blocksToCheck tracked latestBlock) s.node).found = none)
    (htracked : s'.trackedBundles =
      s.trackedBundles.insert bundleId
        { tracked with lastCheckBlock := latestBlock, inclusionAttempts := attempts })

/-- **What looking for a bundle can do.** -/
inductive CheckStep (config : TrackerConfig) (bundleId : String) (latestBlock : U64)
    (s s' : TrackerState) : Prop where
  /-- The bundle is not tracked, or not pending. -/
  | skip (hpending : ∀ tracked, s.trackedBundles.lookup bundleId = some tracked → tracked.status ≠ .pending)
    (htracked : s'.trackedBundles = s.trackedBundles) (hexamined : s'.examined = s.examined)
  /-- It is pending for too long. -/
  | expire (tracked : TrackedBundle) (hlookup : s.trackedBundles.lookup bundleId = some tracked)
    (hpending : tracked.status = .pending) (htime : TimedOut config s tracked)
    (htracked : s'.trackedBundles = s.trackedBundles.insert bundleId { tracked with status := .expired })
    (hexamined : s'.examined = s.examined)
  /-- It is looked for. -/
  | check (tracked : TrackedBundle) (hlookup : s.trackedBundles.lookup bundleId = some tracked)
    (hpending : tracked.status = .pending) (htime : ¬ TimedOut config s tracked)
    (hchecked : Checked bundleId tracked latestBlock s s')
    (hexamined : s'.examined = Function.update s.examined bundleId (s.examined bundleId ++
      (scanBlocks tracked.bundle (blocksToCheck tracked latestBlock) s.node).examined))

theorem checkBlocks_checked (bundleId : String) (tracked : TrackedBundle) (latestBlock : U64)
    (s : TrackerState) :
    Checked bundleId tracked latestBlock s (s.checkBlocks bundleId tracked latestBlock).2 ∧
      (s.checkBlocks bundleId tracked latestBlock).2.examined =
        Function.update s.examined bundleId (s.examined bundleId ++
          (scanBlocks tracked.bundle (blocksToCheck tracked latestBlock) s.node).examined) := by
  simp only [TrackerState.checkBlocks]
  rw [← blocksToCheck]
  rcases hfound : (scanBlocks tracked.bundle (blocksToCheck tracked latestBlock) s.node).found with _ | ⟨number, hashes⟩
  · dsimp only
    rcases Uint.add tracked.inclusionAttempts 1 with e | attempts
    · exact ⟨.notFound tracked.inclusionAttempts hfound rfl, rfl⟩
    · exact ⟨.notFound attempts hfound rfl, rfl⟩
  · exact ⟨.found number hashes (by rw [hfound]; exact Option.some_ne_none _) rfl, rfl⟩

theorem checkBundle_cases (config : TrackerConfig) (bundleId : String) (latestBlock : U64)
    (s : TrackerState) :
    CheckStep config bundleId latestBlock s (s.checkBundleInclusion config bundleId latestBlock).2 := by
  unfold TrackerState.checkBundleInclusion
  rcases hlookup : s.trackedBundles.lookup bundleId with _ | tracked
  · refine .skip (fun tracked h => ?_) rfl rfl
    rw [hlookup] at h
    cases h
  have hskip : tracked.status ≠ .pending → CheckStep config bundleId latestBlock s s := by
    refine fun hstatus => .skip (fun tracked' h => ?_) rfl rfl
    rw [hlookup] at h
    cases h
    exact hstatus
  dsimp only
  rcases hstatus : tracked.status with _ | _ | _ | _
  · dsimp only
    by_cases htime : config.maxTrackingDuration < s.clock 0 - tracked.trackingStart
    · rw [if_pos htime]
      exact .expire tracked hlookup hstatus htime rfl rfl
    · rw [if_neg htime]
      obtain ⟨hchecked, hexamined⟩ := checkBlocks_checked bundleId tracked latestBlock s.clockRead
      exact .check tracked hlookup hstatus htime (by cases hchecked with
        | found number txHashes hscan htracked => exact .found number txHashes hscan htracked
        | notFound attempts hscan htracked => exact .notFound attempts hscan htracked) hexamined
  · exact hskip (by simp [hstatus])
  · exact hskip (by simp [hstatus])
  · exact hskip (by simp [hstatus])

/-! ### The last block looked at -/

/-- No block from the target on is behind the last one looked at, unless it was examined. -/
def CursorSound (s : TrackerState) : Prop :=
  ∀ bundleId tracked, s.trackedBundles.lookup bundleId = some tracked →
    ∀ blockNumber, tracked.bundle.targetBlock ≤ blockNumber → blockNumber < tracked.lastCheckBlock →
      blockNumber ∈ s.examined bundleId

/-- If the bundle is to be looked for, it is in a block that is fetched, or every block that
is looked at before the latest was examined before or is fetched. -/
def Gapless (config : TrackerConfig) (bundleId : String) (latestBlock : U64) (s : TrackerState) : Prop :=
  ∀ tracked ∈ s.trackedBundles.lookup bundleId, tracked.status = .pending → ¬ TimedOut config s tracked →
    (∃ x ∈ (blocksToCheck tracked latestBlock).zipIdx, ∃ block ∈ fetch s.node x.2 x.1, AllIn tracked.bundle block) ∨
      ∀ x ∈ (blocksToCheck tracked latestBlock).zipIdx, x.1 < latestBlock →
        x.1 ∈ s.examined bundleId ∨ (fetch s.node x.2 x.1).isSome

instance (bundleId : String) (latestBlock : U64) (s : TrackerState) :
    Decidable (Gapless config bundleId latestBlock s) := by
  unfold Gapless
  refine @Option.decidableForallMem _ _ (fun tracked => ?_) _
  refine @instDecidableForall _ _ inferInstance (@instDecidableForall _ _ inferInstance ?_)
  refine @instDecidableOr _ _ inferInstance ?_
  exact @List.decidableBAll _ _ (fun x => @instDecidableForall _ _ inferInstance inferInstance) _

/-- Other entries, and the blocks examined for them, are what they were. -/
theorem CursorSound.insert_iff {s' : TrackerState} {examined : List U64} (hs : CursorSound s)
    (htracked : s'.trackedBundles = s.trackedBundles.insert bundleId tracked)
    (hexamined : s'.examined = Function.update s.examined bundleId examined) :
    CursorSound s' ↔ ∀ blockNumber, tracked.bundle.targetBlock ≤ blockNumber →
      blockNumber < tracked.lastCheckBlock → blockNumber ∈ examined := by
  constructor
  · intro hs'
    have hnew := hs' bundleId tracked (by rw [htracked, AList.lookup_insert])
    rwa [hexamined, Function.update_self] at hnew
  · intro hnew id tracked' hlookup
    rw [htracked] at hlookup
    rw [hexamined]
    by_cases hid : id = bundleId
    · subst hid
      rw [AList.lookup_insert, Option.some.injEq] at hlookup
      rw [Function.update_self, ← hlookup]
      exact hnew
    · rw [AList.lookup_insert_ne hid] at hlookup
      rw [Function.update_of_ne hid]
      exact hs id tracked' hlookup

/-- **Where the bundle is not found**, every block up to the latest is examined just when none was
passed over. -/
theorem examined_iff_gapless (hs : CursorSound s) (hlookup : s.trackedBundles.lookup bundleId = some tracked)
    (hpending : tracked.status = .pending) (htime : ¬ TimedOut config s tracked)
    (hscan : (scanBlocks tracked.bundle (blocksToCheck tracked latestBlock) s.node).found = none) :
    (∀ blockNumber, tracked.bundle.targetBlock ≤ blockNumber → blockNumber < latestBlock →
      blockNumber ∈ s.examined bundleId ++
        (scanBlocks tracked.bundle (blocksToCheck tracked latestBlock) s.node).examined) ↔
      Gapless config bundleId latestBlock s := by
  have hexamined := fun blockNumber => mem_scanBlocks_examined_iff _ blockNumber _ _ hscan
  constructor
  · intro hnew tracked' hlookup' _ _
    cases hlookup.symm.trans hlookup'
    refine .inr fun ⟨blockNumber, k⟩ hx hlatest => ?_
    have hk := List.mk_mem_zipIdx_iff_getElem?.mp hx
    obtain ⟨hstart, hle⟩ := getElem?_blockRange.mp hk
    have htarget := (Uint.max_le_iff.mp (BitVec.le_def.mpr (Nat.le.intro hstart))).2
    have hmem := hnew blockNumber htarget hlatest
    rw [List.mem_append, hexamined] at hmem
    refine hmem.imp_right ?_
    rintro ⟨k', hk', hfetch⟩
    obtain ⟨hstart', -⟩ := getElem?_blockRange.mp hk'
    have hkk : k' = k := by omega
    exact hkk ▸ hfetch
  · intro hgapless blockNumber htarget hlatest
    rw [List.mem_append, hexamined]
    by_cases hlast : blockNumber < tracked.lastCheckBlock
    · exact .inl (hs bundleId tracked hlookup blockNumber htarget hlast)
    have hmax := Uint.max_le_iff.mpr ⟨BitVec.not_lt.mp hlast, htarget⟩
    obtain ⟨k, hk⟩ := List.mem_iff_getElem?.mp (mem_blockRange.mpr ⟨hmax, BitVec.le_of_lt hlatest⟩)
    have hx := List.mk_mem_zipIdx_iff_getElem?.mpr hk
    rcases hgapless tracked hlookup hpending htime with ⟨⟨number, i⟩, hy, block, hfetch, hall⟩ | hgapless
    · have hi := List.mk_mem_zipIdx_iff_getElem?.mp hy
      exact absurd hall ((scanBlocks_found_none_iff _ _ _).mp hscan i number block hi hfetch)
    · exact (hgapless _ hx hlatest).imp_right fun hfetch => ⟨k, hk, hfetch⟩

/-- **The last block looked at stays sound** when a bundle is looked for, just when no
block is passed over but the latest, or the bundle is found. -/
theorem cursor_checkBundle_iff (hs : CursorSound s) :
    CursorSound (s.checkBundleInclusion config bundleId latestBlock).2 ↔
      Gapless config bundleId latestBlock s := by
  rcases checkBundle_cases config bundleId latestBlock s with
    ⟨hpending, htracked, hexamined⟩ | ⟨tracked, hlookup, hpending, htime, htracked, hexamined⟩ |
    ⟨tracked, hlookup, hpending, htime, hchecked, hexamined⟩
  · refine iff_of_true ?_ fun tracked hlookup hpending' => absurd hpending' (hpending tracked hlookup)
    intro id tracked hlookup
    rw [htracked] at hlookup
    rw [hexamined]
    exact hs id tracked hlookup
  · refine iff_of_true ?_ fun tracked' hlookup' _ htime' => ?_
    · have hsame : (s.checkBundleInclusion config bundleId latestBlock).2.examined =
          Function.update s.examined bundleId (s.examined bundleId) := by
        rw [hexamined, Function.update_eq_self]
      exact (hs.insert_iff htracked hsame).mpr (hs bundleId tracked hlookup)
    · cases hlookup.symm.trans hlookup'
      exact absurd htime htime'
  · cases hchecked with
    | found number txHashes hscan htracked =>
      refine iff_of_true ?_ fun tracked' hlookup' _ _ => .inl ?_
      · exact (hs.insert_iff htracked hexamined).mpr fun blockNumber htarget hlast =>
          List.mem_append_left _ (hs bundleId tracked hlookup blockNumber htarget hlast)
      · cases hlookup.symm.trans hlookup'
        rw [Ne, scanBlocks_found_none_iff] at hscan
        simp only [not_forall, not_not] at hscan
        obtain ⟨k, blockNumber, block, hk, hfetch, hall⟩ := hscan
        exact ⟨(blockNumber, k), List.mk_mem_zipIdx_iff_getElem?.mpr hk, block, hfetch, hall⟩
    | notFound attempts hscan htracked =>
      rw [hs.insert_iff htracked hexamined]
      exact examined_iff_gapless hs hlookup hpending htime hscan

theorem CursorSound.step (hs : CursorSound s) (op : TrackerOp)
    (hgapless : ∀ bundleId latestBlock, op = .checkBundle bundleId latestBlock →
      Gapless config bundleId latestBlock s) :
    CursorSound (trackerHandler config op s).2 := by
  cases op with
  | now | executionStatus | blockNumber | setLatestBlock | latestBlock | bundleIds => exact hs
  | insertTracked bundle trackingStart =>
    refine (hs.insert_iff rfl rfl).mpr fun blockNumber _ hlast => ?_
    rw [BitVec.lt_def] at hlast
    exact absurd hlast (Nat.not_lt_zero _)
  | checkBundle bundleId latestBlock => exact (cursor_checkBundle_iff hs).mpr (hgapless _ _ rfl)
  | cleanup =>
    intro id tracked hlookup
    exact hs id tracked (Table.lookup_retain.mp hlookup).1

/-- A bundle in a block that was not examined, and from now on can be fetched, is found. -/
theorem CursorSound.finds (hs : CursorSound s) (hlookup : s.trackedBundles.lookup bundleId = some tracked)
    (hpending : tracked.status = .pending) (htime : ¬ TimedOut config s tracked)
    (htarget : tracked.bundle.targetBlock ≤ blockNumber) (hnew : blockNumber ∉ s.examined bundleId)
    (hlatest : blockNumber ≤ latestBlock)
    (hnode : ∀ k, ∃ block ∈ fetch s.node k blockNumber, AllIn tracked.bundle block) :
    ∃ number txHashes,
      (s.checkBundleInclusion config bundleId latestBlock).2.executionStatus bundleId =
        .ok (.included number txHashes) := by
  rcases checkBundle_cases config bundleId latestBlock s with
    ⟨hskip, -, -⟩ | ⟨tracked', hlookup', -, hexpired, -, -⟩ | ⟨tracked', hlookup', -, -, hchecked, -⟩
  · exact absurd hpending (hskip tracked hlookup)
  · cases hlookup.symm.trans hlookup'
    exact absurd hexpired htime
  · cases hlookup.symm.trans hlookup'
    cases hchecked with
    | found number txHashes hscan htracked =>
      refine ⟨number, txHashes, ?_⟩
      rw [TrackerState.executionStatus, htracked, AList.lookup_insert]
      rfl
    | notFound attempts hscan htracked =>
      have hlast : tracked.lastCheckBlock ≤ blockNumber :=
        BitVec.not_lt.mp fun hlast => hnew (hs bundleId tracked hlookup blockNumber htarget hlast)
      obtain ⟨k, hk⟩ := List.mem_iff_getElem?.mp
        (mem_blockRange.mpr ⟨Uint.max_le_iff.mpr ⟨hlast, htarget⟩, hlatest⟩)
      obtain ⟨block, hfetch, hall⟩ := hnode k
      exact absurd hall ((scanBlocks_found_none_iff _ _ _).mp hscan k blockNumber block hk hfetch)

/-! ### The runs -/

/-- **Inclusion is never missed.** -/
structure NeverMissed (config : TrackerConfig) (s : TrackerState) : Prop where
  /-- No block from the target on is behind the last one looked at, unless it was examined. -/
  cursor : ∀ bundleId tracked, s.trackedBundles.lookup bundleId = some tracked →
    ∀ blockNumber, tracked.bundle.targetBlock ≤ blockNumber → blockNumber < tracked.lastCheckBlock →
      blockNumber ∈ s.examined bundleId
  /-- A bundle that is pending, and not for too long, is found if it is in a block that was not
  examined and can be fetched. -/
  finds : ∀ bundleId tracked blockNumber latestBlock, s.trackedBundles.lookup bundleId = some tracked →
    tracked.status = .pending → ¬ TimedOut config s tracked → tracked.bundle.targetBlock ≤ blockNumber →
      blockNumber ∉ s.examined bundleId → blockNumber ≤ latestBlock →
        (∀ k, ∃ block ∈ fetch s.node k blockNumber, AllIn tracked.bundle block) →
          ∃ number txHashes,
            (s.checkBundleInclusion config bundleId latestBlock).2.executionStatus bundleId =
              .ok (.included number txHashes)

theorem CursorSound.neverMissed (hs : CursorSound s) : NeverMissed config s where
  cursor := hs
  finds _ _ _ _ hlookup hpending htime htarget hnew hlatest hnode :=
    hs.finds hlookup hpending htime htarget hnew hlatest hnode

variable {ι : Type} [DecidableEq ι]

/-- If the step looks for a bundle, it passes over no block but the latest, or it finds the
bundle. -/
def GaplessStep (config : TrackerConfig) (p : TrackerPool ι) (i : ι) : Prop :=
  match (p.tasks i).next? with
  | some (.checkBundle bundleId latestBlock) => Gapless config bundleId latestBlock p.shared
  | _ => True

instance (p : TrackerPool ι) (i : ι) : Decidable (GaplessStep config p i) := by
  unfold GaplessStep
  split <;> infer_instance

/-- **Inclusion is never missed** in any run of calls that look for bundles, and whatever
the node answers, as long as no block but the latest is passed over where the bundle is not
found. -/
theorem inclusion_never_missed {calls : ι → TrackerCall} {node : Node} {clock : ℕ → ℕ}
    {keyOrder : ℕ → KeyOrder}
    {p : TrackerPool ι}
    (hr : Pool.Reach (trackerHandler config) (GaplessStep config)
      (.start (.new node clock keyOrder) fun i => (calls i).task) p) :
    NeverMissed config p.shared := by
  refine CursorSound.neverMissed (hr.invariant (fun p => CursorSound p.shared) ?_ ?_)
  · rintro bundleId tracked ⟨⟩
  · intro p i op k hs hG hi
    refine hs.step op fun bundleId latestBlock hop => ?_
    simp only [GaplessStep, hi, hop, Async.next?_await] at hG
    exact hG

/-! ### A block that is passed over -/

/-- A bundle of one transaction, meant for block 1000. -/
def testBundle : Bundle where
  id := "test_bundle"
  preTransactions := []
  targetTransaction :=
    { hash := 0xabc
      fromAddress := 0xa11ce
      toAddress := some 0xb0b
      value := 0
      gasLimit := 21000
      maxFeePerGas := 50000000000
      maxPriorityFeePerGas := 2000000000
      nonce := 1
      data := []
      chainId := 998
      rawTransaction := [] }
  postTransactions := []
  targetBlock := 1000
  maxGasPrice := 100000000000
  estimatedProfit := 50000000000000000
  createdAt := 0

/-- The answer with a result. -/
def response (result : Value) : Option Value := some (.object [("result", result)])

/-- A node at block 1002 with the transaction in block 1001, that does not answer the
requests in `failing`. -/
def testNode (failing : List ℕ) : Node := fun i request =>
  if i ∈ failing then none
  else
    match request with
    | .blockNumber => response (.string "0x3ea")
    | .getBlockByNumber number =>
      response (.object [("transactions", .array
        (if number = 1001 then [.object [("hash", .string testBundle.targetTransaction.hashHex)]] else []))])
    | .getTransactionReceipt _ => response .null

/-- The keys as they are. -/
def KeyOrder.id : KeyOrder where
  order keys := keys
  perm _ := .rfl

/-- A tracker, with a clock that counts seconds. -/
def testTracker (failing : List ℕ) : TrackerState :=
  .new (testNode failing) (fun i => i * 10 ^ 9) fun _ => .id

/-- The bundle is tracked, the loop runs for two ticks, and its status is asked for. -/
def testCalls : Fin 3 → TrackerCall
  | 0 => .track testBundle
  | 1 => .monitor 2
  | 2 => .status "test_bundle"

/-- The run with the calls' turns in the given order. -/
def testRun (failing : List ℕ) (turns : List (Fin 3)) : TrackerPool (Fin 3) :=
  .runSchedule (trackerHandler .default) turns (.start (testTracker failing) fun i => (testCalls i).task)

/-- A run in which the first request for the latest block fails. -/
theorem inclusion_never_missed_in_second_tick :
    NeverMissed .default (testRun [0] [0, 0, 1, 1, 1, 1, 1, 1, 1, 1, 1, 1]).shared :=
  inclusion_never_missed (Pool.reach_of_admits (by decide))

/-- **An inclusion is missed**: the request for block 1001 fails in the first tick, and after
the second the bundle is still pending, and the block behind the last one looked at. -/
theorem inclusion_missed :
    ∃ p, Pool.Reach (trackerHandler .default) Pool.AnyStep
        (.start (testTracker [2]) fun i => (testCalls i).task) p ∧
      p.shared.executionStatus "test_bundle" = .ok .pending ∧ ¬ NeverMissed .default p.shared := by
  refine ⟨testRun [2] [0, 0, 1, 1, 1, 1, 1, 1, 1, 1, 1, 1, 1], Pool.reach_runSchedule _ _, by decide, ?_⟩
  intro h
  obtain ⟨tracked, htracked, htarget, hlast⟩ :
      ∃ tracked ∈ (testRun [2] [0, 0, 1, 1, 1, 1, 1, 1, 1, 1, 1, 1, 1]).shared.trackedBundles.lookup "test_bundle",
        tracked.bundle.targetBlock ≤ 1001 ∧ 1001 < tracked.lastCheckBlock := by
    decide
  exact absurd (h.cursor "test_bundle" tracked htracked 1001 htarget hlast) (by decide)

end Botmev.Bundles
