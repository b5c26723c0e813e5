import Botmev.Core.GrpcService

/-!
# Maps in requests

A request has maps: what is overridden at an address, and what is put into a slot. Their entries come in
the order of a hash map, which is another one each time, and different texts may be the same address or
slot.

## What is proved

* `readMap_same`: maps with the same entries are read as the same table.
* `same_bundle`: the order of the entries does not matter if no two keys are read as the same.
-/

namespace Botmev.Core

open Botmev.Rust Botmev.Library

variable {α β : Type} {P : RequestParsers}

/-- The same override, up to the order of its slots. -/
structure ProtoStateOverride.Same (o o' : ProtoStateOverride) : Prop where
  balance : o.balance = o'.balance
  nonce : o.nonce = o'.nonce
  code : o.code = o'.code
  state : SameEntries (· = ·) o.state o'.state
  stateDiff : SameEntries (· = ·) o.stateDiff o'.stateDiff

/-- The same bundle, up to the order of the entries of its maps. -/
structure ProtoBundle.Same (b b' : ProtoBundle) : Prop where
  id : b.id = b'.id
  transactions : b.transactions = b'.transactions
  blockNumber : b.blockNumber = b'.blockNumber
  timestamp : b.timestamp = b'.timestamp
  baseFee : b.baseFee = b'.baseFee
  stateOverrides : SameEntries ProtoStateOverride.Same b.stateOverrides b'.stateOverrides

/-- No slot comes under two keys. -/
structure ProtoStateOverride.Unambiguous (P : RequestParsers) (o : ProtoStateOverride) : Prop where
  state : Library.Unambiguous P.h256 o.state
  stateDiff : Library.Unambiguous P.h256 o.stateDiff

/-- No address and no slot comes under two keys. -/
structure ProtoBundle.Unambiguous (P : RequestParsers) (b : ProtoBundle) : Prop where
  stateOverrides : Library.Unambiguous P.address b.stateOverrides
  slots : ∀ e ∈ b.stateOverrides, e.2.Unambiguous P

/-- The same overrides. -/
structure StateOverride.Same (o o' : StateOverride) : Prop where
  balance : o.balance = o'.balance
  nonce : o.nonce = o'.nonce
  code : o.code = o'.code
  state : Option.Rel (SameTable (· = ·)) o.state o'.state
  stateDiff : Option.Rel (SameTable (· = ·)) o.stateDiff o'.stateDiff

/-- The same bundle. -/
structure BuiltBundle.Same (b b' : BuiltBundle) : Prop where
  id : b.id = b'.id
  transactions : b.transactions = b'.transactions
  blockNumber : b.blockNumber = b'.blockNumber
  timestamp : b.timestamp = b'.timestamp
  baseFee : b.baseFee = b'.baseFee
  stateOverrides : Option.Rel (SameTable StateOverride.Same) b.stateOverrides b'.stateOverrides

theorem readField_eq_ok_iff {what : String} {parse : String → Except String α} {s : String} {a : α} :
    readField what parse s = .ok a ↔ parse s = .ok a := by
  rw [readField]
  cases parse s <;> simp

theorem readSlot_eq_ok_iff {what : String} {e : String × String} {key value : H256} :
    readSlot P what e = .ok (key, value) ↔ P.h256 e.1 = .ok key ∧ P.h256 e.2 = .ok value := by
  simp [readSlot, bind_eq_ok_iff, readField_eq_ok_iff, pure, Except.pure]

theorem readOverride_eq_ok_iff {e : String × ProtoStateOverride} {address : Address} {overrideObj : StateOverride} :
    readOverride P e = .ok (address, overrideObj) ↔
      P.address e.1 = .ok address ∧ convertProtoToCoreStateOverride P e.2 = .ok overrideObj := by
  simp [readOverride, bind_eq_ok_iff, readField_eq_ok_iff, pure, Except.pure]

section Maps

variable [DecidableEq α] {ρ : Type} {S : ρ → ρ → Prop} {readEntry : String × ρ → Except Status (α × β)}
  {entries entries' : List (String × ρ)} {t t' : Option (Table α β)}

/-- Maps with the same entries are read as the same table. -/
theorem readMap_same {R : β → β → Prop} {readKey : String → Except String α}
    (hkey : ∀ e k v, readEntry e = .ok (k, v) → readKey e.1 = .ok k)
    (hvalue : ∀ e ∈ entries, ∀ e' k v k' v', S e.2 e'.2 → readEntry e = .ok (k, v) →
      readEntry e' = .ok (k', v') → R v v')
    (hsame : SameEntries S entries entries') (hunambiguous : Library.Unambiguous readKey entries)
    (ht : readMap readEntry entries = .ok t) (ht' : readMap readEntry entries' = .ok t') :
    Option.Rel (SameTable R) t t' := by
  have hempty : entries.isEmpty = true ↔ entries'.isEmpty = true := by
    rw [List.isEmpty_iff, List.isEmpty_iff]
    exact sameEntries_nil_iff hsame
  rw [readMap] at ht ht'
  by_cases h : entries.isEmpty = true
  · rw [if_pos h] at ht
    rw [if_pos (hempty.mp h)] at ht'
    cases ht
    cases ht'
    exact .none
  · rw [if_neg h] at ht
    rw [if_neg (h ∘ hempty.mpr)] at ht'
    rcases hread : readEntries readEntry ∅ entries with _ | table
    · rw [hread] at ht
      cases ht
    · rcases hread' : readEntries readEntry ∅ entries' with _ | table'
      · rw [hread'] at ht'
        cases ht'
      · rw [hread] at ht
        rw [hread'] at ht'
        cases ht
        cases ht'
        exact .some (sameTable_of_sameEntries hkey hvalue hsame hunambiguous hread hread')

/-- There is a table just if there are entries. -/
theorem isSome_readMap (hsame : SameEntries S entries entries') (ht : readMap readEntry entries = .ok t)
    (ht' : readMap readEntry entries' = .ok t') : t.isSome = t'.isSome := by
  have hsome {entries : List (String × ρ)} {t : Option (Table α β)} (h : readMap readEntry entries = .ok t) :
      t.isSome = !entries.isEmpty := by
    rw [readMap] at h
    split at h
    · rename_i hempty
      cases h
      simp [hempty]
    · rename_i hempty
      rcases hread : readEntries readEntry ∅ entries with _ | table
      · rw [hread] at h
        cases h
      · rw [hread] at h
        cases h
        simpa using hempty
  rw [hsome ht, hsome ht', Bool.not_inj_iff, Bool.eq_iff_iff, List.isEmpty_iff, List.isEmpty_iff]
  exact sameEntries_nil_iff hsame

end Maps

theorem readSlots_same {what : String} {slots slots' : List (String × String)} {t t' : Option (Table H256 H256)}
    (hsame : SameEntries (· = ·) slots slots') (hunambiguous : Library.Unambiguous P.h256 slots)
    (ht : readMap (readSlot P what) slots = .ok t) (ht' : readMap (readSlot P what) slots' = .ok t') :
    Option.Rel (SameTable (· = ·)) t t' := by
  refine readMap_same (fun e k v h => (readSlot_eq_ok_iff.mp h).1) ?_ hsame hunambiguous ht ht'
  intro e _ e' k v k' v' hvalues h h'
  have hread := (readSlot_eq_ok_iff.mp h).2
  rw [hvalues, (readSlot_eq_ok_iff.mp h').2] at hread
  exact (Except.ok.inj hread).symm

theorem convertProtoToCoreStateOverride_same {o o' : ProtoStateOverride} {overrideObj overrideObj' : StateOverride}
    (hsame : o.Same o') (hunambiguous : o.Unambiguous P) (h : convertProtoToCoreStateOverride P o = .ok overrideObj)
    (h' : convertProtoToCoreStateOverride P o' = .ok overrideObj') : overrideObj.Same overrideObj' := by
  simp only [convertProtoToCoreStateOverride, bind_eq_ok_iff] at h h'
  obtain ⟨balance, hbalance, nonce, hnonce, code, hcode, state, hstate, stateDiff, hstateDiff, h⟩ := h
  obtain ⟨balance', hbalance', nonce', hnonce', code', hcode', state', hstate', stateDiff', hstateDiff', h'⟩ := h'
  cases h
  cases h'
  rw [← hsame.balance, hbalance] at hbalance'
  rw [← hsame.nonce, hnonce] at hnonce'
  rw [← hsame.code, hcode] at hcode'
  exact
    { balance := Except.ok.inj hbalance'
      nonce := Except.ok.inj hnonce'
      code := Except.ok.inj hcode'
      state := readSlots_same hsame.state hunambiguous.state hstate hstate'
      stateDiff := readSlots_same hsame.stateDiff hunambiguous.stateDiff hstateDiff hstateDiff' }

theorem ProtoStateOverride.Readable.same {o o' : ProtoStateOverride} (hsame : o.Same o') :
    o.Readable P ↔ o'.Readable P := by
  have hslots {slots slots' : List (String × String)} (h : SameEntries (· = ·) slots slots') :
      ReadableSlots P slots ↔ ReadableSlots P slots' := by
    constructor
    · intro hreadable e' he'
      obtain ⟨e, he, hkeys, hvalues⟩ := h.2 e' he'
      exact hkeys ▸ hvalues ▸ hreadable e he
    · intro hreadable e he
      obtain ⟨e', he', hkeys, hvalues⟩ := h.1 e he
      exact hkeys ▸ hvalues ▸ hreadable e' he'
  constructor
  · rintro ⟨hbalance, hnonce, hcode, hstate, hstateDiff⟩
    exact ⟨hsame.balance ▸ hbalance, hsame.nonce ▸ hnonce, hsame.code ▸ hcode,
      (hslots hsame.state).mp hstate, (hslots hsame.stateDiff).mp hstateDiff⟩
  · rintro ⟨hbalance, hnonce, hcode, hstate, hstateDiff⟩
    exact ⟨hsame.balance ▸ hbalance, hsame.nonce ▸ hnonce, hsame.code ▸ hcode,
      (hslots hsame.state).mpr hstate, (hslots hsame.stateDiff).mpr hstateDiff⟩

theorem ProtoBundle.Readable.same {b b' : ProtoBundle} (hsame : b.Same b') : b.Readable P ↔ b'.Readable P := by
  constructor
  · rintro ⟨htransactions, hoverrides⟩
    refine ⟨hsame.transactions ▸ htransactions, fun e' he' => ?_⟩
    obtain ⟨e, he, hkeys, hvalues⟩ := hsame.stateOverrides.2 e' he'
    exact ⟨hkeys ▸ (hoverrides e he).1, (ProtoStateOverride.Readable.same hvalues).mp (hoverrides e he).2⟩
  · rintro ⟨htransactions, hoverrides⟩
    refine ⟨hsame.transactions ▸ htransactions, fun e he => ?_⟩
    obtain ⟨e', he', hkeys, hvalues⟩ := hsame.stateOverrides.1 e he
    exact ⟨hkeys ▸ (hoverrides e' he').1, (ProtoStateOverride.Readable.same hvalues).mpr (hoverrides e' he').2⟩

/-- **The order of the entries of a map does not matter**: in whichever order they come, the bundle is
accepted, or not; what the simulator reads is the same; and so is all of it, if no address and no slot comes
under two keys. -/
theorem same_bundle {b b' : ProtoBundle} (hsame : b.Same b') :
    ((∃ bundle, convertProtoToCoreBundle P b = .ok bundle) ↔
        ∃ bundle', convertProtoToCoreBundle P b' = .ok bundle') ∧
      ∀ bundle bundle', convertProtoToCoreBundle P b = .ok bundle →
        convertProtoToCoreBundle P b' = .ok bundle' →
          bundle.toSimulationBundle = bundle'.toSimulationBundle ∧ (b.Unambiguous P → bundle.Same bundle') := by
  refine ⟨?_, fun bundle bundle' h h' => ?_⟩
  · rw [convertProtoToCoreBundle_ok_iff, convertProtoToCoreBundle_ok_iff]
    exact ProtoBundle.Readable.same hsame
  · simp only [convertProtoToCoreBundle, bind_eq_ok_iff] at h h'
    obtain ⟨transactions, htransactions, overrides, hoverrides, h⟩ := h
    obtain ⟨transactions', htransactions', overrides', hoverrides', h'⟩ := h'
    cases h
    cases h'
    rw [← hsame.transactions, htransactions] at htransactions'
    cases htransactions'
    constructor
    · have hsome : overrides.isSome = overrides'.isSome := isSome_readMap hsame.stateOverrides hoverrides hoverrides'
      simp only [BuiltBundle.toSimulationBundle, hsame.id, hsame.blockNumber, hsome]
    · intro hunambiguous
      refine
        { id := hsame.id
          transactions := rfl
          blockNumber := hsame.blockNumber
          timestamp := hsame.timestamp
          baseFee := congrArg (Option.bind · U256.fromDecStr) hsame.baseFee
          stateOverrides := readMap_same (fun e k v hread => (readOverride_eq_ok_iff.mp hread).1) ?_
            hsame.stateOverrides hunambiguous.stateOverrides hoverrides hoverrides' }
      intro e he e' k v k' v' hvalues hread hread'
      exact convertProtoToCoreStateOverride_same hvalues (hunambiguous.slots e he) (readOverride_eq_ok_iff.mp hread).2
        (readOverride_eq_ok_iff.mp hread').2

/-- A stand-in for the crate, to run examples with. -/
def RequestParsers.sample : RequestParsers where
  address s := hexOfLength 160 s
  h256 s := hexOfLength 256 s
  decimalError _ := "invalid character"
  hexError _ := "Invalid hex"
where
  hexOfLength (w : ℕ) (s : String) : Except String (BitVec w) :=
    match parseDigits w 16 (stripPrefix0x s.toList) with
    | some x => if 4 * (stripPrefix0x s.toList).length = w then .ok x else .error "Invalid input length"
    | none => .error "Invalid character"

/-- An override of the balance of an account. -/
def overriddenBalance (account balance : String) : String × ProtoStateOverride :=
  (account, ⟨some balance, none, none, [], []⟩)

/-- A bundle with overrides for two accounts, in some order. -/
def overridingBundle (stateOverrides : List (String × ProtoStateOverride)) : ProtoBundle :=
  ⟨"bundle", [], none, none, some "twenty", stateOverrides⟩

/-- Two accounts. -/
def overriddenAccounts : List (String × ProtoStateOverride) :=
  [overriddenBalance "0x742d35cc6634c0532925a3b8d4c9db7c4c4c4c4c" "1000",
    overriddenBalance "0x4c4c4c4c7cdbc9d4b8a3252953c03466cc352d74" "2000"]

theorem overriddenAccounts_same : ∃ bundle bundle',
    convertProtoToCoreBundle .sample (overridingBundle overriddenAccounts) = .ok bundle ∧
      convertProtoToCoreBundle .sample (overridingBundle overriddenAccounts.reverse) = .ok bundle' ∧
        bundle.Same bundle' := by
  have hsame : (overridingBundle overriddenAccounts).Same (overridingBundle overriddenAccounts.reverse) := by
    have hoverride (e : String × ProtoStateOverride) : e.2.Same e.2 :=
      ⟨rfl, rfl, rfl, ⟨fun e he => ⟨e, he, rfl, rfl⟩, fun e he => ⟨e, he, rfl, rfl⟩⟩,
        ⟨fun e he => ⟨e, he, rfl, rfl⟩, fun e he => ⟨e, he, rfl, rfl⟩⟩⟩
    exact ⟨rfl, rfl, rfl, rfl, rfl, fun e he => ⟨e, List.mem_reverse.mpr he, rfl, hoverride e⟩,
      fun e he => ⟨e, List.mem_reverse.mp he, rfl, hoverride e⟩⟩
  have hunambiguous : (overridingBundle overriddenAccounts).Unambiguous .sample := by
    constructor
    · rintro e he e' he' address haddress haddress'
      simp only [overridingBundle, overriddenAccounts, List.mem_cons, List.not_mem_nil, or_false] at he he'
      rcases he with rfl | rfl <;> rcases he' with rfl | rfl
      · rfl
      · exact absurd (haddress.trans haddress'.symm) (by decide)
      · exact absurd (haddress.trans haddress'.symm) (by decide)
      · rfl
    · intro e he
      simp only [overridingBundle, overriddenAccounts, List.mem_cons, List.not_mem_nil, or_false] at he
      rcases he with rfl | rfl <;> constructor <;> simp [Library.Unambiguous, overriddenBalance]
  obtain ⟨hiff, hbundles⟩ := same_bundle hsame (P := .sample)
  obtain ⟨bundle, hbundle⟩ : ∃ bundle,
      convertProtoToCoreBundle .sample (overridingBundle overriddenAccounts) = .ok bundle := ⟨_, rfl⟩
  obtain ⟨bundle', hbundle'⟩ := hiff.mp ⟨bundle, hbundle⟩
  exact ⟨bundle, bundle', hbundle, hbundle', (hbundles bundle bundle' hbundle hbundle').2 hunambiguous⟩

end Botmev.Core
