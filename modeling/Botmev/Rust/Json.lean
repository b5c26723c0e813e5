import Botmev.Library.Binary64
import Botmev.Rust.Basic

/-!
# JSON values

`serde_json::Value`, with the accessors the source uses. A key occurs once in an object.
-/

namespace Botmev.Rust

open Botmev.Library

/-- `serde_json::Number`. -/
inductive Number where
  /-- A whole number that is not negative. -/
  | posInt (n : U64)
  /-- A whole number below zero. -/
  | negInt (n : ℤ)
  /-- Any other. -/
  | float (x : Binary64)
  deriving DecidableEq, Repr

/-- `serde_json::Value`. -/
inductive Value where
  | null
  | bool (b : Bool)
  | number (n : Number)
  | string (s : String)
  | array (items : List Value)
  | object (entries : List (String × Value))

/-- `number.as_f64()`. -/
def Number.asF64 : Number → Binary64
  | .posInt n => Binary64.ofNat n.toNat
  | .negInt n => Binary64.ofRatio (decide (n < 0)) (n.natAbs * Binary64.one) 1
  | .float x => x

namespace Value

/-- `value.get(key)`. -/
def get (key : String) : Value → Option Value
  | .object entries => entries.lookup key
  | _ => none

/-- `value.as_str()`. -/
def asStr : Value → Option String
  | .string s => some s
  | _ => none

/-- `value.as_f64()`. -/
def asF64 : Value → Option Binary64
  | .number n => some n.asF64
  | _ => none

/-- `value[key]`. -/
def index (key : String) (value : Value) : Value := (value.get key).getD null

/-- `value.is_null()`. -/
def isNull : Value → Bool
  | null => true
  | _ => false

/-- `value.as_array()`. -/
def asArray : Value → Option (List Value)
  | .array items => some items
  | _ => none

/-- `value.get(index)`, of an array. -/
def getIdx (i : ℕ) : Value → Option Value
  | .array items => items[i]?
  | _ => none

/-- `value.as_u64()`. -/
def asU64 : Value → Option U64
  | .number (.posInt n) => some n
  | _ => none

/-- `value.as_i64()`. -/
def asI64 : Value → Option ℤ
  | .number (.posInt n) => if n.toNat < 2 ^ 63 then some n.toNat else none
  | .number (.negInt n) => some n
  | _ => none

/-- `value.as_bool()`. -/
def asBool : Value → Option Bool
  | .bool b => some b
  | _ => none

/-- `value.get(key).and_then(|v| v.as_str())`. -/
def getStr (key : String) (value : Value) : Option String := (value.get key).bind asStr

/-- A value is part of another one, or is that value itself. -/
inductive PartOf (part : Value) : Value → Prop where
  /-- It is that value. -/
  | self : PartOf part part
  /-- It is part of an item of an array. -/
  | item {items : List Value} {item : Value} : item ∈ items → PartOf part item → PartOf part (.array items)
  /-- It is part of what an object has under a key. -/
  | entry {entries : List (String × Value)} {key : String} {value : Value} :
      (key, value) ∈ entries → PartOf part value → PartOf part (.object entries)

theorem PartOf.trans {a b c : Value} (hab : PartOf a b) (hbc : PartOf b c) : PartOf a c := by
  induction hbc with
  | self => exact hab
  | item hmem _ ih => exact .item hmem ih
  | entry hmem _ ih => exact .entry hmem ih

theorem partOf_of_get {key : String} {value part : Value} (h : value.get key = some part) : PartOf part value := by
  cases value with
  | object entries =>
    obtain ⟨before, after, rfl, -⟩ := List.lookup_eq_some_iff.mp h
    exact .entry (List.mem_append_right _ (List.mem_cons_self ..)) .self
  | _ => cases h

theorem partOf_of_getIdx {i : ℕ} {value part : Value} (h : value.getIdx i = some part) : PartOf part value := by
  cases value with
  | array items => exact .item (List.mem_of_getElem? h) .self
  | _ => cases h

theorem partOf_of_asArray {value part : Value} {items : List Value} (h : value.asArray = some items)
    (hmem : part ∈ items) : PartOf part value := by
  cases value with
  | array items' =>
    cases h
    exact .item hmem .self
  | _ => cases h

end Value

end Botmev.Rust
