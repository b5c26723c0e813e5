import Botmev.Library.Binary64
import Botmev.Library.Numeral

/-!
# Reading a double

`str::parse::<f64>` takes an optional sign and then "nan", "inf" or "infinity", in any case,
or a decimal numeral, with a point, an exponent or both: digits on at least one side of the
point, no blanks. A numeral is rounded to the nearest double, which is the infinity for one
that is too large.
-/

namespace Botmev.Rust

open Botmev.Library

/-- An optional sign: whether it is a minus, and what comes after it. -/
def takeSign : List Char → Bool × List Char
  | '-' :: cs => (true, cs)
  | '+' :: cs => (false, cs)
  | cs => (false, cs)

/-- The exponent of a numeral, if there is one. -/
def parseExponent : List Char → Option ℤ
  | [] => some 0
  | c :: cs =>
    let (negative, ds) := takeSign cs
    if c.toLower = 'e' ∧ ds ≠ [] then
      (Numeral.digits? 10 ds).map fun ds =>
        if negative then -(Numeral.value 10 ds : ℤ) else Numeral.value 10 ds
    else none

/-- `n * 10^e`, rounded. -/
def scaledDecimal (negative : Bool) (n : ℕ) : ℤ → Binary64
  | .ofNat e => Binary64.ofRatio negative (n * 10 ^ e * Binary64.one) 1
  | .negSucc e => Binary64.ofRatio negative (n * Binary64.one) (10 ^ (e + 1))

/-- A decimal numeral. -/
def parseDecimal (negative : Bool) (cs : List Char) : Option Binary64 :=
  let whole := cs.takeWhile Char.isDigit
  let (fraction, rest) :=
    match cs.dropWhile Char.isDigit with
    | '.' :: rest => (rest.takeWhile Char.isDigit, rest.dropWhile Char.isDigit)
    | rest => ([], rest)
  if whole ++ fraction = [] then none
  else
    match Numeral.digits? 10 (whole ++ fraction), parseExponent rest with
    | some ds, some e => some (scaledDecimal negative (Numeral.value 10 ds) (e - fraction.length))
    | _, _ => none

/-- `s.parse::<f64>().ok()`. -/
def parseF64 (s : String) : Option Binary64 :=
  let (negative, cs) := takeSign s.toList
  let name := String.ofList (cs.map Char.toLower)
  if name = "nan" then some .nan
  else if name = "inf" ∨ name = "infinity" then some (.inf negative)
  else parseDecimal negative cs

example : [parseF64 "", parseF64 ".", parseF64 "1e", parseF64 " 1"] = [none, none, none, none] := by decide

example : parseF64 "-2.5e-1" = some (.finite (-2 ^ 1072)) := by decide +kernel

end Botmev.Rust
