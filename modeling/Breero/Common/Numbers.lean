import Breero.Common.Raised
import Breero.Common.Unicode

/-!
Texts as integers: `int(text)` of Python.
-/

namespace Breero

/-- What `int` skips on both sides. The separators of ASCII are no white space to it. -/
def isIntSpace (c : Char) : Bool :=
  c = ' ' || (9 ≤ c.toNat && c.toNat ≤ 13) || (128 ≤ c.toNat && isSpace c)

/-- The value of a digit of a decimal system. -/
def decimalValue (c : Char) : Option Nat :=
  if isAsciiDigit c then some (c.toNat - '0'.toNat)
  else (otherZeros.find? fun start => start ≤ c.toNat && c.toNat ≤ start + 9).map fun start =>
    c.toNat - start

/-- Digits, with single underscores between them. -/
def decimalDigits : List Char → Option (List Nat)
  | [] => none
  | [c] => (decimalValue c).map fun d => [d]
  | c :: '_' :: rest => do
    let d ← decimalValue c
    let ds ← decimalDigits rest
    return d :: ds
  | c :: rest => do
    let d ← decimalValue c
    let ds ← decimalDigits rest
    return d :: ds

/-- `sys.get_int_max_str_digits()` -/
def intMaxStrDigits : Nat := 4300

/-- `int(text)`, if it does not raise a `ValueError`. -/
def intOfChars (cs : List Char) : Option Int := do
  let cs := ((cs.dropWhile isIntSpace).reverse.dropWhile isIntSpace).reverse
  let (negative, cs) := match cs with
    | '-' :: rest => (true, rest)
    | '+' :: rest => (false, rest)
    | rest => (false, rest)
  let digits ← decimalDigits cs
  if intMaxStrDigits < digits.length then none
  else
    let value : Nat := digits.foldl (fun (value d : Nat) => value * 10 + d) 0
    return if negative then -(value : Int) else value

end Breero
