import Mathlib.Tactic.Common

/-!
The digits of Unicode 15, which `str.isdigit` and the class `\d` of `re` go by.

* `isDecimal` is the class `\d`: the digits of the decimal systems;
* `isDigit` is `c.isdigit()`: also the superscripts, the encircled digits and their like;
* `isAsciiDigit` is the class `[0-9]`, and `isDigit_ascii` says that no other character of
  ASCII is a digit.
-/

namespace Breero

def isAsciiDigit (c : Char) : Bool := '0' ≤ c && c ≤ '9'

/-- The zeros of the decimal systems but for the first one. Their digits one to nine follow
each of them. -/
def otherZeros : List Nat :=
  [1632, 1776, 1984, 2406, 2534, 2662, 2790, 2918, 3046, 3174, 3302, 3430, 3558, 3664, 3792, 3872,
    4160, 4240, 6112, 6160, 6470, 6608, 6784, 6800, 6992, 7088, 7232, 7248, 42528, 43216, 43264,
    43472, 43504, 43600, 44016, 65296, 66720, 68912, 69734, 69872, 69942, 70096, 70384, 70736,
    70864, 71248, 71360, 71472, 71904, 72016, 72784, 73040, 73120, 73552, 92768, 92864, 93008,
    120782, 120792, 120802, 120812, 120822, 123200, 123632, 124144, 125264, 130032]

/-- The first and the last of each row of digits that no decimal system has. -/
def otherDigits : List (Nat × Nat) :=
  [(178, 179), (185, 185), (4969, 4977), (6618, 6618), (8304, 8304), (8308, 8313), (8320, 8329),
    (9312, 9320), (9332, 9340), (9352, 9360), (9450, 9450), (9461, 9469), (9471, 9471),
    (10102, 10110), (10112, 10120), (10122, 10130), (68160, 68163), (69216, 69224),
    (69714, 69722), (127232, 127242)]

/-- `\d` -/
def isDecimal (c : Char) : Bool :=
  isAsciiDigit c || otherZeros.any fun start => start ≤ c.toNat && c.toNat ≤ start + 9

/-- `c.isdigit()` -/
def isDigit (c : Char) : Bool :=
  isDecimal c || otherDigits.any fun row => row.1 ≤ c.toNat && c.toNat ≤ row.2

theorem isDecimal_of_ascii {c : Char} (h : isAsciiDigit c = true) : isDecimal c = true := by
  rw [isDecimal, h, Bool.true_or]

theorem isDigit_of_decimal {c : Char} (h : isDecimal c = true) : isDigit c = true := by
  rw [isDigit, h, Bool.true_or]

theorem ascii_of_isAsciiDigit {c : Char} (h : isAsciiDigit c = true) : c.toNat < 128 := by
  simp only [isAsciiDigit, Bool.and_eq_true, decide_eq_true_eq] at h
  have hlast : c.toNat ≤ '9'.toNat := h.2
  have hnine : '9'.toNat = 57 := rfl
  omega

theorem isDigit_ascii {c : Char} (hascii : c.toNat < 128) (h : isDigit c = true) :
    isAsciiDigit c = true := by
  have hzeros : ∀ start ∈ otherZeros, 128 ≤ start := by decide
  have hrows : ∀ row ∈ otherDigits, 128 ≤ row.1 := by decide
  simp only [isDigit, isDecimal, Bool.or_eq_true, List.any_eq_true, Bool.and_eq_true,
    decide_eq_true_eq] at h
  rcases h with (h | ⟨start, hmem, hle, _⟩) | ⟨row, hmem, hle, _⟩
  · exact h
  · have := hzeros start hmem
    omega
  · have := hrows row hmem
    omega

theorem not_isDigit_hyphen : isDigit '-' = false := by decide

end Breero
