/-!
# Integers as words

A word denotes an integer if it is one optional sign followed by at least one ASCII digit and
nothing else. The value is read from left to right in 64-bit arithmetic that stops at its limits
instead of wrapping, so a word of any length has a value and a number beyond the limits reads as
the limit on its side.
-/

namespace SetCalculator.Text

/-- The least and the greatest 64-bit signed integer. -/
def leastInteger : Int := -0x8000000000000000

@[inherit_doc leastInteger]
def greatestInteger : Int := 0x7FFFFFFFFFFFFFFF

/-- The 64-bit integer nearest to `z`. -/
def clamp (z : Int) : Int := max leastInteger (min z greatestInteger)

/-- The value of an ASCII digit. -/
def digitValue? (c : Char) : Option Nat :=
  if '0' ≤ c ∧ c ≤ '9' then some (c.toNat - '0'.toNat) else none

/-- Appends one digit to an integer read so far; the digits of a negative one count downwards. -/
def appendDigit (negative : Bool) (value : Int) (c : Char) : Option Int :=
  (digitValue? c).map fun (d : Nat) =>
    clamp (clamp (value * 10) + if negative then -(d : Int) else (d : Int))

/-- Reads the digits after the sign. -/
def digits? (negative : Bool) (ds : List Char) : Option Int :=
  if ds = [] then none else ds.foldlM (appendDigit negative) 0

/-- The integer that a word denotes. -/
def integer? : List Char → Option Int
  | '-' :: ds => digits? true ds
  | '+' :: ds => digits? false ds
  | ds => digits? false ds

/-! ## Values stay within the limits -/

/-- A clamped number lies within the limits. -/
theorem clamp_mem (z : Int) : leastInteger ≤ clamp z ∧ clamp z ≤ greatestInteger := by
  simp only [clamp, leastInteger, greatestInteger]
  omega

/-- A number within the limits is not changed. -/
theorem clamp_of_mem {z : Int} (hl : leastInteger ≤ z) (hg : z ≤ greatestInteger) :
    clamp z = z := by
  simp only [clamp, leastInteger, greatestInteger] at *
  omega

example : integer? "-128".toList = some (-128) := by decide +kernel
example : integer? "+007".toList = some 7 := by decide +kernel
example : integer? "99999999999999999999".toList = some greatestInteger := by decide +kernel
example : integer? "+-1".toList = none ∧ integer? "+".toList = none := by decide +kernel

end SetCalculator.Text
