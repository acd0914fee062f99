/-!
# Single-precision numbers

A script's floating point number is the 32 bits of an IEEE 754 single. Nothing here computes in
floating point: a finite number is an exact fraction with denominator 2^149, and the two things a
script does with one, showing it with three decimals and cutting it down to an integer, are exact
integer arithmetic on that fraction.
-/

namespace MissionScript

/-- The 32 bits of a single-precision number: sign, eight bits of exponent, 23 of fraction. -/
structure Single where
  bits : UInt32
deriving DecidableEq, Repr, Inhabited

namespace Single

/-- Whether the sign bit is set; zero has a sign too. -/
def isNegative (x : Single) : Bool := 0x80000000 ≤ x.bits.toNat

def exponent (x : Single) : Nat := x.bits.toNat / 0x800000 % 256

def fraction (x : Single) : Nat := x.bits.toNat % 0x800000

def isNaN (x : Single) : Bool := x.exponent == 255 && x.fraction != 0

def isInfinite (x : Single) : Bool := x.exponent == 255 && x.fraction == 0

/-- The absolute value of a finite number in units of 2^-149, the least positive number. -/
def units (x : Single) : Nat :=
  if x.exponent = 0 then x.fraction else (0x800000 + x.fraction) <<< (x.exponent - 1)

/-- The quotient rounded to the nearest integer, a half going to the even neighbour. -/
def divideToNearest (numerator denominator : Nat) : Nat :=
  let quotient := numerator / denominator
  let rest := numerator % denominator
  if 2 * rest < denominator then quotient
  else if denominator < 2 * rest then quotient + 1
  else quotient + quotient % 2

/-- Three decimals, rounded from the exact value; a negative zero keeps its sign. -/
def text (x : Single) : String :=
  if x.isNaN then "NaN"
  else
    let sign := if x.isNegative then "-" else ""
    if x.isInfinite then sign ++ "inf"
    else
      let thousandths := divideToNearest (x.units * 1000) (1 <<< 149)
      let decimals := Nat.toDigits 10 (thousandths % 1000)
      sign ++ toString (thousandths / 1000) ++ "." ++
        String.ofList (List.replicate (3 - decimals.length) '0' ++ decimals)

/-- The integer part, taken toward zero and held inside `-bound .. bound - 1`. What is not a
number counts as zero. -/
def truncate (bound : Nat) (x : Single) : Int :=
  if x.isNaN then 0
  else if x.isNegative then
    if x.isInfinite then -(bound : Int) else max (-(bound : Int)) (-((x.units >>> 149 : Nat) : Int))
  else
    if x.isInfinite then (bound : Int) - 1 else min ((bound : Int) - 1) ((x.units >>> 149 : Nat) : Int)

/-- The integer part as a 32-bit integer, held at the ends of the range. -/
def toInt32 (x : Single) : Int32 := Int32.ofInt (x.truncate 0x80000000)

end Single

end MissionScript
