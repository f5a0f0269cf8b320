/-
This file defines the machine numbers of the battle server.
-/

import Mathlib.Algebra.Ring.Int.Defs
import Mathlib.Algebra.Ring.Nat
import Mathlib.Data.Rat.Defs

namespace AppSvr.PkServer

variable (value : Int)

/-- A value is stored in a `short int`. -/
def short : Int := (value + 32768) % 65536 - 32768

/-- A value is stored in an `unsigned short int`. -/
def ushort : Int := value % 65536

/-- A value is stored in an `unsigned int`. -/
def uint : Int := value % 4294967296

/-- A value is stored in an `int`. -/
def int : Int := (value + 2147483648) % 4294967296 - 2147483648

/-- A value is stored in a `char`. -/
def char : Int := (value + 128) % 256 - 128

/-- The quotient is rounded to the nearest integer, and a tie to the even one. -/
def halfEven (num den : Nat) : Nat :=
  let twice := 2 * (num % den)
  if den < twice ∨ (den = twice ∧ num / den % 2 = 1) then num / den + 1 else num / den

/-- The numerator and the denominator are scaled by a power of two. -/
def scaled (num den : Nat) (exponent : Int) : Nat × Nat :=
  if 0 ≤ exponent then (num, den * 2 ^ exponent.toNat) else (num * 2 ^ (-exponent).toNat, den)

/-- This is the nearest `double`, with a significand of fifty-three bits. -/
def double (value : ℚ) : ℚ :=
  if value = 0 then 0
  else
    let num := value.num.natAbs
    let guess : Int := (num.log2 : Int) - value.den.log2 - 52
    let exponent :=
      if (scaled num value.den guess).1 < (scaled num value.den guess).2 * 2 ^ 52 then guess - 1
      else guess
    let significand := halfEven (scaled num value.den exponent).1 (scaled num value.den exponent).2
    let magnitude :=
      if 0 ≤ exponent then mkRat (significand * 2 ^ exponent.toNat) 1
      else mkRat significand (2 ^ (-exponent).toNat)
    if value.num < 0 then -magnitude else magnitude

/-- The conversion to `int` cuts the fraction off, and gives the least integer outside its range. -/
def toInt (value : ℚ) : Int :=
  let cut := value.num.tdiv value.den
  if -2147483648 ≤ cut ∧ cut ≤ 2147483647 then cut else -2147483648

/-- The conversion to `short int` goes through `int`. -/
def toShort (value : ℚ) : Int := short (toInt value)

/-- The integer part of `sqrt`. A negative argument gives the least integer. -/
def sqrtInt : Int :=
  if value < 0 then -2147483648 else value.toNat.sqrt

/-- This is the least integer that is not below the root. -/
def sqrtCeil (value : Nat) : Int :=
  if value.sqrt * value.sqrt = value then value.sqrt else value.sqrt + 1

/-- A `switch` on the level has six cases. -/
def byLevel {α : Type*} (level : Int) (initial : α) (values : List α) : α :=
  if 1 ≤ level then (values[(level - 1).toNat]?).getD initial else initial

example : toShort (double (170 * double (7 / 10))) = 118 := by decide +kernel

end AppSvr.PkServer
