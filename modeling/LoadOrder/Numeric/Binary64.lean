/-
  LoadOrder/Numeric/Binary64.lean
  ===============================
  **Finite numbers of double precision, as exact values.**

  A finite double is a sign, a whole mantissa below 2^53 and a power of two.
  Nothing here is a machine operation: every result is the exact rational result,
  rounded once to the nearest double (`nearest`), a tie going to the even
  mantissa.  That makes the values comparable, printable and decidable without
  any fact about hardware.
-/

namespace LoadOrder.Numeric

/-- A finite double: `mantissa * 2 ^ exponent`, with its sign.  Zero has a sign
    too. -/
structure Binary64 where
  negative : Bool
  mantissa : Nat
  exponent : Int
deriving DecidableEq, Repr

/-! ### Rounding a quotient -/

/-- The least exponent of a double; with it stand the numbers too small for a
    full mantissa. -/
def minExponent : Int := -1074

def maxExponent : Int := 971

/-- What every mantissa stays below: two to the 53rd power.  The mantissa of a number
    that is not too small is at least half of it. -/
def mantissaBound : Nat := 9007199254740992

/-- The quotient rounded to a whole number, a tie going to the even neighbour. -/
def roundHalfEven (num den : Nat) : Nat :=
  let q := num / den
  let r := num % den
  if 2 * r < den then q
  else if 2 * r = den then q + q % 2
  else q + 1

/-- `num / den` divided by `2 ^ e`, as a numerator and a denominator. -/
def scaleDown (num den : Nat) (e : Int) : Nat × Nat :=
  if 0 ≤ e then (num, den * Nat.pow 2 e.toNat) else (num * Nat.pow 2 (-e).toNat, den)

/-- Mantissa and exponent of the double nearest to `num / den`.  The exponent is
    not bounded above: one beyond `maxExponent` stands for a number that is out
    of range. -/
def nearest (num den : Nat) : Nat × Int :=
  if num = 0 then (0, minExponent)
  else
    let low := max ((num.log2 : Int) - (den.log2 : Int) - 53) minExponent
    let e :=
      if (scaleDown num den low).1 / (scaleDown num den low).2 < mantissaBound then low
      else low + 1
    let m := roundHalfEven (scaleDown num den e).1 (scaleDown num den e).2
    if m = mantissaBound then (mantissaBound / 2, e + 1) else (m, e)

/-! ### Decimal notation -/

/-- The value of a mantissa and an exponent as a quotient of whole numbers. -/
def ratio (x : Nat × Int) : Nat × Nat :=
  if 0 ≤ x.2 then (x.1 * Nat.pow 2 x.2.toNat, 1) else (x.1, Nat.pow 2 (-x.2).toNat)

def times (x y : Nat × Int) : Nat × Int :=
  nearest ((ratio x).1 * (ratio y).1) ((ratio x).2 * (ratio y).2)

def dividedBy (x y : Nat × Int) : Nat × Int :=
  nearest ((ratio x).1 * (ratio y).2) ((ratio x).2 * (ratio y).1)

def tenTo (k : Nat) : Nat × Int := nearest (Nat.pow 10 k) 1

/-- The greatest power of ten that one scaling step may use. -/
def maxPower : Nat := 308

/-- `f` divided by the `k`-th power of ten, in steps of at most `maxPower`, each
    rounded.  Once the value is zero it stays zero. -/
def shiftDown (f : Nat × Int) (k : Nat) : Nat × Int :=
  if k ≤ maxPower then dividedBy f (tenTo k)
  else if f.1 = 0 then f
  else shiftDown (dividedBy f (tenTo maxPower)) (k - maxPower)
termination_by k
decreasing_by simp only [maxPower] at *; omega

/-- The double for `digits * 10 ^ exponent`, or nothing if it is out of range.
    The digits are rounded to a double first and scaled afterwards, so the
    result can differ in its last place from the double nearest to the decimal
    number. -/
def ofDecimal (negative : Bool) (digits : Nat) (exponent : Int) : Option Binary64 :=
  let f := nearest digits 1
  if 0 ≤ exponent then
    if exponent.toNat ≤ maxPower then
      let g := times f (tenTo exponent.toNat)
      if maxExponent < g.2 then none else some ⟨negative, g.1, g.2⟩
    else if digits = 0 then some ⟨negative, f.1, f.2⟩
    else none
  else
    let g := shiftDown f (-exponent).toNat
    some ⟨negative, g.1, g.2⟩

def ofWhole (negative : Bool) (n : Nat) : Binary64 :=
  ⟨negative, (nearest n 1).1, (nearest n 1).2⟩

end LoadOrder.Numeric
