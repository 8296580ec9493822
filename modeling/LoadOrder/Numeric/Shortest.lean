/-
  LoadOrder/Numeric/Shortest.lean
  ===============================
  **The shortest decimal text that reads back as the same double.**

  A double is the nearest one to every number of an interval around it; the ends
  belong to the interval when the mantissa is even, because ties go to even.
  For one digit, then two, and so on, the two neighbours of the value on the
  grid of that many digits are tried.  The first grid with a neighbour inside
  the interval gives the digits; of two, the nearer one, and on a tie the even
  one.  Seventeen digits are always enough.

  The layout is a matter of taste and is kept apart from the digits (`layout`).
-/
import LoadOrder.Numeric.Binary64

namespace LoadOrder.Numeric

structure Decimal where
  digits : Nat
  exponent : Int
deriving DecidableEq, Repr

/-! ### Choosing the digits -/

/-- `num / den` divided by `10 ^ e`, as a numerator and a denominator. -/
def scaleDown10 (num den : Nat) (e : Int) : Nat × Nat :=
  if 0 ≤ e then (num, den * Nat.pow 10 e.toNat) else (num * Nat.pow 10 (-e).toNat, den)

def reachesTen (num den : Nat) (e : Int) : Bool :=
  decide ((scaleDown10 num den e).2 ≤ (scaleDown10 num den e).1)

/-- The greatest `e` with `10 ^ e ≤ num / den`, sought upwards from a guess that
    is not above it. -/
def leadingPlace (num den : Nat) : Nat → Int → Int
  | 0, e => e
  | fuel + 1, e => if reachesTen num den (e + 1) then leadingPlace num den fuel (e + 1) else e

/-- A guess for the leading place of `num / den`, at most two below it. -/
def placeGuess (num den : Nat) : Int :=
  (((num.log2 : Int) - (den.log2 : Int) - 1) * 30103).fdiv 100000 - 1

/-- The interval of numbers that read as `m * 2 ^ e`: its ends and the value, as
    numerators over one denominator. -/
structure Interval where
  low : Nat
  value : Nat
  high : Nat
  den : Nat
  closed : Bool
deriving DecidableEq, Repr

/-- The interval of a mantissa and an exponent.  Below a power of two the next
    double is only half as far away. -/
def interval (m : Nat) (e : Int) : Interval :=
  let below := if m = mantissaBound / 2 ∧ minExponent < e then 1 else 2
  let quarters := fun k : Nat => ratio (k, e - 2)
  ⟨(quarters (4 * m - below)).1, (quarters (4 * m)).1, (quarters (4 * m + 2)).1,
    (quarters (4 * m)).2, m % 2 = 0⟩

/-- Whether `t * 10 ^ place` lies in the interval. -/
def Interval.holds (i : Interval) (t : Nat) (place : Int) : Bool :=
  let scaled := fun k => scaleDown10 k i.den place
  let lowOk := if i.closed then (scaled i.low).1 ≤ t * (scaled i.low).2
    else (scaled i.low).1 < t * (scaled i.low).2
  let highOk := if i.closed then t * (scaled i.high).2 ≤ (scaled i.high).1
    else t * (scaled i.high).2 < (scaled i.high).1
  decide lowOk && decide highOk

/-- The digits on the grid of one place, if a neighbour of the value on that
    grid reads back. -/
def Interval.onGrid (i : Interval) (place : Int) : Option Nat :=
  let v := scaleDown10 i.value i.den place
  let t := v.1 / v.2
  let rest := v.1 % v.2
  match i.holds t place, i.holds (t + 1) place with
  | true, true =>
    some (if 2 * rest < v.2 then t else if 2 * rest = v.2 then t + t % 2 else t + 1)
  | true, false => some t
  | false, true => some (t + 1)
  | false, false => none

/-- The digits for the first of the grids `place`, `place - 1`, … that has
    some. -/
def Interval.search (i : Interval) : Nat → Int → Decimal
  | 0, place => ⟨(scaleDown10 i.value i.den place).1 / (scaleDown10 i.value i.den place).2, place⟩
  | fuel + 1, place =>
    match i.onGrid place with
    | some t => ⟨t, place⟩
    | none => i.search fuel (place - 1)

def Decimal.stripZeros : Nat → Decimal → Decimal
  | 0, d => d
  | fuel + 1, d =>
    if d.digits ≠ 0 ∧ d.digits % 10 = 0 then stripZeros fuel ⟨d.digits / 10, d.exponent + 1⟩ else d

/-- The shortest decimal that reads back as `m * 2 ^ e`, nearest to it. -/
def shortest (m : Nat) (e : Int) : Decimal :=
  let i := interval m e
  let place := leadingPlace i.value i.den 6 (placeGuess i.value i.den)
  (i.search 17 place).stripZeros 20

/-! ### Writing it -/

def digitsOf (n : Nat) : List Char := Nat.toDigits 10 n

/-- Positional notation with a point is used for magnitudes from `1e-5` up to,
    not including, `1e16`; beyond, there is one digit before the point and an
    exponent with its sign.  A whole number keeps `.0`. -/
def layout (d : Decimal) : List Char :=
  let ds := digitsOf d.digits
  let point : Int := ds.length + d.exponent
  if 0 < point ∧ point ≤ 16 then
    if 0 ≤ d.exponent then ds ++ List.replicate d.exponent.toNat '0' ++ ['.', '0']
    else ds.take point.toNat ++ '.' :: ds.drop point.toNat
  else if -5 < point ∧ point ≤ 0 then
    ['0', '.'] ++ List.replicate (-point).toNat '0' ++ ds
  else
    let mark := if 0 ≤ point - 1 then ['e', '+'] else ['e', '-']
    let tail := ds.drop 1
    ds.take 1 ++ (if tail.isEmpty then [] else '.' :: tail) ++ mark
      ++ digitsOf (point - 1).natAbs

def Binary64.text (x : Binary64) : String :=
  let body := if x.mantissa = 0 then ['0', '.', '0'] else layout (shortest x.mantissa x.exponent)
  String.ofList (if x.negative then '-' :: body else body)

end LoadOrder.Numeric
