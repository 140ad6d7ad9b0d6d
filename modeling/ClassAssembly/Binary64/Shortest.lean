import ClassAssembly.Binary64.Basic

/-! The fewest decimal digits that read back as a finite number: the coarsest power-of-ten grid with
a point among the reals that round to the number, and on it the point nearest to the number. -/

namespace ClassAssembly

/-- The value `digits * 10 ^ exponent`. -/
structure Decimal where
  digits : Nat
  exponent : Int
  deriving DecidableEq, Repr

namespace Binary64

/-- The exponent stands above fifty-two bits of fraction. -/
def exponentUnit : Nat := 0x10000000000000

/-- The biased exponent. -/
def exponentBits (a : Binary64) : Nat := a.magnitude / exponentUnit

def fractionBits (a : Binary64) : Nat := a.magnitude % exponentUnit

/-- Without its sign, a finite number is `mantissa * 2 ^ scale`. -/
def mantissa (a : Binary64) : Nat :=
  if a.exponentBits = 0 then a.fractionBits else exponentUnit + a.fractionBits

def scale (a : Binary64) : Int := max a.exponentBits 1 - 1075

/-- Whether the gap to the number below is half the gap to the number above. -/
def isNarrowBelow (a : Binary64) : Bool := a.fractionBits == 0 && 1 < a.exponentBits

/-- The reals that round to a number, in units of a quarter of its last place. -/
structure Interval where
  low : Nat
  middle : Nat
  high : Nat
  closed : Bool

/-- A tie in rounding goes to the even mantissa, so the ends belong to even ones. -/
def interval (a : Binary64) : Interval where
  low := 4 * a.mantissa - if a.isNarrowBelow then 1 else 2
  middle := 4 * a.mantissa
  high := 4 * a.mantissa + 2
  closed := a.mantissa % 2 == 0

/-- A quarter of the last place against `10 ^ k`, as the two factors of a quotient. -/
def quarterRatio (a : Binary64) (k : Int) : Nat × Nat :=
  let e := a.scale - 2
  (Nat.pow 2 e.toNat * Nat.pow 10 (-k).toNat, Nat.pow 2 (-e).toNat * Nat.pow 10 k.toNat)

/-- Whether `n * 10 ^ k` lies in the interval. -/
def covers (a : Binary64) (k : Int) (n : Nat) : Bool :=
  let (p, q) := a.quarterRatio k
  let i := a.interval
  if i.closed then i.low * p ≤ n * q && n * q ≤ i.high * p
  else i.low * p < n * q && n * q < i.high * p

/-- The point of the grid of `10 ^ k` in the interval: of the two next to the number the nearer,
and the upper one of two that are equally near. -/
def gridPoint? (a : Binary64) (k : Int) : Option Nat :=
  let (p, q) := a.quarterRatio k
  let v := a.interval.middle * p
  let n := v / q
  match a.covers k n, a.covers k (n + 1) with
  | true, true => some (if 2 * (v % q) < q then n else n + 1)
  | true, false => some n
  | false, true => some (n + 1)
  | false, false => none

/-- What is chosen reads back. -/
theorem covers_of_gridPoint? {a : Binary64} {k : Int} {n : Nat} (h : a.gridPoint? k = some n) :
    a.covers k n := by
  simp only [gridPoint?] at h
  split at h
  · rename_i hl hu
    split at h <;> simp_all
  all_goals simp_all

/-- The grids from the coarsest that any finite number can need to the finest. -/
def grids : List Int := (List.range 1386).map fun (i : Nat) => (309 : Int) - i

def shortest (a : Binary64) : Decimal :=
  (grids.findSome? fun k => (a.gridPoint? k).map fun n => ⟨n, k⟩).getD ⟨0, 0⟩

end Binary64

end ClassAssembly
