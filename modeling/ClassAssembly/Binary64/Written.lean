import ClassAssembly.Binary64.Shortest

/-! Numbers as text. -/

namespace ClassAssembly

/-- Where the positional notation of a decimal fraction begins and ends. -/
structure NumberStyle where
  /-- Numbers of at least this power of ten are written positionally. -/
  least : Int
  /-- Numbers of this power of ten and above are not. -/
  bound : Int

namespace Decimal

def figures (d : Decimal) : List Char := Nat.toDigits 10 d.digits

/-- The power of ten of the leading digit. -/
def power (d : Decimal) : Int := d.figures.length - 1 + d.exponent

/-- All places, with a point and at least one place behind it. -/
def positional (d : Decimal) : List Char :=
  let ds := d.figures
  if 0 ≤ d.exponent then ds ++ List.replicate d.exponent.toNat '0' ++ ['.', '0']
  else
    let places := (-d.exponent).toNat
    if places < ds.length then ds.take (ds.length - places) ++ '.' :: ds.drop (ds.length - places)
    else '0' :: '.' :: List.replicate (places - ds.length) '0' ++ ds

/-- One digit before the point, no bare point, and the power of ten. -/
def scientific (d : Decimal) : List Char :=
  let front := match d.figures with
    | [] => []
    | [c] => [c]
    | c :: cs => c :: '.' :: cs
  front ++ 'e' :: (toString d.power).toList

def written (style : NumberStyle) (d : Decimal) : List Char :=
  if style.least ≤ d.power && d.power < style.bound then d.positional else d.scientific

end Decimal

namespace Binary64

/-- Numbers are positional from a ten-thousandth up to ten to the sixteenth. -/
def style : NumberStyle := ⟨-4, 16⟩

def writtenMagnitude (a : Binary64) : List Char :=
  if a.isInfinite then ['i', 'n', 'f']
  else if a.isZero then ['0', '.', '0']
  else a.shortest.written style

def written (a : Binary64) : List Char :=
  if a.isNegative then '-' :: a.writtenMagnitude else a.writtenMagnitude

end Binary64

end ClassAssembly
