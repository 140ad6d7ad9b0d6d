/-! Binary floating-point numbers of 64 bits, NaN left out. -/

namespace ClassAssembly

/-- The sign is the highest bit. -/
def Binary64.signUnit : Nat := 0x8000000000000000

/-- The bits below the sign. -/
def Binary64.magnitudeOf (bits : UInt64) : Nat := bits.toNat % signUnit

/-- The magnitude of the infinities. All that lies above is NaN. -/
def Binary64.infinite : Nat := 0x7ff0000000000000

/-- A number, kept as its bits. -/
structure Binary64 where
  bits : UInt64
  magnitude_le : Binary64.magnitudeOf bits ≤ Binary64.infinite
  deriving DecidableEq

/-- Why bits are no number. -/
inductive NumberError
  | notANumber
  deriving DecidableEq, Repr

def NumberError.message : NumberError → String
  | .notANumber => "NotNan constructed with NaN"

namespace Binary64

def ofBits (bits : UInt64) : Except NumberError Binary64 :=
  if h : magnitudeOf bits ≤ infinite then .ok ⟨bits, h⟩ else .error .notANumber

variable {a b : Binary64} {w : UInt64}

def magnitude (a : Binary64) : Nat := magnitudeOf a.bits

def isNegative (a : Binary64) : Bool := signUnit ≤ a.bits.toNat

def isZero (a : Binary64) : Bool := a.magnitude == 0

def isInfinite (a : Binary64) : Bool := a.magnitude == infinite

/-- Both zeros are one number, and no other number has two forms. -/
instance : BEq Binary64 := ⟨fun a b => a.bits == b.bits || (a.isZero && b.isZero)⟩

def zero : Binary64 := ⟨0, by decide⟩

/-- The form without a negative zero. -/
def normal (a : Binary64) : Binary64 := if a.isZero then zero else a

theorem ofBits_eq_ok_iff : ofBits w = .ok a ↔ a.bits = w := by
  unfold ofBits
  split
  · simp only [Except.ok.injEq]
    constructor
    · rintro rfl
      rfl
    · rintro rfl
      rfl
  · rename_i h
    simp only [reduceCtorEq, false_iff]
    rintro rfl
    exact h a.magnitude_le

theorem ofBits_eq_error_iff : ofBits w = .error .notANumber ↔ infinite < magnitudeOf w := by
  unfold ofBits
  split <;> simp <;> omega

end Binary64

end ClassAssembly
