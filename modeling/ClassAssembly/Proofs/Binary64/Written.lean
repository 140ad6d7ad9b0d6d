import ClassAssembly.Binary64.Written
import ClassAssembly.Proofs.Outline.Texts

/-! Numbers are written with the characters of words, and a point. -/

namespace ClassAssembly
open Outline

def isNumeralChar (c : Char) : Bool := isWordChar c || c == '.'

def IsNumeral (t : List Char) : Prop := ∀ c ∈ t, isNumeralChar c

instance : DecidablePred IsNumeral := fun t =>
  decidable_of_iff (t.all isNumeralChar) List.all_eq_true

variable {s t : List Char}

theorem isNumeral_append (hs : IsNumeral s) (ht : IsNumeral t) : IsNumeral (s ++ t) :=
  List.forall_mem_append.mpr ⟨hs, ht⟩

theorem isNumeral_cons {c : Char} (hc : isNumeralChar c) (ht : IsNumeral t) : IsNumeral (c :: t) :=
  List.forall_mem_cons.mpr ⟨hc, ht⟩

theorem isNumeral_of_isWord (h : IsWord t) : IsNumeral t := by
  intro c hc
  rw [isNumeralChar, h c hc]
  rfl

namespace Decimal
variable (d : Decimal)

theorem isNumeral_figures : IsNumeral d.figures := by
  intro c hc
  have hdigit : c.isDigit := Nat.isDigit_of_mem_toDigits (by decide) (by decide) hc
  simp [isNumeralChar, isWordChar, Char.isAlphanum, hdigit]

theorem isNumeral_zeros (n : Nat) : IsNumeral (List.replicate n '0') := by
  intro c hc
  rw [List.eq_of_mem_replicate hc]
  rfl

theorem isNumeral_positional : IsNumeral d.positional := by
  have hfigures := d.isNumeral_figures
  simp only [positional]
  split
  · exact isNumeral_append (isNumeral_append hfigures (isNumeral_zeros _)) (by decide)
  · split
    · exact isNumeral_append (fun c hc => hfigures c (List.mem_of_mem_take hc))
        (isNumeral_cons rfl fun c hc => hfigures c (List.mem_of_mem_drop hc))
    · exact isNumeral_cons rfl (isNumeral_cons rfl (isNumeral_append (isNumeral_zeros _) hfigures))

theorem isNumeral_scientific : IsNumeral d.scientific := by
  have hpower : IsNumeral ('e' :: (toString d.power).toList) :=
    isNumeral_cons rfl (isNumeral_of_isWord (isWord_int_repr d.power))
  have hfigures := d.isNumeral_figures
  unfold scientific
  split
  · exact hpower
  · next hone =>
    rw [hone] at hfigures
    exact isNumeral_append hfigures hpower
  · next c cs _ hmore =>
    rw [hmore] at hfigures
    obtain ⟨hc, hcs⟩ := List.forall_mem_cons.mp hfigures
    exact isNumeral_append (isNumeral_cons hc (isNumeral_cons rfl hcs)) hpower

theorem isNumeral_written (style : NumberStyle) : IsNumeral (d.written style) := by
  unfold written
  split
  · exact d.isNumeral_positional
  · exact d.isNumeral_scientific

end Decimal

namespace Binary64

theorem isNumeral_writtenMagnitude (a : Binary64) : IsNumeral a.writtenMagnitude := by
  unfold writtenMagnitude
  split
  · decide
  · split
    · decide
    · exact a.shortest.isNumeral_written style

theorem isNumeral_written (a : Binary64) : IsNumeral a.written := by
  unfold written
  split
  · exact isNumeral_cons rfl a.isNumeral_writtenMagnitude
  · exact a.isNumeral_writtenMagnitude

end Binary64

end ClassAssembly
