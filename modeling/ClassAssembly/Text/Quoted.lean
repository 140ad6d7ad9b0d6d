import ClassAssembly.Text.Hidden

/-! Quoted text: what would not be seen, or would end the quotation, is escaped. -/

namespace ClassAssembly.Text

/-- Whether a character cannot be seen, or not by itself. -/
def isHidden (c : Char) : Bool :=
  unprintable.contains c || ignorable.contains c || extendingMarks.contains c

/-- Whether a character is written as itself. Visible ASCII needs no table. -/
def isShown (c : Char) : Bool := (' ' ≤ c && c ≤ '~') || !isHidden c

/-- A character by its code point, in the fewest hexadecimal digits. -/
def codeEscape (c : Char) : List Char := '\\' :: 'u' :: '{' :: Nat.toDigits 16 c.toNat ++ ['}']

/-- A character as it stands between quotes. -/
def escape (c : Char) : List Char :=
  match c with
  | '"' => ['\\', '"']
  | '\\' => ['\\', '\\']
  | '\n' => ['\\', 'n']
  | '\r' => ['\\', 'r']
  | '\t' => ['\\', 't']
  | '\x00' => ['\\', '0']
  | c => if isShown c then [c] else codeEscape c

def quoted (s : String) : List Char := '"' :: s.toList.flatMap escape ++ ['"']

/-- No range of the tables meets visible ASCII. -/
theorem ranges_apart :
    ∀ r ∈ unprintable ++ ignorable ++ extendingMarks, r.2 < 32 ∨ 126 < r.1 := by
  decide +kernel

theorem not_isHidden_of_visible {c : Char} (h : ' ' ≤ c ∧ c ≤ '~') : isHidden c = false := by
  have low : 32 ≤ c.toNat := h.1
  have high : c.toNat ≤ 126 := h.2
  rw [Bool.eq_false_iff]
  intro hc
  simp only [isHidden, Bool.or_eq_true, Ranges.contains_iff] at hc
  obtain (⟨r, hm, hl⟩ | ⟨r, hm, hl⟩) | ⟨r, hm, hl⟩ := hc <;>
  · have := ranges_apart r (by simp [hm])
    omega

/-- Leaving the tables out for visible ASCII changes nothing. -/
theorem isShown_eq_not_isHidden (c : Char) : isShown c = !isHidden c := by
  unfold isShown
  by_cases h : ' ' ≤ c ∧ c ≤ '~'
  · simp [h, not_isHidden_of_visible h]
  · simp only [Bool.or_eq_right_iff_imp, Bool.and_eq_true, decide_eq_true_eq]
    exact fun hc => absurd hc h

end ClassAssembly.Text
