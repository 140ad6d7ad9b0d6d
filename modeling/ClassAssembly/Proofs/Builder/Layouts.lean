import ClassAssembly.Proofs.Binary64.Written
import ClassAssembly.Proofs.Node.Texts
import ClassAssembly.Proofs.Outline.Flattening

/-! The text of a node or builder on many lines, flattened, is its text on one line. Only names
stand unquoted, and those that are spelled with letters, digits, underscores and backslashes do not
look like the lines around them. -/

namespace ClassAssembly
open Outline

/-- Whether a leaf is no name with other characters than names are spelled with. -/
def Leaf.isSpelled : Leaf → Bool
  | .name a => a.isSpelled
  | .literal _ => true

theorem inline_of_isNumeral {t : List Char} (h : IsNumeral t) : Inline t := by
  refine inline_of_forall ?_
  intro c hc
  obtain hword | hpoint := Bool.or_eq_true_iff.mp (h c hc)
  · exact startsItem_of_isWordChar hword
  · obtain rfl := beq_iff_eq.mp hpoint
    decide

theorem Leaf.fits_of_isSpelled {l : Leaf} (h : l.isSpelled) : l.Fits Inline := by
  rcases l with a | v
  · exact inline_of_isWord (a.isWord_of_isSpelled h)
  · cases v with
    | float v => exact inline_of_isNumeral v.isNumeral_written
    | _ => trivial

/-- The two layouts hold the same text, for nodes and for builders. Names may be empty. -/
theorem flatten?_block_eq_line :
    (∀ n : Node, (∀ l ∈ n.leaves, l.isSpelled) →
      flatten? n.outline.block = some n.outline.line) ∧
    ∀ b : ClassBuilder, (∀ l ∈ b.leaves, l.isSpelled) →
      flatten? b.outline.block = some b.outline.line := by
  refine ⟨?_, ?_⟩
  · intro n hn
    have hmade : MadeOf Inline n.outline := Node.madeOf fun l hl => l.fits_of_isSpelled (hn l hl)
    exact hmade.flatten?_block
  · intro b hb
    have hmade : MadeOf Inline b.outline := b.madeOf fun l hl => l.fits_of_isSpelled (hb l hl)
    exact hmade.flatten?_block

/-- Empty names leave lines with a comma alone, and a string may look like the lines of a group. -/
theorem flatten?_block_eq_line_empty :
    let use : Node := .traitUse ⟨["", "A\\B"], .known 3 4⟩
    let body : List Node := [.returned (some (.string "\x7b\n    (,\n\x7d")) .unknown,
      .echo [.float ⟨0x8000000000000000, by decide⟩, .constFetch ""] .unknown]
    let n : Node := .classDecl ⟨"", .final, some "", [],
      [use, .method ⟨{}, false, "m,\n)", [], some body, .unknown⟩], .unknown⟩
    let b := ((ClassBuilder.new "").extend "").implement ["", "C", ""]
    flatten? n.outline.block = some n.outline.line ∧
    flatten? use.outline.block = some
      "TraitUse(TraitUse \x7b traits: [, A\\B], info: SourcePos \x7b line: 3, col: 4 \x7d \x7d)".toList ∧
    flatten? b.outline.block = some b.outline.line := by
  intro use body n b
  have hn : ∀ l ∈ n.leaves, l.isSpelled := by decide
  have huse : ∀ l ∈ use.leaves, l.isSpelled := by decide
  have hb : ∀ l ∈ b.leaves, l.isSpelled := by decide
  refine ⟨flatten?_block_eq_line.1 n hn, (flatten?_block_eq_line.1 use huse).trans (by decide), ?_⟩
  exact flatten?_block_eq_line.2 b hb

end ClassAssembly
