import ClassAssembly.Proofs.Node.Bare
import ClassAssembly.Proofs.Node.Texts

/-! The one-line text of a node or builder tells all of it but the places of names, and the logger
of a builder. Nothing is said of those that hold floats. -/

namespace ClassAssembly
open Outline

/-- What is plain can be read back. -/
theorem Leaf.fits_of_isPlain {l : Leaf} (h : l.isPlain) : l.Fits IsToken := by
  rcases l with a | v
  · obtain ⟨hne, hspelled⟩ := Bool.and_eq_true_iff.mp h
    exact .inl ⟨by simpa using hne, a.isWord_of_isSpelled hspelled⟩
  · cases v with
    | float v => cases h
    | _ => trivial

theorem Plain.fitting {ls : List Leaf} (h : Plain ls) : Fitting IsToken ls :=
  fun l hl => l.fits_of_isPlain (h l hl)

theorem Node.legible {n : Node} (h : Plain n.leaves) : Legible n.outline :=
  (Node.madeOf h.fitting).legible

namespace ClassBuilder
variable {b : ClassBuilder}

/-- The builder with names that stand nowhere, and no logger that anyone hears. -/
def bare (b : ClassBuilder) : ClassBuilder where
  name := b.name.erase
  parent := b.parent.map Name.erase
  interfaces := b.interfaces.map Name.erase
  modifier := b.modifier
  uses := b.uses.map Node.bare
  constants := b.constants.map Node.bare
  properties := b.properties.map Node.bare
  methods := b.methods.map Node.bare

theorem plain_of_mem_ofKind (h : Plain b.leaves) (k : Kind) : ∀ n ∈ b.ofKind k, Plain n.leaves :=
  fun _ hn l hl => h l (mem_leaves_of_mem_ofKind hn hl)

theorem discern (h : Plain b.leaves) : Discern outline bare b := by
  intro c
  have hparent := Name.discern_option b.parent c.parent
  have hinterfaces := Name.discern_list b.interfaces c.interfaces
  have hkind (k : Kind) : Discern (List.map Node.outline) (List.map Node.bare) (b.ofKind k) :=
    .map_list fun n hn => Node.discern (plain_of_mem_ofKind h k n hn)
  have huses : Discern _ _ b.uses := hkind .traitUse
  have hconstants : Discern _ _ b.constants := hkind .classConst
  have hproperties : Discern _ _ b.properties := hkind .property
  have hmethods : Discern _ _ b.methods := hkind .method
  simp [outline, bare, ofKind, b.name.discern c.name, hparent, hinterfaces, huses c.uses,
    hconstants c.constants, hproperties c.properties, hmethods c.methods]

theorem legible (h : Plain b.leaves) : Legible b.outline := (madeOf h.fitting).legible

theorem line_eq_iff {c : ClassBuilder} (hb : Plain b.leaves) (hc : Plain c.leaves) :
    b.outline.line = c.outline.line ↔ b.bare = c.bare := by
  rw [(legible hb).line_inj (legible hc)]
  exact discern hb c

end ClassBuilder

theorem Node.line_eq_iff {a b : Node} (ha : Plain a.leaves) (hb : Plain b.leaves) :
    a.outline.line = b.outline.line ↔ a.bare = b.bare := by
  rw [(legible ha).line_inj (legible hb)]
  exact discern ha b

/-- Texts of nodes, and of builders, against sameness up to the places of names. -/
theorem line_eq_iff_bare_eq :
    (∀ a b : Node, Plain a.leaves → Plain b.leaves →
      (a.outline.line = b.outline.line ↔ a.bare = b.bare) ∧
      (a.outline.line = b.outline.line → a == b)) ∧
    ∀ a b : ClassBuilder, Plain a.leaves → Plain b.leaves →
      (a.outline.line = b.outline.line ↔ a.bare = b.bare) := by
  refine ⟨?_, fun a b => ClassBuilder.line_eq_iff⟩
  intro a b ha hb
  have hline : a.outline.line = b.outline.line ↔ a.bare = b.bare := Node.line_eq_iff ha hb
  exact ⟨hline, fun h => Node.beq_of_bare_eq (hline.mp h)⟩

/-- A string that looks like the end of one and the start of another is not read as two. -/
theorem line_eq_iff_bare_eq_nested :
    let decl (place : Position) (values : List Expression) : Node :=
      .classDecl ⟨⟨"A\\B", place⟩, .final, some ⟨"None", place⟩, [],
        [.method ⟨{}, false, "m", [], some [.echo values (.known 3 4)], .unknown⟩], .unknown⟩
    let a := decl .unknown [.string "a\", \"b"]
    let b := decl (.known 1 2) [.string "a\", \"b"]
    let c := decl .unknown [.string "a", .string "b"]
    let d := (ClassBuilder.new "D").extend "A\\B"
    let e := ((ClassBuilder.new "D").attach (.capturing [])).extend ⟨"A\\B", .known 5 6⟩
    a ≠ b ∧ a.outline.line = b.outline.line ∧ a == b ∧ a.outline.line ≠ c.outline.line ∧
      d.outline.line = e.outline.line := by
  intro decl a b c d e
  have ha : Plain a.leaves := by decide
  have hb : Plain b.leaves := by decide
  have hc : Plain c.leaves := by decide
  have hd : Plain d.leaves := by decide
  have he : Plain e.leaves := by decide
  obtain ⟨hline, hbeq⟩ := line_eq_iff_bare_eq.1 a b ha hb
  have hsame : a.outline.line = b.outline.line := hline.mpr rfl
  have hother : a.bare ≠ c.bare := by simp [a, c, decl, Node.bare, ClassDecl.bare, Method.bare]
  refine ⟨by simp [a, b, decl], hsame, hbeq hsame, ?_, ?_⟩
  · intro h
    exact hother ((line_eq_iff_bare_eq.1 a c ha hc).1.mp h)
  · exact (line_eq_iff_bare_eq.2 d e hd he).mpr rfl

end ClassAssembly
