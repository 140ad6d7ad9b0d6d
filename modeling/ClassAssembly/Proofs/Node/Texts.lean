import ClassAssembly.Builder.Basic
import ClassAssembly.Node.Leaves
import ClassAssembly.Proofs.Node.Equality
import ClassAssembly.Proofs.Outline.Texts

/-! The texts in the outline of a node are its names and its floats. All others are words or quoted.
Those of a builder are those of what it builds. -/

namespace ClassAssembly
open Outline

/-- The text of a name or of a float is of a sort. -/
def Leaf.Fits (P : List Char → Prop) : Leaf → Prop
  | .name a => P a.text.toList
  | .literal (.float v) => P v.written
  | .literal _ => True

/-- The texts of all leaves are of a sort. -/
def Fitting (P : List Char → Prop) (ls : List Leaf) : Prop := ∀ l ∈ ls, l.Fits P

/-- A name that is spelled as names are is a word, or empty. -/
theorem Name.isWord_of_isSpelled {a : Name} (h : a.isSpelled) : IsWord a.text.toList := by
  intro c hc
  have hchar := List.all_eq_true.mp h c hc
  simp only [isWordChar, hchar, Bool.true_or]

variable {P : List Char → Prop}

section
variable {α : Type} {ls ls' : List Leaf} {f : α → Outline} {leaves : α → List Leaf}

theorem fitting_append : Fitting P (ls ++ ls') ↔ Fitting P ls ∧ Fitting P ls' :=
  List.forall_mem_append

theorem madeOf_list_of_fitting {as : List α} (h : Fitting P (as.flatMap leaves))
    (hf : ∀ a ∈ as, Fitting P (leaves a) → MadeOf P (f a)) : MadeOf P (list (as.map f)) := by
  have hleaves := List.forall_mem_flatMap.mp h
  exact madeOf_list (List.forall_mem_map.mpr fun a ha => hf a ha (hleaves a ha))

theorem madeOf_option_of_fitting [TextSort P] {a? : Option α}
    (h : Fitting P (a?.toList.flatMap leaves))
    (hf : ∀ a ∈ a?, Fitting P (leaves a) → MadeOf P (f a)) : MadeOf P (option f a?) := by
  have hleaves := List.forall_mem_flatMap.mp h
  exact madeOf_option fun a ha => hf a ha (hleaves a (Option.mem_toList.mpr ha))

end

variable [TextSort P]

theorem Position.madeOf (p : Position) : MadeOf P p.outline := by
  cases p with
  | unknown => exact madeOf_word (by decide) (by decide)
  | known l c =>
    exact madeOf_record (by simp [IsWord, isWordChar]) (by simp [madeOf_uint64])

theorem Visibility.madeOf (v : Visibility) : MadeOf P v.outline := by
  cases v <;> exact madeOf_word (by decide) (by decide)

theorem ClassModifier.madeOf (m : ClassModifier) : MadeOf P m.outline := by
  cases m <;> exact madeOf_word (by decide) (by decide)

theorem MemberFlags.madeOf (f : MemberFlags) : MadeOf P f.outline :=
  madeOf_record (by simp [IsWord, isWordChar])
    (by simp [f.visibility.madeOf, madeOf_truth])

omit [TextSort P] in
theorem Name.madeOf {a : Name} (h : (Leaf.name a).Fits P) : MadeOf P a.outline := .atom h

/-- The names in the head of a class. -/
theorem Name.madeOf_head {name : Name} {parent : Option Name} {interfaces : List Name}
    (h : Fitting P ((name :: parent.toList ++ interfaces).map .name)) : MadeOf P name.outline ∧
      MadeOf P (option outline parent) ∧ MadeOf P (list (interfaces.map outline)) := by
  have hmade : ∀ a ∈ name :: parent.toList ++ interfaces, MadeOf P a.outline :=
    fun a ha => madeOf (h _ (List.mem_map_of_mem ha))
  obtain ⟨hhead, hinterfaces⟩ := List.forall_mem_append.mp hmade
  obtain ⟨hname, hparent⟩ := List.forall_mem_cons.mp hhead
  exact ⟨hname, madeOf_option fun a ha => hparent a (Option.mem_toList.mpr ha),
    madeOf_list (List.forall_mem_map.mpr hinterfaces)⟩

theorem Literal.madeOf {v : Literal} (h : (Leaf.literal v).Fits P) : MadeOf P v.outline := by
  cases v with
  | null => exact madeOf_word (by decide) (by decide)
  | bool v =>
    exact madeOf_record (by simp [IsWord, isWordChar]) (by simp [madeOf_truth])
  | int v =>
    exact madeOf_record (by simp [IsWord, isWordChar]) (by simp [madeOf_int64])
  | float v =>
    have hv : MadeOf P (tuple "NotNan" [.atom v.written]) :=
      madeOf_tuple (by decide) (List.forall_mem_singleton.mpr (.atom h))
    exact madeOf_record (by simp [IsWord, isWordChar]) (by simpa using hv)
  | string v =>
    exact madeOf_record (by simp [IsWord, isWordChar]) (by simp [madeOf_quoted])

theorem Expression.madeOf {v : Expression} (h : Fitting P v.leaves) : MadeOf P v.outline := by
  cases v with
  | literal v =>
    have hv : MadeOf P v.outline := Literal.madeOf (List.forall_mem_singleton.mp h)
    exact madeOf_record (by simp [IsWord, isWordChar]) (by simpa using hv)
  | constFetch n =>
    have hn : MadeOf P n.outline := Name.madeOf (List.forall_mem_singleton.mp h)
    exact madeOf_record (by simp [IsWord, isWordChar]) (by simpa using hn)
  | var n => exact madeOf_record (by simp [IsWord, isWordChar]) (by simp [madeOf_quoted])

theorem TraitUse.madeOf {u : TraitUse} (h : Fitting P u.leaves) : MadeOf P u.outline := by
  have htraits : MadeOf P (list (u.traits.map Name.outline)) :=
    madeOf_list (List.forall_mem_map.mpr fun a ha => Name.madeOf (h _ (List.mem_map_of_mem ha)))
  exact madeOf_record (by simp [IsWord, isWordChar])
    (by simp [htraits, u.position.madeOf])

theorem Const.madeOf {c : Const} (h : Fitting P c.value.leaves) : MadeOf P c.outline := by
  have hvalue := Expression.madeOf h
  exact madeOf_record (by simp [IsWord, isWordChar]) (by simp [madeOf_quoted, hvalue])

theorem ClassConst.madeOf {c : ClassConst} (h : Fitting P c.leaves) : MadeOf P c.outline := by
  have hconsts : MadeOf P (list (c.consts.map Const.outline)) :=
    madeOf_list_of_fitting h fun _ _ => Const.madeOf
  exact madeOf_record (by simp [IsWord, isWordChar])
    (by simp [hconsts, c.position.madeOf])

theorem PropertyItem.madeOf {i : PropertyItem} (h : Fitting P i.leaves) : MadeOf P i.outline := by
  have hinitial : MadeOf P (option Expression.outline i.initial) :=
    madeOf_option_of_fitting h fun _ _ => Expression.madeOf
  exact madeOf_record (by simp [IsWord, isWordChar])
    (by simp [madeOf_quoted, hinitial])

theorem Property.madeOf {p : Property} (h : Fitting P p.leaves) : MadeOf P p.outline := by
  have hitems : MadeOf P (list (p.items.map PropertyItem.outline)) :=
    madeOf_list_of_fitting h fun _ _ => PropertyItem.madeOf
  exact madeOf_record (by simp [IsWord, isWordChar])
    (by simp [p.flags.madeOf, hitems, p.position.madeOf])

theorem Param.madeOf {p : Param} (h : Fitting P p.leaves) : MadeOf P p.outline := by
  obtain ⟨htype, hinitial⟩ := fitting_append.mp h
  have htype : MadeOf P (option Name.outline p.declaredType) :=
    madeOf_option fun a ha =>
      Name.madeOf (htype _ (List.mem_map_of_mem (Option.mem_toList.mpr ha)))
  have hinitial : MadeOf P (option Expression.outline p.initial) :=
    madeOf_option_of_fitting hinitial fun _ _ => Expression.madeOf
  exact madeOf_record (by simp [IsWord, isWordChar])
    (by simp [madeOf_quoted, htype, hinitial, madeOf_truth, p.position.madeOf])

theorem Method.madeOf_of_body {m : Method} (h : Fitting P m.leaves)
    (ih : ∀ n ∈ m.body.getD [], Fitting P n.leaves → MadeOf P n.outline) :
    MadeOf P m.outline := by
  obtain ⟨flags, byReference, name, params, body, position⟩ := m
  obtain ⟨hparams, hleaves⟩ := fitting_append.mp h
  rw [leavesOfBody_eq_flatMap] at hleaves
  have hparams : MadeOf P (list (params.map Param.outline)) :=
    madeOf_list_of_fitting hparams fun _ _ => Param.madeOf
  have hbody : MadeOf P (option (fun ns => list (ns.map Node.outline)) body) := by
    refine madeOf_option ?_
    rintro ns rfl
    exact madeOf_list_of_fitting hleaves ih
  exact madeOf_record (by simp [IsWord, isWordChar])
    (by simp [flags.madeOf, madeOf_truth, madeOf_quoted, hparams, hbody, position.madeOf])

theorem ClassDecl.madeOf_of_statements {d : ClassDecl} (h : Fitting P d.leaves)
    (ih : ∀ n ∈ d.statements, Fitting P n.leaves → MadeOf P n.outline) : MadeOf P d.outline := by
  obtain ⟨name, modifier, parent, interfaces, statements, position⟩ := d
  obtain ⟨hnames, hleaves⟩ := fitting_append.mp h
  rw [Node.leavesOfAll_eq_flatMap] at hleaves
  obtain ⟨hname, hparent, hinterfaces⟩ := Name.madeOf_head hnames
  have hstatements : MadeOf P (list (statements.map Node.outline)) :=
    madeOf_list_of_fitting hleaves ih
  exact madeOf_record (by simp [IsWord, isWordChar])
    (by simp [hname, modifier.madeOf, hparent, hinterfaces, hstatements, position.madeOf])

theorem Node.madeOf {n : Node} (h : Fitting P n.leaves) : MadeOf P n.outline := by
  induction n using Node.induction with
  | traitUse u => exact madeOf_tuple (by decide) (by simp [TraitUse.madeOf h])
  | classConst c => exact madeOf_tuple (by decide) (by simp [ClassConst.madeOf h])
  | property p => exact madeOf_tuple (by decide) (by simp [Property.madeOf h])
  | method m ih => exact madeOf_tuple (by decide) (by simp [Method.madeOf_of_body h ih])
  | classDecl d ih =>
    exact madeOf_tuple (by decide) (by simp [ClassDecl.madeOf_of_statements h ih])
  | expression v p =>
    exact madeOf_record (by simp [IsWord, isWordChar])
      (by simp [Expression.madeOf h, p.madeOf])
  | echo vs p =>
    have hvalues : MadeOf P (list (vs.map Expression.outline)) :=
      madeOf_list_of_fitting h fun _ _ => Expression.madeOf
    exact madeOf_record (by simp [IsWord, isWordChar]) (by simp [hvalues, p.madeOf])
  | returned v p =>
    have hvalue : MadeOf P (option Expression.outline v) :=
      madeOf_option_of_fitting h fun _ _ => Expression.madeOf
    exact madeOf_record (by simp [IsWord, isWordChar]) (by simp [hvalue, p.madeOf])

namespace ClassBuilder
variable {b : ClassBuilder}

/-- The names and literals in what is built. -/
def leaves (b : ClassBuilder) : List Leaf := b.declaration.leaves

theorem mem_statements_of_mem_ofKind {k : Kind} {n : Node} (h : n ∈ b.ofKind k) :
    n ∈ b.statements := by
  cases k <;> simp_all [statements, ofKind]

theorem mem_leaves_of_mem_ofKind {k : Kind} {n : Node} {l : Leaf} (h : n ∈ b.ofKind k)
    (hl : l ∈ n.leaves) : l ∈ b.leaves := by
  have hbody : l ∈ Node.leavesOfAll b.statements := by
    rw [Node.leavesOfAll_eq_flatMap]
    exact List.mem_flatMap.mpr ⟨n, mem_statements_of_mem_ofKind h, hl⟩
  exact List.mem_append_right _ hbody

theorem madeOf (h : Fitting P b.leaves) : MadeOf P b.outline := by
  obtain ⟨hname, hparent, hinterfaces⟩ := Name.madeOf_head (fitting_append.mp h).1
  have hkind (k : Kind) : MadeOf P (list ((b.ofKind k).map Node.outline)) := by
    refine madeOf_list (List.forall_mem_map.mpr ?_)
    intro n hn
    exact Node.madeOf fun l hl => h l (mem_leaves_of_mem_ofKind hn hl)
  exact madeOf_record (by simp [IsWord, isWordChar])
    (by simp [hname, hparent, hinterfaces, b.modifier.madeOf, hkind])

end ClassBuilder

end ClassAssembly
