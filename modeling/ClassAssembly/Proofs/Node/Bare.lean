import ClassAssembly.Node.Bare
import ClassAssembly.Node.Leaves
import ClassAssembly.Proofs.Node.Equality
import ClassAssembly.Proofs.Outline.Forms

/-! What the outline of a node tells: all but the places of names, unless there are floats. -/

namespace ClassAssembly
open Outline

/-- No float and no name that is empty or misspelled. -/
def Plain (ls : List Leaf) : Prop := ∀ l ∈ ls, l.isPlain

instance : DecidablePred Plain := fun ls => decidable_of_iff (ls.all Leaf.isPlain) List.all_eq_true

section
variable {α : Type} {ls ls' : List Leaf} {l : Leaf} {f : α → List Leaf} {as : List α}

@[simp]
theorem plain_append : Plain (ls ++ ls') ↔ Plain ls ∧ Plain ls' := List.forall_mem_append

@[simp]
theorem plain_singleton : Plain [l] ↔ l.isPlain := List.forall_mem_singleton

@[simp]
theorem plain_flatMap : Plain (as.flatMap f) ↔ ∀ a ∈ as, Plain (f a) := List.forall_mem_flatMap

end

@[simp]
theorem Position.outline_inj {p q : Position} : p.outline = q.outline ↔ p = q := by
  cases p <;> cases q <;> simp [outline]

@[simp]
theorem Visibility.outline_inj {v w : Visibility} : v.outline = w.outline ↔ v = w := by
  cases v <;> cases w <;> simp [outline]

@[simp]
theorem ClassModifier.outline_inj {m k : ClassModifier} : m.outline = k.outline ↔ m = k := by
  cases m <;> cases k <;> simp [outline]

@[simp]
theorem MemberFlags.outline_inj {f g : MemberFlags} : f.outline = g.outline ↔ f = g := by
  cases f
  cases g
  simp [outline]

theorem Name.discern (a : Name) : Discern Name.outline Name.erase a := by
  intro b
  simp [outline, erase]

theorem Name.discern_list (as : List Name) : Discern (List.map outline) (List.map erase) as :=
  .map_list fun a _ => a.discern

theorem Name.discern_option (o : Option Name) :
    Discern (Option.map outline) (Option.map erase) o :=
  .map_option fun a _ => a.discern

theorem Literal.discern {v : Literal} (h : (Leaf.literal v).isPlain) :
    Discern Literal.outline id v := by
  intro w
  cases v with
  | float => cases h
  | _ => cases w <;> simp [outline]

theorem Expression.discern {v : Expression} (h : Plain v.leaves) :
    Discern Expression.outline Expression.bare v := by
  intro w
  cases v with
  | literal v =>
    cases w with
    | literal w =>
      have hv : Discern Literal.outline id v := Literal.discern (plain_singleton.mp h)
      simpa [outline, bare] using hv w
    | _ => simp [outline, bare]
  | constFetch n =>
    cases w with
    | constFetch m => simpa [outline, bare] using n.discern m
    | _ => simp [outline, bare]
  | var n => cases w <;> simp [outline, bare]

theorem Expression.discern_list {vs : List Expression} (h : Plain (vs.flatMap leaves)) :
    Discern (List.map outline) (List.map bare) vs :=
  .map_list fun v hv => discern (plain_flatMap.mp h v hv)

theorem Expression.discern_option {o : Option Expression} (h : Plain (o.toList.flatMap leaves)) :
    Discern (Option.map outline) (Option.map bare) o :=
  .map_option fun v hv => discern (plain_flatMap.mp h v (Option.mem_toList.mpr hv))

theorem TraitUse.discern (u : TraitUse) : Discern TraitUse.outline TraitUse.bare u := by
  intro v
  have htraits := Name.discern_list u.traits v.traits
  simp [outline, bare, htraits]

theorem Const.discern {c : Const} (h : Plain c.value.leaves) :
    Discern Const.outline Const.bare c := by
  intro d
  have hvalue := Expression.discern h d.value
  simp [outline, bare, hvalue]

theorem ClassConst.discern {c : ClassConst} (h : Plain c.leaves) :
    Discern ClassConst.outline ClassConst.bare c := by
  intro d
  have hconsts : Discern (List.map Const.outline) (List.map Const.bare) c.consts :=
    .map_list fun e he => Const.discern (plain_flatMap.mp h e he)
  simp [outline, bare, hconsts d.consts]

theorem PropertyItem.discern {i : PropertyItem} (h : Plain i.leaves) :
    Discern PropertyItem.outline PropertyItem.bare i := by
  intro j
  have hinitial := Expression.discern_option h j.initial
  simp [outline, bare, hinitial]

theorem Property.discern {p : Property} (h : Plain p.leaves) :
    Discern Property.outline Property.bare p := by
  intro q
  have hitems : Discern (List.map PropertyItem.outline) (List.map PropertyItem.bare) p.items :=
    .map_list fun i hi => PropertyItem.discern (plain_flatMap.mp h i hi)
  simp [outline, bare, hitems q.items]

theorem Param.discern {p : Param} (h : Plain p.leaves) : Discern Param.outline Param.bare p := by
  intro q
  have htype := Name.discern_option p.declaredType q.declaredType
  have hinitial := Expression.discern_option (plain_append.mp h).2 q.initial
  simp [outline, bare, htype, hinitial]

theorem Method.discern_of_body {m : Method} (h : Plain m.leaves)
    (ih : ∀ n ∈ m.body.getD [], Plain n.leaves → Discern Node.outline Node.bare n) :
    Discern Method.outline Method.bare m := by
  obtain ⟨flags, byReference, name, params, body, position⟩ := m
  rintro ⟨flags', byReference', name', params', body', position'⟩
  obtain ⟨hparams, hleaves⟩ := plain_append.mp h
  rw [leavesOfBody_eq_flatMap] at hleaves
  have hparams : Discern (List.map Param.outline) (List.map Param.bare) params :=
    .map_list fun p hp => Param.discern (plain_flatMap.mp hparams p hp)
  have hbody : Discern (Option.map fun ns => list (ns.map Node.outline))
      (Option.map (List.map Node.bare)) body := by
    refine .map_option ?_
    rintro ns rfl ns'
    rw [list_inj]
    exact Discern.map_list (fun n hn => ih n hn (plain_flatMap.mp hleaves n hn)) ns'
  simp [outline, bare, hparams params', hbody body']

theorem ClassDecl.discern_of_statements {d : ClassDecl} (h : Plain d.leaves)
    (ih : ∀ n ∈ d.statements, Plain n.leaves → Discern Node.outline Node.bare n) :
    Discern ClassDecl.outline ClassDecl.bare d := by
  obtain ⟨name, modifier, parent, interfaces, statements, position⟩ := d
  rintro ⟨name', modifier', parent', interfaces', statements', position'⟩
  obtain ⟨-, hleaves⟩ := plain_append.mp h
  rw [Node.leavesOfAll_eq_flatMap] at hleaves
  have hparent := Name.discern_option parent parent'
  have hinterfaces := Name.discern_list interfaces interfaces'
  have hstatements : Discern (List.map Node.outline) (List.map Node.bare) statements :=
    .map_list fun n hn => ih n hn (plain_flatMap.mp hleaves n hn)
  simp [outline, bare, name.discern name', hparent, hinterfaces, hstatements statements']

/-- The outlines of nodes of different kinds have different tags, so both nodes are opened at
once. -/
theorem Node.discern {a : Node} (h : Plain a.leaves) : Discern Node.outline Node.bare a := by
  induction a using Node.induction with
  | traitUse u =>
    intro b
    cases b with
    | traitUse v => simpa [outline, bare] using u.discern v
    | _ => simp [outline, bare]
  | classConst c =>
    intro b
    cases b with
    | classConst d => simpa [outline, bare] using ClassConst.discern h d
    | _ => simp [outline, bare]
  | property p =>
    intro b
    cases b with
    | property q => simpa [outline, bare] using Property.discern h q
    | _ => simp [outline, bare]
  | method m ih =>
    intro b
    cases b with
    | method k => simpa [outline, bare] using Method.discern_of_body h ih k
    | _ => simp [outline, bare]
  | classDecl d ih =>
    intro b
    cases b with
    | classDecl e => simpa [outline, bare] using ClassDecl.discern_of_statements h ih e
    | _ => simp [outline, bare]
  | expression v p =>
    intro b
    cases b with
    | expression w q => simp [outline, bare, Expression.discern h w]
    | _ => simp [outline, bare]
  | echo vs p =>
    intro b
    cases b with
    | echo ws q => simp [outline, bare, Expression.discern_list h ws]
    | _ => simp [outline, bare]
  | returned v p =>
    intro b
    cases b with
    | returned w q => simp [outline, bare, Expression.discern_option h w]
    | _ => simp [outline, bare]

@[simp]
theorem Name.erase_erase (a : Name) : a.erase.erase = a.erase := by
  cases a
  rfl

@[simp]
theorem Expression.erase_bare (v : Expression) : v.bare.erase = v.erase := by
  cases v <;> rfl

@[simp]
theorem TraitUse.erase_bare (u : TraitUse) : u.bare.erase = u.erase := by
  simp [bare, erase]

@[simp]
theorem Const.erase_bare (c : Const) : c.bare.erase = c.erase := by
  simp [bare, erase]

@[simp]
theorem ClassConst.erase_bare (c : ClassConst) : c.bare.erase = c.erase := by
  simp [bare, erase]

@[simp]
theorem PropertyItem.erase_bare (i : PropertyItem) : i.bare.erase = i.erase := by
  simp [bare, erase, Function.comp_def]

@[simp]
theorem Property.erase_bare (p : Property) : p.bare.erase = p.erase := by
  simp [bare, erase]

@[simp]
theorem Param.erase_bare (p : Param) : p.bare.erase = p.erase := by
  simp [bare, erase, Function.comp_def]

theorem Node.erase_bare (n : Node) : n.bare.erase = n.erase := by
  induction n using Node.induction with
  | method m ih =>
    obtain ⟨flags, byReference, name, params, body, position⟩ := m
    have hbody : body.map (List.map fun n => n.bare.erase) = body.map (List.map Node.erase) :=
      Option.map_congr fun ns hns => List.map_congr_left fun n hn => ih n (by simp_all)
    simp [bare, erase, Method.bare, Method.erase, Function.comp_def, hbody]
  | classDecl d ih =>
    obtain ⟨name, modifier, parent, interfaces, statements, position⟩ := d
    have hstatements : statements.map (fun n => n.bare.erase) = statements.map Node.erase :=
      List.map_congr_left ih
    simp [bare, erase, ClassDecl.bare, ClassDecl.erase, Function.comp_def, hstatements]
  | _ => simp [bare, erase, Function.comp_def]

/-- Equality asks for less than sameness up to the places of names. -/
theorem Node.beq_of_bare_eq {a b : Node} (h : a.bare = b.bare) : a == b := by
  have herase : a.erase = b.erase := by
    rw [← a.erase_bare, h, b.erase_bare]
  exact (kernel_erase a b).mpr herase

end ClassAssembly
