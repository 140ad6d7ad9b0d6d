import ClassAssembly.Node.Equality
import ClassAssembly.Node.Erasure
import ClassAssembly.Node.Kind

/-! Equality of nodes against erasure: two nodes are equal when nothing but places, and the sign of
a zero, tells them apart. -/

namespace ClassAssembly

/-- Values are equal when a function makes the same of them. -/
def Kernel {α β : Type} [BEq α] (f : α → β) : Prop := ∀ a b : α, a == b ↔ f a = f b

namespace Kernel
variable {α β : Type} [BEq α] {f : α → β}

theorem equivBEq (h : Kernel f) : EquivBEq α where
  rfl := (h _ _).mpr rfl
  symm hab := (h _ _).mpr ((h _ _).mp hab).symm
  trans hab hbc := (h _ _).mpr (((h _ _).mp hab).trans ((h _ _).mp hbc))

/-- Only the elements of one of the lists need be known to have the property: an induction over
nodes knows it of the statements inside one node. -/
theorem beq_list_iff {as bs : List α} (h : ∀ a ∈ as, ∀ b, a == b ↔ f a = f b) :
    as == bs ↔ as.map f = bs.map f := by
  induction as generalizing bs with
  | nil => cases bs <;> simp
  | cons a as ih =>
    cases bs with
    | nil => simp
    | cons b bs =>
      have ha := h a List.mem_cons_self b
      have has : as == bs ↔ as.map f = bs.map f := ih fun c hc => h c (List.mem_cons_of_mem _ hc)
      rw [List.cons_beq_cons, Bool.and_eq_true, ha, has, List.map_cons, List.map_cons,
        List.cons.injEq]

theorem list (h : Kernel f) : Kernel (List.map f) := fun _ _ => beq_list_iff fun a _ => h a

theorem option (h : Kernel f) : Kernel (Option.map f) := by
  intro a b
  cases a <;> cases b <;> simp
  exact h _ _

end Kernel

namespace Binary64
variable {a b : Binary64}

theorem beq_iff : a == b ↔ a = b ∨ a.isZero ∧ b.isZero := by
  have hbits : a.bits = b.bits ↔ a = b := by
    cases a
    cases b
    simp
  change (a.bits == b.bits || (a.isZero && b.isZero)) = true ↔ _
  rw [Bool.or_eq_true, beq_iff_eq, Bool.and_eq_true, hbits]

theorem ne_of_isZero (ha : a.isZero = true) (hb : b.isZero = false) : a ≠ b := by
  rintro rfl
  exact absurd (ha.symm.trans hb) nofun

theorem kernel_normal : Kernel normal := by
  intro a b
  rw [beq_iff]
  cases ha : a.isZero with
  | true =>
    cases hb : b.isZero with
    | true => simp [normal, ha, hb]
    | false =>
      have hz : zero ≠ b := ne_of_isZero rfl hb
      simp [normal, ha, hb, ne_of_isZero ha hb, hz]
  | false =>
    cases hb : b.isZero with
    | true =>
      have hz : a ≠ zero := (ne_of_isZero rfl ha).symm
      simp [normal, ha, hb, (ne_of_isZero hb ha).symm, hz]
    | false => simp [normal, ha, hb]

end Binary64

theorem Name.kernel_erase : Kernel Name.erase := by
  intro a b
  rw [beq_iff_text_eq]
  simp [erase]

theorem Expression.kernel_erase : Kernel Expression.erase := by
  intro a b
  change Expression.same a b = true ↔ _
  cases a with
  | literal u =>
    cases b with
    | literal v =>
      change Literal.same u v = true ↔ _
      cases u <;> cases v <;> simp [Literal.same, erase]
      exact Binary64.kernel_normal _ _
    | _ => cases u <;> simp [same, erase]
  | constFetch m =>
    cases b with
    | literal v => cases v <;> simp [same, erase]
    | constFetch n => simpa [same, erase] using Name.kernel_erase m n
    | var t => simp [same, erase]
  | var s =>
    cases b with
    | literal v => cases v <;> simp [same, erase]
    | constFetch n => simp [same, erase]
    | var t => simp [same, erase]

theorem TraitUse.kernel_erase : Kernel TraitUse.erase := by
  intro a b
  change (a.traits == b.traits) = true ↔ _
  rw [Name.kernel_erase.list]
  simp [erase]

theorem Const.kernel_erase : Kernel Const.erase := by
  intro a b
  change (a.name == b.name && a.value == b.value) = true ↔ _
  rw [Bool.and_eq_true, beq_iff_eq, Expression.kernel_erase]
  simp [erase]

theorem ClassConst.kernel_erase : Kernel ClassConst.erase := by
  intro a b
  change (a.consts == b.consts) = true ↔ _
  rw [Const.kernel_erase.list]
  simp [erase]

theorem PropertyItem.kernel_erase : Kernel PropertyItem.erase := by
  intro a b
  change (a.name == b.name && a.initial == b.initial) = true ↔ _
  rw [Bool.and_eq_true, beq_iff_eq, Expression.kernel_erase.option]
  simp [erase]

theorem Property.kernel_erase : Kernel Property.erase := by
  intro a b
  change (a.flags == b.flags && a.items == b.items) = true ↔ _
  rw [Bool.and_eq_true, beq_iff_eq, PropertyItem.kernel_erase.list]
  simp [erase]

theorem Param.kernel_erase : Kernel Param.erase := by
  intro a b
  change (a.name == b.name && a.declaredType == b.declaredType && a.initial == b.initial
    && a.byReference == b.byReference && a.variadic == b.variadic) = true ↔ _
  simp only [Bool.and_eq_true, beq_iff_eq, Name.kernel_erase.option _ _,
    Expression.kernel_erase.option _ _, erase, mk.injEq, and_true, and_assoc]

/-- What holds of a node as soon as it holds of the statements right inside it holds of all
nodes. -/
@[elab_as_elim]
theorem Node.induction {motive : Node → Prop}
    (traitUse : ∀ u, motive (.traitUse u)) (classConst : ∀ c, motive (.classConst c))
    (property : ∀ p, motive (.property p))
    (method : ∀ m : Method, (∀ n ∈ m.body.getD [], motive n) → motive (.method m))
    (classDecl : ∀ d : ClassDecl, (∀ n ∈ d.statements, motive n) → motive (.classDecl d))
    (expression : ∀ v p, motive (.expression v p)) (echo : ∀ vs p, motive (.echo vs p))
    (returned : ∀ v p, motive (.returned v p)) (n : Node) : motive n := by
  refine @Node.rec motive (fun m => ∀ n ∈ m.body.getD [], motive n)
    (fun d => ∀ n ∈ d.statements, motive n) (fun b => ∀ n ∈ b.getD [], motive n)
    (fun ns => ∀ n ∈ ns, motive n)
    traitUse classConst property method classDecl expression echo returned ?_ ?_ ?_ ?_ ?_ ?_ n
  · intro _ _ _ _ _ _ ih
    exact ih
  · intro _ _ _ _ _ _ ih
    exact ih
  · exact List.forall_mem_nil _
  · intro _ ih
    exact ih
  · exact List.forall_mem_nil _
  · intro n ns hn hns
    exact List.forall_mem_cons.mpr ⟨hn, hns⟩

section
variable {as bs : List Node} {a b : Option (List Node)}

theorem Node.sameAll_iff (h : ∀ a ∈ as, ∀ b, a == b ↔ a.erase = b.erase) :
    Node.sameAll as bs = true ↔ as.map Node.erase = bs.map Node.erase := by
  rw [Node.sameAll_eq_beq]
  exact Kernel.beq_list_iff h

theorem Method.sameBody_iff (h : ∀ n ∈ a.getD [], ∀ b, n == b ↔ n.erase = b.erase) :
    Method.sameBody a b = true ↔ a.map (List.map Node.erase) = b.map (List.map Node.erase) := by
  cases a <;> cases b <;> simp [Method.sameBody]
  exact Node.sameAll_iff h

end

theorem Method.beq_iff_of_body {a b : Method}
    (h : ∀ n ∈ a.body.getD [], ∀ b, n == b ↔ n.erase = b.erase) :
    a == b ↔ a.erase = b.erase := by
  change Method.same a b = true ↔ _
  obtain ⟨fa, ra, na, pa, ba, _⟩ := a
  obtain ⟨fb, rb, nb, pb, bb, _⟩ := b
  simp only [Method.same, Method.erase, Bool.and_eq_true, beq_iff_eq, Param.kernel_erase.list _ _,
    Method.sameBody_iff h, Method.eraseBody_eq_map, Method.mk.injEq, and_true, and_assoc]

theorem ClassDecl.beq_iff_of_statements {a b : ClassDecl}
    (h : ∀ n ∈ a.statements, ∀ b, n == b ↔ n.erase = b.erase) :
    a == b ↔ a.erase = b.erase := by
  change ClassDecl.same a b = true ↔ _
  obtain ⟨na, ma, pa, ia, sa, _⟩ := a
  obtain ⟨nb, mb, pb, ib, sb, _⟩ := b
  simp only [ClassDecl.same, ClassDecl.erase, Bool.and_eq_true, beq_iff_eq, Name.kernel_erase _ _,
    Name.kernel_erase.option _ _, Name.kernel_erase.list _ _, Node.sameAll_iff h,
    Node.eraseAll_eq_map, ClassDecl.mk.injEq, and_true, and_assoc]

/-- The induction is on the first node. The second one is opened beside it: nodes of different kinds
differ on either side. -/
theorem Node.kernel_erase : Kernel Node.erase := by
  intro a
  induction a using Node.induction with
  | traitUse u =>
    intro b
    change Node.same _ b = true ↔ _
    cases b with
    | traitUse v => simpa [same, erase] using TraitUse.kernel_erase u v
    | _ => simp [same, erase]
  | classConst c =>
    intro b
    change Node.same _ b = true ↔ _
    cases b with
    | classConst d => simpa [same, erase] using ClassConst.kernel_erase c d
    | _ => simp [same, erase]
  | property p =>
    intro b
    change Node.same _ b = true ↔ _
    cases b with
    | property q => simpa [same, erase] using Property.kernel_erase p q
    | _ => simp [same, erase]
  | method m ih =>
    intro b
    change Node.same _ b = true ↔ _
    cases b with
    | method k =>
      have h : m.same k = true ↔ m.erase = k.erase := Method.beq_iff_of_body ih
      simpa [same, erase] using h
    | _ => simp [same, erase]
  | classDecl d ih =>
    intro b
    change Node.same _ b = true ↔ _
    cases b with
    | classDecl e =>
      have h : d.same e = true ↔ d.erase = e.erase := ClassDecl.beq_iff_of_statements ih
      simpa [same, erase] using h
    | _ => simp [same, erase]
  | expression v p =>
    intro b
    change Node.same _ b = true ↔ _
    cases b with
    | expression w q => simpa [same, erase] using Expression.kernel_erase v w
    | _ => simp [same, erase]
  | echo vs p =>
    intro b
    change Node.same _ b = true ↔ _
    cases b with
    | echo ws q => simpa [same, erase] using Expression.kernel_erase.list vs ws
    | _ => simp [same, erase]
  | returned v p =>
    intro b
    change Node.same _ b = true ↔ _
    cases b with
    | returned w q => simpa [same, erase] using Expression.kernel_erase.option v w
    | _ => simp [same, erase]

theorem ClassDecl.kernel_erase : Kernel ClassDecl.erase := fun _ _ =>
  ClassDecl.beq_iff_of_statements fun n _ => Node.kernel_erase n

instance : EquivBEq Expression := Expression.kernel_erase.equivBEq

instance : EquivBEq Node := Node.kernel_erase.equivBEq

instance : EquivBEq ClassDecl := ClassDecl.kernel_erase.equivBEq

@[simp]
theorem Node.kind_erase (n : Node) : n.erase.kind = n.kind := by
  cases n <;> rfl

theorem Node.kind_eq_of_beq {a b : Node} (h : a == b) : a.kind = b.kind := by
  rw [← a.kind_erase, (kernel_erase a b).mp h, b.kind_erase]

theorem equivalence_beq {α : Type} [BEq α] [EquivBEq α] : Equivalence fun a b : α => a == b :=
  ⟨fun _ => BEq.rfl, BEq.symm, BEq.trans⟩

/-- Equality of nodes, expressions and declarations is identity of what erasure leaves. -/
theorem beq_iff_erase_eq :
    ((∀ a b : Node, a == b ↔ a.erase = b.erase) ∧
      (∀ a b : Expression, a == b ↔ a.erase = b.erase) ∧
      ∀ a b : ClassDecl, a == b ↔ a.erase = b.erase) ∧
    (Equivalence (fun a b : Node => a == b) ∧ Equivalence (fun a b : Expression => a == b) ∧
      Equivalence fun a b : ClassDecl => a == b) ∧
    (∀ a b : Node, a != b ↔ ¬ a == b) ∧ ∀ a b : Node, a == b → a.kind = b.kind := by
  refine ⟨⟨Node.kernel_erase, Expression.kernel_erase, ClassDecl.kernel_erase⟩,
    ⟨equivalence_beq, equivalence_beq, equivalence_beq⟩, ?_, ?_⟩
  · intro a b
    rw [bne, Bool.not_eq_true', Bool.not_eq_true]
  · intro a b h
    exact Node.kind_eq_of_beq h

/-- A class that holds the negative zero somewhere, and one that holds zero elsewhere. -/
theorem beq_iff_erase_eq_zeros :
    let negative : Binary64 := ⟨0x8000000000000000, by decide⟩
    let a : Node := .classDecl ⟨"C", .plain, none, [], [.echo [.float negative] (.known 1 2)], .unknown⟩
    let b : Node := .classDecl ⟨⟨"C", .known 3 4⟩, .plain, none, [], [.echo [.float .zero] .unknown],
      .known 5 6⟩
    a ≠ b ∧ a == b ∧ a.erase = b.erase ∧ a.kind = b.kind := by
  intro negative a b
  have h : a == b := by decide
  exact ⟨by simp [a, b], h, (beq_iff_erase_eq.1.1 a b).mp h, beq_iff_erase_eq.2.2.2 a b h⟩

end ClassAssembly
