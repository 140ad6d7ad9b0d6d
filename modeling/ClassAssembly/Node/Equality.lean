import ClassAssembly.Node.Basic

/-! Equality of nodes. Places are ignored at every depth, and the two float zeros are one number. -/

namespace ClassAssembly

instance : BEq TraitUse := ⟨fun a b => a.traits == b.traits⟩

instance : BEq Const := ⟨fun a b => a.name == b.name && a.value == b.value⟩

instance : BEq ClassConst := ⟨fun a b => a.consts == b.consts⟩

instance : BEq PropertyItem := ⟨fun a b => a.name == b.name && a.initial == b.initial⟩

instance : BEq Property := ⟨fun a b => a.flags == b.flags && a.items == b.items⟩

instance : BEq Param := ⟨fun a b =>
  a.name == b.name && a.declaredType == b.declaredType && a.initial == b.initial
    && a.byReference == b.byReference && a.variadic == b.variadic⟩

mutual

def Node.same : Node → Node → Bool
  | .traitUse a, .traitUse b => a == b
  | .classConst a, .classConst b => a == b
  | .property a, .property b => a == b
  | .method a, .method b => a.same b
  | .classDecl a, .classDecl b => a.same b
  | .expression a _, .expression b _ => a == b
  | .echo a _, .echo b _ => a == b
  | .returned a _, .returned b _ => a == b
  | _, _ => false
termination_by structural a => a

def Method.same : Method → Method → Bool
  | ⟨fa, ra, na, pa, ba, _⟩, ⟨fb, rb, nb, pb, bb, _⟩ =>
    fa == fb && ra == rb && na == nb && pa == pb && Method.sameBody ba bb
termination_by structural a => a

def ClassDecl.same : ClassDecl → ClassDecl → Bool
  | ⟨na, ma, pa, ia, sa, _⟩, ⟨nb, mb, pb, ib, sb, _⟩ =>
    na == nb && ma == mb && pa == pb && ia == ib && Node.sameAll sa sb
termination_by structural a => a

def Method.sameBody : Option (List Node) → Option (List Node) → Bool
  | none, none => true
  | some a, some b => Node.sameAll a b
  | _, _ => false
termination_by structural a => a

def Node.sameAll : List Node → List Node → Bool
  | [], [] => true
  | a :: as, b :: bs => a.same b && Node.sameAll as bs
  | _, _ => false
termination_by structural a => a

end

instance : BEq Node := ⟨Node.same⟩

instance : BEq Method := ⟨Method.same⟩

instance : BEq ClassDecl := ⟨ClassDecl.same⟩

theorem Node.sameAll_eq_beq (as bs : List Node) : Node.sameAll as bs = (as == bs) := by
  induction as generalizing bs with
  | nil => cases bs <;> simp [Node.sameAll]
  | cons a as ih =>
    cases bs with
    | nil => simp [Node.sameAll]
    | cons b bs =>
      rw [Node.sameAll, ih, List.cons_beq_cons]
      rfl

end ClassAssembly
