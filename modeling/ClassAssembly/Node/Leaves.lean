import ClassAssembly.Node.Basic

/-! The names and literals in a node, at every depth. -/

namespace ClassAssembly

/-- Whether a text has no other characters than a qualified name of ASCII letters has. -/
def Name.isSpelled (a : Name) : Bool :=
  a.text.toList.all fun c => c.isAlphanum || c == '_' || c == '\\'

inductive Leaf
  | name (value : Name)
  | literal (value : Literal)

/-- Neither a float nor a name that is empty or misspelled. -/
def Leaf.isPlain : Leaf → Bool
  | .name a => a.text != "" && a.isSpelled
  | .literal (.float _) => false
  | .literal _ => true

def Expression.leaves : Expression → List Leaf
  | .literal v => [.literal v]
  | .constFetch n => [.name n]
  | .var _ => []

def TraitUse.leaves (u : TraitUse) : List Leaf := u.traits.map .name

def ClassConst.leaves (c : ClassConst) : List Leaf := c.consts.flatMap fun d => d.value.leaves

def PropertyItem.leaves (i : PropertyItem) : List Leaf := i.initial.toList.flatMap Expression.leaves

def Property.leaves (p : Property) : List Leaf := p.items.flatMap PropertyItem.leaves

def Param.leaves (p : Param) : List Leaf :=
  p.declaredType.toList.map .name ++ p.initial.toList.flatMap Expression.leaves

mutual

def Node.leaves : Node → List Leaf
  | .traitUse u => u.leaves
  | .classConst c => c.leaves
  | .property p => p.leaves
  | .method m => m.leaves
  | .classDecl d => d.leaves
  | .expression v _ => v.leaves
  | .echo vs _ => vs.flatMap Expression.leaves
  | .returned v _ => v.toList.flatMap Expression.leaves

def Method.leaves : Method → List Leaf
  | ⟨_, _, _, params, body, _⟩ => params.flatMap Param.leaves ++ Method.leavesOfBody body

def ClassDecl.leaves : ClassDecl → List Leaf
  | ⟨name, _, parent, interfaces, statements, _⟩ =>
    (name :: parent.toList ++ interfaces).map .name ++ Node.leavesOfAll statements

def Method.leavesOfBody : Option (List Node) → List Leaf
  | none => []
  | some ns => Node.leavesOfAll ns

def Node.leavesOfAll : List Node → List Leaf
  | [] => []
  | n :: ns => n.leaves ++ Node.leavesOfAll ns

end

@[simp]
theorem Node.leavesOfAll_eq_flatMap (ns : List Node) :
    Node.leavesOfAll ns = ns.flatMap Node.leaves := by
  induction ns with
  | nil => rfl
  | cons n ns ih => simp [Node.leavesOfAll, ih]

@[simp]
theorem Method.leavesOfBody_eq_flatMap (b : Option (List Node)) :
    Method.leavesOfBody b = (b.getD []).flatMap Node.leaves := by
  cases b <;> simp [Method.leavesOfBody]

end ClassAssembly
