import ClassAssembly.Node.Erasure

/-! The form of a node whose names stand nowhere. All else stays, the places of nodes included. -/

namespace ClassAssembly

def Expression.bare : Expression → Expression
  | .literal v => .literal v
  | .constFetch n => .constFetch n.erase
  | .var n => .var n

def TraitUse.bare (u : TraitUse) : TraitUse := ⟨u.traits.map Name.erase, u.position⟩

def Const.bare (c : Const) : Const := ⟨c.name, c.value.bare⟩

def ClassConst.bare (c : ClassConst) : ClassConst := ⟨c.consts.map Const.bare, c.position⟩

def PropertyItem.bare (i : PropertyItem) : PropertyItem := ⟨i.name, i.initial.map Expression.bare⟩

def Property.bare (p : Property) : Property := ⟨p.flags, p.items.map PropertyItem.bare, p.position⟩

def Param.bare (p : Param) : Param :=
  ⟨p.name, p.declaredType.map Name.erase, p.initial.map Expression.bare, p.byReference, p.variadic,
    p.position⟩

mutual

def Node.bare : Node → Node
  | .traitUse u => .traitUse u.bare
  | .classConst c => .classConst c.bare
  | .property p => .property p.bare
  | .method m => .method m.bare
  | .classDecl d => .classDecl d.bare
  | .expression v p => .expression v.bare p
  | .echo vs p => .echo (vs.map Expression.bare) p
  | .returned v p => .returned (v.map Expression.bare) p

def Method.bare : Method → Method
  | ⟨flags, byReference, name, params, body, position⟩ =>
    ⟨flags, byReference, name, params.map Param.bare, Method.bareBody body, position⟩

def ClassDecl.bare : ClassDecl → ClassDecl
  | ⟨name, modifier, parent, interfaces, statements, position⟩ =>
    ⟨name.erase, modifier, parent.map Name.erase, interfaces.map Name.erase,
      Node.bareAll statements, position⟩

def Method.bareBody : Option (List Node) → Option (List Node)
  | none => none
  | some ns => some (Node.bareAll ns)

def Node.bareAll : List Node → List Node
  | [] => []
  | n :: ns => n.bare :: Node.bareAll ns

end

@[simp]
theorem Node.bareAll_eq_map (ns : List Node) : Node.bareAll ns = ns.map Node.bare := by
  induction ns with
  | nil => rfl
  | cons n ns ih => simp [Node.bareAll, ih]

@[simp]
theorem Method.bareBody_eq_map (b : Option (List Node)) :
    Method.bareBody b = b.map (List.map Node.bare) := by
  cases b <;> simp [Method.bareBody]

end ClassAssembly
