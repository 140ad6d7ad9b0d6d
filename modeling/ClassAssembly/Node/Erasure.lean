import ClassAssembly.Node.Basic

/-! Erasure: the form of a node without places, and with one zero. -/

namespace ClassAssembly

def Name.erase (a : Name) : Name := ⟨a.text, .unknown⟩

def Expression.erase : Expression → Expression
  | .literal (.float v) => .literal (.float v.normal)
  | .literal v => .literal v
  | .constFetch n => .constFetch n.erase
  | .var n => .var n

def TraitUse.erase (u : TraitUse) : TraitUse := ⟨u.traits.map Name.erase, .unknown⟩

def Const.erase (c : Const) : Const := ⟨c.name, c.value.erase⟩

def ClassConst.erase (c : ClassConst) : ClassConst := ⟨c.consts.map Const.erase, .unknown⟩

def PropertyItem.erase (i : PropertyItem) : PropertyItem := ⟨i.name, i.initial.map Expression.erase⟩

def Property.erase (p : Property) : Property := ⟨p.flags, p.items.map PropertyItem.erase, .unknown⟩

def Param.erase (p : Param) : Param :=
  ⟨p.name, p.declaredType.map Name.erase, p.initial.map Expression.erase, p.byReference, p.variadic,
    .unknown⟩

mutual

def Node.erase : Node → Node
  | .traitUse u => .traitUse u.erase
  | .classConst c => .classConst c.erase
  | .property p => .property p.erase
  | .method m => .method m.erase
  | .classDecl d => .classDecl d.erase
  | .expression v _ => .expression v.erase .unknown
  | .echo vs _ => .echo (vs.map Expression.erase) .unknown
  | .returned v _ => .returned (v.map Expression.erase) .unknown

def Method.erase : Method → Method
  | ⟨flags, byReference, name, params, body, _⟩ =>
    ⟨flags, byReference, name, params.map Param.erase, Method.eraseBody body, .unknown⟩

def ClassDecl.erase : ClassDecl → ClassDecl
  | ⟨name, modifier, parent, interfaces, statements, _⟩ =>
    ⟨name.erase, modifier, parent.map Name.erase, interfaces.map Name.erase,
      Node.eraseAll statements, .unknown⟩

def Method.eraseBody : Option (List Node) → Option (List Node)
  | none => none
  | some ns => some (Node.eraseAll ns)

def Node.eraseAll : List Node → List Node
  | [] => []
  | n :: ns => n.erase :: Node.eraseAll ns

end

@[simp]
theorem Node.eraseAll_eq_map (ns : List Node) : Node.eraseAll ns = ns.map Node.erase := by
  induction ns with
  | nil => rfl
  | cons n ns ih => simp [Node.eraseAll, ih]

@[simp]
theorem Method.eraseBody_eq_map (b : Option (List Node)) :
    Method.eraseBody b = b.map (List.map Node.erase) := by
  cases b <;> simp [Method.eraseBody]

end ClassAssembly
