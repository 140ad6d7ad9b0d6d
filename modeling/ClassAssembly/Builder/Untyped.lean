import ClassAssembly.Builder.Member

/-! Members out of values whose type is not known beforehand. -/

namespace ClassAssembly

/-- A value with its type beside it. -/
inductive Untyped
  | node (node : Node)
  | traitUse (use : TraitUse)
  | classConst (const : ClassConst)
  | property (property : Property)
  | method (method : Method)
  | classDecl (decl : ClassDecl)
  | member (member : Member)
  | producer (producer : Producer)
  | classBuilder (builder : ClassBuilder)
  /-- A value of any other type. -/
  | other

namespace Untyped

/-- What is tried on a value, in this order. Each attempt makes a member of the values of one type. -/
def attempts : List (Untyped → Option Member) :=
  [fun | .node n => some n | _ => none,
    fun | .traitUse u => some (u : Node) | _ => none,
    fun | .classConst c => some (c : Node) | _ => none,
    fun | .property p => some (p : Node) | _ => none,
    fun | .method m => some (m : Node) | _ => none,
    fun | .classDecl d => some (d : Node) | _ => none,
    fun | .member m => some m | _ => none,
    fun | .producer p => some p | _ => none,
    fun | .classBuilder b => some (b : Producer) | _ => none]

end Untyped

namespace Member
variable {u : Untyped}

/-- The first attempt that takes the value makes the member. A value that none takes is refused. -/
def ofUntyped (u : Untyped) : Except Refusal Member :=
  (Untyped.attempts.findSome? fun attempt => attempt u).elim (.error .foreignValue) .ok

/-- Nodes, members and builders are taken as they are. -/
theorem ofUntyped_eq : ofUntyped u =
    match u with
    | .node n => .ok n
    | .traitUse u => .ok (u : Node)
    | .classConst c => .ok (c : Node)
    | .property p => .ok (p : Node)
    | .method m => .ok (m : Node)
    | .classDecl d => .ok (d : Node)
    | .member m => .ok m
    | .producer p => .ok p
    | .classBuilder b => .ok (b : Producer)
    | .other => .error .foreignValue := by
  cases u <;> rfl

end Member

end ClassAssembly
