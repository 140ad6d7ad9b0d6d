import ClassAssembly.Node.Basic

/-! The kinds of nodes, and which of them a class body may hold. -/

namespace ClassAssembly

inductive Kind
  | traitUse
  | classConst
  | property
  | method
  | classDecl
  | expression
  | echo
  | returned
  deriving DecidableEq

namespace Kind

/-- The bare name of the kind. -/
def label : Kind → String
  | .traitUse => "TraitUse"
  | .classConst => "ClassConst"
  | .property => "Property"
  | .method => "ClassMethod"
  | .classDecl => "Class"
  | .expression => "Expression"
  | .echo => "Echo"
  | .returned => "Return"

/-- The name of the kind among all node types: every one here is a statement. -/
def typeName (k : Kind) : String := "Stmt_" ++ k.label

instance : ToString Kind := ⟨typeName⟩

/-- The kinds a class body may hold. -/
def isMember : Kind → Bool
  | .traitUse | .classConst | .property | .method => true
  | .classDecl | .expression | .echo | .returned => false

end Kind

def Node.kind : Node → Kind
  | .traitUse _ => .traitUse
  | .classConst _ => .classConst
  | .property _ => .property
  | .method _ => .method
  | .classDecl _ => .classDecl
  | .expression .. => .expression
  | .echo .. => .echo
  | .returned .. => .returned

end ClassAssembly
