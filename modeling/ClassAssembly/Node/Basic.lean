import ClassAssembly.Expression

/-! Statement nodes: the members of a class with their modifiers, class declarations, and the
statements of a body. -/

namespace ClassAssembly

/-- Who may use a member: everyone, the class and its heirs, or the class alone. -/
inductive Visibility
  | publicly
  | protectedly
  | privately
  deriving DecidableEq

/-- The modifiers of a property or method. -/
structure MemberFlags where
  visibility : Visibility := .publicly
  isStatic : Bool := false
  isAbstract : Bool := false
  isFinal : Bool := false
  deriving DecidableEq

/-- A class is at most one of abstract and final. -/
inductive ClassModifier
  | plain
  | abstract
  | final
  deriving DecidableEq

instance : Inhabited Visibility := ⟨.publicly⟩

instance : Inhabited MemberFlags := ⟨{}⟩

instance : Inhabited ClassModifier := ⟨.plain⟩

/-- The flags of a member that has nothing but a visibility. -/
def MemberFlags.ofVisibility (v : Visibility) : MemberFlags := { visibility := v }

/-- A clause `use A, B;` of a class body. -/
structure TraitUse where
  traits : List Name
  position : Position := .unknown
  deriving DecidableEq

structure Const where
  name : String
  value : Expression
  deriving DecidableEq

/-- A declaration `const A = 1, B = 2;`. -/
structure ClassConst where
  consts : List Const
  position : Position := .unknown
  deriving DecidableEq

/-- One of the names that a property declares, with its default value. -/
structure PropertyItem where
  name : String
  initial : Option Expression := none
  deriving DecidableEq

/-- A declaration `public $a = 1, $b;`. -/
structure Property where
  flags : MemberFlags := {}
  items : List PropertyItem
  position : Position := .unknown
  deriving DecidableEq

structure Param where
  name : String
  declaredType : Option Name := none
  initial : Option Expression := none
  byReference : Bool := false
  variadic : Bool := false
  position : Position := .unknown
  deriving DecidableEq

mutual

inductive Node
  | traitUse (use : TraitUse)
  | classConst (const : ClassConst)
  | property (property : Property)
  | method (method : Method)
  | classDecl (decl : ClassDecl)
  | expression (value : Expression) (position : Position)
  | echo (values : List Expression) (position : Position)
  | returned (value : Option Expression) (position : Position)

/-- A method. An abstract one has no body. -/
structure Method where
  flags : MemberFlags
  byReference : Bool
  name : String
  params : List Param
  body : Option (List Node)
  position : Position

structure ClassDecl where
  name : Name
  modifier : ClassModifier
  parent : Option Name
  interfaces : List Name
  statements : List Node
  position : Position

end

instance : Inhabited Node := ⟨.returned none .unknown⟩

/-- The declaration of one constant. -/
def ClassConst.single (name : String) (value : Expression) : ClassConst where
  consts := [⟨name, value⟩]

namespace Property

/-- A public property without a default value. -/
def single (name : String) : Property where
  items := [{ name := name }]

/-- Gives every name the same default value. -/
def withInitial (p : Property) (value : Expression) : Property :=
  { p with items := p.items.map fun item => { item with initial := some value } }

def names (p : Property) : List String := p.items.map PropertyItem.name

@[simp]
theorem names_withInitial (p : Property) (value : Expression) :
    (p.withInitial value).names = p.names := by
  simp [names, withInitial]

end Property

/-- A public method with an empty body. -/
def Method.named (name : String) : Method := ⟨{}, false, name, [], some [], .unknown⟩

def Method.isAbstract (m : Method) : Bool := m.flags.isAbstract

namespace Node

def position : Node → Position
  | .traitUse u => u.position
  | .classConst c => c.position
  | .property p => p.position
  | .method m => m.position
  | .classDecl d => d.position
  | .expression _ p | .echo _ p | .returned _ p => p

end Node

end ClassAssembly
