import ClassAssembly.ClassDecl.Queries
import ClassAssembly.Log.Logger

/-! Builders of class declarations. The members come in any order; the body lists trait uses, then
constants, properties and methods, each in the order they came. -/

namespace ClassAssembly

/-- What happens while builders are at work. -/
inductive Event
  /-- A node source was asked, and gave an answer. -/
  | asked (label : String) (answer : Node)
  /-- A logger was given a record. -/
  | logged (logger : Logger) (record : LogRecord)

namespace Event

/-- The label of a source that was asked, with its answer. -/
def answer? : Event → Option (String × Node)
  | .asked s n => some (s, n)
  | .logged .. => none

/-- What is left of a record. -/
def entries (keep : Keeper) : Event → List Entry
  | .asked .. => []
  | .logged l r => keep l r

/-- What is left of it on a channel, as lines. -/
def lines (keep : Keeper) (c : Channel) (e : Event) : List String :=
  ((e.entries keep).filter (·.channel = c)).map (·.record.line)

end Event

structure ClassBuilder where
  name : Name
  parent : Option Name := none
  interfaces : List Name := []
  modifier : ClassModifier := .plain
  -- The members taken in, one list for each kind.
  uses : List Node := []
  constants : List Node := []
  properties : List Node := []
  methods : List Node := []
  logger : Logger := .discarding

namespace ClassBuilder
variable {b c : ClassBuilder} {n : Node}

def new (name : Name) : ClassBuilder := { name := name }

/-- From here on records go to the logger, with the name of the class. -/
def attach (b : ClassBuilder) (l : Logger) : ClassBuilder :=
  { b with logger := .child l [("class", b.name.text)] }

/-- Sets the parent class in place of an earlier one. -/
def extend (b : ClassBuilder) (parent : Name) : ClassBuilder := { b with parent := some parent }

/-- Adds interfaces behind the others. None is dropped for being there already. -/
def implement (b : ClassBuilder) (interfaces : List Name) : ClassBuilder :=
  { b with interfaces := b.interfaces ++ interfaces }

/-- Of abstract and final the last one set holds. -/
def makeAbstract (b : ClassBuilder) : ClassBuilder := { b with modifier := .abstract }

def makeFinal (b : ClassBuilder) : ClassBuilder := { b with modifier := .final }

/-- The builder with a node behind those of its kind, if a class body may hold it. -/
def insert? (b : ClassBuilder) (n : Node) : Option ClassBuilder :=
  match n with
  | .traitUse _ => some { b with uses := b.uses ++ [n] }
  | .classConst _ => some { b with constants := b.constants ++ [n] }
  | .property _ => some { b with properties := b.properties ++ [n] }
  | .method _ => some { b with methods := b.methods ++ [n] }
  | .classDecl _ | .expression .. | .echo .. | .returned .. => none

/-- The members taken in for a kind. -/
def ofKind (b : ClassBuilder) : Kind → List Node
  | .traitUse => b.uses
  | .classConst => b.constants
  | .property => b.properties
  | .method => b.methods
  | .classDecl | .expression | .echo | .returned => []

def count (b : ClassBuilder) (k : Kind) : Nat := (b.ofKind k).length

/-- The body. -/
def statements (b : ClassBuilder) : List Node :=
  b.ofKind .traitUse ++ b.ofKind .classConst ++ b.ofKind .property ++ b.ofKind .method

def declaration (b : ClassBuilder) : ClassDecl where
  name := b.name
  modifier := b.modifier
  parent := b.parent
  interfaces := b.interfaces
  statements := b.statements
  position := .unknown

/-- The logger is left out. -/
def outline (b : ClassBuilder) : Outline :=
  .record "ClassBuilder" [("name", b.name.outline), ("extends", .option Name.outline b.parent),
    ("implements", .list (b.interfaces.map Name.outline)), ("modifier", b.modifier.outline),
    ("uses", .list ((b.ofKind .traitUse).map Node.outline)),
    ("constants", .list ((b.ofKind .classConst).map Node.outline)),
    ("properties", .list ((b.ofKind .property).map Node.outline)),
    ("methods", .list ((b.ofKind .method).map Node.outline))]

/-- The builder gives a debug record to its logger. -/
def note (b : ClassBuilder) (message : String) (own : List LogField) : List Event :=
  [.logged b.logger ⟨.debug, message, own⟩]

/-- What happens on building. -/
def buildEvents (b : ClassBuilder) : List Event :=
  b.note ("building class " ++ b.name.text) [("members", toString b.statements.length)]

theorem insert?_isSome : (b.insert? n).isSome = n.kind.isMember := by
  cases n <;> rfl

/-- A node that is taken in comes behind those of its kind, and no other kind changes. -/
theorem ofKind_of_insert? (h : b.insert? n = some c) (k : Kind) :
    c.ofKind k = if n.kind = k then b.ofKind k ++ [n] else b.ofKind k := by
  cases n <;> simp only [insert?, Option.some.injEq, reduceCtorEq] at h <;> subst h <;>
    cases k <;> simp [ofKind, Node.kind]

end ClassBuilder

end ClassAssembly
