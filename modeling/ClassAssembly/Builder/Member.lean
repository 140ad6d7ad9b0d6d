import ClassAssembly.Builder.Basic

/-! What a builder may be offered as a member, what comes of it, and why it may be refused. -/

namespace ClassAssembly

inductive Refusal
  /-- What was offered is neither a node nor a builder. -/
  | foreignValue
  /-- The node is of a kind that no class body holds. -/
  | nonMember (kind : Kind)
  deriving DecidableEq

namespace Refusal

def message : Refusal → String
  | .foreignValue => "Expected node or builder object"
  | .nonMember k => "Unexpected node of type \"" ++ k.typeName ++ "\""

def outline : Refusal → Outline
  | .foreignValue => .word "InvalidMemberArgument"
  | .nonMember k => .tuple "UnexpectedNodeKind" [.word k.label]

end Refusal

/-- A foreign builder: the nodes it answers one after the other, the last one for ever. -/
structure NodeSource where
  label : String
  next : Node
  later : List Node

namespace NodeSource

/-- The answer to a question, and what is left of the source. -/
def ask (s : NodeSource) : Node × NodeSource :=
  match s.later with
  | [] => (s.next, s)
  | n :: ns => (s.next, { s with next := n, later := ns })

end NodeSource

/-- Anything that makes a node when asked. -/
inductive Producer
  | source (source : NodeSource)
  | classBuilder (builder : ClassBuilder)

/-- A finished node, or something that has yet to make it. -/
inductive Member
  | finished (node : Node)
  | pending (producer : Producer)

/-- A node, and what happened until it was there. -/
structure Made where
  node : Node
  events : List Event

/-- A source is asked once, and its answer is the node. -/
def Producer.make : Producer → Made
  | .source s =>
    let answer := s.ask.1
    ⟨answer, [.asked s.label answer]⟩
  | .classBuilder b => ⟨.classDecl b.declaration, b.buildEvents⟩

namespace Member

def make : Member → Made
  | .finished n => ⟨n, []⟩
  | .pending p => p.make

/-- The node that the member comes to. -/
def node (m : Member) : Node := m.make.node

/-- What happens until it is there. -/
def events (m : Member) : List Event := m.make.events

def outline : Member → Outline
  | .finished n => .tuple "Node" [n.outline]
  | .pending _ => .word "Builder"

end Member

instance : Coe TraitUse Node := ⟨.traitUse⟩

instance : Coe ClassConst Node := ⟨.classConst⟩

instance : Coe Property Node := ⟨.property⟩

instance : Coe Method Node := ⟨.method⟩

instance : Coe ClassDecl Node := ⟨.classDecl⟩

instance : Coe Node Member := ⟨.finished⟩

instance : Coe Producer Member := ⟨.pending⟩

instance : Coe NodeSource Producer := ⟨.source⟩

instance : Coe ClassBuilder Producer := ⟨.classBuilder⟩

end ClassAssembly
