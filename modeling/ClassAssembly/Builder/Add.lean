import ClassAssembly.Builder.Member

/-! Adding members. -/

namespace ClassAssembly

/-- What comes of offering members. -/
structure Outcome where
  builder : ClassBuilder
  refused : Option Refusal
  /-- How many members were taken from those offered. -/
  taken : Nat
  events : List Event

namespace ClassBuilder
variable {b c : ClassBuilder} {m : Member} {n : Node} {ms ns : List Member}

/-- Adds a node. A refused one leaves the builder as it was. -/
def addNode (b : ClassBuilder) (n : Node) : Outcome :=
  match b.insert? n with
  | some c => ⟨c, none, 1, c.note ("added member of type " ++ n.kind.typeName)
      [("count", toString (c.count n.kind))]⟩
  | none => ⟨b, some (.nonMember n.kind), 1,
      b.note ("rejected member of type " ++ n.kind.typeName) []⟩

/-- Adds the node that a member comes to. -/
def add (b : ClassBuilder) (m : Member) : Outcome :=
  let made := m.make
  let o := b.addNode made.node
  { o with events := made.events ++ o.events }

/-- Adds members up to the first one refused. -/
def addAll (b : ClassBuilder) : List Member → Outcome
  | [] => ⟨b, none, 0, []⟩
  | m :: ms =>
    let o := b.add m
    match o.refused with
    | some _ => o
    | none =>
      let rest := o.builder.addAll ms
      ⟨rest.builder, rest.refused, o.taken + rest.taken, o.events ++ rest.events⟩

theorem refused_addNode :
    (b.addNode n).refused = if n.kind.isMember then none else some (.nonMember n.kind) := by
  cases n <;> rfl

/-- A member does what its node does, after what happens until the node is there. -/
theorem add_eq : b.add m =
    { b.addNode m.node with events := m.events ++ (b.addNode m.node).events } := rfl

theorem refused_add : (b.add m).refused = (b.addNode m.node).refused := rfl

theorem builder_add : (b.add m).builder = (b.insert? m.node).getD b := by
  rw [add_eq, addNode]
  cases b.insert? m.node <;> rfl

theorem addAll_cons_of_refused (h : (b.add m).refused.isSome) : b.addAll (m :: ms) = b.add m := by
  obtain ⟨e, he⟩ := Option.isSome_iff_exists.mp h
  simp [addAll, he]

end ClassBuilder

end ClassAssembly
