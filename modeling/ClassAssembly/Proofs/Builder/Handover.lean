import ClassAssembly.Builder.Untyped
import ClassAssembly.Proofs.Builder.Remarks

/-! The ways in which a node is handed to a builder. It may come as it is, as the value it wraps, or
from something that makes it, with its type known or not, and boxed any number of times. What the
builder does with it, and says of it, is the same. -/

namespace ClassAssembly

namespace Member
variable {u : Untyped}

/-- A value that no attempt takes is refused, and no other one is. -/
theorem ofUntyped_eq_error_iff : ofUntyped u = .error .foreignValue ↔
    ∀ attempt ∈ Untyped.attempts, attempt u = none := by
  rw [← List.findSome?_eq_none_iff, ofUntyped]
  cases Untyped.attempts.findSome? fun attempt => attempt u <;> simp

/-- The attempts miss no type but those of foreign values. -/
theorem ofUntyped_eq_error_iff_eq_other : ofUntyped u = .error .foreignValue ↔ u = .other := by
  rw [ofUntyped_eq]
  cases u <;> simp

end Member

/-- A value of a type that members are made of. -/
inductive Value
  | plain (node : Node)
  | traitUse (use : TraitUse)
  | classConst (const : ClassConst)
  | property (property : Property)
  | method (method : Method)
  | classDecl (decl : ClassDecl)
  | producer (producer : Producer)
  | classBuilder (builder : ClassBuilder)

namespace Value

/-- The node that comes with a value. -/
def node : Value → Node
  | .plain n => n
  | .traitUse u => .traitUse u
  | .classConst c => .classConst c
  | .property p => .property p
  | .method m => .method m
  | .classDecl d => .classDecl d
  | .producer p => p.make.node
  | .classBuilder b => .classDecl b.declaration

/-- What happens before the node is there: whatever makes it is asked once. -/
def events : Value → List Event
  | .producer p => p.make.events
  | .classBuilder b => b.buildEvents
  | .plain _ | .traitUse _ | .classConst _ | .property _ | .method _ | .classDecl _ => []

/-- The member that the value is made into where its type is known. -/
def member : Value → Member
  | .plain n => n
  | .traitUse u => (u : Node)
  | .classConst c => (c : Node)
  | .property p => (p : Node)
  | .method m => (m : Node)
  | .classDecl d => (d : Node)
  | .producer p => p
  | .classBuilder b => (b : Producer)

/-- The value where its type is not known. -/
def untyped : Value → Untyped
  | .plain n => .node n
  | .traitUse u => .traitUse u
  | .classConst c => .classConst c
  | .property p => .property p
  | .method m => .method m
  | .classDecl d => .classDecl d
  | .producer p => .producer p
  | .classBuilder b => .classBuilder b

end Value

/-- The way in which a value becomes a member. -/
inductive Route
  | typed (value : Value)
  | untyped (value : Value)
  /-- The member is boxed, and taken out as a value of unknown type. -/
  | boxed (route : Route)

namespace Route
variable {r : Route}

def value : Route → Value
  | .typed v | .untyped v => v
  | .boxed r => r.value

def member? : Route → Except Refusal Member
  | .typed v => .ok v.member
  | .untyped v => Member.ofUntyped v.untyped
  | .boxed r => r.member? >>= fun m => Member.ofUntyped (.member m)

/-- Every route leads to the member that the value is made into where its type is known. -/
theorem member?_eq : r.member? = .ok r.value.member := by
  induction r with
  | typed v => rfl
  | untyped v => cases v <;> rfl
  | boxed r ih =>
    rw [member?, ih]
    rfl

end Route

namespace ClassBuilder
variable {b : ClassBuilder} {m : Member} {v : Value}

theorem add_eq_add_node :
    b.add m = { b.add m.node with events := m.events ++ (b.add m.node).events } := rfl

theorem add_value :
    b.add v.member = { b.add v.node with events := v.events ++ (b.add v.node).events } := by
  cases v <;> exact add_eq_add_node

theorem add_of_not_isMember (h : m.node.kind.isMember = false) :
    b.add m = ⟨b, some (.nonMember m.node.kind), 1, m.events ++ b.say (.rejected m.node.kind)⟩ := by
  rw [add_eq, addNode, insert?_eq_none h]
  rfl

/-- However a node is handed over, the builder does the same with it and says the same, once
whatever makes the node was asked. A class builder comes to the class that it builds, so it is
always refused. A value is no member if it is of none of the types that are tried. -/
theorem add_route :
    (∀ (b : ClassBuilder) (r : Route), ∃ m, r.member? = .ok m ∧
      b.add m = { b.add r.value.node with
        events := r.value.events ++ (b.add r.value.node).events }) ∧
    (∀ (b c : ClassBuilder) (r : Route), r.value = .classBuilder c ∨ r.value = .producer c →
      ∃ m d, r.member? = .ok m ∧ (c.perform .build).answer = .built d ∧ m.node = .classDecl d ∧
        b.add m = ⟨b, some (.nonMember .classDecl), 1,
          c.buildEvents ++ b.say (.rejected .classDecl)⟩) ∧
    ∀ u : Untyped, (Member.ofUntyped u = .error .foreignValue ↔
        ∀ attempt ∈ Untyped.attempts, attempt u = none) ∧
      (Member.ofUntyped u = .error .foreignValue ↔ u = .other) := by
  refine ⟨?_, ?_, ?_⟩
  · intro b r
    exact ⟨r.value.member, r.member?_eq, add_value⟩
  · intro b c r hr
    have hmember : r.value.member = ((c : Producer) : Member) := by
      rcases hr with hr | hr <;> rw [hr] <;> rfl
    refine ⟨_, c.declaration, hmember ▸ r.member?_eq, rfl, rfl, ?_⟩
    exact add_of_not_isMember rfl
  · intro u
    exact ⟨Member.ofUntyped_eq_error_iff, Member.ofUntyped_eq_error_iff_eq_other⟩

/-- A source with two answers is boxed twice and asked once. A class builder with a logger of its
own is heard there before it is refused. -/
theorem add_route_boxed :
    let run : Node := .method (.named "run")
    let source : NodeSource := { label := "s", next := run, later := [.echo [] .unknown] }
    let inner := (new "D").attach (.capturing [("k", "v")])
    let b := (new "C").attach (.capturing [])
    let asked : Route := .boxed (.boxed (.untyped (.producer source)))
    let refused : Route := .boxed (.untyped (.classBuilder inner))
    (∃ m, asked.member? = .ok m ∧ (b.add m).builder.methods = [run] ∧
      (b.add m).events = .asked "s" run :: b.say (.added .method 1)) ∧
    (∃ m, refused.member? = .ok m ∧ (b.add m).builder = b ∧
      (b.add m).events = inner.say (.building "D" 0) ++ b.say (.rejected .classDecl)) ∧
    Member.ofUntyped .other = .error .foreignValue := by
  intro run source inner b asked refused
  obtain ⟨m, hm, hadd⟩ := add_route.1 b asked
  obtain ⟨n, d, hn, hd, hnode, hrefused⟩ := add_route.2.1 b inner refused (.inl rfl)
  refine ⟨⟨m, hm, ?_, ?_⟩, ⟨n, hn, ?_, ?_⟩, (add_route.2.2 .other).2.mpr rfl⟩
  · rw [hadd]
    rfl
  · rw [hadd]
    rfl
  · rw [hrefused]
  · rw [hrefused]
    rfl

end ClassBuilder

end ClassAssembly
