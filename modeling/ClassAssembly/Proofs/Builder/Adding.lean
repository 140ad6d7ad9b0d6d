import ClassAssembly.Builder.Operation
import ClassAssembly.Proofs.Node.Order
import Mathlib.Data.List.TakeWhile

/-! What adding members does to a builder: those before the first node of another kind come behind
the members of their kinds, and nothing else changes. -/

namespace ClassAssembly

namespace Node
variable {n : Node} {ns : List Node}

/-- The members before the first node that no class body holds. -/
def leading (ns : List Node) : List Node := ns.takeWhile (·.kind.isMember)

/-- The first node that no class body holds. -/
def firstStranger? (ns : List Node) : Option Node := ns.find? (!·.kind.isMember)

theorem leading_cons_of_isMember (h : n.kind.isMember) : leading (n :: ns) = n :: leading ns := by
  simp [leading, h]

theorem leading_cons_of_not_isMember (h : n.kind.isMember = false) : leading (n :: ns) = [] := by
  simp [leading, h]

theorem leading_eq_self (h : ∀ n ∈ ns, n.kind.isMember) : leading ns = ns :=
  List.takeWhile_eq_self_iff.mpr h

theorem firstStranger?_eq_none (h : ∀ n ∈ ns, n.kind.isMember) : firstStranger? ns = none := by
  simpa [firstStranger?] using h

end Node

namespace ClassBuilder
variable {b c : ClassBuilder} {n : Node} {k : Kind} {m : Member} {ms : List Member}

/-- The builder without its members. -/
def header (b : ClassBuilder) : ClassBuilder :=
  { b with uses := [], constants := [], properties := [], methods := [] }

theorem eq_of_header_eq (h : c.header = b.header) : c.name = b.name ∧ c.parent = b.parent ∧
    c.interfaces = b.interfaces ∧ c.modifier = b.modifier ∧ c.logger = b.logger := by
  cases b
  cases c
  simp_all [header]

theorem declaration_of_header {ns : List Node} (hh : c.header = b.header)
    (hk : ∀ k, c.ofKind k = Node.select k ns) :
    c.declaration = ⟨b.name, b.modifier, b.parent, b.interfaces, Node.grouped ns, .unknown⟩ := by
  obtain ⟨hname, hparent, hinterfaces, hmodifier, _⟩ := eq_of_header_eq hh
  simp only [declaration, statements, hk, hname, hparent, hinterfaces, hmodifier]
  rfl

theorem header_of_insert? (h : b.insert? n = some c) : c.header = b.header := by
  cases n <;> simp only [insert?, Option.some.injEq, reduceCtorEq] at h <;> subst h <;> rfl

theorem exists_insert? (h : n.kind.isMember) : ∃ c, b.insert? n = some c := by
  rw [← insert?_isSome (b := b)] at h
  exact Option.isSome_iff_exists.mp h

theorem insert?_eq_none (h : n.kind.isMember = false) : b.insert? n = none := by
  rw [← insert?_isSome (b := b)] at h
  exact Option.isNone_iff_eq_none.mp (by simpa using h)

@[simp]
theorem header_add : (b.add m).builder.header = b.header := by
  rw [builder_add]
  cases h : b.insert? m.node with
  | none => rfl
  | some c => exact header_of_insert? h

theorem ofKind_add :
    (b.add m).builder.ofKind k = b.ofKind k ++ Node.select k (Node.leading [m.node]) := by
  rw [builder_add]
  cases h : m.node.kind.isMember with
  | true =>
    obtain ⟨c, hc⟩ := exists_insert? (b := b) h
    rw [hc, Option.getD_some, ofKind_of_insert? hc, Node.leading_cons_of_isMember h,
      Node.select_cons]
    split <;> simp [Node.leading]
  | false => simp [insert?_eq_none h, Node.leading_cons_of_not_isMember h]

/-- A refused member leaves the builder as it was. -/
theorem builder_add_of_not_isMember (h : m.node.kind.isMember = false) : (b.add m).builder = b := by
  rw [builder_add, insert?_eq_none h]
  rfl

theorem refused_add_eq_none_iff : (b.add m).refused = none ↔ m.node.kind.isMember := by
  rw [refused_add, refused_addNode]
  split <;> simp_all

theorem refused_add_of_not_isMember (h : m.node.kind.isMember = false) :
    (b.add m).refused = some (.nonMember m.node.kind) := by
  rw [refused_add, refused_addNode, h]
  rfl

theorem taken_add : (b.add m).taken = 1 := by
  rw [add_eq, addNode]
  cases b.insert? m.node <;> rfl

theorem addAll_cons_of_isMember (h : m.node.kind.isMember) :
    b.addAll (m :: ms) =
      let rest := (b.add m).builder.addAll ms
      ⟨rest.builder, rest.refused, 1 + rest.taken, (b.add m).events ++ rest.events⟩ := by
  have hr : (b.add m).refused = none := refused_add_eq_none_iff.mpr h
  simp [addAll, hr, taken_add]

theorem addAll_cons_of_not_isMember (h : m.node.kind.isMember = false) :
    b.addAll (m :: ms) = b.add m := by
  apply addAll_cons_of_refused
  simp [refused_add_of_not_isMember h]

@[simp]
theorem header_addAll : (b.addAll ms).builder.header = b.header := by
  induction ms generalizing b with
  | nil => rfl
  | cons m ms ih =>
    cases h : m.node.kind.isMember with
    | true => simp [addAll_cons_of_isMember h, ih]
    | false => simp [addAll_cons_of_not_isMember h]

theorem ofKind_addAll : (b.addAll ms).builder.ofKind k =
    b.ofKind k ++ Node.select k (Node.leading (ms.map Member.node)) := by
  induction ms generalizing b with
  | nil => simp [addAll, Node.leading]
  | cons m ms ih =>
    rw [List.map_cons]
    cases h : m.node.kind.isMember with
    | true =>
      rw [addAll_cons_of_isMember h, Node.leading_cons_of_isMember h, ih, ofKind_add,
        Node.leading_cons_of_isMember h, List.append_assoc, ← Node.select_append]
      rfl
    | false =>
      rw [addAll_cons_of_not_isMember h, ofKind_add, Node.leading_cons_of_not_isMember h,
        Node.leading_cons_of_not_isMember h]

theorem refused_addAll : (b.addAll ms).refused =
    (Node.firstStranger? (ms.map Member.node)).map fun n => .nonMember n.kind := by
  induction ms generalizing b with
  | nil => rfl
  | cons m ms ih =>
    cases h : m.node.kind.isMember with
    | true => simp [addAll_cons_of_isMember h, ih, Node.firstStranger?, h]
    | false =>
      simp [addAll_cons_of_not_isMember h, refused_add, refused_addNode, Node.firstStranger?, h]

/-- A node that is refused is taken from those offered, and none behind it. -/
theorem taken_addAll : (b.addAll ms).taken =
    min ms.length ((Node.leading (ms.map Member.node)).length + 1) := by
  induction ms generalizing b with
  | nil => rfl
  | cons m ms ih =>
    rw [List.map_cons, List.length_cons]
    cases h : m.node.kind.isMember with
    | true =>
      have hrest := ih (b := (b.add m).builder)
      rw [addAll_cons_of_isMember h, Node.leading_cons_of_isMember h, List.length_cons]
      change 1 + _ = _
      omega
    | false =>
      rw [addAll_cons_of_not_isMember h, Node.leading_cons_of_not_isMember h, taken_add,
        List.length_nil]
      omega

end ClassBuilder

end ClassAssembly
