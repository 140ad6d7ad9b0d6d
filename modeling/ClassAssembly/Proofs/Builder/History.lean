import ClassAssembly.Proofs.Builder.Adding
import Mathlib.Data.List.Induction

/-! What a builder makes of a history of operations. The declaration is a function of the history
alone: the last parent, all interfaces, the last modifier, and the accepted members sorted by
kind. Hence every node stands with those of its kind. -/

namespace ClassAssembly

namespace Operation
variable {n : Node} {op : Operation Member}

/-- The parent that an operation sets. -/
def parent? : Operation Member → Option Name
  | .extend n => some n
  | _ => none

/-- The interfaces that an operation adds. -/
def interfaces : Operation Member → List Name
  | .implement ns => ns
  | _ => []

/-- The modifier that an operation sets. -/
def modifier? : Operation Member → Option ClassModifier
  | .makeAbstract => some .abstract
  | .makeFinal => some .final
  | _ => none

/-- The nodes that an operation makes members: none once a node of another kind was met. -/
def accepted : Operation Member → List Node
  | .add m => if m.node.kind.isMember then [m.node] else []
  | .addAll ms => (ms.map Member.node).takeWhile (·.kind.isMember)
  | _ => []

end Operation

namespace ClassBuilder
variable {b : ClassBuilder} {name : Name} {k l : Kind} {n : Node} {op : Operation Member}
  {ops : List (Operation Member)}

theorem name_perform : (b.perform op).builder.name = b.name := by
  cases op with
  | add m => exact (eq_of_header_eq header_add).1
  | addAll ms => exact (eq_of_header_eq header_addAll).1
  | _ => rfl

theorem parent_perform : (b.perform op).builder.parent = op.parent?.or b.parent := by
  cases op with
  | add m => exact (eq_of_header_eq header_add).2.1
  | addAll ms => exact (eq_of_header_eq header_addAll).2.1
  | _ => rfl

theorem interfaces_perform : (b.perform op).builder.interfaces = b.interfaces ++ op.interfaces := by
  cases op with
  | add m => exact (eq_of_header_eq header_add).2.2.1.trans (List.append_nil _).symm
  | addAll ms => exact (eq_of_header_eq header_addAll).2.2.1.trans (List.append_nil _).symm
  | implement ns => rfl
  | _ => exact (List.append_nil _).symm

theorem modifier_perform : (b.perform op).builder.modifier = op.modifier?.getD b.modifier := by
  cases op with
  | add m => exact (eq_of_header_eq header_add).2.2.2.1
  | addAll ms => exact (eq_of_header_eq header_addAll).2.2.2.1
  | _ => rfl

theorem ofKind_perform :
    (b.perform op).builder.ofKind k = b.ofKind k ++ Node.select k op.accepted := by
  cases op with
  | add m =>
    refine ofKind_add.trans ?_
    rw [Operation.accepted, Node.leading]
    cases h : m.node.kind.isMember <;> simp [h]
  | addAll ms => exact ofKind_addAll
  | _ => cases k <;> exact (List.append_nil _).symm

/-- The state of a builder is what a history tells: each list of members is the accepted nodes of
its kind, in the order they were accepted. -/
structure Tells (b : ClassBuilder) (name : Name) (ops : List (Operation Member)) : Prop where
  name_eq : b.name = name
  parent_eq : b.parent = (ops.filterMap Operation.parent?).getLast?
  interfaces_eq : b.interfaces = ops.flatMap Operation.interfaces
  modifier_eq : b.modifier = (ops.filterMap Operation.modifier?).getLast?.getD .plain
  ofKind_eq : ∀ k, b.ofKind k = Node.select k (ops.flatMap Operation.accepted)

theorem tells_new : (new name).Tells name [] := by
  refine ⟨rfl, rfl, rfl, rfl, ?_⟩
  intro k
  cases k <;> rfl

theorem getLast?_filterMap_concat {α β : Type} {f : α → Option β} {xs : List α} {x : α} :
    ((xs ++ [x]).filterMap f).getLast? = (f x).or (xs.filterMap f).getLast? := by
  cases h : f x <;> simp [h]

theorem Tells.perform (h : b.Tells name ops) : (b.perform op).builder.Tells name (ops ++ [op]) where
  name_eq := name_perform.trans h.name_eq
  parent_eq := by rw [parent_perform, h.parent_eq, getLast?_filterMap_concat]
  interfaces_eq := by rw [interfaces_perform, h.interfaces_eq]; simp
  modifier_eq := by
    rw [modifier_perform, h.modifier_eq, getLast?_filterMap_concat]
    cases op.modifier? <;> rfl
  ofKind_eq := by
    intro k
    rw [ofKind_perform, h.ofKind_eq]
    simp

theorem tells_after : ((new name).after ops).Tells name ops := by
  induction ops using List.reverseRecOn with
  | nil => exact tells_new
  | append_singleton ops op ih =>
    rw [after_append]
    exact ih.perform

/-- Every node stands with those of its kind. -/
def Grouped (b : ClassBuilder) : Prop := ∀ k, ∀ n ∈ b.ofKind k, n.kind = k

/-- Some operations lead from a new builder to this one. -/
def Reachable (b : ClassBuilder) : Prop := ∃ name ops, b = (new name).after ops

theorem Tells.grouped (h : b.Tells name ops) : b.Grouped := by
  intro k n hn
  rw [h.ofKind_eq] at hn
  exact (Node.mem_select.mp hn).2

theorem Reachable.grouped (h : b.Reachable) : b.Grouped := by
  obtain ⟨name, ops, rfl⟩ := h
  exact tells_after.grouped

theorem Grouped.select_ofKind (h : b.Grouped) :
    Node.select k (b.ofKind l) = if l = k then b.ofKind k else [] := by
  by_cases hl : l = k
  · subst hl
    rw [if_pos rfl]
    exact Node.select_eq_self (h l)
  · rw [if_neg hl]
    apply Node.select_eq_nil
    intro n hn he
    have hkind : n.kind = l := h l n hn
    exact hl (hkind.symm.trans he)

theorem Grouped.select_statements (h : b.Grouped) : Node.select k b.statements = b.ofKind k := by
  simp only [statements, Node.select_append, h.select_ofKind]
  cases k <;> simp [ofKind]

theorem Grouped.grouped_statements (h : b.Grouped) : Node.grouped b.statements = b.statements := by
  simp only [Node.grouped, h.select_statements]
  rfl

theorem Grouped.isMember_of_mem_statements (h : b.Grouped) (hn : n ∈ b.statements) :
    n.kind.isMember := by
  rw [← h.grouped_statements] at hn
  exact Node.isMember_of_mem_grouped hn

end ClassBuilder

end ClassAssembly
