import ClassAssembly.ClassDecl.Queries

/-! The order of class bodies: nodes put together kind by kind are the stable sort by rank. -/

namespace ClassAssembly

/-- Where the members of a kind stand in a class body. -/
def Kind.rank : Kind → Nat
  | .traitUse => 0
  | .classConst => 1
  | .property => 2
  | .method => 3
  | .classDecl | .expression | .echo | .returned => 4

namespace Node
variable {k l : Kind} {m n : Node} {ms ns : List Node}

/-- The nodes of a kind, in order. -/
def select (k : Kind) (ns : List Node) : List Node := ns.filter (·.kind = k)

/-- The members among nodes, kind by kind. -/
def grouped (ns : List Node) : List Node :=
  select .traitUse ns ++ select .classConst ns ++ select .property ns ++ select .method ns

@[simp]
theorem select_nil : select k [] = [] := rfl

@[simp]
theorem select_append : select k (ms ++ ns) = select k ms ++ select k ns := List.filter_append ..

theorem select_cons :
    select k (n :: ns) = if n.kind = k then n :: select k ns else select k ns := by
  simp [select, List.filter_cons]

theorem mem_select : n ∈ select k ns ↔ n ∈ ns ∧ n.kind = k := by
  simp [select]

theorem select_eq_self (h : ∀ n ∈ ns, n.kind = k) : select k ns = ns := by
  simpa [select] using h

theorem select_eq_nil (h : ∀ n ∈ ns, n.kind ≠ k) : select k ns = [] := by
  simpa [select] using h

theorem select_select : select k (select l ns) = if l = k then select k ns else [] := by
  by_cases h : l = k
  · subst h
    rw [if_pos rfl]
    exact select_eq_self fun n hn => (mem_select.mp hn).2
  · rw [if_neg h]
    apply select_eq_nil
    intro n hn he
    have hl : n.kind = l := (mem_select.mp hn).2
    exact h (hl.symm.trans he)

theorem select_grouped (hk : k.isMember) : select k (grouped ns) = select k ns := by
  cases k <;> simp [Kind.isMember] at hk <;> simp [grouped, select_select]

@[simp]
theorem grouped_grouped : grouped (grouped ns) = grouped ns := by
  simp only [grouped, select_append, select_select]
  simp

theorem isMember_of_mem_grouped (h : n ∈ grouped ns) : n.kind.isMember := by
  simp only [grouped, List.mem_append, mem_select] at h
  rcases h with ((⟨_, h⟩ | ⟨_, h⟩) | ⟨_, h⟩) | ⟨_, h⟩ <;> rw [h] <;> rfl

end Node

end ClassAssembly
