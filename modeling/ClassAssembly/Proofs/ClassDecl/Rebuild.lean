import ClassAssembly.Proofs.Builder.History
import ClassAssembly.Proofs.ClassDecl.Queries

/-! Building a declaration anew from its own parts. The body comes out kind by kind, so a
declaration that was built stays as it is, and the queries cannot tell the difference for any
other. -/

namespace ClassAssembly.ClassDecl

variable {d : ClassDecl} {k : Kind} {n : Node} {ns pre post : List Node}

/-- A builder that has been told all of a declaration but its body. -/
def outset (d : ClassDecl) : ClassBuilder :=
  let named := ClassBuilder.new d.name
  let heir := match d.parent with
    | some p => named.extend p
    | none => named
  let bound := heir.implement d.interfaces
  match d.modifier with
  | .plain => bound
  | .abstract => bound.makeAbstract
  | .final => bound.makeFinal

/-- The declaration that a builder makes of the parts of another one, if it takes in the body. -/
def rebuild (d : ClassDecl) : Except Refusal ClassDecl :=
  let o := d.outset.addAll (d.statements.map .finished)
  match o.refused with
  | none => .ok o.builder.declaration
  | some e => .error e

theorem outset_eq : d.outset =
    { name := d.name, parent := d.parent, interfaces := d.interfaces, modifier := d.modifier } := by
  unfold outset
  cases d.parent <;> cases d.modifier <;> rfl

theorem ofKind_outset : d.outset.ofKind k = [] := by
  rw [outset_eq]
  cases k <;> rfl

theorem map_node_finished : (ns.map Member.finished).map Member.node = ns := by
  rw [List.map_map]
  exact List.map_id ns

theorem rebuild_of_members (h : ∀ n ∈ d.statements, n.kind.isMember) :
    d.rebuild = .ok { d with statements := Node.grouped d.statements, position := .unknown } := by
  have hr : (d.outset.addAll (d.statements.map .finished)).refused = none := by
    rw [ClassBuilder.refused_addAll, map_node_finished, Node.firstStranger?_eq_none h]
    rfl
  have hk (k : Kind) : (d.outset.addAll (d.statements.map .finished)).builder.ofKind k =
      Node.select k d.statements := by
    rw [ClassBuilder.ofKind_addAll, ofKind_outset, map_node_finished, Node.leading_eq_self h,
      List.nil_append]
  simp only [rebuild, hr, ClassBuilder.declaration_of_header ClassBuilder.header_addAll hk]
  rw [outset_eq]

theorem rebuild_of_stranger (hs : d.statements = pre ++ n :: post)
    (hpre : ∀ m ∈ pre, m.kind.isMember) (hn : n.kind.isMember = false) :
    d.rebuild = .error (.nonMember n.kind) := by
  have hf : Node.firstStranger? d.statements = some n := by
    have hnone := Node.firstStranger?_eq_none hpre
    rw [Node.firstStranger?] at hnone ⊢
    simp [hs, List.find?_append, hnone, hn]
  have hr : (d.outset.addAll (d.statements.map .finished)).refused = some (.nonMember n.kind) := by
    rw [ClassBuilder.refused_addAll, map_node_finished, hf]
    rfl
  simp only [rebuild, hr]

theorem beq_iff_statements_beq {p : Position} :
    ({ d with statements := ns, position := p } : ClassDecl) == d ↔ d.statements == ns := by
  rw [kernel_erase, Node.kernel_erase.list]
  cases d
  simp [erase, eq_comm]

theorem rebuild_declaration {b : ClassBuilder} (h : b.Grouped) :
    b.declaration.rebuild = .ok b.declaration := by
  rw [rebuild_of_members fun n hn => h.isMember_of_mem_statements hn]
  congr 2
  exact h.grouped_statements

/-- Building a declaration anew succeeds if its body holds members only. No query tells the new one
from the old, a second time changes nothing, and the two are equal when the body was in order. -/
theorem rebuild_keeps_answers :
    (∀ d : ClassDecl, (∀ n ∈ d.statements, n.kind.isMember) →
      ∃ e, d.rebuild = .ok e ∧ e.SameAnswers d ∧ e.rebuild = .ok e ∧
        (e == d ↔ d.statements == d.members)) ∧
    (∀ (d : ClassDecl) (pre post : List Node) (n : Node), d.statements = pre ++ n :: post →
      (∀ m ∈ pre, m.kind.isMember) → n.kind.isMember = false →
      d.rebuild = .error (.nonMember n.kind)) ∧
    ∀ b : ClassBuilder, b.Reachable → b.declaration.rebuild = .ok b.declaration := by
  refine ⟨?_, ?_, ?_⟩
  · intro d h
    refine ⟨_, rebuild_of_members h, sameAnswers_of_statements rfl, ?_, ?_⟩
    · rw [rebuild_of_members fun n hn => Node.isMember_of_mem_grouped hn]
      simp
    · rw [members_eq_grouped]
      exact beq_iff_statements_beq
  · intro d pre post n hs hpre hn
    exact rebuild_of_stranger hs hpre hn
  · intro b h
    exact rebuild_declaration h.grouped

/-- A body with a method before a property comes back in another order. With an echo between them it
does not come back. -/
theorem rebuild_keeps_answers_unsorted :
    let run : Node := .method (.named "run")
    let size : Node := .property (.single "size")
    let d : ClassDecl := ⟨"C", .final, some "B", ["I"], [run, size], .known 1 2⟩
    let e : ClassDecl := ⟨"C", .final, some "B", ["I"], [run, .echo [] .unknown, size], .known 1 2⟩
    let b := (ClassBuilder.new "C").after [.add run, .makeFinal, .add size]
    (∃ c, d.rebuild = .ok c ∧ c.SameAnswers d ∧ c.rebuild = .ok c ∧ ¬ c == d) ∧
      e.rebuild = .error (.nonMember .echo) ∧ b.declaration.rebuild = .ok b.declaration := by
  intro run size d e b
  have hd : ∀ n ∈ d.statements, n.kind.isMember := by decide
  obtain ⟨c, hc, hsame, hagain, hiff⟩ := rebuild_keeps_answers.1 d hd
  have hne : ¬ c == d := fun h => absurd (hiff.mp h) (by decide)
  have he : e.rebuild = .error (.nonMember .echo) :=
    rebuild_keeps_answers.2.1 e [run] [size] (.echo [] .unknown) rfl (by decide) rfl
  exact ⟨⟨c, hc, hsame, hagain, hne⟩, he, rebuild_keeps_answers.2.2 b ⟨_, _, rfl⟩⟩

end ClassAssembly.ClassDecl
