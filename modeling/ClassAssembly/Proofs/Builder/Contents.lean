import ClassAssembly.Proofs.Builder.History
import ClassAssembly.Proofs.ClassDecl.Queries

/-! What a declaration tells of the builder that made it. Every query gives one of the lists of
members back, in order, and the body is these lists and nothing else. -/

namespace ClassAssembly.ClassBuilder

variable {b : ClassBuilder} {k : Kind} {n : Node}

/-- Each list of members holds nodes of its own kind only. -/
structure Homogeneous (b : ClassBuilder) : Prop where
  kind_of_mem_uses : ∀ n ∈ b.uses, n.kind = .traitUse
  kind_of_mem_constants : ∀ n ∈ b.constants, n.kind = .classConst
  kind_of_mem_properties : ∀ n ∈ b.properties, n.kind = .property
  kind_of_mem_methods : ∀ n ∈ b.methods, n.kind = .method

/-- The answers to the queries, wrapped again, are the lists of members of the builder. -/
structure Shown (b : ClassBuilder) (d : ClassDecl) : Prop where
  traitUses_eq : d.traitUses.map .traitUse = b.uses
  constants_eq : d.constants.map .classConst = b.constants
  properties_eq : d.properties.map .property = b.properties
  methods_eq : d.methods.map .method = b.methods

theorem Grouped.homogeneous (h : b.Grouped) : b.Homogeneous :=
  ⟨h .traitUse, h .classConst, h .property, h .method⟩

theorem Grouped.map_filterMap_statements {α : Type} {view : Node → Option α} {wrap : α → Node}
    (h : b.Grouped) (hview : Node.Shows view wrap k) :
    (b.statements.filterMap view).map wrap = b.ofKind k := by
  rw [hview.map_filterMap, h.select_statements]

theorem Grouped.shown (h : b.Grouped) : b.Shown b.declaration where
  traitUses_eq := h.map_filterMap_statements Node.traitUse?_shows
  constants_eq := h.map_filterMap_statements Node.classConst?_shows
  properties_eq := h.map_filterMap_statements Node.property?_shows
  methods_eq := h.map_filterMap_statements Node.method?_shows

theorem Grouped.members_declaration (h : b.Grouped) :
    b.declaration.members = b.declaration.statements := by
  rw [ClassDecl.members_eq_grouped]
  exact h.grouped_statements

theorem Grouped.kind_not_mem_of_mem_statements (h : b.Grouped) (hn : n ∈ b.statements) :
    n.kind ∉ [.classDecl, .expression, .echo, .returned] := by
  have hmember := h.isMember_of_mem_statements hn
  intro hk
  cases hkind : n.kind <;> simp_all [Kind.isMember]

/-- Whatever was done to a builder, each of its lists holds nodes of its own kind. What it builds
shows every list through a query, and holds nothing else in its body. -/
theorem answer_build_shown (h : b.Reachable) :
    b.Homogeneous ∧ ∃ d, (b.perform .build).answer = .built d ∧ b.Shown d ∧
      d.members = d.statements ∧
      ∀ n ∈ d.statements, n.kind ∉ [.classDecl, .expression, .echo, .returned] := by
  have hb := h.grouped
  refine ⟨hb.homogeneous, b.declaration, rfl, hb.shown, hb.members_declaration, ?_⟩
  intro n hn
  exact hb.kind_not_mem_of_mem_statements hn

/-- A copy goes on after a method was taken and an echo refused with a property behind it. Then a
class is refused, and a source answers with a trait use. -/
theorem answer_build_shown_mixed :
    let run : Node := .method (.named "run")
    let size : Node := .property (.single "size")
    let use : Node := .traitUse { traits := ["T"] }
    let source : NodeSource := { label := "s", next := use, later := [run] }
    let b := (new "C").after [.add run, .addAll [.finished (.echo [] .unknown), size], .copy,
      .add (new "D" : Producer), .add (source : Producer)]
    b.uses = [use] ∧ b.properties = [] ∧ (∀ n ∈ b.methods, n.kind = .method) ∧
      ∃ d, (b.perform .build).answer = .built d ∧ d.methods.map .method = b.methods ∧
        d.members = d.statements ∧ use.kind ∉ [.classDecl, .expression, .echo, .returned] := by
  intro run size use source b
  obtain ⟨hlists, d, hd, hshown, hmembers, hkinds⟩ := answer_build_shown (b := b) ⟨_, _, rfl⟩
  have huse : use ∈ d.statements := by
    cases hd
    exact List.mem_cons_self
  exact ⟨rfl, rfl, hlists.kind_of_mem_methods, d, hd, hshown.methods_eq, hmembers,
    hkinds use huse⟩

end ClassAssembly.ClassBuilder
