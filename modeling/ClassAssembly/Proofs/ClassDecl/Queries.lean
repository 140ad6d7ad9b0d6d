import ClassAssembly.Proofs.Node.Equality
import ClassAssembly.Proofs.Node.Order

/-! The queries of a declaration read the nodes of one kind each. Putting the body together kind by
kind leaves their answers, and equal declarations give answers of the same shape. -/

namespace ClassAssembly

namespace Node
variable {α : Type} {view : Node → Option α} {wrap : α → Node} {k : Kind} {ms ns : List Node}

/-- A view shows the nodes of a kind, each as the value it wraps, and no others. -/
structure Shows (view : Node → Option α) (wrap : α → Node) (k : Kind) : Prop where
  view_wrap : ∀ x, view (wrap x) = some x
  exists_wrap : ∀ n : Node, n.kind = k → ∃ x, n = wrap x
  view_eq_none : ∀ n : Node, n.kind ≠ k → view n = none

theorem traitUse?_shows : Shows traitUse? .traitUse .traitUse := by
  refine ⟨fun _ => rfl, ?_, ?_⟩ <;> intro n h <;> cases n <;>
    simp_all [kind, traitUse?]

theorem classConst?_shows : Shows classConst? .classConst .classConst := by
  refine ⟨fun _ => rfl, ?_, ?_⟩ <;> intro n h <;> cases n <;>
    simp_all [kind, classConst?]

theorem property?_shows : Shows property? .property .property := by
  refine ⟨fun _ => rfl, ?_, ?_⟩ <;> intro n h <;> cases n <;>
    simp_all [kind, property?]

theorem method?_shows : Shows method? .method .method := by
  refine ⟨fun _ => rfl, ?_, ?_⟩ <;> intro n h <;> cases n <;>
    simp_all [kind, method?]

/-- What a view shows, wrapped again, is the nodes of its kind. -/
theorem Shows.map_filterMap (h : Shows view wrap k) :
    (ns.filterMap view).map wrap = select k ns := by
  induction ns with
  | nil => rfl
  | cons n ns ih =>
    by_cases hn : n.kind = k
    · rw [select_cons, if_pos hn]
      obtain ⟨x, rfl⟩ := h.exists_wrap n hn
      rw [List.filterMap_cons_some (h.view_wrap x), List.map_cons, ih]
    · rw [select_cons, if_neg hn, List.filterMap_cons_none (h.view_eq_none n hn), ih]

theorem Shows.filterMap_select (h : Shows view wrap k) :
    (select k ns).filterMap view = ns.filterMap view := by
  have hview : view ∘ wrap = some := funext h.view_wrap
  rw [← h.map_filterMap, List.filterMap_map, hview, List.filterMap_some]

theorem Shows.filterMap_select_of_ne {l : Kind} (h : Shows view wrap k) (hl : l ≠ k) :
    (select l ns).filterMap view = [] := by
  rw [List.filterMap_eq_nil_iff]
  intro n hn
  apply h.view_eq_none
  rw [(mem_select.mp hn).2]
  exact hl

theorem Shows.filterMap_grouped (h : Shows view wrap k) (hk : k.isMember) :
    (grouped ns).filterMap view = ns.filterMap view := by
  rw [← h.filterMap_select, select_grouped hk, h.filterMap_select]

theorem select_map_erase : select k (ns.map erase) = (select k ns).map erase := by
  simp [select, List.filter_map, Function.comp_def]

theorem Shows.length_filterMap (h : Shows view wrap k) (he : ms.map erase = ns.map erase) :
    (ms.filterMap view).length = (ns.filterMap view).length := by
  have hlen (as : List Node) : (as.filterMap view).length = (select k (as.map erase)).length := by
    rw [select_map_erase, List.length_map, ← h.map_filterMap, List.length_map]
  rw [hlen, hlen, he]

theorem method?_erase (n : Node) : n.erase.method? = n.method?.map Method.erase := by
  cases n <;> rfl

theorem filterMap_method?_erase :
    (ns.map erase).filterMap method? = (ns.filterMap method?).map Method.erase := by
  rw [List.filterMap_map, List.map_filterMap]
  exact congrArg (List.filterMap · ns) (funext method?_erase)

end Node

namespace ClassDecl
variable {d e : ClassDecl} {s : String}

/-- The members of the body, kind by kind, as the queries give them. -/
def members (d : ClassDecl) : List Node :=
  d.traitUses.map .traitUse ++ d.constants.map .classConst ++ d.properties.map .property
    ++ d.methods.map .method

theorem members_eq_grouped : d.members = Node.grouped d.statements := by
  rw [members, traitUses, constants, properties, methods, Node.traitUse?_shows.map_filterMap,
    Node.classConst?_shows.map_filterMap, Node.property?_shows.map_filterMap,
    Node.method?_shows.map_filterMap, Node.grouped]

/-- Everything that may be asked of a declaration's body. -/
structure SameAnswers (d e : ClassDecl) : Prop where
  traitUses_eq : d.traitUses = e.traitUses
  constants_eq : d.constants = e.constants
  properties_eq : d.properties = e.properties
  methods_eq : d.methods = e.methods
  findMethod?_eq : ∀ s, d.findMethod? s = e.findMethod? s

theorem sameAnswers_of_statements (h : d.statements = Node.grouped e.statements) :
    d.SameAnswers e where
  traitUses_eq := by rw [traitUses, h, Node.traitUse?_shows.filterMap_grouped rfl, traitUses]
  constants_eq := by rw [constants, h, Node.classConst?_shows.filterMap_grouped rfl, constants]
  properties_eq := by rw [properties, h, Node.property?_shows.filterMap_grouped rfl, properties]
  methods_eq := by rw [methods, h, Node.method?_shows.filterMap_grouped rfl, methods]
  findMethod?_eq := by
    intro s
    rw [findMethod?, methods, h, Node.method?_shows.filterMap_grouped rfl, findMethod?, methods]

/-- Equal declarations answer alike: each query gives as many results, and the first method of a
name stands at the same place. -/
structure LikeAnswers (d e : ClassDecl) : Prop where
  length_traitUses : d.traitUses.length = e.traitUses.length
  length_constants : d.constants.length = e.constants.length
  length_properties : d.properties.length = e.properties.length
  length_methods : d.methods.length = e.methods.length
  methodIndex?_eq : ∀ s, d.methodIndex? s = e.methodIndex? s

theorem answersTo_erase (m : Method) : answersTo s m.erase = answersTo s m := by
  cases m
  rfl

theorem methodIndex?_eq_of_erase (h : d.statements.map Node.erase = e.statements.map Node.erase) :
    d.methodIndex? s = e.methodIndex? s := by
  have hidx (c : ClassDecl) : c.methodIndex? s =
      ((c.statements.map Node.erase).filterMap Node.method?).findIdx? (answersTo s) := by
    rw [Node.filterMap_method?_erase, List.findIdx?_map]
    exact congrArg (c.methods.findIdx? ·) (funext answersTo_erase).symm
  rw [hidx, hidx, h]

theorem statements_erase : d.erase.statements = d.statements.map Node.erase := by
  cases d
  exact Node.eraseAll_eq_map _

theorem likeAnswers_of_beq (h : d == e) : d.LikeAnswers e := by
  have hs := congrArg ClassDecl.statements ((kernel_erase d e).mp h)
  rw [statements_erase, statements_erase] at hs
  exact ⟨Node.traitUse?_shows.length_filterMap hs, Node.classConst?_shows.length_filterMap hs,
    Node.property?_shows.length_filterMap hs, Node.method?_shows.length_filterMap hs,
    fun _ => methodIndex?_eq_of_erase hs⟩

end ClassDecl

end ClassAssembly
