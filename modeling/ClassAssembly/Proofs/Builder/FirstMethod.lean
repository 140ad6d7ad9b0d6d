import ClassAssembly.Proofs.Builder.History
import ClassAssembly.Proofs.ClassDecl.MethodSearch
import ClassAssembly.Proofs.ClassDecl.Queries

/-! Methods of builders, found by name. A builder puts methods behind those it has and takes none
away, so the first one of a name answers to it for ever, whatever comes behind. -/

namespace ClassAssembly.ClassBuilder

variable {b : ClassBuilder} {s : String} {m : Method} {op : Operation Member}
  {ops : List (Operation Member)}

/-- One operation of a run takes the method in, and up to then nothing answers to the name. -/
def TakesUp (b : ClassBuilder) (ops : List (Operation Member)) (s : String) (m : Method) : Prop :=
  ∃ pre op post, ops = pre ++ op :: post ∧ (b.after pre).declaration.findMethod? s = none ∧
    Node.FirstNamed s m op.accepted ∧ (b.after (pre ++ [op])).declaration.findMethod? s = some m

theorem methods_perform : (b.perform op).builder.declaration.methods =
    b.declaration.methods ++ op.accepted.filterMap Node.method? := by
  have hnone {k : Kind} (hk : k ≠ .method) :
      (Node.select k op.accepted).filterMap Node.method? = [] :=
    Node.method?_shows.filterMap_select_of_ne hk
  simp only [ClassDecl.methods, declaration, statements, ofKind_perform, List.filterMap_append,
    Node.method?_shows.filterMap_select]
  rw [hnone (by decide), hnone (by decide), hnone (by decide)]
  simp

theorem methods_after : (b.after ops).declaration.methods =
    b.declaration.methods ++ (ops.flatMap Operation.accepted).filterMap Node.method? := by
  induction ops generalizing b with
  | nil => simp [after]
  | cons op ops ih =>
    have hrest : (b.after (op :: ops)).declaration.methods =
        (b.perform op).builder.declaration.methods ++ (ops.flatMap Operation.accepted).filterMap Node.method? := ih
    rw [hrest, methods_perform, List.flatMap_cons, List.filterMap_append, List.append_assoc]

/-- What nothing answers to yet is answered by the first method of the name that is accepted. -/
theorem findMethod?_after_eq_some_iff (h : b.declaration.findMethod? s = none) :
    (b.after ops).declaration.findMethod? s = some m ↔
      Node.FirstNamed s m (ops.flatMap Operation.accepted) := by
  rw [ClassDecl.findMethod?] at h
  rw [ClassDecl.findMethod?, methods_after, List.find?_append, h, Option.none_or]
  exact ClassDecl.find?_answersTo_eq_some_iff

theorem answersAt_after (h : b.declaration.findMethod? s = some m) :
    ∃ i, ∀ ops, (b.after ops).declaration.AnswersAt s m i := by
  obtain ⟨i, hi⟩ := ClassDecl.exists_answersAt h
  refine ⟨i, ?_⟩
  intro ops
  apply hi.of_isPrefix
  rw [methods_after]
  exact List.prefix_append _ _

theorem takesUp_of_findMethod? (hb : b.declaration.findMethod? s = none)
    (h : (b.after ops).declaration.findMethod? s = some m) : b.TakesUp ops s m := by
  -- Once some method answers it answers at the end too, so it is the one that is found there.
  induction ops generalizing b with
  | nil => exact absurd (hb.symm.trans h) nofun
  | cons op ops ih =>
    cases hn : (b.perform op).builder.declaration.findMethod? s with
    | none =>
      obtain ⟨pre, op', post, rfl, hpre, hfirst, hfound⟩ := ih hn h
      exact ⟨op :: pre, op', post, rfl, hpre, hfirst, hfound⟩
    | some l =>
      obtain ⟨i, hl⟩ := answersAt_after hn
      obtain rfl : l = m := Option.some.inj ((hl ops).findMethod?_eq.symm.trans h)
      have hone : (b.after [op]).declaration.findMethod? s = some l := hn
      have hfirst := (findMethod?_after_eq_some_iff hb).mp hone
      rw [List.flatMap_singleton] at hfirst
      exact ⟨[], op, ops, rfl, hb, hfirst, hn⟩

/-- A name is answered by the first method in the body that has it, be it spelled with other cases
of its letters A to Z. Of a builder that is the method accepted first. It goes on answering, from
the same place, and a name that nothing answers to waits for a method of that name. -/
theorem findMethod?_first_accepted :
    (∀ (d : ClassDecl) (s : String),
      (∀ m, d.findMethod? s = some m ↔ Node.FirstNamed s m d.statements) ∧
      (d.findMethod? s = none ↔
        ∀ m : Method, .method m ∈ d.statements → ¬ SameButCase m.name s) ∧
      ∀ t, SameButCase s t → d.findMethod? s = d.findMethod? t) ∧
    (∀ s t, SameButCase s t →
      List.Forall₂ (fun c d => 128 ≤ c.toNat ∨ 128 ≤ d.toNat → c = d) s.toList t.toList) ∧
    (∀ name ops s m, ((new name).after ops).declaration.findMethod? s = some m ↔
      Node.FirstNamed s m (ops.flatMap Operation.accepted)) ∧
    (∀ (b : ClassBuilder) (s : String) (m : Method), b.declaration.findMethod? s = some m →
      ∃ i, ∀ ops, (b.after ops).declaration.AnswersAt s m i) ∧
    ∀ (b : ClassBuilder) (ops : List (Operation Member)) (s : String) (m : Method),
      b.declaration.findMethod? s = none →
      (b.after ops).declaration.findMethod? s = some m → b.TakesUp ops s m := by
  refine ⟨?_, ?_, ?_, ?_, ?_⟩
  · intro d s
    refine ⟨fun m => ClassDecl.findMethod?_eq_some_iff, ClassDecl.findMethod?_eq_none_iff, ?_⟩
    intro t h
    exact ClassDecl.findMethod?_congr (foldCase_eq_iff.mpr h)
  · intro s t h
    exact h.eq_of_le
  · intro name ops s m
    exact findMethod?_after_eq_some_iff rfl
  · intro b s m h
    exact answersAt_after h
  · intro b ops s m hb h
    exact takesUp_of_findMethod? hb h

/-- The second spelling comes too late, and the letter É is not the letter é. -/
theorem findMethod?_first_accepted_accent :
    let method (name : String) : Node := .method (.named name)
    let b := (new "C").after [.add (method "runé"), .makeFinal]
    let ops : List (Operation Member) :=
      [.add (.finished (.echo [] .unknown)), .addAll [.finished (method "runÉ"), method "RUNÉ"]]
    b.declaration.findMethod? "RunÉ" = none ∧ b.TakesUp ops "RunÉ" (.named "runÉ") ∧
      (∃ i, ∀ rest, ((b.after ops).after rest).declaration.AnswersAt "RunÉ" (.named "runÉ") i) ∧
      (b.after ops).declaration.findMethod? "RunÉ" = (b.after ops).declaration.findMethod? "rUNÉ" := by
  intro method b ops
  have hb : b.declaration.findMethod? "RunÉ" = none := rfl
  have h : (b.after ops).declaration.findMethod? "RunÉ" = some (.named "runÉ") := rfl
  obtain ⟨hsearch, -, -, hsettled, htaken⟩ := findMethod?_first_accepted
  have hcase : SameButCase "RunÉ" "rUNÉ" := foldCase_eq_iff.mp (by decide)
  exact ⟨hb, htaken b ops _ _ hb h, hsettled _ _ _ h, (hsearch _ _).2.2 _ hcase⟩

end ClassAssembly.ClassBuilder
