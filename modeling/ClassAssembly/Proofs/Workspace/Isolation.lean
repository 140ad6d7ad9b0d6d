import ClassAssembly.Proofs.Builder.History
import ClassAssembly.Proofs.Builder.Remarks
import ClassAssembly.Proofs.Workspace.Acts

/-! Builders that are worked on side by side. What becomes of one, what it answers and what it says
is decided by its own operations, from the state in which it came into its register, in whatever way
these are mixed with work on the others. -/

namespace ClassAssembly

/-- Whether an operation changes what a builder builds. -/
def Operation.isMutating : Operation Member → Bool
  | .extend _ | .implement _ | .makeAbstract | .makeFinal | .add _ | .addAll _ => true
  | .attach _ | .build | .getNode | .copy => false

namespace ClassBuilder
variable {b : ClassBuilder} {op : Operation Member} {ops : List (Operation Member)} {k : Kind}

theorem name_after : (b.after ops).name = b.name := by
  induction ops generalizing b with
  | nil => rfl
  | cons op ops ih => exact ih.trans name_perform

/-- Whatever the state that a builder is in, members come behind those it has. -/
theorem ofKind_after : (b.after ops).ofKind k =
    b.ofKind k ++ Node.select k (ops.flatMap Operation.accepted) := by
  induction ops generalizing b with
  | nil => exact (List.append_nil _).symm
  | cons op ops ih =>
    have hrest : ((b.perform op).builder.after ops).ofKind k = _ := ih
    rw [List.flatMap_cons, Node.select_append, ← List.append_assoc, ← ofKind_perform]
    exact hrest

theorem declaration_after (h : ∀ op ∈ ops, op.isMutating = false) :
    (b.after ops).declaration = b.declaration := by
  induction ops generalizing b with
  | nil => rfl
  | cons op ops ih =>
    have hop : (b.perform op).builder.declaration = b.declaration := by
      have hmutating := h op List.mem_cons_self
      cases op with
      | attach l | build | getNode | copy => rfl
      | _ => cases hmutating
    exact (ih fun o ho => h o (List.mem_cons_of_mem _ ho)).trans hop

/-- What is said goes on counting from the members that the builder had. -/
theorem events_perform_after : ((b.after ops).perform op).events =
    (b.after ops).utter op.preludes (op.remarks b.name.text fun k =>
      b.count k + (Node.select k (ops.flatMap Operation.accepted)).length) := by
  have hcount : (b.after ops).count = fun k =>
      b.count k + (Node.select k (ops.flatMap Operation.accepted)).length := by
    funext k
    rw [count, ofKind_after, List.length_append]
    rfl
  have hname : (b.after ops).name = b.name := name_after
  rw [← hcount, ← hname]
  exact events_perform

end ClassBuilder

namespace Workspace
variable {w : Workspace} {s : Step} {ss : List Step} {j k c : String} {b : ClassBuilder}
  {d : ClassDecl} {a : Act}

/-- The workspace after steps. -/
def after (w : Workspace) (ss : List Step) : Workspace := ss.foldl (fun w s => (w.step s).2) w

/-- All that happens in steps, in order. -/
def events (w : Workspace) : List Step → List Event
  | [] => []
  | s :: ss => Report.happened (w.step s).1 ++ (w.step s).2.events ss

/-- The acts that steps come to, in order. -/
def acts (w : Workspace) : List Step → List Act
  | [] => []
  | s :: ss => (w.act? s).toList ++ (w.step s).2.acts ss

/-- Those of the acts that were done on one builder. -/
def actsOn (w : Workspace) (k : String) (ss : List Step) : List Act :=
  (w.acts ss).filter (·.register = k)

def opsOn (w : Workspace) (k : String) (ss : List Step) : List (Operation Member) :=
  (w.actsOn k ss).map Act.op

theorem get?_step_of_act (hb : w.builders.get? k = some b) (hs : k ∉ s.displaces)
    (ha : w.act? s = some a) (hk : a.register = k) :
    a.result = .ok (b.perform a.op).report ∧
      (w.step s).2.builders.get? k = some (b.perform a.op).builder := by
  obtain ⟨v, c, hkept, hc, hreport, hresult, hset⟩ := exists_of_act? ha
  have hsame : b = c := by
    rw [hk, hkept k hs, hb] at hc
    exact Option.some.inj hc
  subst hsame
  refine ⟨hresult.trans hreport, ?_⟩
  rw [hset, Registers.get?_set, if_pos hk.symm]

theorem get?_step_of_ne (hb : w.builders.get? k = some b) (hs : k ∉ s.displaces)
    (hk : ∀ a, w.act? s = some a → a.register ≠ k) : (w.step s).2.builders.get? k = some b := by
  cases ha : w.act? s with
  | none => exact ((step_of_act?_eq_none ha).2 k hs).trans hb
  | some a =>
    obtain ⟨v, c, hkept, -, -, -, hset⟩ := exists_of_act? ha
    rw [hset, Registers.get?_set, if_neg (hk a ha).symm]
    exact (hkept k hs).trans hb

/-- A builder that stays in its register goes through its own operations, and no others. -/
theorem get?_after (hb : w.builders.get? k = some b) (hs : ∀ s ∈ ss, k ∉ s.displaces) :
    (w.after ss).builders.get? k = some (b.after (w.opsOn k ss)) ∧
      (w.actsOn k ss).map Act.result = (b.run (w.opsOn k ss)).map fun r => .ok r.report := by
  induction ss generalizing w b with
  | nil => exact ⟨hb, rfl⟩
  | cons s ss ih =>
    have hrest : ∀ t ∈ ss, k ∉ t.displaces := fun t ht => hs t (List.mem_cons_of_mem _ ht)
    have hnow : k ∉ s.displaces := hs s List.mem_cons_self
    by_cases hown : ∃ a, w.act? s = some a ∧ a.register = k
    · obtain ⟨a, ha, hk⟩ := hown
      obtain ⟨hresult, hnext⟩ := get?_step_of_act hb hnow ha hk
      have hacts : w.actsOn k (s :: ss) = a :: (w.step s).2.actsOn k ss := by
        simp [actsOn, acts, ha, hk]
      obtain ⟨hlater, hresults⟩ := ih hnext hrest
      rw [opsOn, hacts, List.map_cons, List.map_cons, hresult, hresults]
      exact ⟨hlater, rfl⟩
    · have hother : ∀ a, w.act? s = some a → a.register ≠ k := fun a ha hk => hown ⟨a, ha, hk⟩
      have hacts : w.actsOn k (s :: ss) = (w.step s).2.actsOn k ss := by
        cases ha : w.act? s with
        | none => simp [actsOn, acts, ha]
        | some a => simp [actsOn, acts, ha, hother a ha]
      rw [opsOn, hacts]
      exact ih (get?_step_of_ne hb hnow hother) hrest

theorem get?_classes_after (h : ∀ s ∈ ss, c ∉ s.rewrites) :
    (w.after ss).classes.get? c = w.classes.get? c := by
  induction ss generalizing w with
  | nil => rfl
  | cons s ss ih =>
    have hrest : ∀ t ∈ ss, c ∉ t.rewrites := fun t ht => h t (List.mem_cons_of_mem _ ht)
    exact (ih hrest).trans (get?_classes_step (h s List.mem_cons_self))

/-- Nothing happens but in acts. -/
theorem events_eq_flatMap_acts :
    w.events ss = (w.acts ss).flatMap fun a => Report.happened a.result := by
  induction ss generalizing w with
  | nil => rfl
  | cons s ss ih =>
    rw [events, acts, ih, List.flatMap_append]
    cases ha : w.act? s with
    | none =>
      rw [(step_of_act?_eq_none ha).1]
      rfl
    | some a =>
      obtain ⟨v, c, -, -, -, hresult, -⟩ := exists_of_act? ha
      simp [hresult]

theorem get?_step_clone (h : w.builders.get? j = some b) :
    (w.step (.clone j k)).1 = .ok ⟨.done, []⟩ ∧
      (w.step (.clone j k)).2.builders.get? k = some b := by
  rw [step_clone, h]
  exact ⟨rfl, Registers.get?_set.trans (if_pos rfl)⟩

/-- A clone begins as the builder it was made of, its logger included. From then on each builder
goes through its own operations as if it were alone: the same states, answers and records, counted
from the members it had. Declarations stay as they were put down, building again gives the same one
as long as nothing was changed, and the log is what the acts say, in the order of the calls. -/
theorem builders_go_alone :
    (∀ (w : Workspace) (j k : String) (b : ClassBuilder), w.builders.get? j = some b →
      (w.step (.clone j k)).1 = .ok ⟨.done, []⟩ ∧
        (w.step (.clone j k)).2.builders.get? k = some b) ∧
    (∀ (w : Workspace) (ss : List Step) (k : String) (b : ClassBuilder),
      w.builders.get? k = some b → (∀ s ∈ ss, k ∉ s.displaces) →
      (w.after ss).builders.get? k = some (b.after (w.opsOn k ss)) ∧
        (w.actsOn k ss).map Act.result = (b.run (w.opsOn k ss)).map (fun r => .ok r.report) ∧
        ((∀ op ∈ w.opsOn k ss, op.isMutating = false) →
          ((b.after (w.opsOn k ss)).perform .build).answer = (b.perform .build).answer)) ∧
    (∀ (w : Workspace) (ss : List Step) (c : String) (d : ClassDecl),
      w.classes.get? c = some d → (∀ s ∈ ss, c ∉ s.rewrites) →
      (w.after ss).classes.get? c = some d) ∧
    (∀ (w : Workspace) (ss : List Step),
      w.events ss = (w.acts ss).flatMap fun a => Report.happened a.result) ∧
    ∀ (b : ClassBuilder) (ops : List (Operation Member)) (op : Operation Member),
      ((b.after ops).perform op).events = (b.after ops).utter op.preludes
        (op.remarks b.name.text fun k =>
          b.count k + (Node.select k (ops.flatMap Operation.accepted)).length) := by
  refine ⟨?_, ?_, ?_, ?_, ?_⟩
  · intro w j k b h
    exact get?_step_clone h
  · intro w ss k b hb hs
    obtain ⟨hbuilder, hresults⟩ := get?_after hb hs
    refine ⟨hbuilder, hresults, ?_⟩
    intro hread
    exact congrArg Answer.built (ClassBuilder.declaration_after hread)
  · intro w ss c d hd hs
    exact (get?_classes_after hs).trans hd
  · intro w ss
    exact events_eq_flatMap_acts
  · intro b ops op
    exact ClassBuilder.events_perform_after

/-- A builder with one property is cloned. The clone takes in another one, is offered to the first
as it is then, and builds. Later on the first is made final. -/
theorem builders_go_alone_cloned :
    let size : Node := .property (.single "size")
    let a := (ClassBuilder.new "C").after [.attach (.capturing []), .add size]
    let b := a.after [.add size]
    let w := (({ builders := ⟨[("a", a)]⟩ } : Workspace).step (.clone "a" "b")).2
    let ss : List Step :=
      [.operate "b" (.add (.ready size)), .operate "a" (.add (.copied "b")), .keep "b" "c"]
    let rest : List Step := [.operate "a" .makeFinal, .operate "b" .build]
    w.builders.get? "b" = some a ∧ w.opsOn "b" ss = [.add size, .build] ∧
      (w.after ss).builders.get? "b" = some (a.after [.add size, .build]) ∧
      w.events ss = a.say (.added .property 2) ++ b.buildEvents ++ a.say (.rejected .classDecl)
        ++ b.buildEvents ∧
      ((w.after ss).after rest).classes.get? "c" = some b.declaration ∧
      ((b.after [.build]).perform .build).answer = (b.perform .build).answer := by
  intro size a b w ss rest
  have ha : w.builders.get? "b" = some a := (builders_go_alone.1 _ "a" "b" a rfl).2
  have hops : w.opsOn "b" ss = [.add size, .build] := by
    subst size a b w ss
    rfl
  have hafter := (builders_go_alone.2.1 w ss "b" a ha (by decide)).1
  rw [hops] at hafter
  have hevents : w.events ss = a.say (.added .property 2) ++ b.buildEvents
      ++ a.say (.rejected .classDecl) ++ b.buildEvents := by
    subst size a b w ss
    rfl
  have hc : (w.after ss).classes.get? "c" = some b.declaration := by
    subst size a b w ss
    rfl
  have hkept := builders_go_alone.2.2.1 (w.after ss) rest "c" b.declaration hc (by decide)
  have hb : (w.after ss).builders.get? "b" = some b := by
    subst size a b w ss
    rfl
  have hagain := (builders_go_alone.2.1 (w.after ss) rest "b" b hb (by decide)).2.2
  have hread : (w.after ss).opsOn "b" rest = [.build] := by
    subst size a b w ss rest
    rfl
  rw [hread] at hagain
  exact ⟨ha, hops, hafter, hevents, hkept, hagain (by decide)⟩

end Workspace

end ClassAssembly
