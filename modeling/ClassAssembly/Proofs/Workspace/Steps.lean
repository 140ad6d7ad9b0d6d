import ClassAssembly.Proofs.Workspace.Offers

/-! What each step does to a workspace, and what it reports. -/

namespace ClassAssembly

def Reply.report (r : Reply) : Report := ⟨r.answer, r.events⟩

namespace Workspace
variable {w : Workspace} {k l c : String}

theorem run_builder : (Session.builder k).run.run w =
    (match w.builders.get? k with
    | some b => .ok b
    | none => .error (.noBuilder k), w) := by
  rw [Session.builder, Session.run_bind]
  change StateT.run (ExceptT.run (match w.builders.get? k with
    | some b => pure b
    | none => throw (.noBuilder k) : Session ClassBuilder)) w = _
  cases w.builders.get? k <;> rfl

theorem run_classDecl : (Session.classDecl c).run.run w =
    (match w.classes.get? c with
    | some d => .ok d
    | none => .error (.noClass c), w) := by
  rw [Session.classDecl, Session.run_bind]
  change StateT.run (ExceptT.run (match w.classes.get? c with
    | some d => pure d
    | none => throw (.noClass c) : Session ClassDecl)) w = _
  cases w.classes.get? c <;> rfl

theorem run_perform {op : Operation Member} : (Session.perform k op).run.run w =
    match w.builders.get? k with
    | some b => (.ok (b.perform op).report,
      { w with builders := w.builders.set k (b.perform op).builder })
    | none => (.error (.noBuilder k), w) := by
  rw [Session.perform, Session.run_bind, run_builder]
  cases w.builders.get? k <;> rfl

theorem step_clone : w.step (.clone l k) =
    match w.builders.get? l with
    | some b => (.ok ⟨.done, []⟩, { w with builders := w.builders.set k b })
    | none => (.error (.noBuilder l), w) := by
  rw [step, Session.step, Session.run_bind, run_builder]
  cases w.builders.get? l <;> rfl

theorem step_operate {op : Operation Offer} : w.step (.operate k op) =
    match op.resolve.run.run w with
    | (.ok made, v) => (Session.perform k made).run.run v
    | (.error e, v) => (.error e, v) := by
  rw [step, Session.step, Session.run_bind]
  rcases op.resolve.run.run w with ⟨_ | _, v⟩ <;> rfl

theorem step_keep : w.step (.keep k c) =
    match w.builders.get? k with
    | some b => (.ok (b.perform .build).report,
      { builders := w.builders.set k b, classes := w.classes.set c b.declaration })
    | none => (.error (.noBuilder k), w) := by
  rw [step, Session.step, Session.run_bind, run_builder]
  cases hb : w.builders.get? k with
  | none => rfl
  | some b =>
    have hperform : (Session.perform k .build).run.run
        { w with classes := w.classes.set c b.declaration } = _ := run_perform
    dsimp only at hperform ⊢
    rw [hb] at hperform
    exact hperform

theorem step_edit {edits : List Edit} : w.step (.edit c edits) =
    match w.classes.get? c with
    | some d =>
      match d.editAll? edits with
      | some e => (.ok ⟨.built e, []⟩, { w with classes := w.classes.set c e })
      | none => (.error .noStatement, w)
    | none => (.error (.noClass c), w) := by
  rw [step, Session.step, Session.run_bind, run_classDecl]
  cases w.classes.get? c with
  | none => rfl
  | some d =>
    dsimp only
    cases d.editAll? edits <;> rfl

end Workspace

end ClassAssembly
