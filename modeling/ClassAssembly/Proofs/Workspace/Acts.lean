import ClassAssembly.Proofs.Workspace.Steps

/-! The acts that steps come to. A step does at most one operation on one builder, and beside that
it changes no builder but those that it displaces. -/

namespace ClassAssembly

/-- The registers whose builders a step puts another one in place of, or takes away. -/
def Step.displaces : Step → List String
  | .create k _ | .clone _ k => [k]
  | .operate _ op => op.moves
  | .keep .. | .edit .. => []

/-- The registers whose declarations a step puts another one in place of. -/
def Step.rewrites : Step → List String
  | .keep _ c | .edit c _ => [c]
  | .create .. | .clone .. | .operate .. => []

/-- All that happens in a step. One that is not carried out says nothing. -/
def Report.happened : Except Fault Report → List Event
  | .ok r => r.events
  | .error _ => []

/-- An operation that was done on the builder in a register, and what came of it. -/
structure Act where
  register : String
  op : Operation Member
  result : Except Fault Report

theorem Registers.get?_set_of_not_mem {α : Type} {r : Registers α} {k l : String} {x : α}
    (h : l ∉ [k]) : (r.set k x).get? l = r.get? l := by
  have hne : l ≠ k := fun he => h (List.mem_singleton.mpr he)
  exact get?_set.trans (if_neg hne)

namespace Workspace
variable {w : Workspace} {s : Step} {c : String} {a : Act}

/-- The act that a step comes to. There is none if a member cannot be made or no builder is
there. -/
def act? (w : Workspace) (s : Step) : Option Act :=
  match s with
  | .operate k op =>
    match op.resolve.run.run w with
    | (.ok made, v) => if (v.builders.get? k).isSome then some ⟨k, made, (w.step s).1⟩ else none
    | (.error _, _) => none
  | .keep k _ => if (w.builders.get? k).isSome then some ⟨k, .build, (w.step s).1⟩ else none
  | .create .. | .clone .. | .edit .. => none

/-- An act is what its operation comes to on the builder in its register, once the members are
made. -/
theorem exists_of_act? (h : w.act? s = some a) : ∃ (v : Workspace) (b : ClassBuilder),
    (∀ l, l ∉ s.displaces → v.builders.get? l = w.builders.get? l) ∧
      v.builders.get? a.register = some b ∧ (w.step s).1 = .ok (b.perform a.op).report ∧
      a.result = (w.step s).1 ∧
      (w.step s).2.builders = v.builders.set a.register (b.perform a.op).builder := by
  cases s with
  | operate k op =>
    have htakes := (op.takes_resolve w).1
    rcases hrun : op.resolve.run.run w with ⟨e | made, v⟩
    · simp [act?, hrun] at h
    · rw [hrun] at htakes
      cases hb : v.builders.get? k with
      | none => simp [act?, hrun, hb] at h
      | some b =>
        simp only [act?, hrun, hb, Option.isSome_some, if_true, Option.some.injEq] at h
        subst h
        refine ⟨v, b, htakes, hb, ?_, rfl, ?_⟩ <;> rw [step_operate, hrun] <;>
          simp only [run_perform, hb]
  | keep k c =>
    cases hb : w.builders.get? k with
    | none => simp [act?, hb] at h
    | some b =>
      simp only [act?, hb, Option.isSome_some, if_true, Option.some.injEq] at h
      subst h
      refine ⟨w, b, fun _ _ => rfl, hb, ?_, rfl, ?_⟩ <;> rw [step_keep, hb]
      rfl
  | _ => cases h

/-- A step that comes to no act says nothing, and leaves the builders but for those it displaces. -/
theorem step_of_act?_eq_none (h : w.act? s = none) : Report.happened (w.step s).1 = [] ∧
    ∀ l, l ∉ s.displaces → (w.step s).2.builders.get? l = w.builders.get? l := by
  cases s with
  | create k n =>
    exact ⟨rfl, fun l hl => Registers.get?_set_of_not_mem hl⟩
  | clone j k =>
    rw [step_clone]
    cases w.builders.get? j with
    | none => exact ⟨rfl, fun _ _ => rfl⟩
    | some b =>
      exact ⟨rfl, fun l hl => Registers.get?_set_of_not_mem hl⟩
  | operate k op =>
    have htakes := (op.takes_resolve w).1
    rw [step_operate]
    rcases hrun : op.resolve.run.run w with ⟨e | made, v⟩
    · rw [hrun] at htakes
      exact ⟨rfl, htakes⟩
    · rw [hrun] at htakes
      cases hb : v.builders.get? k with
      | none =>
        simp only [run_perform, hb]
        exact ⟨rfl, htakes⟩
      | some b => simp [act?, hrun, hb] at h
  | keep k c =>
    rw [step_keep]
    cases hb : w.builders.get? k with
    | none => exact ⟨rfl, fun _ _ => rfl⟩
    | some b => simp [act?, hb] at h
  | edit c edits =>
    rw [step_edit]
    cases w.classes.get? c with
    | none => exact ⟨rfl, fun _ _ => rfl⟩
    | some d =>
      dsimp only
      cases d.editAll? edits <;> exact ⟨rfl, fun _ _ => rfl⟩

theorem get?_classes_step (h : c ∉ s.rewrites) :
    (w.step s).2.classes.get? c = w.classes.get? c := by
  cases s with
  | create k n => rfl
  | clone j k =>
    rw [step_clone]
    cases w.builders.get? j <;> rfl
  | operate k op =>
    have htakes := (op.takes_resolve w).2
    rw [step_operate]
    rcases hrun : op.resolve.run.run w with ⟨e | made, v⟩
    · rw [hrun] at htakes
      exact congrArg (·.get? c) htakes
    · rw [hrun] at htakes
      simp only [run_perform]
      cases v.builders.get? k <;> exact congrArg (·.get? c) htakes
  | keep k c' =>
    rw [step_keep]
    cases w.builders.get? k with
    | none => rfl
    | some b => exact Registers.get?_set_of_not_mem h
  | edit c' edits =>
    rw [step_edit]
    cases w.classes.get? c' with
    | none => rfl
    | some d =>
      dsimp only
      cases d.editAll? edits with
      | none => rfl
      | some e => exact Registers.get?_set_of_not_mem h

end Workspace

end ClassAssembly
