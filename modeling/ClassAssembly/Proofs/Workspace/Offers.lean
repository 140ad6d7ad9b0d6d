import ClassAssembly.Workspace.Step

/-! What the making of offers leaves behind. It reads the workspace, and changes it no further than
to take away the builders that are moved. -/

namespace ClassAssembly

mutual

/-- The registers whose builders an offer takes away. -/
def Offer.moves : Offer → List String
  | .ready _ | .copied _ | .classDecl _ | .statement .. | .failing _ => []
  | .moved k => [k]
  | .untyped v => v.moves

def UntypedOffer.moves : UntypedOffer → List String
  | .value _ => []
  | .member o => o.moves
  | .movedBuilder k | .movedProducer k => [k]

end

/-- The registers whose builders an operation takes away as members. -/
def Operation.moves : Operation Offer → List String
  | .add o => o.moves
  | .addAll os => os.flatMap Offer.moves
  | .attach _ | .extend _ | .implement _ | .makeAbstract | .makeFinal | .build | .getNode
  | .copy => []

namespace Session
variable {α β γ : Type} {k : String} {ks ls : List String} {w : Workspace} {x : Session α}
  {f : α → Session β} {g : γ → Session α} {cs : List γ}

/-- Work that, whether or not it succeeds, does no more than to take away builders from some of
these registers. -/
def Takes (ks : List String) (x : Session α) : Prop := ∀ w,
  (∀ k, k ∉ ks → (x.run.run w).2.builders.get? k = w.builders.get? k) ∧
    (x.run.run w).2.classes = w.classes

theorem run_bind : (x >>= f).run.run w =
    match x.run.run w with
    | (.ok a, v) => (f a).run.run v
    | (.error e, v) => (.error e, v) := by
  rw [ExceptT.run_bind, StateT.run_bind]
  rcases x.run.run w with ⟨_ | _, v⟩ <;> rfl

theorem Takes.mono (h : Takes ks x) (hsub : ks ⊆ ls) : Takes ls x := by
  intro w
  obtain ⟨hbuilders, hclasses⟩ := h w
  exact ⟨fun k hk => hbuilders k fun hm => hk (hsub hm), hclasses⟩

theorem Takes.bind (hx : Takes ks x) (hf : ∀ a, Takes ks (f a)) : Takes ks (x >>= f) := by
  intro w
  have hfirst := hx w
  rw [run_bind]
  rcases hrun : x.run.run w with ⟨e | a, v⟩
  · rw [hrun] at hfirst
    exact hfirst
  · rw [hrun] at hfirst
    obtain ⟨hbuilders, hclasses⟩ := hf a v
    exact ⟨fun k hk => (hbuilders k hk).trans (hfirst.1 k hk), hclasses.trans hfirst.2⟩

theorem takes_pure (a : α) : Takes ks (pure a) := fun _ => ⟨fun _ _ => rfl, rfl⟩

theorem takes_throw (e : Fault) : Takes ks (throw e : Session α) := fun _ => ⟨fun _ _ => rfl, rfl⟩

theorem takes_get : Takes ks (get : Session Workspace) := fun _ => ⟨fun _ _ => rfl, rfl⟩

theorem takes_builder : Takes ks (builder k) := by
  refine takes_get.bind fun w => ?_
  split
  · exact takes_pure _
  · exact takes_throw _

theorem takes_classDecl : Takes ks (classDecl k) := by
  refine takes_get.bind fun w => ?_
  split
  · exact takes_pure _
  · exact takes_throw _

theorem takes_takeBuilder : Takes [k] (takeBuilder k) := by
  refine takes_builder.bind fun b => Takes.bind ?_ fun _ => takes_pure b
  intro w
  refine ⟨?_, rfl⟩
  intro l hl
  have hne : l ≠ k := fun he => hl (List.mem_singleton.mpr he)
  exact Registers.get?_erase.trans (if_neg hne)

theorem takes_mapM (h : ∀ c ∈ cs, Takes ks (g c)) : Takes ks (cs.mapM g) := by
  induction cs with
  | nil => exact takes_pure _
  | cons c cs ih =>
    have hrest : Takes ks (cs.mapM g) := ih fun d hd => h d (List.mem_cons_of_mem _ hd)
    rw [List.mapM_cons]
    exact (h c List.mem_cons_self).bind fun _ => hrest.bind fun _ => takes_pure _

end Session

section
open Session

mutual

theorem Offer.takes_resolve : ∀ o : Offer, Takes o.moves o.resolve
  | .ready _ => takes_pure _
  | .moved _ => takes_takeBuilder.bind fun _ => takes_pure _
  | .copied _ => takes_builder.bind fun _ => takes_pure _
  | .classDecl _ => takes_classDecl.bind fun _ => takes_pure _
  | .statement _ i => by
    refine takes_classDecl.bind fun d => ?_
    split
    · exact takes_pure _
    · exact takes_throw _
  | .untyped v => by
    refine v.takes_resolve.bind fun u => ?_
    split
    · exact takes_pure _
    · exact takes_throw _
  | .failing _ => takes_throw _

theorem UntypedOffer.takes_resolve : ∀ v : UntypedOffer, Takes v.moves v.resolve
  | .value _ => takes_pure _
  | .member o => o.takes_resolve.bind fun _ => takes_pure _
  | .movedBuilder _ | .movedProducer _ => takes_takeBuilder.bind fun _ => takes_pure _

end

theorem Operation.takes_resolve (op : Operation Offer) : Takes op.moves op.resolve := by
  cases op with
  | add o => exact o.takes_resolve.bind fun _ => takes_pure _
  | addAll os =>
    have hall : ∀ o ∈ os, Takes (os.flatMap Offer.moves) o.resolve := by
      intro o ho
      exact o.takes_resolve.mono fun _ hk => List.mem_flatMap.mpr ⟨o, ho, hk⟩
    exact (takes_mapM hall).bind fun _ => takes_pure _
  | _ => exact takes_pure _

end

end ClassAssembly
