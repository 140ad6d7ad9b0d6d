import ClassAssembly.Node.Outline
import ClassAssembly.Proofs.Text.Quoted
import Std.Data.String.ToInt

/-! The forms that outlines are made of, and what each one tells. -/

namespace ClassAssembly

/-- Two functions tell a value from the same others. -/
def Discern {α β γ : Type} (f : α → β) (g : α → γ) (a : α) : Prop := ∀ b, f a = f b ↔ g a = g b

namespace Discern
variable {α β γ : Type} {f : α → β} {g : α → γ}

theorem map_list {as : List α} (h : ∀ a ∈ as, Discern f g a) :
    Discern (List.map f) (List.map g) as := by
  intro bs
  induction as generalizing bs with
  | nil => cases bs <;> simp
  | cons a as ih =>
    cases bs with
    | nil => simp
    | cons b bs =>
      obtain ⟨ha, has⟩ := List.forall_mem_cons.mp h
      rw [List.map_cons, List.map_cons, List.map_cons, List.map_cons, List.cons.injEq,
        List.cons.injEq, ha b, ih has bs]

theorem map_option {o : Option α} (h : ∀ a ∈ o, Discern f g a) :
    Discern (Option.map f) (Option.map g) o := by
  intro o'
  cases o <;> cases o' <;> simp
  exact h _ rfl _

end Discern

namespace Outline
variable {s t : String} {os os' : List Outline} {fs fs' : List (String × Outline)}

@[simp]
theorem word_inj : word s = word t ↔ s = t := by
  simp [word, String.toList_inj]

@[simp]
theorem quoted_inj : quoted s = quoted t ↔ s = t := by
  constructor
  · intro h
    have hline : Text.quoted s ++ [] = Text.quoted t ++ [] := by rw [Outline.atom.inj h]
    exact (Text.quoted_append_inj hline).1
  · exact congrArg quoted

@[simp]
theorem truth_inj {v w : Bool} : truth v = truth w ↔ v = w := by
  cases v <;> cases w <;> simp [truth]

@[simp]
theorem list_inj : list os = list os' ↔ os = os' := by
  simp [list]

@[simp]
theorem tuple_inj : tuple s os = tuple t os' ↔ s = t ∧ os = os' := by
  simp [tuple]

@[simp]
theorem record_inj : record s fs = record t fs' ↔ s = t ∧ fs = fs' := by
  have hfield : Function.Injective fun f : String × Outline => Outline.labelled f.1 f.2 := by
    intro f f' h
    obtain ⟨hlabel, hvalue⟩ := Outline.labelled.inj h
    exact Prod.ext hlabel hvalue
  simp [record, List.map_inj_right hfield]

@[simp]
theorem word_ne_record : word s ≠ record t fs := nofun

@[simp]
theorem record_ne_word : record t fs ≠ word s := nofun

@[simp]
theorem tuple_ne_record : tuple s os ≠ record t fs := nofun

@[simp]
theorem record_ne_tuple : record t fs ≠ tuple s os := nofun

@[simp]
theorem option_inj {α : Type} {f : α → Outline} {o o' : Option α} :
    option f o = option f o' ↔ o.map f = o'.map f := by
  cases o <;> cases o' <;> simp [option, word, tuple]

@[simp]
theorem toString_int64_inj {v w : Int64} : toString v = toString w ↔ v = w := by
  change v.toInt.repr = w.toInt.repr ↔ _
  rw [Int.repr_inj, Int64.toInt_inj]

@[simp]
theorem toString_uint64_inj {v w : UInt64} : toString v = toString w ↔ v = w := by
  change v.toNat.repr = w.toNat.repr ↔ _
  rw [Nat.repr_inj, UInt64.toNat_inj]

end Outline

end ClassAssembly
