import ClassAssembly.Node.Outline
import ClassAssembly.Proofs.Outline.Reading

/-! Outlines whose texts are all of one sort. The forms that outlines are made of keep to it, if
words and quoted texts are of the sort. -/

namespace ClassAssembly.Outline
variable {P : List Char → Prop} {s : String} {os : List Outline} {fs : List (String × Outline)}
  {o : Outline} {w : List Char}

/-- Every text is of the sort. Tags and labels are words, and braces stand behind a tag. -/
inductive MadeOf (P : List Char → Prop) : Outline → Prop
  | atom {t : List Char} (ht : P t) : MadeOf P (.atom t)
  | labelled {label : String} {value : Outline} (hlabel : IsWord label.toList)
    (hvalue : MadeOf P value) : MadeOf P (.labelled label value)
  | group {tag : String} {b : Bracket} {items : List Outline} (htag : IsWord tag.toList)
    (hbraces : b = .braces → tag ≠ "") (hitems : ∀ o ∈ items, MadeOf P o) :
    MadeOf P (.group tag b items)

/-- A sort of texts that all words and all quoted texts are of. -/
class TextSort (P : List Char → Prop) : Prop where
  word : ∀ {w : List Char}, w ≠ [] → IsWord w → P w
  quoted : ∀ s : String, P (Text.quoted s)

/-- A word or a quoted text: what can be read back. -/
def IsToken (t : List Char) : Prop := t ≠ [] ∧ IsWord t ∨ ∃ s : String, t = Text.quoted s

instance : TextSort IsToken where
  word hne hw := .inl ⟨hne, hw⟩
  quoted s := .inr ⟨s, rfl⟩

theorem MadeOf.legible (h : MadeOf IsToken o) : Legible o := by
  induction h with
  | atom ht =>
    obtain ⟨hne, hw⟩ | ⟨s, rfl⟩ := ht
    · exact .word hne hw
    · exact .quoted s
  | labelled hlabel _ ih => exact .labelled hlabel ih
  | group htag _ _ ih => exact .group htag ih

theorem madeOf_list (h : ∀ o ∈ os, MadeOf P o) : MadeOf P (list os) :=
  .group nofun nofun h

theorem madeOf_tuple (hs : IsWord s.toList) (h : ∀ o ∈ os, MadeOf P o) : MadeOf P (tuple s os) :=
  .group hs nofun h

theorem madeOf_record (hwords : s ≠ "" ∧ ∀ l ∈ s :: fs.map Prod.fst, IsWord l.toList)
    (h : ∀ o ∈ fs.map Prod.snd, MadeOf P o) : MadeOf P (record s fs) := by
  obtain ⟨hne, hwords⟩ := hwords
  obtain ⟨htag, hlabels⟩ := List.forall_mem_cons.mp hwords
  refine .group htag (fun _ => hne) ?_
  intro o ho
  obtain ⟨f, hf, rfl⟩ := List.mem_map.mp ho
  exact .labelled (hlabels _ (List.mem_map_of_mem hf)) (h _ (List.mem_map_of_mem hf))

variable [TextSort P]

theorem madeOf_word (hne : s ≠ "") (hs : IsWord s.toList) : MadeOf P (word s) :=
  .atom (TextSort.word (by simpa using hne) hs)

theorem madeOf_quoted (s : String) : MadeOf P (quoted s) := .atom (TextSort.quoted s)

theorem madeOf_truth (v : Bool) : MadeOf P (truth v) := by
  cases v <;> exact madeOf_word (by decide) (by decide)

theorem madeOf_option {α : Type} {f : α → Outline} {a? : Option α}
    (h : ∀ a ∈ a?, MadeOf P (f a)) : MadeOf P (option f a?) := by
  cases a? with
  | none => exact madeOf_word (by decide) (by decide)
  | some a => exact madeOf_tuple (by decide) (List.forall_mem_singleton.mpr (h a rfl))

theorem isWord_repr (n : Nat) : IsWord n.repr.toList := by
  intro c hc
  rw [Nat.repr_eq_ofList_toDigits, String.toList_ofList] at hc
  have hdigit : c.isDigit := Nat.isDigit_of_mem_toDigits (by decide) (by decide) hc
  simp [isWordChar, Char.isAlphanum, hdigit]

theorem madeOf_repr (n : Nat) : MadeOf P (word n.repr) := by
  have hne : n.repr ≠ "" := by
    simp [Nat.repr_eq_ofList_toDigits, Nat.toDigits_ne_nil]
  exact madeOf_word hne (isWord_repr n)

theorem madeOf_uint64 (v : UInt64) : MadeOf P (word (toString v)) := madeOf_repr v.toNat

theorem isWord_int_repr (v : Int) : IsWord v.repr.toList := by
  cases v with
  | ofNat n => exact isWord_repr n
  | negSucc n =>
    change IsWord ("-" ++ n.succ.repr).toList
    rw [String.toList_append]
    exact List.forall_mem_cons.mpr ⟨rfl, isWord_repr n.succ⟩

theorem madeOf_int64 (v : Int64) : MadeOf P (word (toString v)) := by
  change MadeOf P (word v.toInt.repr)
  cases hv : v.toInt with
  | ofNat n => exact madeOf_repr n
  | negSucc n =>
    have hne : "-" ++ n.succ.repr ≠ "" := by
      simp
    exact madeOf_word hne (isWord_int_repr (.negSucc n))

end ClassAssembly.Outline
