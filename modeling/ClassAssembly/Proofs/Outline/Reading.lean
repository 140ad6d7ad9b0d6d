import ClassAssembly.Outline.Basic
import ClassAssembly.Proofs.Text.Quoted

/-! An outline can be read back from its line, if its words are made of letters, digits and a few
signs and all other text is quoted. The character behind a leading word tells what the word is. -/

namespace ClassAssembly.Outline
variable {o : Outline} {xs ys : List Outline} {b : Bracket} {tag label : String}
  {v w r r' s t : List Char} {c : Char}

def isWordChar (c : Char) : Bool := c.isAlphanum || c == '_' || c == '\\' || c == '-'

def IsWord (w : List Char) : Prop := ∀ c ∈ w, isWordChar c

instance : DecidablePred IsWord := fun w => decidable_of_iff (w.all isWordChar) List.all_eq_true

/-- No word goes on into the text. -/
def Breaks (s : List Char) : Prop := ∀ c ∈ s.head?, isWordChar c = false

inductive Legible : Outline → Prop
  | word {w : List Char} (hne : w ≠ []) (hw : IsWord w) : Legible (.atom w)
  | quoted (s : String) : Legible (.atom (Text.quoted s))
  | labelled {label : String} {value : Outline} (hlabel : IsWord label.toList)
    (hvalue : Legible value) : Legible (.labelled label value)
  | group {tag : String} {b : Bracket} {items : List Outline} (htag : IsWord tag.toList)
    (hitems : ∀ o ∈ items, Legible o) : Legible (.group tag b items)

/-- What may stand behind a value. The space is the gap before a closing brace. -/
inductive Stops : List Char → Prop
  | nothing : Stops []
  | comma (s : List Char) : Stops (',' :: s)
  | paren (s : List Char) : Stops (')' :: s)
  | square (s : List Char) : Stops (']' :: s)
  | brace (s : List Char) : Stops (' ' :: '}' :: s)

/-- The line of the value tells the value and where it ends. -/
def Readable (o : Outline) : Prop := ∀ {o' : Outline} {r r' : List Char}, Legible o' → Stops r →
  Stops r' → o.line ++ r = o'.line ++ r' → o = o' ∧ r = r'

/-- The line of a group behind the bracket that opens it. -/
def inside (b : Bracket) : List Outline → List Char
  | [] => [b.closing]
  | x :: xs => b.gap ++ (x.line ++ (linesAfter xs ++ (b.gap ++ [b.closing])))

theorem line_group : (group tag b xs).line = tag.toList ++ (b.opening ++ inside b xs) := by
  cases xs <;> simp [line, inside]

theorem breaks_cons (h : isWordChar c = false) : Breaks (c :: s) := by
  rintro _ ⟨⟩
  exact h

theorem breaks_opening (b : Bracket) : Breaks (b.opening ++ s) := by
  cases b <;> exact breaks_cons rfl

theorem Stops.breaks (h : Stops r) : Breaks r := by
  cases h with
  | nothing => exact nofun
  | _ => exact breaks_cons rfl

theorem word_append_inj (hv : IsWord v) (hw : IsWord w) (hs : Breaks s) (ht : Breaks t)
    (h : v ++ s = w ++ t) : v = w ∧ s = t :=
  Text.run_append_inj hv hw hs ht h

theorem isWordChar_closing (b : Bracket) : isWordChar b.closing = false := by
  cases b <;> rfl

theorem word_append_ne_closing (hw : IsWord w) (hc : c ≠ b.closing) :
    w ++ c :: s ≠ b.closing :: r := by
  intro h
  cases w with
  | nil => exact hc (List.cons.inj h).1
  | cons d w =>
    obtain ⟨rfl, -⟩ := List.cons.inj h
    exact absurd (hw _ List.mem_cons_self) (ne_true_of_eq_false (isWordChar_closing b))

/-- A list of items is not over as long as one begins. -/
theorem Legible.line_append_ne_closing (h : Legible o) : o.line ++ r ≠ b.closing :: r' := by
  cases h with
  | word hne hw =>
    obtain ⟨c, w, rfl⟩ := List.exists_cons_of_ne_nil hne
    intro h
    obtain ⟨rfl, -⟩ := List.cons.inj h
    exact absurd (hw _ List.mem_cons_self) (ne_true_of_eq_false (isWordChar_closing b))
  | quoted s =>
    intro h
    cases b <;> exact absurd (List.cons.inj h).1 (by decide)
  | labelled hlabel hvalue =>
    rw [line, List.append_assoc]
    exact word_append_ne_closing hlabel (by cases b <;> decide)
  | @group tag k items htag hitems =>
    rw [line_group, List.append_assoc]
    cases k <;> exact word_append_ne_closing htag (by cases b <;> decide)

theorem readable_word (hne : w ≠ []) (hw : IsWord w) : Readable (.atom w) := by
  intro o' r r' ho' hr hr' h
  cases ho' with
  | word hne' hw' =>
    obtain ⟨rfl, rfl⟩ := word_append_inj hw hw' hr.breaks hr'.breaks h
    exact ⟨rfl, rfl⟩
  | quoted s =>
    obtain ⟨rfl, -⟩ := word_append_inj (w := []) hw nofun hr.breaks (breaks_cons rfl) h
    exact absurd rfl hne
  | labelled hlabel hvalue =>
    rw [line, line, List.append_assoc] at h
    obtain ⟨-, rfl⟩ := word_append_inj hw hlabel hr.breaks (breaks_cons rfl) h
    cases hr
  | @group tag k items htag hitems =>
    rw [line_group, line, List.append_assoc, List.append_assoc] at h
    obtain ⟨-, rfl⟩ := word_append_inj hw htag hr.breaks (breaks_opening k) h
    cases k <;> cases hr

theorem readable_quoted (s : String) : Readable (.atom (Text.quoted s)) := by
  intro o' r r' ho' hr hr' h
  cases ho' with
  | word hne' hw' =>
    obtain ⟨rfl, -⟩ := word_append_inj (v := []) nofun hw' (breaks_cons rfl) hr'.breaks h
    exact absurd rfl hne'
  | quoted s' =>
    obtain ⟨rfl, rfl⟩ := Text.quoted_append_inj h
    exact ⟨rfl, rfl⟩
  | labelled hlabel hvalue =>
    rw [line, line, List.append_assoc] at h
    obtain ⟨-, hmark⟩ :=
      word_append_inj (v := []) nofun hlabel (breaks_cons rfl) (breaks_cons rfl) h
    exact absurd (List.cons.inj hmark).1 (by decide)
  | @group tag k items htag hitems =>
    rw [line_group, line, List.append_assoc, List.append_assoc] at h
    obtain ⟨-, hmark⟩ :=
      word_append_inj (v := []) nofun htag (breaks_cons rfl) (breaks_opening k) h
    cases k <;> exact absurd (List.cons.inj hmark).1 (by decide)

theorem readable_labelled (hlabel : IsWord label.toList) (ho : Readable o) :
    Readable (.labelled label o) := by
  intro o' r r' ho' hr hr' h
  rw [line, List.append_assoc] at h
  cases ho' with
  | word hne' hw' =>
    obtain ⟨-, rfl⟩ := word_append_inj hlabel hw' (breaks_cons rfl) hr'.breaks h
    cases hr'
  | quoted s' =>
    obtain ⟨-, hmark⟩ :=
      word_append_inj (w := []) hlabel nofun (breaks_cons rfl) (breaks_cons rfl) h
    exact absurd (List.cons.inj hmark).1 (by decide)
  | labelled hlabel' hvalue =>
    rw [line, List.append_assoc] at h
    obtain ⟨heq, hmark⟩ :=
      word_append_inj hlabel hlabel' (breaks_cons rfl) (breaks_cons rfl) h
    obtain ⟨rfl, rfl⟩ := ho hvalue hr hr' (List.cons.inj (List.cons.inj hmark).2).2
    exact ⟨by rw [String.toList_inj.mp heq], rfl⟩
  | @group tag k items htag hitems =>
    rw [line_group, List.append_assoc, List.append_assoc] at h
    obtain ⟨-, hmark⟩ :=
      word_append_inj hlabel htag (breaks_cons rfl) (breaks_opening k) h
    cases k <;> exact absurd (List.cons.inj hmark).1 (by decide)

theorem stops_closing (b : Bracket) : Stops (b.gap ++ b.closing :: r) := by
  cases b with
  | braces => exact .brace r
  | parens => exact .paren r
  | squares => exact .square r

theorem stops_linesAfter : Stops (linesAfter xs ++ (b.gap ++ b.closing :: r)) := by
  cases xs with
  | nil => exact stops_closing b
  | cons x xs => exact .comma _

theorem gap_closing_ne_comma (b : Bracket) : b.gap ++ b.closing :: r ≠ ',' :: r' := by
  cases b <;> exact fun h => absurd (List.cons.inj h).1 (by decide)

theorem linesAfter_append_inj (hxs : ∀ x ∈ xs, Readable x) (hys : ∀ y ∈ ys, Legible y)
    (h : linesAfter xs ++ (b.gap ++ b.closing :: r) = linesAfter ys ++ (b.gap ++ b.closing :: r')) :
    xs = ys ∧ r = r' := by
  induction xs generalizing ys with
  | nil =>
    cases ys with
    | nil => exact ⟨rfl, (List.cons.inj (List.append_cancel_left h)).2⟩
    | cons y ys => exact absurd h (gap_closing_ne_comma b)
  | cons x xs ih =>
    cases ys with
    | nil => exact absurd h.symm (gap_closing_ne_comma b)
    | cons y ys =>
      obtain ⟨hx, hxtail⟩ := List.forall_mem_cons.mp hxs
      obtain ⟨hy, hytail⟩ := List.forall_mem_cons.mp hys
      simp only [linesAfter, List.append_assoc, List.cons_append, List.cons.injEq, true_and] at h
      obtain ⟨rfl, hrest⟩ := hx hy stops_linesAfter stops_linesAfter h
      obtain ⟨rfl, rfl⟩ := ih hxtail hytail hrest
      exact ⟨rfl, rfl⟩

/-- A brace that closes an empty group stands without a gap. Behind the other brackets an item could
begin, but none begins with a closing bracket. -/
theorem inside_append_ne (hy : Legible o) : inside b [] ++ r ≠ inside b (o :: ys) ++ r' := by
  intro h
  rw [inside, inside, List.append_assoc, List.append_assoc] at h
  cases b with
  | braces => exact absurd (List.cons.inj h).1 (by decide)
  | parens => exact hy.line_append_ne_closing (b := .parens) h.symm
  | squares => exact hy.line_append_ne_closing (b := .squares) h.symm

theorem inside_append_inj (hx : ∀ x ∈ xs, Readable x) (hxs : ∀ x ∈ xs, Legible x)
    (hys : ∀ y ∈ ys, Legible y) (h : inside b xs ++ r = inside b ys ++ r') : xs = ys ∧ r = r' := by
  cases xs with
  | nil =>
    cases ys with
    | nil => exact ⟨rfl, List.append_cancel_left h⟩
    | cons y ys => exact absurd h (inside_append_ne (hys y List.mem_cons_self))
  | cons x xs =>
    cases ys with
    | nil => exact absurd h.symm (inside_append_ne (hxs x List.mem_cons_self))
    | cons y ys =>
      obtain ⟨hx, hxtail⟩ := List.forall_mem_cons.mp hx
      obtain ⟨hy, hytail⟩ := List.forall_mem_cons.mp hys
      simp only [inside, List.append_assoc, List.append_cancel_left_eq, List.singleton_append] at h
      obtain ⟨rfl, hrest⟩ := hx hy stops_linesAfter stops_linesAfter h
      obtain ⟨rfl, rfl⟩ := linesAfter_append_inj hxtail hytail hrest
      exact ⟨rfl, rfl⟩

theorem opening_append_inj {k : Bracket} (h : b.opening ++ s = k.opening ++ t) : b = k ∧ s = t := by
  cases b <;> cases k <;> simp_all [Bracket.opening]

theorem readable_group (htag : IsWord tag.toList) (hx : ∀ x ∈ xs, Readable x)
    (hxs : ∀ x ∈ xs, Legible x) : Readable (.group tag b xs) := by
  intro o' r r' ho' hr hr' h
  rw [line_group, List.append_assoc, List.append_assoc] at h
  cases ho' with
  | word hne' hw' =>
    obtain ⟨-, rfl⟩ := word_append_inj htag hw' (breaks_opening b) hr'.breaks h
    cases b <;> cases hr'
  | quoted s' =>
    obtain ⟨-, hmark⟩ :=
      word_append_inj (w := []) htag nofun (breaks_opening b) (breaks_cons rfl) h
    cases b <;> exact absurd (List.cons.inj hmark).1 (by decide)
  | labelled hlabel hvalue =>
    rw [line, List.append_assoc] at h
    obtain ⟨-, hmark⟩ :=
      word_append_inj htag hlabel (breaks_opening b) (breaks_cons rfl) h
    cases b <;> exact absurd (List.cons.inj hmark).1 (by decide)
  | @group tag' k items htag' hitems =>
    rw [line_group, List.append_assoc, List.append_assoc] at h
    obtain ⟨heq, hmark⟩ := word_append_inj htag htag' (breaks_opening b) (breaks_opening k) h
    obtain ⟨rfl, hinside⟩ := opening_append_inj hmark
    obtain ⟨rfl, rfl⟩ := inside_append_inj hx hxs hitems hinside
    exact ⟨by rw [String.toList_inj.mp heq], rfl⟩

theorem Legible.readable (h : Legible o) : Readable o := by
  induction h with
  | word hne hw => exact readable_word hne hw
  | quoted s => exact readable_quoted s
  | labelled hlabel _ ih => exact readable_labelled hlabel ih
  | group htag hitems ih => exact readable_group htag ih hitems

/-- Legible outlines with the same line are the same. -/
theorem Legible.line_inj {o' : Outline} (h : Legible o) (h' : Legible o') :
    o.line = o'.line ↔ o = o' := by
  refine ⟨?_, congrArg line⟩
  intro hline
  have happend : o.line ++ [] = o'.line ++ [] := by rw [hline]
  exact (h.readable h' .nothing .nothing happend).1

end ClassAssembly.Outline
