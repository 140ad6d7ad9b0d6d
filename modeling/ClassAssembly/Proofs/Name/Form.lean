import ClassAssembly.Name.Basic
import Mathlib.Data.List.DropRight

/-! Names taken apart. Every text is some separators followed by parts that single ones join. There
is one way to read it so, and all that is asked of a name can be told from it. -/

namespace ClassAssembly.Name

variable {a : Name} {cs xs ys : List Char} {ps : List String}

/-- A name taken apart: how many separators come first, and the parts behind them. -/
@[ext]
structure Form where
  roots : Nat
  parts : List String
  parts_ne_nil : parts ≠ []
  separator_not_mem : ∀ p ∈ parts, separator ∉ p.toList
  /-- A separator before an empty first part would count among the roots. -/
  eq_of_head? : parts.head? = some "" → parts = [""]

namespace Form
variable {f : Form}

/-- The name put together again. -/
def text (f : Form) : String :=
  String.ofList (List.replicate f.roots separator) ++
    (String.singleton separator).intercalate f.parts

/-- The text without the separators in front. -/
def body (f : Form) : List Char := [separator].intercalate (f.parts.map String.toList)

theorem toList_text : f.text.toList = List.replicate f.roots separator ++ f.body := by
  simp [text, body]

theorem splitOn_body : f.body.splitOn separator = f.parts.map String.toList := by
  apply List.splitOn_intercalate
  · intro p hp
    obtain ⟨q, hq, rfl⟩ := List.mem_map.mp hp
    exact f.separator_not_mem q hq
  · simpa using f.parts_ne_nil

end Form

/-- The text behind the last separator, or all of it if there is none. -/
def ending (a : Name) : String := String.ofList (a.text.toList.rtakeWhile (· != separator))

theorem splitOn_separator_cons :
    (separator :: cs).splitOn separator = [] :: cs.splitOn separator := by
  simp [List.splitOn_cons_eq_if_modifyHead]

/-- A character that is no separator goes in front of the first piece. -/
theorem exists_splitOn_cons {c : Char} (cs : List Char) (hc : c ≠ separator) :
    ∃ y ys, cs.splitOn separator = y :: ys ∧ (c :: cs).splitOn separator = (c :: y) :: ys := by
  obtain ⟨y, ys, hy⟩ := List.exists_cons_of_ne_nil (List.splitOn_ne_nil separator cs)
  refine ⟨y, ys, hy, ?_⟩
  simp [List.splitOn_cons_eq_if_modifyHead, hc, hy]

theorem separator_not_mem_of_mem_splitOn (h : xs ∈ cs.splitOn separator) : separator ∉ xs := by
  induction cs generalizing xs with
  | nil =>
    rw [List.splitOn_nil, List.mem_singleton] at h
    simp [h]
  | cons c cs ih =>
    by_cases hc : c = separator
    · rw [hc, splitOn_separator_cons] at h
      rcases List.mem_cons.mp h with rfl | h
      · simp
      · exact ih h
    · obtain ⟨y, ys, hy, hcons⟩ := exists_splitOn_cons cs hc
      rw [hcons] at h
      rcases List.mem_cons.mp h with rfl | h
      · have hmem : separator ∉ y := ih (hy ▸ List.mem_cons_self)
        simp [Ne.symm hc, hmem]
      · exact ih (hy ▸ List.mem_cons_of_mem _ h)

/-- The first piece is empty only if a separator ends it, or there is nothing to split. -/
theorem eq_nil_of_head?_splitOn (hs : cs.head? ≠ some separator)
    (h : (cs.splitOn separator).head? = some []) : cs = [] := by
  cases cs with
  | nil => rfl
  | cons c cs =>
    have hc : c ≠ separator := by simpa using hs
    obtain ⟨y, ys, -, hcons⟩ := exists_splitOn_cons cs hc
    rw [hcons] at h
    simp at h

theorem head?_unrooted : a.unrooted.head? ≠ some separator := by
  intro h
  have hnot := List.head?_dropWhile_not (· == separator) a.text.toList
  rw [unrooted] at h
  simp [h] at hnot

theorem map_toList_parts : a.parts.map String.toList = a.unrooted.splitOn separator := by
  simp [parts, Function.comp_def]

/-- The form of a name. -/
def form (a : Name) : Form where
  roots := (a.text.toList.takeWhile (· == separator)).length
  parts := a.parts
  parts_ne_nil := parts_ne_nil
  separator_not_mem := by
    intro p hp
    have hmem : p.toList ∈ a.unrooted.splitOn separator :=
      map_toList_parts (a := a) ▸ List.mem_map_of_mem hp
    exact separator_not_mem_of_mem_splitOn hmem
  eq_of_head? := by
    intro h
    have hempty : a.unrooted = [] := by
      apply eq_nil_of_head?_splitOn head?_unrooted
      rw [← map_toList_parts, List.head?_map, h]
      rfl
    rw [parts, hempty]
    rfl

theorem body_form : a.form.body = a.unrooted := by
  rw [Form.body, form, map_toList_parts, List.intercalate_splitOn]

theorem replicate_roots_form : List.replicate a.form.roots separator =
    a.text.toList.takeWhile (· == separator) := by
  refine (List.eq_replicate_of_mem ?_).symm
  intro c hc
  simpa using List.mem_takeWhile_imp hc

theorem text_form : a.form.text = a.text := by
  apply String.toList_inj.mp
  rw [Form.toList_text, body_form, replicate_roots_form]
  exact List.takeWhile_append_dropWhile

theorem Form.head?_body {f : Form} : f.body.head? ≠ some separator := by
  intro h
  obtain ⟨p, ps, hp⟩ := List.exists_cons_of_ne_nil f.parts_ne_nil
  by_cases he : p = ""
  · have hone : f.parts = [""] := f.eq_of_head? (by rw [hp, he]; rfl)
    simp [body, hone] at h
  · have hmem : separator ∉ p.toList := f.separator_not_mem p (by simp [hp])
    obtain ⟨c, cs, hc⟩ := List.exists_cons_of_ne_nil (String.toList_eq_nil_iff.not.mpr he)
    cases ps <;> simp_all [body, List.intercalate_cons_cons]

/-- Since the body starts with no separator, the text tells where it starts. -/
theorem Form.eq_form {f : Form} (h : f.text = a.text) : f = a.form := by
  have hroots : ∀ c ∈ List.replicate f.roots separator, (c == separator) = true := by simp
  have hstop : f.body.takeWhile (· == separator) = [] ∧
      f.body.dropWhile (· == separator) = f.body := by
    have hhead := f.head?_body
    cases hb : f.body <;> simp_all
  have hbody : a.unrooted = f.body := by
    rw [unrooted, ← h, toList_text, List.dropWhile_append_of_pos hroots, hstop.2]
  have hparts : a.parts = f.parts := by
    have hmap := map_toList_parts (a := a)
    rw [hbody, splitOn_body] at hmap
    exact List.map_injective_iff.mpr (fun _ _ hs => String.toList_inj.mp hs) hmap
  apply Form.ext
  · rw [form, ← h, toList_text, List.takeWhile_append_of_pos hroots, hstop.1]
    simp
  · exact hparts.symm

theorem isFullyQualified_iff : a.isFullyQualified ↔ 0 < a.form.roots := by
  rw [isFullyQualified, form, List.length_pos_iff]
  cases a.text.toList with
  | nil => simp
  | cons c cs => by_cases hc : c = separator <;> simp [hc]

theorem isUnqualified_iff_not_mem : a.isUnqualified ↔ separator ∉ a.text.toList := by
  simp [isUnqualified]

theorem isUnqualified_iff : a.isUnqualified ↔ a.form.roots = 0 ∧ a.form.parts.length = 1 := by
  constructor
  · intro h
    have hroots : ¬ 0 < a.form.roots := by
      rw [← isFullyQualified_iff, not_isFullyQualified_of_isUnqualified h]
      simp
    have hmem : separator ∉ a.unrooted := by
      intro hm
      exact isUnqualified_iff_not_mem.mp h ((List.dropWhile_sublist _).mem hm)
    refine ⟨by omega, ?_⟩
    change a.parts.length = 1
    rw [parts, List.splitOn_eq_singleton hmem]
    rfl
  · rintro ⟨hroots, hparts⟩
    obtain ⟨p, hp⟩ := List.length_eq_one_iff.mp hparts
    have htext : a.text.toList = p.toList := by
      rw [← text_form, Form.toList_text, hroots, Form.body, hp]
      simp
    rw [isUnqualified_iff_not_mem, htext]
    exact a.form.separator_not_mem p (by simp [hp])

theorem rtakeWhile_append_separator :
    (xs ++ separator :: ys).rtakeWhile (· != separator) = ys.rtakeWhile (· != separator) := by
  induction ys using List.reverseRecOn with
  | nil => simp
  | append_singleton ys y ih =>
    rw [← List.cons_append, ← List.append_assoc, List.rtakeWhile_concat, List.rtakeWhile_concat, ih]

theorem rtakeWhile_replicate_append {k : Nat} :
    (List.replicate k separator ++ xs).rtakeWhile (· != separator) =
      xs.rtakeWhile (· != separator) := by
  cases k with
  | zero => simp
  | succ k =>
    rw [List.replicate_succ', List.append_assoc]
    exact rtakeWhile_append_separator

theorem rtakeWhile_intercalate {p : String} (hps : ∀ q ∈ p :: ps, separator ∉ q.toList) :
    ([separator].intercalate ((p :: ps).map String.toList)).rtakeWhile (· != separator) =
      ((p :: ps).getLast (List.cons_ne_nil p ps)).toList := by
  induction ps generalizing p with
  | nil =>
    have hp : separator ∉ p.toList := hps p List.mem_cons_self
    simp only [List.map_cons, List.map_nil, List.intercalate_singleton, List.getLast_singleton]
    rw [List.rtakeWhile_eq_self_iff]
    intro c hc
    have hne : c ≠ separator := fun he => hp (he ▸ hc)
    simpa using hne
  | cons q ps ih =>
    have hrest := ih fun r hr => hps r (List.mem_cons_of_mem _ hr)
    rw [List.map_cons, List.map_cons, List.intercalate_cons_cons, List.append_assoc]
    rw [List.getLast_cons (List.cons_ne_nil q ps), ← hrest]
    exact rtakeWhile_append_separator

theorem last_eq_getLast : a.last = a.form.parts.getLast a.form.parts_ne_nil := by
  rw [last, List.getLastD_eq_getLast?, List.getLast?_eq_some_getLast parts_ne_nil]
  rfl

theorem last_eq_ending : a.last = a.ending := by
  obtain ⟨p, ps, hp⟩ := List.exists_cons_of_ne_nil a.form.parts_ne_nil
  have hmem : ∀ q ∈ p :: ps, separator ∉ q.toList := hp ▸ a.form.separator_not_mem
  apply String.toList_inj.mp
  rw [ending, String.toList_ofList, ← text_form, Form.toList_text, rtakeWhile_replicate_append,
    Form.body, last_eq_getLast]
  simp only [hp]
  exact (rtakeWhile_intercalate hmem).symm

theorem text_ofParts_parts :
    (ofParts a.parts).text = String.ofList (a.text.toList.drop a.form.roots) := by
  have hjoin : (ofParts a.parts).text.toList = a.form.body := toList_text_ofParts
  have hdrop : a.text.toList.drop a.form.roots = a.form.body := by
    rw [← text_form, Form.toList_text]
    exact List.drop_left' List.length_replicate
  apply String.toList_inj.mp
  rw [hjoin, String.toList_ofList, hdrop]

/-- Every text has one form. The parts of a name are those of its form, joined again they give the
text without the separators in front, and the last of them is what the text ends in. -/
theorem existsUnique_form (a : Name) :
    (∃! f : Form, f.text = a.text) ∧ ∀ f : Form, f.text = a.text →
      a.parts = f.parts ∧ (a.isFullyQualified ↔ 0 < f.roots) ∧
      (a.isUnqualified ↔ f.roots = 0 ∧ f.parts.length = 1) ∧
      a.last = f.parts.getLast f.parts_ne_nil ∧ a.last = a.ending ∧
      (ofParts a.parts).text = String.ofList (a.text.toList.drop f.roots) := by
  refine ⟨⟨a.form, text_form, ?_⟩, ?_⟩
  · intro f h
    exact f.eq_form h
  · intro f h
    obtain rfl : f = a.form := f.eq_form h
    exact ⟨rfl, isFullyQualified_iff, isUnqualified_iff, last_eq_getLast, last_eq_ending,
      text_ofParts_parts⟩

/-- Two separators in front, two in the middle and one at the end: only those in front go. -/
theorem existsUnique_form_rooted :
    let a : Name := ⟨"\\\\Vendor\\\\Package\\", .known 1 2⟩
    let f : Form := ⟨2, ["Vendor", "", "Package", ""], by simp, by decide, by simp⟩
    f.text = a.text ∧ a.parts = ["Vendor", "", "Package", ""] ∧ a.isFullyQualified ∧
      a.isUnqualified = false ∧ a.last = "" ∧ (ofParts a.parts).text = "Vendor\\\\Package\\" := by
  intro a f
  have h : f.text = a.text := by decide
  obtain ⟨hparts, hfully, hunqualified, hlast, -, hjoin⟩ := (existsUnique_form a).2 f h
  refine ⟨h, hparts, hfully.mpr (by decide), ?_, hlast, hjoin.trans (by decide)⟩
  rw [Bool.eq_false_iff, Ne, hunqualified]
  decide

end ClassAssembly.Name
