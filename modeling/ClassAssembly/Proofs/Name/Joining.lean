import ClassAssembly.Proofs.Name.Form

/-! Names joined from texts, and from other names. Joining puts a separator between two pieces
and nothing else, so the parts of the whole are the pieces of its texts but for the empty ones in
front. -/

namespace ClassAssembly.Name

variable {a b : Name} {cs : List Char} {p s : String} {ps qs ss : List String} {ns : List Name}

/-- The pieces of a text between its separators. -/
def pieces (s : String) : List String := (s.toList.splitOn separator).map String.ofList

/-- The pieces of all texts, one after the other. No text at all has one piece, which is empty. -/
def allPieces (ss : List String) : List String := if ss = [] then [""] else ss.flatMap pieces

/-- Leaves out the empty texts in front. If all are empty one of them stays. -/
def trimmed (ps : List String) : List String :=
  if ∀ p ∈ ps, p = "" then [""] else ps.dropWhile (· = "")

/-- The name whose parts are other names, each taken by its text. -/
def ofNames (ns : List Name) : Name := ofParts (ns.map Name.text)

theorem trimmed_cons_empty : trimmed ("" :: ps) = trimmed ps := by
  simp [trimmed]

theorem trimmed_cons_of_ne (h : p ≠ "") : trimmed (p :: ps) = p :: ps := by
  simp [trimmed, h]

/-- A separator in front of a text is an empty piece in front of the others. -/
theorem map_splitOn_dropWhile :
    ((cs.dropWhile (· == separator)).splitOn separator).map String.ofList =
      trimmed ((cs.splitOn separator).map String.ofList) := by
  induction cs with
  | nil => rfl
  | cons c cs ih =>
    by_cases hc : c = separator
    · subst hc
      rw [List.dropWhile_cons_of_pos (by simp), ih, splitOn_separator_cons, List.map_cons]
      exact trimmed_cons_empty.symm
    · obtain ⟨y, ys, -, hcons⟩ := exists_splitOn_cons cs hc
      rw [List.dropWhile_cons_of_neg (by simpa using hc), hcons, List.map_cons]
      refine (trimmed_cons_of_ne ?_).symm
      simp

theorem parts_eq_trimmed : a.parts = trimmed (pieces a.text) := map_splitOn_dropWhile

theorem text_ofParts_cons (h : qs ≠ []) :
    (ofParts (p :: qs)).text = p ++ String.singleton separator ++ (ofParts qs).text :=
  String.intercalate_cons_of_ne_nil h

theorem pieces_append_separator :
    pieces (p ++ String.singleton separator ++ s) = pieces p ++ pieces s := by
  simp [pieces, List.splitOn_append_cons_self]

theorem pieces_text_ofParts : pieces (ofParts ss).text = allPieces ss := by
  induction ss with
  | nil => rfl
  | cons s ss ih =>
    by_cases h : ss = []
    · simp [h, allPieces, ofParts]
    · rw [text_ofParts_cons h, pieces_append_separator, ih]
      simp [allPieces, h]

theorem parts_ofParts : (ofParts ss).parts = trimmed (allPieces ss) := by
  rw [parts_eq_trimmed, pieces_text_ofParts]

/-- The parts of a form are read back from the name that they are joined to. -/
theorem Form.parts_ofParts (f : Form) : (ofParts f.parts).parts = f.parts := by
  let unrooted : Form := { f with roots := 0 }
  have htext : unrooted.text = (ofParts f.parts).text := by
    simp [text, ofParts, unrooted]
  exact congrArg Form.parts (unrooted.eq_form htext).symm

theorem eq_of_head?_iff (h : ss ≠ []) :
    (ss.head? = some "" → ss = [""]) ↔ ss.length = 1 ∨ ∃ s ∈ ss.head?, s ≠ "" := by
  obtain ⟨s, rest, rfl⟩ := List.exists_cons_of_ne_nil h
  by_cases hs : s = "" <;> simp [hs]

theorem parts_ofParts_eq_self_iff : (ofParts ss).parts = ss ↔
    ss ≠ [] ∧ (∀ s ∈ ss, separator ∉ s.toList) ∧ (ss.length = 1 ∨ ∃ s ∈ ss.head?, s ≠ "") := by
  constructor
  · intro h
    have hform : (ofParts ss).form.parts = ss := h
    have hne : ss ≠ [] := hform ▸ Form.parts_ne_nil _
    have hfirst : ss.head? = some "" → ss = [""] := hform ▸ Form.eq_of_head? _
    exact ⟨hne, hform ▸ Form.separator_not_mem _, (eq_of_head?_iff hne).mp hfirst⟩
  · rintro ⟨hne, hmem, hfirst⟩
    exact Form.parts_ofParts ⟨0, ss, hne, hmem, (eq_of_head?_iff hne).mpr hfirst⟩

/-- The parts of a name that was joined are the pieces of what it was joined from, without the empty
ones in front. So they are the very texts it was joined from if none of these holds a separator and
the first, unless it stands alone, is not empty. -/
theorem parts_ofParts_eq_trimmed (ss : List String) :
    (ofParts ss).parts = trimmed (allPieces ss) ∧
      ((ofParts ss).parts = ss ↔ ss ≠ [] ∧ (∀ s ∈ ss, separator ∉ s.toList) ∧
        (ss.length = 1 ∨ ∃ s ∈ ss.head?, s ≠ "")) :=
  ⟨parts_ofParts, parts_ofParts_eq_self_iff⟩

example : (ofParts ["", "\\A", "B\\C", ""]).parts = ["A", "B", "C", ""] := by decide

theorem text_ofParts_append (hp : ps ≠ []) (hq : qs ≠ []) :
    (ofParts (ps ++ qs)).text =
      (ofParts ps).text ++ String.singleton separator ++ (ofParts qs).text :=
  String.intercalate_append_of_ne_nil hp hq

theorem ofParts_eq_of_text_eq (h : (ofParts ps).text = (ofParts qs).text) :
    ofParts ps = ofParts qs := by
  simpa [ofParts] using h

theorem ofNames_singleton : ofNames [a] = ⟨a.text, .unknown⟩ := by
  simp [ofNames, ofParts]

theorem text_ofNames_cons (h : ns ≠ []) :
    (ofNames (a :: ns)).text = a.text ++ String.singleton separator ++ (ofNames ns).text :=
  text_ofParts_cons (by simpa using h)

theorem ofNames_map_ofParts {pss : List (List String)} (h : ∀ ps ∈ pss, ps ≠ []) :
    ofNames (pss.map ofParts) = ofParts pss.flatten := by
  induction pss with
  | nil => rfl
  | cons ps pss ih =>
    have hps : ps ≠ [] := h ps List.mem_cons_self
    have hrest := ih fun qs hq => h qs (List.mem_cons_of_mem _ hq)
    by_cases hpss : pss = []
    · subst hpss
      rw [List.flatten_cons, List.flatten_nil, List.append_nil, List.map_singleton,
        ofNames_singleton]
      rfl
    · apply ofParts_eq_of_text_eq
      obtain ⟨qs, rest, rfl⟩ := List.exists_cons_of_ne_nil hpss
      have hqs : qs ≠ [] := h qs (by simp)
      have hflat : (qs :: rest).flatten ≠ [] := by simp [hqs]
      rw [List.flatten_cons, text_ofParts_append hps hflat, ← hrest]
      exact text_ofNames_cons (by simp)

/-- A name ends in what follows the last separator, and what stands before that does not matter. -/
theorem last_of_text_eq (h : a.text = s ++ String.singleton separator ++ b.text) :
    a.last = b.last := by
  rw [last_eq_ending, last_eq_ending, ending, ending, h]
  simp [rtakeWhile_append_separator]

theorem last_ofNames (h : ns ≠ []) : (ofNames ns).last = (ns.getLast h).last := by
  induction ns with
  | nil => exact absurd rfl h
  | cons a ns ih =>
    by_cases hns : ns = []
    · subst hns
      rw [ofNames_singleton]
      rfl
    · rw [List.getLast_cons hns, ← ih hns]
      exact last_of_text_eq (text_ofNames_cons hns)

theorem isFullyQualified_of_text_eq (h : a.text = s ++ String.singleton separator ++ b.text) :
    a.isFullyQualified ↔ s.toList.head? = some separator ∨ s = "" := by
  rw [isFullyQualified, h]
  cases hs : s.toList <;> simp_all [← String.toList_eq_nil_iff]

theorem isFullyQualified_ofNames (h : ns ≠ []) : (ofNames ns).isFullyQualified ↔
    (ns.head h).isFullyQualified ∨ (ns.head h).text = "" ∧ 2 ≤ ns.length := by
  obtain ⟨a, rest, rfl⟩ := List.exists_cons_of_ne_nil h
  rw [List.head_cons]
  by_cases hrest : rest = []
  · subst hrest
    rw [ofNames_singleton]
    simp [isFullyQualified]
  · rw [isFullyQualified_of_text_eq (text_ofNames_cons hrest)]
    have hlength : 2 ≤ (a :: rest).length := Nat.succ_le_succ (List.length_pos_iff.mpr hrest)
    simp only [hlength, and_true]
    simp [isFullyQualified]

theorem isUnqualified_ofNames (h : ns ≠ []) :
    (ofNames ns).isUnqualified ↔ ∃ a, ns = [a] ∧ a.isUnqualified := by
  obtain ⟨a, rest, rfl⟩ := List.exists_cons_of_ne_nil h
  by_cases hrest : rest = []
  · subst hrest
    rw [ofNames_singleton]
    simp [isUnqualified]
  · rw [isUnqualified_iff_not_mem, text_ofNames_cons hrest]
    simp [hrest]

/-- Where the names were read has no part in what they are joined to. -/
theorem ofNames_congr {ns' : List Name} (h : ns == ns') : ofNames ns = ofNames ns' := by
  have htexts : ns.map Name.text = ns'.map Name.text := by
    induction ns generalizing ns' with
    | nil => cases ns' <;> simp_all
    | cons a ns ih =>
      cases ns' with
      | nil => simp at h
      | cons b ns' =>
        rw [List.cons_beq_cons, Bool.and_eq_true, beq_iff_text_eq] at h
        rw [List.map_cons, List.map_cons, h.1, ih h.2]
  rw [ofNames, htexts, ofNames]

/-- Names joined from parts, and then joined with one another, are the name joined from all of those
parts. Of names joined the first tells whether the whole is rooted, the last how it ends, and a
single one whether any separator occurs. Where they were read is lost. -/
theorem ofNames_composes :
    (∀ pss : List (List String), (∀ ps ∈ pss, ps ≠ []) →
      ofNames (pss.map ofParts) = ofParts pss.flatten) ∧
    (∀ (ns : List Name) (h : ns ≠ []), (ofNames ns).last = (ns.getLast h).last ∧
      ((ofNames ns).isFullyQualified ↔
        (ns.head h).isFullyQualified ∨ (ns.head h).text = "" ∧ 2 ≤ ns.length) ∧
      ((ofNames ns).isUnqualified ↔ ∃ a, ns = [a] ∧ a.isUnqualified) ∧
      (ofNames ns).position = .unknown) ∧
    ∀ ns ns' : List Name, ns == ns' → ofNames ns = ofNames ns' := by
  refine ⟨?_, ?_, ?_⟩
  · intro pss h
    exact ofNames_map_ofParts h
  · intro ns h
    exact ⟨last_ofNames h, isFullyQualified_ofNames h, isUnqualified_ofNames h, rfl⟩
  · intro ns ns' h
    exact ofNames_congr h

/-- An empty name in front roots the whole, and the end of the last name is its end. -/
theorem ofNames_composes_rooted :
    let ns : List Name := ["", ⟨"Vendor\\", .known 1 2⟩, "\\Package\\Foo"]
    let ns' : List Name := ["", "Vendor\\", ⟨"\\Package\\Foo", .known 3 4⟩]
    ofNames [ofParts ["A", ""], ofParts ["B"]] = ofParts ["A", "", "B"] ∧
      (ofNames ns).text = "\\Vendor\\\\\\Package\\Foo" ∧ (ofNames ns).last = "Foo" ∧
      (ofNames ns).isFullyQualified ∧ (ofNames ns).isUnqualified = false ∧
      ofNames ns = ofNames ns' := by
  intro ns ns'
  have hflat := ofNames_composes.1 [["A", ""], ["B"]] (by decide)
  obtain ⟨hlast, hfully, hunqualified, -⟩ := ofNames_composes.2.1 ns (by decide)
  refine ⟨hflat, by decide, hlast.trans (by decide), hfully.mpr (.inr (by decide)), ?_, ?_⟩
  · rw [Bool.eq_false_iff, Ne, hunqualified]
    simp [ns]
  · exact ofNames_composes.2.2 ns ns' (by decide)

/-- A list without parts still makes a name, so it cannot be left out. -/
example : ofNames [ofParts [], ofParts ["A"]] ≠ ofParts ["A"] := by decide

end ClassAssembly.Name
