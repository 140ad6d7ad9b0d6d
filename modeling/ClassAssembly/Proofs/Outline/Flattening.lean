import ClassAssembly.Proofs.Outline.Texts

/-! A block flattened is the line of the same outline, if its texts hold no line ends and do not
start like the end of a group. Flattening goes through a text from left to right, so a block may be
flattened with any line begun before it and any text behind it. -/

namespace ClassAssembly.Outline
variable {o x : Outline} {xs : List Outline} {b : Bracket} {l t u v w p s q : List Char}
  {m : List Char} {ls : List (List Char)} {c : Char} {fresh : Bool}

/-- Whether an item may start with the character: it is no line end, no margin and no bracket that
closes a group. -/
def startsItem (c : Char) : Bool := !(['\n', ' ', '}', ')', ']'].contains c)

/-- A text that stays on one line and is not mistaken for the end of a group. -/
structure Inline (t : List Char) : Prop where
  newline_not_mem : '\n' ∉ t
  startsItem_head : ∀ c ∈ t.head?, startsItem c

/-- A line that is set flush left. -/
structure Flush (l : List Char) : Prop where
  newline_not_mem : '\n' ∉ l
  head_ne_space : l.head? ≠ some ' '

theorem startsItem_iff : startsItem c ↔ c ≠ '\n' ∧ c ≠ ' ' ∧ c ≠ '}' ∧ c ≠ ')' ∧ c ≠ ']' := by
  simp [startsItem]

theorem inline_of_forall (h : ∀ c ∈ t, startsItem c) : Inline t where
  newline_not_mem hmem := absurd (h _ hmem) (by decide)
  startsItem_head c hc := h c (List.mem_of_mem_head? hc)

theorem flush_nil : Flush [] := ⟨by simp, by simp⟩

theorem flush_closing (b : Bracket) : Flush [b.closing] := by
  cases b <;> exact ⟨by decide, by decide⟩

/-- What goes on in a line that has begun may start with a space. -/
theorem Flush.append (hl : Flush l) (hnewline : '\n' ∉ t) (hhead : l ≠ [] ∨ t.head? ≠ some ' ') :
    Flush (l ++ t) := by
  refine ⟨by simp [hl.newline_not_mem, hnewline], ?_⟩
  cases l with
  | nil => exact hhead.resolve_left (absurd rfl)
  | cons c l => exact hl.head_ne_space

theorem Flush.append_inline (hl : Flush l) (ht : Inline t) : Flush (l ++ t) := by
  refine hl.append ht.newline_not_mem (.inr ?_)
  intro hspace
  exact absurd (ht.startsItem_head _ hspace) (by decide)

theorem splitOn_append_newline :
    (u ++ '\n' :: v).splitOn '\n' = u.splitOn '\n' ++ v.splitOn '\n' :=
  List.splitOnP_append_cons u v (beq_self_eq_true '\n')

theorem flushLines_append : flushLines (u ++ '\n' :: v) = flushLines u ++ flushLines v := by
  rw [flushLines, splitOn_append_newline, List.map_append]
  rfl

theorem Flush.flushLines_eq (hl : Flush l) : flushLines l = [l] := by
  rw [flushLines, List.splitOn_eq_singleton hl.newline_not_mem, List.map_singleton]
  cases l with
  | nil => rfl
  | cons c l =>
    have hc : (c == ' ') = false :=
      beq_eq_false_iff_ne.mpr fun h => hl.head_ne_space (by rw [h]; rfl)
    rw [List.dropWhile_cons_of_neg (by simp [hc])]

theorem exists_splitOn (t : List Char) : ∃ l ls, t.splitOn '\n' = l :: ls :=
  List.exists_cons_of_ne_nil (List.splitOn_ne_nil '\n' t)

theorem flushLines_space : flushLines (' ' :: t) = flushLines t := by
  obtain ⟨l, ls, hlines⟩ := exists_splitOn t
  have hspace : (' ' == '\n') = false := by decide
  rw [flushLines, flushLines, List.splitOn_cons_eq_if_modifyHead, hspace, hlines]
  rfl

theorem flushLines_margin : flushLines (margin ++ t) = flushLines t := by
  simp only [margin, List.cons_append, List.nil_append, flushLines_space]

/-- Lines that were set in are flush left as they were before. Behind a line begun none is set in
until that line ends. -/
theorem flushLines_indent_append {u : List Char} (hu : fresh = true → u = []) :
    flushLines (u ++ (indent fresh t ++ w)) = flushLines (u ++ (t ++ w)) := by
  induction t generalizing u fresh with
  | nil => rfl
  | cons c r ih =>
    have hrest : flushLines (u ++ c :: (indent (c == '\n') r ++ w)) =
        flushLines (u ++ c :: (r ++ w)) := by
      by_cases hc : c = '\n'
      · subst hc
        have hr : flushLines (indent true r ++ w) = flushLines (r ++ w) := ih fun _ => rfl
        rw [flushLines_append, flushLines_append]
        exact congrArg (flushLines u ++ ·) hr
      · have hr : flushLines ((u ++ [c]) ++ (indent false r ++ w)) =
          flushLines ((u ++ [c]) ++ (r ++ w)) := ih nofun
        rw [beq_eq_false_iff_ne.mpr hc]
        simpa using hr
    cases fresh with
    | true =>
      obtain rfl := hu rfl
      simpa [indent, flushLines_margin] using hrest
    | false => exact hrest

theorem flatten?_indent_append : flatten? (indent true t ++ w) = flatten? (t ++ w) :=
  congrArg joinLines? (flushLines_indent_append (u := []) fun _ => rfl)

theorem Flush.flatten?_eq (hl : Flush l) : flatten? l = some l := by
  rw [flatten?, hl.flushLines_eq]
  rfl

/-- A line goes on into the text behind it if it may go on into the first line there. -/
theorem Flush.flatten?_append (hl : Flush l) (ht : flatten? t = some q)
    (hjoint : ∀ m ls, flushLines t = m :: ls → joint? l m = some u) :
    flatten? (l ++ '\n' :: t) = some (u ++ q) := by
  have hne : flushLines t ≠ [] := by simp [flushLines, List.splitOn_ne_nil]
  obtain ⟨m, ls, hlines⟩ := List.exists_cons_of_ne_nil hne
  rw [flatten?, hlines] at ht
  rw [flatten?, flushLines_append, hl.flushLines_eq, hlines, List.singleton_append, joinLines?,
    hjoint m ls hlines, ht]
  rfl

/-- What starts with no space starts its line flush left. -/
theorem head?_of_flushLines (hnewline : c ≠ '\n') (hspace : c ≠ ' ')
    (h : flushLines (c :: t) = m :: ls) : m.head? = some c := by
  obtain ⟨l, ls', hlines⟩ := exists_splitOn t
  rw [flushLines, List.splitOn_cons_eq_if_modifyHead, beq_eq_false_iff_ne.mpr hnewline, hlines] at h
  have hdrop : (c :: l).dropWhile (· == ' ') = m := (List.cons.inj h).1
  rw [← hdrop, List.dropWhile_cons_of_neg (by simpa using hspace)]
  rfl

theorem joint?_opening (l m : List Char) (b : Bracket) :
    joint? (l ++ b.opening) m = some (l ++ b.opening ++ b.gap) := by
  cases b <;> simp [joint?, Bracket.opening, Bracket.gap]

theorem joint?_comma_closing (h : m.head? = some b.closing) :
    joint? (l ++ [',']) m = some (l ++ b.gap) := by
  cases b <;> simp [joint?, h, Bracket.closing, Bracket.gap]

theorem joint?_comma_item (h : m.head? = some c) (hc : startsItem c) :
    joint? (l ++ [',']) m = some (l ++ [',', ' ']) := by
  obtain ⟨-, -, hbrace, hparen, hsquare⟩ := startsItem_iff.mp hc
  simp [joint?, h, hbrace, hparen, hsquare]

/-- A text behind a line: flattened with it, it ends the line in the other text. -/
def Ends (s q : List Char) : Prop := ∀ l, Flush l → flatten? (l ++ s) = some (l ++ q)

theorem ends_nil : Ends [] [] := by
  intro l hl
  simpa using hl.flatten?_eq

theorem ends_comma_closing (h : flatten? (b.closing :: s) = some q) :
    Ends (',' :: '\n' :: b.closing :: s) (b.gap ++ q) := by
  intro l hl
  have hcomma : Flush (l ++ [',']) := hl.append (by decide) (.inr (by decide))
  have hclosing : b.closing ≠ '\n' ∧ b.closing ≠ ' ' := by
    cases b <;> decide
  have happend := hcomma.flatten?_append h fun _ _ hlines =>
    joint?_comma_closing (head?_of_flushLines hclosing.1 hclosing.2 hlines)
  simpa using happend

theorem ends_comma_item (hc : startsItem c) (h : flatten? (c :: s) = some q) :
    Ends (',' :: '\n' :: c :: s) (',' :: ' ' :: q) := by
  intro l hl
  obtain ⟨hnewline, hspace, -⟩ := startsItem_iff.mp hc
  have hcomma : Flush (l ++ [',']) := hl.append (by decide) (.inr (by decide))
  have happend := hcomma.flatten?_append h fun _ _ hlines =>
    joint?_comma_item (head?_of_flushLines hnewline hspace hlines) hc
  simpa using happend

/-- A block may be flattened where it stands. -/
def Flattens (o : Outline) : Prop := ∀ p s q, Flush p → Ends s q →
  flatten? (p ++ (o.block ++ s)) = some (p ++ (o.line ++ q))

/-- An item, with the comma behind it, starts like one. -/
def OpensItem (o : Outline) : Prop := ∀ s, ∃ c r, o.block ++ ',' :: s = c :: r ∧ startsItem c

theorem flattens_atom (ht : Inline t) : Flattens (.atom t) := by
  intro p s q hp hs
  have h := hs (p ++ t) (hp.append_inline ht)
  rwa [List.append_assoc, List.append_assoc] at h

theorem startsItem_of_isWordChar (h : isWordChar c) : startsItem c := by
  rw [startsItem_iff]
  refine ⟨?_, ?_, ?_, ?_, ?_⟩ <;>
  · rintro rfl
    exact absurd h (by decide)

theorem inline_of_isWord (hw : IsWord w) : Inline w :=
  inline_of_forall fun c hc => startsItem_of_isWordChar (hw c hc)

instance : TextSort Inline where
  word _ hw := inline_of_isWord hw
  quoted s := ⟨Text.newline_not_mem_quoted s, by simp [Text.quoted, startsItem]⟩

theorem flattens_labelled {label : String} (hlabel : IsWord label.toList) (ho : Flattens o) :
    Flattens (.labelled label o) := by
  intro p s q hp hs
  have hfront : Flush (p ++ label.toList ++ [':', ' ']) :=
    (hp.append_inline (inline_of_isWord hlabel)).append (by decide) (.inr (by decide))
  have h := ho _ s q hfront hs
  simpa [block, line] using h

/-- The items of a group, one a line, with the bracket that closes it. -/
theorem flatten?_blocksAfter (hopens : ∀ y ∈ xs, OpensItem y)
    (hflattens : ∀ y ∈ x :: xs, Flattens y) (hs : flatten? (b.closing :: s) = some q) :
    flatten? (blocksAfter (x :: xs) ++ b.closing :: s) =
      some (x.line ++ (linesAfter xs ++ (b.gap ++ q))) := by
  induction xs generalizing x with
  | nil =>
    have h := hflattens x List.mem_cons_self [] _ _ flush_nil (ends_comma_closing hs)
    simpa [blocksAfter, linesAfter] using h
  | cons y ys ih =>
    obtain ⟨hy, hys⟩ := List.forall_mem_cons.mp hopens
    obtain ⟨hx, hrest⟩ := List.forall_mem_cons.mp hflattens
    have hitems := ih hys hrest
    obtain ⟨c, r, hstart, hc⟩ := hy ('\n' :: (blocksAfter ys ++ b.closing :: s))
    have htext : blocksAfter (y :: ys) ++ b.closing :: s = c :: r := by
      rw [← hstart, blocksAfter]
      simp
    rw [htext] at hitems
    have h := hx [] _ _ flush_nil (ends_comma_item hc hitems)
    rw [← htext] at h
    simpa [blocksAfter, linesAfter] using h

theorem flattens_group {tag : String} (htag : IsWord tag.toList) (hbraces : b = .braces → tag ≠ "")
    (hopens : ∀ y ∈ xs, OpensItem y) (hflattens : ∀ y ∈ xs, Flattens y) :
    Flattens (.group tag b xs) := by
  intro p s q hp hs
  have htagged : Flush (p ++ tag.toList) := hp.append_inline (inline_of_isWord htag)
  have hfront : Flush (p ++ tag.toList ++ b.opening) := by
    cases b with
    | braces => exact htagged.append (by decide) (.inl (by simp [hbraces rfl]))
    | parens | squares => exact htagged.append (by decide) (.inr (by decide))
  have hclosing : Flush [b.closing] := flush_closing b
  cases xs with
  | nil =>
    have hempty : Flush (p ++ tag.toList ++ b.opening ++ [b.closing]) :=
      hfront.append hclosing.newline_not_mem (.inr hclosing.head_ne_space)
    have h := hs _ hempty
    simpa [block, line] using h
  | cons x xs =>
    have hitems : flatten? (blocksAfter (x :: xs) ++ b.closing :: s) =
        some (x.line ++ (linesAfter xs ++ (b.gap ++ b.closing :: q))) :=
      flatten?_blocksAfter (List.forall_mem_cons.mp hopens).2 hflattens (hs _ hclosing)
    rw [← flatten?_indent_append] at hitems
    have h := hfront.flatten?_append hitems fun m _ _ => joint?_opening _ m b
    simpa [block, blocksAfter, line] using h

theorem Inline.exists_append_cons (ht : Inline t) (hc : startsItem c) (s : List Char) :
    ∃ d r, t ++ c :: s = d :: r ∧ startsItem d := by
  cases t with
  | nil => exact ⟨c, s, rfl, hc⟩
  | cons d t => exact ⟨d, t ++ c :: s, rfl, ht.startsItem_head d rfl⟩

theorem exists_block_group (tag : String) (b : Bracket) (xs : List Outline) :
    ∃ r, (group tag b xs).block = tag.toList ++ (b.opening ++ r) := by
  cases xs with
  | nil => exact ⟨[b.closing], by simp [block]⟩
  | cons x xs =>
    exact ⟨'\n' :: (indent true (blocksAfter (x :: xs)) ++ [b.closing]),
      by simp [block, blocksAfter]⟩

/-- Only braces open with a space, and there the tag comes first. -/
theorem MadeOf.opensItem (h : MadeOf Inline o) : OpensItem o := by
  intro s
  cases h with
  | atom ht => exact ht.exists_append_cons (by decide) s
  | labelled hlabel hvalue =>
    rw [block, List.append_assoc]
    exact (inline_of_isWord hlabel).exists_append_cons (by decide) _
  | @group tag b xs htag hbraces _ =>
    obtain ⟨r, hblock⟩ := exists_block_group tag b xs
    rw [hblock, List.append_assoc, List.append_assoc]
    cases b with
    | braces =>
      have hne : tag.toList ≠ [] := by simpa using hbraces rfl
      obtain ⟨c, w, hw⟩ := List.exists_cons_of_ne_nil hne
      rw [hw]
      exact ⟨c, _, rfl, startsItem_of_isWordChar (htag c (by simp [hw]))⟩
    | parens | squares => exact (inline_of_isWord htag).exists_append_cons (by decide) _

/-- Blocks of such texts flatten to lines. -/
theorem MadeOf.flattens (h : MadeOf Inline o) : Flattens o := by
  induction h with
  | atom ht => exact flattens_atom ht
  | labelled hlabel _ ih => exact flattens_labelled hlabel ih
  | group htag hbraces hitems ih =>
    exact flattens_group htag hbraces (fun y hy => (hitems y hy).opensItem) ih

theorem MadeOf.flatten?_block (h : MadeOf Inline o) : flatten? o.block = some o.line := by
  have hwhole := h.flattens [] [] [] flush_nil ends_nil
  simpa using hwhole

end ClassAssembly.Outline
