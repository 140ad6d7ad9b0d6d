import ClassAssembly.Text.Quoted

/-! Quoted text can be read back: it tells where it ends and what was quoted. -/

namespace ClassAssembly.Text
variable {c d : Char} {r r' : List Char}

/-- A run of characters of one sort ends where the first other character stands. -/
theorem run_append_inj {p : Char → Bool} {v w s t : List Char} (hv : ∀ c ∈ v, p c)
    (hw : ∀ c ∈ w, p c) (hs : ∀ c ∈ s.head?, p c = false) (ht : ∀ c ∈ t.head?, p c = false)
    (h : v ++ s = w ++ t) : v = w ∧ s = t := by
  induction v generalizing w with
  | nil =>
    cases w with
    | nil => exact ⟨rfl, h⟩
    | cons c w =>
      subst h
      exact absurd (hw c List.mem_cons_self) (ne_true_of_eq_false (hs c rfl))
  | cons c v ih =>
    cases w with
    | nil =>
      subst h
      exact absurd (hv c List.mem_cons_self) (ne_true_of_eq_false (ht c rfl))
    | cons d w =>
      obtain ⟨rfl, hrest⟩ := List.cons.inj h
      obtain ⟨rfl, rfl⟩ := ih (fun c hc => hv c (List.mem_cons_of_mem _ hc))
        (fun c hc => hw c (List.mem_cons_of_mem _ hc)) hrest
      exact ⟨rfl, rfl⟩

section
variable {m n : Nat}

theorem digitChar_inj : ∀ m < 16, ∀ n < 16, Nat.digitChar m = Nat.digitChar n → m = n := by
  decide

theorem toDigits_inj (h : Nat.toDigits 16 m = Nat.toDigits 16 n) : m = n := by
  induction m using Nat.strongRecOn generalizing n with
  | ind m ih =>
    rw [Nat.toDigits_eq_if (by decide), Nat.toDigits_eq_if (n := n) (by decide)] at h
    split at h
    next hm =>
      split at h
      next hn => exact digitChar_inj m hm n hn (List.singleton_inj.mp h)
      next hn =>
        have hnil : [] = Nat.toDigits 16 (n / 16) := List.append_inj_left' h rfl
        exact absurd hnil.symm Nat.toDigits_ne_nil
    next hm =>
      split at h
      next hn =>
        have hnil : Nat.toDigits 16 (m / 16) = [] := List.append_inj_left' h rfl
        exact absurd hnil Nat.toDigits_ne_nil
      next hn =>
        obtain ⟨hleading, hlast⟩ := List.append_inj' h rfl
        have hdiv : m / 16 = n / 16 := ih (m / 16) (by omega) hleading
        have hmod : m % 16 = n % 16 := digitChar_inj _ (Nat.mod_lt _ (by decide)) _
          (Nat.mod_lt _ (by decide)) (List.singleton_inj.mp hlast)
        omega

/-- What is true of the sixteen digits is true of all digits in a number. -/
theorem forall_mem_toDigits {p : Char → Prop} (hp : ∀ n < 16, p (Nat.digitChar n)) :
    ∀ c ∈ Nat.toDigits 16 n, p c := by
  induction n using Nat.strongRecOn with
  | ind n ih =>
    intro c h
    rw [Nat.toDigits_eq_if (by decide)] at h
    split at h
    next hn =>
      obtain rfl := List.mem_singleton.mp h
      exact hp n hn
    next hn =>
      obtain h | h := List.mem_append.mp h
      · exact ih (n / 16) (by omega) c h
      · obtain rfl := List.mem_singleton.mp h
        exact hp _ (Nat.mod_lt _ (by decide))

theorem ne_brace_of_mem_toDigits (h : c ∈ Nat.toDigits 16 n) : c ≠ '}' :=
  forall_mem_toDigits (p := (· ≠ '}')) (by decide) c h

end

/-- The characters with an escape of one letter, and their letters. -/
def letters : List (Char × Char) :=
  [('"', '"'), ('\\', '\\'), ('\n', 'n'), ('\r', 'r'), ('\t', 't'), ('\x00', '0')]

/-- The three ways to write a character. -/
inductive Written (c : Char) : List Char → Prop
  | letter {l : Char} (h : (c, l) ∈ letters) : Written c ['\\', l]
  | plain (hslash : c ≠ '\\') (hquote : c ≠ '"') : Written c [c]
  | code : Written c (codeEscape c)

theorem written_escape (c : Char) : Written c (escape c) := by
  unfold escape
  split
  case h_7 hquote hslash _ _ _ _ =>
    split
    · exact .plain hslash hquote
    · exact .code
  all_goals exact .letter (by decide)

theorem codeEscape_append_inj (h : codeEscape c ++ r = codeEscape d ++ r') : c = d ∧ r = r' := by
  have hdigits : Nat.toDigits 16 c.toNat ++ '}' :: r = Nat.toDigits 16 d.toNat ++ '}' :: r' := by
    simpa [codeEscape] using h
  have hrun (n : Nat) : ∀ c ∈ Nat.toDigits 16 n, (c != '}') = true := fun c hc =>
    bne_iff_ne.mpr (ne_brace_of_mem_toDigits hc)
  obtain ⟨heq, hrest⟩ := run_append_inj (hrun _) (hrun _) (by simp) (by simp) hdigits
  exact ⟨Char.toNat_inj.mp (toDigits_inj heq), List.tail_eq_of_cons_eq hrest⟩

theorem escape_append_inj (h : escape c ++ r = escape d ++ r') : c = d ∧ r = r' := by
  have hletters : ∀ a ∈ letters, a.2 ≠ 'u' ∧ ∀ b ∈ letters, a.2 = b.2 → a.1 = b.1 := by
    decide
  have hc := written_escape c
  have hd := written_escape d
  generalize escape c = u at h hc
  generalize escape d = v at h hd
  cases hc with
  | letter hc =>
    cases hd with
    | letter hd =>
      obtain ⟨hl, rfl⟩ := List.cons.inj (List.cons.inj h).2
      exact ⟨(hletters _ hc).2 _ hd hl, rfl⟩
    | plain hslash => exact absurd (List.cons.inj h).1.symm hslash
    | code => exact absurd (List.cons.inj (List.cons.inj h).2).1 (hletters _ hc).1
  | plain hslash =>
    cases hd with
    | letter => exact absurd (List.cons.inj h).1 hslash
    | plain => exact List.cons.inj h
    | code => exact absurd (List.cons.inj h).1 hslash
  | code =>
    cases hd with
    | letter hd => exact absurd (List.cons.inj (List.cons.inj h).2).1.symm (hletters _ hd).1
    | plain hslash => exact absurd (List.cons.inj h).1.symm hslash
    | code => exact codeEscape_append_inj h

/-- A quotation mark is never written as itself, so none is read too early. -/
theorem escape_append_ne (c : Char) : escape c ++ r ≠ '"' :: r' := by
  intro h
  have hc := written_escape c
  generalize escape c = u at h hc
  cases hc with
  | letter | code => exact absurd (List.cons.inj h).1 (by decide)
  | plain _ hquote => exact absurd (List.cons.inj h).1 hquote

theorem escapes_append_inj {s t : List Char}
    (h : s.flatMap escape ++ '"' :: r = t.flatMap escape ++ '"' :: r') : s = t ∧ r = r' := by
  induction s generalizing t with
  | nil =>
    cases t with
    | nil => exact ⟨rfl, (List.cons.inj h).2⟩
    | cons d t =>
      rw [List.flatMap_cons, List.append_assoc] at h
      exact absurd h.symm (escape_append_ne d)
  | cons c s ih =>
    cases t with
    | nil =>
      rw [List.flatMap_cons, List.append_assoc] at h
      exact absurd h (escape_append_ne c)
    | cons d t =>
      rw [List.flatMap_cons, List.flatMap_cons, List.append_assoc, List.append_assoc] at h
      obtain ⟨rfl, hrest⟩ := escape_append_inj h
      obtain ⟨rfl, rfl⟩ := ih hrest
      exact ⟨rfl, rfl⟩

theorem quoted_append_inj {s t : String} (h : quoted s ++ r = quoted t ++ r') :
    s = t ∧ r = r' := by
  have hinner : s.toList.flatMap escape ++ '"' :: r = t.toList.flatMap escape ++ '"' :: r' := by
    simpa [quoted] using h
  obtain ⟨heq, hrest⟩ := escapes_append_inj hinner
  exact ⟨String.toList_inj.mp heq, hrest⟩

/-- Quoted text stays on one line. -/
theorem newline_not_mem_escape (c : Char) : '\n' ∉ escape c := by
  unfold escape
  split
  case h_7 hnewline _ _ _ =>
    split
    · simpa using Ne.symm hnewline
    · have hdigits : ∀ d ∈ Nat.toDigits 16 c.toNat, d ≠ '\n' := forall_mem_toDigits (by decide)
      have hmem : '\n' ∉ Nat.toDigits 16 c.toNat := fun h => hdigits _ h rfl
      simp [codeEscape, hmem]
  all_goals decide

theorem newline_not_mem_quoted (s : String) : '\n' ∉ quoted s := by
  simp [quoted, newline_not_mem_escape]

end ClassAssembly.Text
