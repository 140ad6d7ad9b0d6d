import ClassAssembly.Name.Basic
import Mathlib.Data.Finset.Card

/-! Names are told apart by their texts alone: by every comparison, by their hashes, and in hash
sets, whatever the hash of a text is. -/

namespace ClassAssembly.Name
variable {a b : Name} {p : Position} {names : List Name}

/-- The hash of a name by a hash of texts. -/
def hashBy (h : String → UInt64) (a : Name) : UInt64 := h a.text

/-- How many names a hash set holds after a list of them was put in one by one. -/
def distinctBy (h : String → UInt64) (names : List Name) : Nat :=
  (@Std.HashSet.ofList Name _ ⟨hashBy h⟩ names).size

/-- The name as it would be if it stood elsewhere. -/
def placed (a : Name) (p : Position) : Name := { a with position := p }

/-- The names with each one standing at a place of its own. -/
def placedAll (places : Nat → Position) (names : List Name) : List Name :=
  names.mapIdx fun i a => a.placed (places i)

theorem hash_eq_hashBy (a : Name) : hash a = a.hashBy hash := rfl

theorem distinct_eq_distinctBy (names : List Name) : distinct names = distinctBy hash names := rfl

theorem hasText_iff {s : String} : a.hasText s ↔ a.text = s := beq_iff_eq

theorem isTextOf_iff {s : String} : isTextOf s a ↔ a.text = s := beq_iff_eq

theorem map_text_placedAll (places : Nat → Position) (names : List Name) :
    (placedAll places names).map text = names.map text := by
  refine List.ext_getElem (by simp [placedAll]) ?_
  intro i _ _
  simp [placedAll, placed]

section
variable [Hashable Name] {set : Std.HashSet Name} {texts : Finset String}

/-- A set of names holds one for each of the texts. -/
structure Covers (set : Std.HashSet Name) (texts : Finset String) : Prop where
  mem_iff : ∀ a : Name, a ∈ set ↔ a.text ∈ texts
  size_eq : set.size = texts.card

theorem covers_empty : Covers ∅ ∅ where
  mem_iff a := by simp
  size_eq := by simp

variable [LawfulHashable Name]

/-- A name is new to the set when its text is, even if its hash is not. -/
theorem Covers.insert (h : Covers set texts) (a : Name) :
    Covers (set.insert a) (insert a.text texts) where
  mem_iff b := by
    rw [Std.HashSet.mem_insert, Finset.mem_insert, h.mem_iff, beq_iff_text_eq, eq_comm]
  size_eq := by
    rw [Std.HashSet.size_insert, h.size_eq]
    by_cases ha : a.text ∈ texts
    · rw [if_pos ((h.mem_iff a).mpr ha), Finset.insert_eq_of_mem ha]
    · rw [if_neg (mt (h.mem_iff a).mp ha), Finset.card_insert_of_notMem ha]

theorem Covers.insertMany (h : Covers set texts) (names : List Name) :
    Covers (set.insertMany names) (texts ∪ (names.map text).toFinset) := by
  induction names generalizing set texts with
  | nil => simpa using h
  | cons a names ih =>
    have hrest := ih (h.insert a)
    rw [Finset.insert_union, ← Finset.union_insert] at hrest
    simpa [Std.HashSet.insertMany_cons] using hrest

theorem size_ofList : (Std.HashSet.ofList names).size = (names.map text).toFinset.card := by
  have hcovers : Covers (Std.HashSet.ofList names) (∅ ∪ (names.map text).toFinset) := by
    rw [Std.HashSet.ofList_eq_insertMany_empty]
    exact covers_empty.insertMany names
  rw [hcovers.size_eq, Finset.empty_union]

end

theorem distinctBy_eq_card (h : String → UInt64) (names : List Name) :
    distinctBy h names = (names.map text).toFinset.card := by
  let _ : Hashable Name := ⟨hashBy h⟩
  have _ : LawfulHashable Name := ⟨fun a b hab => congrArg h (beq_iff_text_eq.mp hab)⟩
  exact size_ofList

/-- Names are equal when their texts are, and so are their hashes, whatever hash is taken of a text.
A set holds as many of them as there are texts, in whatever order they came. Where a name stands has
no part in any of it. -/
theorem names_told_by_text (h : String → UInt64) :
    (∀ a b : Name,
      (a == b ↔ a.text = b.text) ∧ (a == b ↔ a.hasText b.text) ∧ (a == b ↔ isTextOf b.text a) ∧
      (a == b → hash a = hash b ∧ a.hashBy h = b.hashBy h)) ∧
    (∀ names order : List Name, order.Perm names →
      distinct order = (names.map text).toFinset.card ∧
      distinctBy h order = (names.map text).toFinset.card) ∧
    (∀ (a b : Name) (p q : Position),
      (a.placed p == b.placed q) = (a == b) ∧ hash (a.placed p) = hash a ∧
      (a.placed p).hashBy h = a.hashBy h) ∧
    ∀ (places : Nat → Position) (names : List Name),
      distinct (placedAll places names) = distinct names ∧
      distinctBy h (placedAll places names) = distinctBy h names := by
  refine ⟨?_, ?_, ?_, ?_⟩
  · intro a b
    refine ⟨beq_iff_text_eq, ?_, ?_, ?_⟩
    · rw [beq_iff_text_eq, hasText_iff]
    · rw [beq_iff_text_eq, isTextOf_iff]
    · intro hab
      have hagree (g : String → UInt64) : a.hashBy g = b.hashBy g :=
        congrArg g (beq_iff_text_eq.mp hab)
      rw [hash_eq_hashBy, hash_eq_hashBy]
      exact ⟨hagree hash, hagree h⟩
  · intro names order hperm
    have htexts : (order.map text).toFinset = (names.map text).toFinset :=
      List.toFinset_eq_of_perm _ _ (hperm.map text)
    rw [distinct_eq_distinctBy, distinctBy_eq_card, distinctBy_eq_card, htexts]
    exact ⟨rfl, rfl⟩
  · intro a b p q
    exact ⟨rfl, rfl, rfl⟩
  · intro places names
    simp only [distinct_eq_distinctBy, distinctBy_eq_card, map_text_placedAll, and_self]

/-- Four names with two texts, offered backwards to a set in which all hashes collide. -/
theorem names_told_by_text_colliding :
    let a : Name := "Foo"
    let b : Name := ⟨"Foo", .known 3 7⟩
    let c := ofParts ["Foo", "Bar"]
    let d : Name := "Foo\\Bar"
    a ≠ b ∧ a == b ∧ a.hasText b.text ∧ isTextOf b.text a ∧ hash a = hash b ∧ c == d ∧ !(a == c) ∧
      distinct [d, c, b, a] = 2 ∧ distinctBy (fun _ => 0) [d, c, b, a] = 2 := by
  intro a b c d
  obtain ⟨hequal, hsize, -⟩ := names_told_by_text fun _ => 0
  have hab : a == b := (hequal a b).1.mpr rfl
  have hcd : c == d := (hequal c d).1.mpr (by decide)
  have hsizes := hsize [a, b, c, d] [d, c, b, a] (List.reverse_perm [a, b, c, d])
  have hcard : ([a, b, c, d].map text).toFinset.card = 2 := by decide
  rw [hcard] at hsizes
  refine ⟨by decide, hab, (hequal a b).2.1.mp hab, (hequal a b).2.2.1.mp hab,
    ((hequal a b).2.2.2 hab).1, hcd, by decide, hsizes.1, hsizes.2⟩

end ClassAssembly.Name
