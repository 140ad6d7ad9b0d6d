import ClassAssembly.ClassDecl.Queries
import Mathlib.Data.List.Forall2
import Mathlib.Tactic.SplitIfs

/-! The first method of a name, said of the nodes of a body and not of the search for it. Names that
differ in the case of letters A to Z are one name, and no others are. -/

namespace ClassAssembly

variable {c d : Char} {s t : String}

/-- A letter of A to Z, and the same letter of a to z. -/
def CasePair (c d : Char) : Prop := 'A' ≤ c ∧ c ≤ 'Z' ∧ d.toNat = c.toNat + 32

def SameLetter (c d : Char) : Prop := c = d ∨ CasePair c d ∨ CasePair d c

/-- Texts with the same letters, but for the case of those of A to Z. -/
def SameButCase (s t : String) : Prop := List.Forall₂ SameLetter s.toList t.toList

theorem casePair_iff : CasePair c d ↔ 65 ≤ c.toNat ∧ c.toNat ≤ 90 ∧ d.toNat = c.toNat + 32 :=
  Iff.rfl

theorem toNat_toLower :
    c.toLower.toNat = if 65 ≤ c.toNat ∧ c.toNat ≤ 90 then c.toNat + 32 else c.toNat := by
  by_cases h : c.val ≥ 'A'.val ∧ c.val ≤ 'Z'.val
  · have hrange : 65 ≤ c.toNat ∧ c.toNat ≤ 90 := h
    have hlower : c.toLower.val = c.val + ('a'.val - 'A'.val) := congrArg Char.val (dif_pos h)
    have hsum : (c.val + ('a'.val - 'A'.val)).toNat = c.toNat + 32 := by
      rw [UInt32.toNat_add]
      change (c.toNat + 32) % 2 ^ 32 = c.toNat + 32
      omega
    rw [if_pos hrange]
    exact (congrArg UInt32.toNat hlower).trans hsum
  · have hrange : ¬ (65 ≤ c.toNat ∧ c.toNat ≤ 90) := h
    rw [if_neg hrange]
    exact congrArg Char.toNat (dif_neg h)

theorem toLower_eq_iff : c.toLower = d.toLower ↔ SameLetter c d := by
  rw [← Char.toNat_inj, toNat_toLower, toNat_toLower, SameLetter, casePair_iff, casePair_iff,
    ← Char.toNat_inj]
  split_ifs <;> omega

/-- Characters beyond the first 128 have no other form. -/
theorem SameLetter.eq_of_le (h : SameLetter c d) (hle : 128 ≤ c.toNat ∨ 128 ≤ d.toNat) : c = d := by
  rcases h with rfl | hcase | hcase
  · rfl
  · rw [casePair_iff] at hcase
    omega
  · rw [casePair_iff] at hcase
    omega

theorem SameButCase.eq_of_le (h : SameButCase s t) :
    List.Forall₂ (fun c d => 128 ≤ c.toNat ∨ 128 ≤ d.toNat → c = d) s.toList t.toList :=
  h.imp fun _ _ => SameLetter.eq_of_le

theorem foldCase_eq_iff : foldCase s = foldCase t ↔ SameButCase s t := by
  rw [foldCase, foldCase, ← List.forall₂_eq_eq_eq, List.forall₂_map_left_iff,
    List.forall₂_map_right_iff]
  simp only [toLower_eq_iff]
  rfl

namespace Node
variable {n : Node} {m : Method} {ns : List Node}

/-- Of all methods among the nodes that have the name, the first. -/
def FirstNamed (s : String) (m : Method) (ns : List Node) : Prop :=
  ∃ pre post, ns = pre ++ .method m :: post ∧ SameButCase m.name s ∧
    ∀ l : Method, .method l ∈ pre → ¬ SameButCase l.name s

theorem method?_eq_some_iff : n.method? = some m ↔ n = .method m := by
  cases n <;> simp [method?]

end Node

namespace ClassDecl
variable {e e' : ClassDecl} {m : Method} {ns : List Node} {i : Nat}

/-- The method that answers to a name, with its place among the methods. -/
structure AnswersAt (e : ClassDecl) (s : String) (m : Method) (i : Nat) : Prop where
  findMethod?_eq : e.findMethod? s = some m
  methodIndex?_eq : e.methodIndex? s = some i
  getElem?_eq : e.methods[i]? = some m

theorem answersTo_iff : answersTo s m ↔ SameButCase m.name s := by
  rw [answersTo, decide_eq_true_eq, foldCase_eq_iff]

theorem find?_answersTo_eq_some_iff :
    (ns.filterMap Node.method?).find? (answersTo s) = some m ↔ Node.FirstNamed s m ns := by
  rw [List.find?_filterMap, Option.bind_eq_some_iff]
  constructor
  · rintro ⟨n, hn, hm⟩
    obtain rfl := Node.method?_eq_some_iff.mp hm
    obtain ⟨hname, pre, post, hns, hpre⟩ := List.find?_eq_some_iff_append.mp hn
    refine ⟨pre, post, hns, answersTo_iff.mp hname, ?_⟩
    intro l hl hsame
    have hanswers : answersTo s l = true := answersTo_iff.mpr hsame
    simpa [Node.method?, hanswers] using hpre _ hl
  · rintro ⟨pre, post, hns, hname, hpre⟩
    refine ⟨.method m,
      List.find?_eq_some_iff_append.mpr ⟨answersTo_iff.mpr hname, pre, post, hns, ?_⟩,
      rfl⟩
    intro n hn
    cases hm : n.method? with
    | none => rfl
    | some l =>
      obtain rfl := Node.method?_eq_some_iff.mp hm
      have hother : ¬ answersTo s l = true := answersTo_iff.not.mpr (hpre l hn)
      simpa using hother

theorem findMethod?_eq_some_iff : e.findMethod? s = some m ↔ Node.FirstNamed s m e.statements :=
  find?_answersTo_eq_some_iff

theorem findMethod?_eq_none_iff : e.findMethod? s = none ↔
    ∀ m : Method, .method m ∈ e.statements → ¬ SameButCase m.name s := by
  rw [findMethod?, methods, List.find?_eq_none]
  constructor
  · intro h m hm
    rw [← answersTo_iff]
    exact h m (List.mem_filterMap.mpr ⟨_, hm, rfl⟩)
  · intro h m hm
    obtain ⟨n, hn, hmethod⟩ := List.mem_filterMap.mp hm
    obtain rfl := Node.method?_eq_some_iff.mp hmethod
    rw [answersTo_iff]
    exact h m hn

theorem exists_answersAt (h : e.findMethod? s = some m) : ∃ i, e.AnswersAt s m i := by
  have hplace := h
  rw [findMethod?_eq_methodIndex?, Option.bind_eq_some_iff] at hplace
  obtain ⟨i, hi, hm⟩ := hplace
  exact ⟨i, h, hi, hm⟩

/-- Methods behind the others take nothing from them. -/
theorem AnswersAt.of_isPrefix (h : e.AnswersAt s m i) (hmethods : e.methods <+: e'.methods) :
    e'.AnswersAt s m i where
  findMethod?_eq := hmethods.find?_eq_some h.findMethod?_eq
  methodIndex?_eq := hmethods.findIdx?_eq_some h.methodIndex?_eq
  getElem?_eq := by
    obtain ⟨hi, hm⟩ := List.getElem?_eq_some_iff.mp h.getElem?_eq
    obtain ⟨rest, hrest⟩ := hmethods
    rw [← hrest, List.getElem?_append_left hi]
    exact h.getElem?_eq

end ClassDecl

end ClassAssembly
