import ClassAssembly.Builder.Member

/-! Workspaces: builders and declarations that are kept and worked on under names. -/

namespace ClassAssembly

structure Registers (α : Type) where
  entries : List (String × α) := []

namespace Registers
variable {α : Type} {r : Registers α} {k l : String} {a : α}

def get? (r : Registers α) (k : String) : Option α := r.entries.lookup k

def erase (r : Registers α) (k : String) : Registers α := ⟨r.entries.filter (·.1 != k)⟩

/-- Keeps a value under a name, in place of an earlier one. -/
def set (r : Registers α) (k : String) (a : α) : Registers α := ⟨(k, a) :: (r.erase k).entries⟩

theorem get?_cons {es : List (String × α)} :
    get? ⟨(k, a) :: es⟩ l = if l = k then some a else get? ⟨es⟩ l := by
  by_cases h : l = k
  · simp [get?, h]
  · simp [get?, List.lookup_cons, h, beq_eq_false_iff_ne.mpr h]

theorem erase_cons {es : List (String × α)} :
    erase ⟨(l, a) :: es⟩ k =
      if l = k then erase ⟨es⟩ k else ⟨(l, a) :: (erase ⟨es⟩ k).entries⟩ := by
  by_cases h : l = k <;> simp [erase, h]

theorem get?_erase : (r.erase k).get? l = if l = k then none else r.get? l := by
  obtain ⟨es⟩ := r
  induction es with
  | nil => simp [get?, erase]
  | cons e es ih =>
    obtain ⟨j, a⟩ := e
    rw [erase_cons]
    by_cases hj : j = k <;> by_cases hl : l = k <;> simp_all [get?_cons]
    grind

theorem get?_set : (r.set k a).get? l = if l = k then some a else r.get? l := by
  rw [set, get?_cons]
  split
  · rfl
  · rename_i h
    exact get?_erase.trans (if_neg h)

end Registers

structure Workspace where
  builders : Registers ClassBuilder := {}
  classes : Registers ClassDecl := {}

/-- Why a step was not carried out. -/
inductive Fault
  | refused (refusal : Refusal)
  | number (error : NumberError)
  | noBuilder (register : String)
  | noClass (register : String)
  | noStatement

/-- Work that may change the workspace, also when it fails later on. -/
abbrev Session := ExceptT Fault (StateM Workspace)

namespace Session

def builder (k : String) : Session ClassBuilder := do
  match (← get).builders.get? k with
  | some b => return b
  | none => throw (.noBuilder k)

def classDecl (k : String) : Session ClassDecl := do
  match (← get).classes.get? k with
  | some d => return d
  | none => throw (.noClass k)

def putBuilder (k : String) (b : ClassBuilder) : Session Unit :=
  modify fun w => { w with builders := w.builders.set k b }

def putClass (k : String) (d : ClassDecl) : Session Unit :=
  modify fun w => { w with classes := w.classes.set k d }

/-- Takes a builder out of its register. -/
def takeBuilder (k : String) : Session ClassBuilder := do
  let b ← builder k
  modify fun w => { w with builders := w.builders.erase k }
  return b

end Session

end ClassAssembly
