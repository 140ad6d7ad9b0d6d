import ClassAssembly.Node.Kind

/-! What a class declaration holds, by kind, and its methods by name. -/

namespace ClassAssembly

namespace Node

def traitUse? : Node → Option TraitUse
  | .traitUse u => some u
  | _ => none

def classConst? : Node → Option ClassConst
  | .classConst c => some c
  | _ => none

def property? : Node → Option Property
  | .property p => some p
  | _ => none

def method? : Node → Option Method
  | .method m => some m
  | _ => none

end Node

/-- The text with A to Z in lower case. No other letter has a second form. -/
def foldCase (s : String) : List Char := s.toList.map Char.toLower

namespace ClassDecl
variable {d : ClassDecl} {s t : String}

def isAbstract (d : ClassDecl) : Bool := d.modifier = .abstract

def isFinal (d : ClassDecl) : Bool := d.modifier = .final

def traitUses (d : ClassDecl) : List TraitUse := d.statements.filterMap Node.traitUse?

def constants (d : ClassDecl) : List ClassConst := d.statements.filterMap Node.classConst?

def properties (d : ClassDecl) : List Property := d.statements.filterMap Node.property?

def methods (d : ClassDecl) : List Method := d.statements.filterMap Node.method?

/-- Method names are compared without regard to case. -/
def answersTo (s : String) (m : Method) : Bool := foldCase m.name = foldCase s

/-- The first method of a name. -/
def findMethod? (d : ClassDecl) (s : String) : Option Method := d.methods.find? (answersTo s)

/-- Where among the methods the first one of a name stands. -/
def methodIndex? (d : ClassDecl) (s : String) : Option Nat := d.methods.findIdx? (answersTo s)

theorem not_isFinal_of_isAbstract (h : d.isAbstract) : d.isFinal = false := by
  simp_all [isAbstract, isFinal]

theorem answersTo_congr (h : foldCase s = foldCase t) : answersTo s = answersTo t := by
  funext m
  simp [answersTo, h]

theorem findMethod?_congr (h : foldCase s = foldCase t) : d.findMethod? s = d.findMethod? t := by
  rw [findMethod?, answersTo_congr h, findMethod?]

theorem findMethod?_eq_methodIndex? :
    d.findMethod? s = (d.methodIndex? s).bind fun i => d.methods[i]? := by
  unfold findMethod? methodIndex?
  generalize d.methods = ms
  induction ms with
  | nil => rfl
  | cons m ms ih =>
    rw [List.find?_cons, List.findIdx?_cons]
    cases answersTo s m with
    | true => rfl
    | false =>
      rw [ih]
      cases List.findIdx? (answersTo s) ms <;> rfl

end ClassDecl

end ClassAssembly
