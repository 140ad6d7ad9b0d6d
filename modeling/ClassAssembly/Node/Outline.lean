import ClassAssembly.Binary64.Written
import ClassAssembly.Node.Kind
import ClassAssembly.Outline.Basic
import ClassAssembly.Text.Quoted

/-! The outlines of nodes. -/

namespace ClassAssembly
open Outline

def Outline.quoted (s : String) : Outline := .atom (Text.quoted s)

namespace Position

def outline : Position → Outline
  | .unknown => word "UnknownPosition"
  | .known l c => record "SourcePos" [("line", word (toString l)), ("col", word (toString c))]

end Position

/-- A name stands as it is, without quotes. -/
def Name.outline (a : Name) : Outline := word a.text

def Literal.outline : Literal → Outline
  | .null => word "NullLit"
  | .bool v => record "BoolLit" [("bool_value", truth v)]
  | .int v => record "IntLit" [("int_value", word (toString v))]
  | .float v => record "FloatLit" [("float_value", tuple "NotNan" [.atom v.written])]
  | .string v => record "StringLit" [("string_value", quoted v)]

def Expression.outline : Expression → Outline
  | .literal v => record "Lit" [("lit", v.outline)]
  | .constFetch n => record "ConstFetch" [("name", n.outline)]
  | .var n => record "Var" [("var", quoted n)]

def Visibility.outline : Visibility → Outline
  | .publicly => word "Public"
  | .protectedly => word "Protected"
  | .privately => word "Private"

def ClassModifier.outline : ClassModifier → Outline
  | .plain => word "None"
  | .abstract => word "Abstract"
  | .final => word "Final"

def MemberFlags.outline (f : MemberFlags) : Outline :=
  record "MemberFlags" [("visibility", f.visibility.outline), ("is_static", truth f.isStatic),
    ("is_abstract", truth f.isAbstract), ("is_final", truth f.isFinal)]

def TraitUse.outline (u : TraitUse) : Outline :=
  record "TraitUse" [("traits", list (u.traits.map Name.outline)), ("info", u.position.outline)]

def Const.outline (c : Const) : Outline :=
  record "Const" [("name", quoted c.name), ("value", c.value.outline)]

def ClassConst.outline (c : ClassConst) : Outline :=
  record "ClassConst" [("consts", list (c.consts.map Const.outline)), ("info", c.position.outline)]

def PropertyItem.outline (i : PropertyItem) : Outline :=
  record "PropertyProperty" [("name", quoted i.name),
    ("default", option Expression.outline i.initial)]

def Property.outline (p : Property) : Outline :=
  record "Property" [("flags", p.flags.outline),
    ("props", list (p.items.map PropertyItem.outline)), ("info", p.position.outline)]

def Param.outline (p : Param) : Outline :=
  record "Param" [("name", quoted p.name), ("type_", option Name.outline p.declaredType),
    ("default", option Expression.outline p.initial), ("by_ref", truth p.byReference),
    ("variadic", truth p.variadic), ("info", p.position.outline)]

mutual

def Node.outline : Node → Outline
  | .traitUse u => tuple "TraitUse" [u.outline]
  | .classConst c => tuple "ClassConst" [c.outline]
  | .property p => tuple "Property" [p.outline]
  | .method m => tuple "ClassMethod" [m.outline]
  | .classDecl d => tuple "Class" [d.outline]
  | .expression v p =>
    record "Expression" [("expression", v.outline), ("info", p.outline)]
  | .echo vs p =>
    record "Echo" [("expressions", list (vs.map Expression.outline)), ("info", p.outline)]
  | .returned v p =>
    record "Return" [("expression", option Expression.outline v), ("info", p.outline)]

def Method.outline : Method → Outline
  | ⟨flags, byReference, name, params, body, position⟩ =>
    record "ClassMethod" [("flags", flags.outline), ("by_ref", truth byReference),
      ("name", quoted name), ("params", list (params.map Param.outline)),
      ("stmts", Method.outlineBody body), ("info", position.outline)]

def ClassDecl.outline : ClassDecl → Outline
  | ⟨name, modifier, parent, interfaces, statements, position⟩ =>
    record "ClassDeclaration" [("name", name.outline), ("modifier", modifier.outline),
      ("extends", option Name.outline parent),
      ("implements", list (interfaces.map Name.outline)),
      ("stmts", list (Node.outlines statements)), ("info", position.outline)]

def Method.outlineBody : Option (List Node) → Outline
  | none => word "None"
  | some ns => tuple "Some" [list (Node.outlines ns)]

def Node.outlines : List Node → List Outline
  | [] => []
  | n :: ns => n.outline :: Node.outlines ns

end

@[simp]
theorem Node.outlines_eq_map (ns : List Node) : Node.outlines ns = ns.map Node.outline := by
  induction ns with
  | nil => rfl
  | cons n ns ih => simp [Node.outlines, ih]

@[simp]
theorem Method.outlineBody_eq_option (b : Option (List Node)) :
    Method.outlineBody b = option (fun ns => list (ns.map Node.outline)) b := by
  cases b <;> simp [Method.outlineBody, option]

end ClassAssembly
