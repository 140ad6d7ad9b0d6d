import ClassAssembly.Binary64.Basic
import ClassAssembly.Name.Basic

/-! Constant expressions. -/

namespace ClassAssembly

inductive Literal
  | null
  | bool (value : Bool)
  | int (value : Int64)
  | float (value : Binary64)
  | string (value : String)
  deriving DecidableEq

inductive Expression
  | literal (value : Literal)
  /-- The value of a named constant. -/
  | constFetch (name : Name)
  | var (name : String)
  deriving DecidableEq

/-- Literals of different types differ; floats are compared as numbers. -/
def Literal.same : Literal → Literal → Bool
  | .null, .null => true
  | .bool a, .bool b => a == b
  | .int a, .int b => a == b
  | .float a, .float b => a == b
  | .string a, .string b => a == b
  | _, _ => false

instance : BEq Literal := ⟨Literal.same⟩

def Expression.same : Expression → Expression → Bool
  | .literal a, .literal b => a == b
  | .constFetch a, .constFetch b => a == b
  | .var a, .var b => a == b
  | _, _ => false

instance : BEq Expression := ⟨Expression.same⟩

instance : Inhabited Expression := ⟨.literal .null⟩

namespace Expression

def null : Expression := .literal .null

def int (value : Int64) : Expression := .literal (.int value)

def bool (value : Bool) : Expression := .literal (.bool value)

def float (value : Binary64) : Expression := .literal (.float value)

def string (value : String) : Expression := .literal (.string value)

end Expression

end ClassAssembly
