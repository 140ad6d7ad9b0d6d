import Std.Data.HashSet

/-! Names with the places they stand at, compared and hashed by their text alone. The parts of a name
stand between its separators, and names are joined from parts. -/

namespace ClassAssembly

/-- Where something was read. What was made by hand has no known place. -/
inductive Position
  | unknown
  | known (line column : UInt64)
  deriving DecidableEq, Repr

instance : Inhabited Position := ⟨.unknown⟩

/-- A possibly qualified name. The text is kept as given: no spelling rule is checked. -/
structure Name where
  text : String
  position : Position := .unknown
  deriving DecidableEq

namespace Name
variable {a b : Name} {s : String} {ps : List String}

instance : Inhabited Name := ⟨⟨"", .unknown⟩⟩

/-- A bare text is the name read nowhere. -/
instance : Coe String Name := ⟨fun s => ⟨s, .unknown⟩⟩

instance : ToString Name := ⟨Name.text⟩

/-- Two names agree when their texts do, wherever they were read. -/
instance : BEq Name := ⟨fun a b => a.text == b.text⟩

instance : Hashable Name := ⟨fun a => hash a.text⟩

/-- Whether a bare text is the text of a name. The name may stand on either side. -/
def hasText (a : Name) (s : String) : Bool := a.text == s

def isTextOf (s : String) (a : Name) : Bool := a.text == s

theorem beq_iff_text_eq : a == b ↔ a.text = b.text := by
  change (a.text == b.text) = true ↔ _
  simp

theorem hash_eq_hash_text : hash a = hash a.text := rfl

instance : EquivBEq Name where
  rfl := beq_iff_text_eq.mpr rfl
  symm h := beq_iff_text_eq.mpr (beq_iff_text_eq.mp h).symm
  trans h k := beq_iff_text_eq.mpr ((beq_iff_text_eq.mp h).trans (beq_iff_text_eq.mp k))

instance : LawfulHashable Name where
  hash_eq a b h := by rw [hash_eq_hash_text, hash_eq_hash_text, beq_iff_text_eq.mp h]

/-- The length of the text in UTF-8 bytes. -/
def size (a : Name) : Nat := a.text.utf8ByteSize

/-- How many different names a list holds. -/
def distinct (names : List Name) : Nat := (Std.HashSet.ofList names).size

/-- What stands between two parts of a qualified name. -/
def separator : Char := '\\'

/-- The name whose parts are joined by single separators. -/
def ofParts (parts : List String) : Name :=
  ⟨(String.singleton separator).intercalate parts, .unknown⟩

/-- The text without the separators it starts with. -/
def unrooted (a : Name) : List Char := a.text.toList.dropWhile (· == separator)

/-- The pieces between separators, after those that the text starts with. -/
def parts (a : Name) : List String := (a.unrooted.splitOn separator).map String.ofList

/-- The last part. -/
def last (a : Name) : String := a.parts.getLastD ""

/-- Whether no separator occurs. -/
def isUnqualified (a : Name) : Bool := !a.text.toList.contains separator

/-- Whether the text starts with a separator. -/
def isFullyQualified (a : Name) : Bool := a.text.toList.head? == some separator

theorem toList_text_ofParts :
    (ofParts ps).text.toList = [separator].intercalate (ps.map String.toList) := by
  simp [ofParts]

theorem parts_ne_nil : a.parts ≠ [] := by
  simp [parts, List.splitOn_ne_nil]

theorem not_isFullyQualified_of_isUnqualified (h : a.isUnqualified) :
    a.isFullyQualified = false := by
  cases hl : a.text.toList <;> simp_all [isUnqualified, isFullyQualified]
  exact Ne.symm h.1

end Name

end ClassAssembly
