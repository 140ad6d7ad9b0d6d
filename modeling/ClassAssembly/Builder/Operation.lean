import ClassAssembly.Builder.Add

/-! Operations on a builder, and runs of them. -/

namespace ClassAssembly

/-- What may be done to a builder; members are offered as values of the type `μ`. -/
inductive Operation (μ : Type)
  | attach (logger : Logger)
  | extend (parent : Name)
  | implement (interfaces : List Name)
  | makeAbstract
  | makeFinal
  | add (member : μ)
  | addAll (members : List μ)
  | build
  | getNode
  /-- Goes on with a copy of the builder. -/
  | copy

/-- What an operation gives back. -/
inductive Answer
  | done
  | added (taken : Nat) (refused : Option Refusal)
  | built (decl : ClassDecl)
  | produced (node : Node)

structure Reply where
  builder : ClassBuilder
  answer : Answer
  events : List Event

/-- Offering members is answered by how many were taken, and what was refused. -/
def Outcome.reply (o : Outcome) : Reply := ⟨o.builder, .added o.taken o.refused, o.events⟩

namespace ClassBuilder
variable {b : ClassBuilder} {ops rest : List (Operation Member)}

def perform (b : ClassBuilder) : Operation Member → Reply
  | .attach l => ⟨b.attach l, .done, []⟩
  | .extend n => ⟨b.extend n, .done, []⟩
  | .implement ns => ⟨b.implement ns, .done, []⟩
  | .makeAbstract => ⟨b.makeAbstract, .done, []⟩
  | .makeFinal => ⟨b.makeFinal, .done, []⟩
  | .add m => (b.add m).reply
  | .addAll ms => (b.addAll ms).reply
  | .build => ⟨b, .built b.declaration, b.buildEvents⟩
  | .getNode => ⟨b, .produced (.classDecl b.declaration), b.buildEvents⟩
  | .copy => ⟨b, .done, []⟩

/-- The replies to operations done one after the other. -/
def run (b : ClassBuilder) : List (Operation Member) → List Reply
  | [] => []
  | op :: ops => b.perform op :: (b.perform op).builder.run ops

/-- The builder after operations. -/
def after (b : ClassBuilder) (ops : List (Operation Member)) : ClassBuilder :=
  ops.foldl (fun b op => (b.perform op).builder) b

/-- All that happens during operations. -/
def events (b : ClassBuilder) (ops : List (Operation Member)) : List Event :=
  (b.run ops).flatMap Reply.events

/-- The lines that operations leave in a log file. -/
def logLines (b : ClassBuilder) (keep : Keeper) (path : String)
    (ops : List (Operation Member)) : List String :=
  (b.events ops).flatMap (Event.lines keep (.file path))

theorem after_append : b.after (ops ++ rest) = (b.after ops).after rest := by
  simp [after]

end ClassBuilder

end ClassAssembly
