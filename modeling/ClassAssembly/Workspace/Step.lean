import ClassAssembly.Builder.Operation
import ClassAssembly.Workspace.Offer

/-! Steps of work in a workspace. -/

namespace ClassAssembly

/-- A change to a declaration that has been built. -/
inductive Edit
  | push (node : Node)
  | removeAt (index : Nat)
  | reverse
  | setModifier (modifier : ClassModifier)
  | rename (name : Name)
  | setParent (parent : Option Name)
  | setInterfaces (interfaces : List Name)
  | setPosition (position : Position)

namespace ClassDecl

/-- The declaration after a change. There is none if no statement stands where one is to go. -/
def edit? (d : ClassDecl) : Edit → Option ClassDecl
  | .push n => some { d with statements := d.statements ++ [n] }
  | .removeAt i =>
    if i < d.statements.length then some { d with statements := d.statements.eraseIdx i } else none
  | .reverse => some { d with statements := d.statements.reverse }
  | .setModifier m => some { d with modifier := m }
  | .rename n => some { d with name := n }
  | .setParent p => some { d with parent := p }
  | .setInterfaces ns => some { d with interfaces := ns }
  | .setPosition p => some { d with position := p }

def editAll? (d : ClassDecl) (edits : List Edit) : Option ClassDecl := edits.foldlM edit? d

end ClassDecl

inductive Step
  | create (target : String) (name : Name)
  | clone (source target : String)
  | operate (target : String) (op : Operation Offer)
  /-- Builds, and keeps the declaration. -/
  | keep (source target : String)
  | edit (target : String) (edits : List Edit)

structure Report where
  answer : Answer
  events : List Event

/-- Makes the members of an operation, in order. -/
def Operation.resolve : Operation Offer → Session (Operation Member)
  | .attach l => return .attach l
  | .extend n => return .extend n
  | .implement ns => return .implement ns
  | .makeAbstract => return .makeAbstract
  | .makeFinal => return .makeFinal
  | .add o => return .add (← o.resolve)
  | .addAll os => return .addAll (← os.mapM Offer.resolve)
  | .build => return .build
  | .getNode => return .getNode
  | .copy => return .copy

namespace Session

/-- Does an operation on the builder in a register. -/
def perform (k : String) (op : Operation Member) : Session Report := do
  let reply := (← builder k).perform op
  putBuilder k reply.builder
  return ⟨reply.answer, reply.events⟩

def step : Step → Session Report
  | .create k n => do
    putBuilder k (.new n)
    return ⟨.done, []⟩
  | .clone j k => do
    putBuilder k (← builder j)
    return ⟨.done, []⟩
  | .operate k op => do perform k (← op.resolve)
  | .keep j k => do
    putClass k (← builder j).declaration
    perform j .build
  | .edit k edits => do
    match (← classDecl k).editAll? edits with
    | some d =>
      putClass k d
      return ⟨.built d, []⟩
    | none => throw .noStatement

end Session

/-- The workspace after a step, and what is reported of it. -/
def Workspace.step (w : Workspace) (s : Step) : Except Fault Report × Workspace :=
  (Session.step s).run.run w

end ClassAssembly
