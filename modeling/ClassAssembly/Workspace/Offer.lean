import ClassAssembly.Builder.Untyped
import ClassAssembly.Workspace.Basic

/-! Offers: members as they are named in a workspace. -/

namespace ClassAssembly

mutual

inductive Offer
  | ready (member : Member)
  /-- The builder leaves its register. -/
  | moved (register : String)
  /-- The builder stays, and a copy is offered. -/
  | copied (register : String)
  | classDecl (register : String)
  | statement (register : String) (index : Nat)
  | untyped (value : UntypedOffer)
  /-- An offer that cannot be made. -/
  | failing (fault : Fault)

/-- A value offered without its type being known. -/
inductive UntypedOffer
  | value (value : Untyped)
  | member (offer : Offer)
  | movedBuilder (register : String)
  | movedProducer (register : String)

end

mutual

/-- Makes the member that is offered. -/
def Offer.resolve : Offer → Session Member
  | .ready m => return m
  | .moved k => return ((← Session.takeBuilder k : ClassBuilder) : Producer)
  | .copied k => return ((← Session.builder k : ClassBuilder) : Producer)
  | .classDecl k => return ((← Session.classDecl k : ClassDecl) : Node)
  | .statement k i => do
    match (← Session.classDecl k).statements[i]? with
    | some n => return n
    | none => throw .noStatement
  | .untyped v => do
    match Member.ofUntyped (← v.resolve) with
    | .ok m => return m
    | .error e => throw (.refused e)
  | .failing f => throw f

def UntypedOffer.resolve : UntypedOffer → Session Untyped
  | .value v => return v
  | .member o => return .member (← o.resolve)
  | .movedBuilder k => return .classBuilder (← Session.takeBuilder k)
  | .movedProducer k => return .producer (← Session.takeBuilder k : ClassBuilder)

end

end ClassAssembly
