import ClassAssembly.Proofs.Builder.Adding

/-! What a builder says of an operation in its log. Its name, the numbers of its members and the
kinds it is offered decide the words. The logger decides only where they go. -/

namespace ClassAssembly

/-- Something said: a message, and fields beside those of the logger. -/
structure Remark where
  message : String
  fields : List LogField
  deriving DecidableEq

namespace Remark

/-- The record that a logger is given. -/
def record (r : Remark) : LogRecord := ⟨.debug, r.message, r.fields⟩

/-- Of a member taken in, with the number of its kind that there are now. -/
def added (k : Kind) (count : Nat) : Remark :=
  ⟨"added member of type " ++ k.typeName, [("count", toString count)]⟩

def rejected (k : Kind) : Remark := ⟨"rejected member of type " ++ k.typeName, []⟩

def building (name : String) (members : Nat) : Remark :=
  ⟨"building class " ++ name, [("members", toString members)]⟩

/-- Of nodes of these kinds, offered one after the other until one is no member. -/
def onKinds (count : Kind → Nat) : List Kind → List Remark
  | [] => []
  | k :: ks =>
    if k.isMember then
      added k (count k + 1) :: onKinds (fun l => if l = k then count l + 1 else count l) ks
    else [rejected k]

end Remark

/-- All members, counted by kind. -/
def Kind.total (count : Kind → Nat) : Nat :=
  count .traitUse + count .classConst + count .property + count .method

namespace Operation

/-- What is said of an operation. -/
def remarks (name : String) (count : Kind → Nat) : Operation Member → List Remark
  | .add m => Remark.onKinds count [m.node.kind]
  | .addAll ms => Remark.onKinds count (ms.map (·.node.kind))
  | .build | .getNode => [.building name (Kind.total count)]
  | _ => []

/-- What happens before each remark: the member that it is about comes to its node. -/
def preludes : Operation Member → List (List Event)
  | .add m => [m.events]
  | .addAll ms => ms.map Member.events
  | .build | .getNode => [[]]
  | _ => []

end Operation

namespace ClassBuilder
variable {b c : ClassBuilder} {n : Node} {m : Member} {ms : List Member} {r : Remark}
  {rs : List Remark} {es : List Event} {ess : List (List Event)} {op : Operation Member}

/-- A remark as it goes to the builder's logger. -/
def say (b : ClassBuilder) (r : Remark) : List Event := b.note r.message r.fields

/-- Remarks as they go to the builder's logger, each after its prelude. -/
def utter (b : ClassBuilder) (preludes : List (List Event)) (remarks : List Remark) : List Event :=
  (List.zipWith (fun es r => es ++ b.say r) preludes remarks).flatten

theorem say_eq : b.say r = [.logged b.logger r.record] := rfl

theorem say_congr (h : c.logger = b.logger) : c.say r = b.say r := by
  rw [say_eq, say_eq, h]

theorem utter_cons : b.utter (es :: ess) (r :: rs) = es ++ b.say r ++ b.utter ess rs := rfl

@[simp]
theorem utter_nil : b.utter ess [] = [] := by
  simp [utter]

/-- What is left of remarks that are heard: each is an entry behind what is left of its prelude. -/
def heardEntries (keep : Keeper) (t : Channel) (context : List LogField)
    (preludes : List (List Event)) (remarks : List Remark) : List Entry :=
  (List.zipWith (fun es r => es.flatMap (Event.entries keep) ++ [⟨t, r.record.addFields context⟩])
    preludes remarks).flatten

theorem entries_utter {keep : Keeper} {t : Channel} {context : List LogField}
    (h : b.logger.HeardOn keep t context) :
    (b.utter ess rs).flatMap (Event.entries keep) = heardEntries keep t context ess rs := by
  induction ess generalizing rs with
  | nil => rfl
  | cons es ess ih =>
    cases rs with
    | nil => rfl
    | cons r rs =>
      have hsay : (b.say r).flatMap (Event.entries keep) = [⟨t, r.record.addFields context⟩] := by
        rw [say_eq, List.flatMap_singleton]
        exact h r.record rfl
      rw [utter_cons, List.flatMap_append, List.flatMap_append, hsay, ih]
      rfl

theorem utter_congr (h : c.logger = b.logger) : c.utter ess rs = b.utter ess rs := by
  simp only [utter, say_congr h]

@[simp]
theorem logger_add : (b.add m).builder.logger = b.logger :=
  (eq_of_header_eq header_add).2.2.2.2

theorem count_add (h : m.node.kind.isMember) :
    (b.add m).builder.count = fun l => if l = m.node.kind then b.count l + 1 else b.count l := by
  funext l
  rw [count, ofKind_add, Node.leading_cons_of_isMember h, Node.select_cons,
    List.length_append, count]
  by_cases hl : m.node.kind = l
  · rw [if_pos hl, if_pos hl.symm]
    rfl
  · rw [if_neg hl, if_neg (Ne.symm hl)]
    rfl

theorem events_add_of_isMember (h : m.node.kind.isMember) :
    (b.add m).events = m.events ++ b.say (.added m.node.kind (b.count m.node.kind + 1)) := by
  obtain ⟨c, hc⟩ := exists_insert? (b := b) h
  have hlogger : c.logger = b.logger := (eq_of_header_eq (header_of_insert? hc)).2.2.2.2
  have hcount : c.count m.node.kind = b.count m.node.kind + 1 := by
    simp [count, ofKind_of_insert? hc]
  rw [add_eq, addNode, hc, ← say_congr hlogger, ← hcount]
  rfl

theorem events_add_of_not_isMember (h : m.node.kind.isMember = false) :
    (b.add m).events = m.events ++ b.say (.rejected m.node.kind) := by
  rw [add_eq, addNode, insert?_eq_none h]
  rfl

/-- A member is always spoken of, once. -/
theorem events_add_eq_say : (b.add m).events = m.events ++ b.say
    (if m.node.kind.isMember then .added m.node.kind (b.count m.node.kind + 1)
      else .rejected m.node.kind) := by
  cases h : m.node.kind.isMember with
  | true => exact events_add_of_isMember h
  | false => exact events_add_of_not_isMember h

/-- Each member is heard of before the next one is asked. -/
theorem events_addAll : (b.addAll ms).events =
    b.utter (ms.map Member.events) (Remark.onKinds b.count (ms.map (·.node.kind))) := by
  induction ms generalizing b with
  | nil => rfl
  | cons m ms ih =>
    rw [List.map_cons, List.map_cons, Remark.onKinds]
    cases h : m.node.kind.isMember with
    | true =>
      rw [addAll_cons_of_isMember h, if_pos rfl, utter_cons, ← events_add_of_isMember h,
        ← count_add h, ← utter_congr logger_add, ← ih]
    | false =>
      rw [addAll_cons_of_not_isMember h, if_neg Bool.false_ne_true, utter_cons, utter_nil,
        List.append_nil, events_add_of_not_isMember h]

theorem events_add :
    (b.add m).events = b.utter [m.events] (Remark.onKinds b.count [m.node.kind]) := by
  have hone : (b.addAll [m]).events = (b.add m).events := by
    cases h : m.node.kind.isMember with
    | true =>
      rw [addAll_cons_of_isMember h]
      exact List.append_nil _
    | false => rw [addAll_cons_of_not_isMember h]
  rw [← hone]
  exact events_addAll

theorem length_statements : b.statements.length = Kind.total b.count := by
  simp only [statements, List.length_append]
  rfl

theorem buildEvents_eq_utter :
    b.buildEvents = b.utter [[]] [.building b.name.text (Kind.total b.count)] := by
  rw [buildEvents, length_statements, utter_cons, utter_nil, List.append_nil]
  rfl

/-- All that happens during an operation is its remarks, each after its prelude. -/
theorem events_perform :
    (b.perform op).events = b.utter op.preludes (op.remarks b.name.text b.count) := by
  cases op with
  | add m => exact events_add
  | addAll ms => exact events_addAll
  | build => exact buildEvents_eq_utter
  | getNode => exact buildEvents_eq_utter
  | _ => rfl

end ClassBuilder

end ClassAssembly
