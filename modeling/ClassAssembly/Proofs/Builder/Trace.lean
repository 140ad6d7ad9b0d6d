import ClassAssembly.Proofs.Builder.History
import ClassAssembly.Proofs.Builder.Remarks

/-! The log of a builder as its history tells it. The number in a record, and the logger that hears
it, follow from what was done before, so the log can be written down with no builder at work,
whatever the loggers are. -/

namespace ClassAssembly

/-- What can be seen of events: the sources that were asked, and what is left of records. -/
inductive Mark
  | asked (label : String)
  | entry (entry : Entry)
  deriving DecidableEq

def Event.marks (keep : Keeper) : Event → List Mark
  | .asked s _ => [.asked s]
  | .logged l r => (keep l r).map .entry

/-- Members are as many as those of the four kinds together. -/
theorem Kind.length_eq_total {ks : List Kind} (h : ∀ k ∈ ks, k.isMember) :
    ks.length = total fun k => ks.count k := by
  induction ks with
  | nil => rfl
  | cons k ks ih =>
    have hrest := ih fun l hl => h l (List.mem_cons_of_mem _ hl)
    have hk := h k List.mem_cons_self
    rw [List.length_cons, hrest]
    cases k <;> simp [isMember] at hk <;> simp [total] <;> omega

/-- What is heard of in a log, or changes who hears it. -/
inductive Deed
  | attached (logger : Logger)
  /-- A member was taken from those offered, and came to its node. -/
  | offered (member : Member)
  | built

namespace Deed
variable {keep : Keeper} {name : Name} {past ds es : List Deed} {d : Deed} {r : Remark} {k : Kind}

def logger? : Deed → Option Logger
  | .attached l => some l
  | .offered _ | .built => none

/-- The kind that has one member more for the deed. -/
def kind? : Deed → Option Kind
  | .offered m => if m.node.kind.isMember then some m.node.kind else none
  | .attached _ | .built => none

/-- The kinds of the members taken in so far, one entry for each of them. -/
def kinds (past : List Deed) : List Kind := past.filterMap kind?

/-- The logger attached last. -/
def lastLogger? (past : List Deed) : Option Logger := (past.filterMap logger?).getLast?

/-- What can be seen before the deed is heard of. -/
def prelude (keep : Keeper) : Deed → List Mark
  | .offered m => m.events.flatMap (Event.marks keep)
  | .attached _ | .built => []

/-- What is said of a deed. A member taken in is counted with those of its kind before it. -/
def remark? (name : Name) (past : List Deed) : Deed → Option Remark
  | .attached _ => none
  | .offered m =>
    if m.node.kind.isMember then some (.added m.node.kind ((kinds past).count m.node.kind + 1))
    else some (.rejected m.node.kind)
  | .built => some (.building name.text (kinds past).length)

/-- The logger attached last hears a remark as a debug record, the name of the class behind the
remark's own fields. Before the first one nobody does. -/
def heard (keep : Keeper) (name : Name) (past : List Deed) (r : Remark) : List Mark :=
  match lastLogger? past with
  | none => []
  | some l => (keep l ⟨.debug, r.message, r.fields ++ [("class", name.text)]⟩).map .entry

/-- All that can be seen of a deed, given those before it. -/
def marks (keep : Keeper) (name : Name) (past : List Deed) (d : Deed) : List Mark :=
  d.prelude keep ++ (d.remark? name past).toList.flatMap (heard keep name past)

/-- All that can be seen of deeds, one after the other. -/
def trace (keep : Keeper) (name : Name) (past : List Deed) : List Deed → List Mark
  | [] => []
  | d :: ds => d.marks keep name past ++ trace keep name (past ++ [d]) ds

theorem trace_singleton : trace keep name past [d] = d.marks keep name past := List.append_nil _

theorem trace_append : trace keep name past (ds ++ es) =
    trace keep name past ds ++ trace keep name (past ++ ds) es := by
  induction ds generalizing past with
  | nil => simp [trace]
  | cons d ds ih => simp [trace, ih]

theorem kinds_concat : kinds (past ++ [d]) = kinds past ++ d.kind?.toList := by
  cases h : d.kind? <;> simp [kinds, h]

theorem lastLogger?_concat : lastLogger? (past ++ [d]) = d.logger?.or (lastLogger? past) :=
  ClassBuilder.getLast?_filterMap_concat

theorem heard_concat (h : d.logger? = none) :
    heard keep name (past ++ [d]) r = heard keep name past r := by
  rw [heard, lastLogger?_concat, h, Option.none_or, heard]

theorem isMember_of_mem_kinds (h : k ∈ kinds past) : k.isMember := by
  obtain ⟨d, _, hd⟩ := List.mem_filterMap.mp h
  cases d with
  | offered m =>
    rw [kind?, Option.ite_none_right_eq_some] at hd
    obtain ⟨hm, hk⟩ := hd
    rwa [← Option.some.inj hk]
  | _ => cases hd

end Deed

/-- The members that are taken from those offered: none behind one whose node is no member. -/
def Member.pulled (ms : List Member) : List Member :=
  ms.takeWhile (·.node.kind.isMember) ++ (ms.dropWhile (·.node.kind.isMember)).take 1

theorem Member.pulled_cons_of_isMember {m : Member} {ms : List Member} (h : m.node.kind.isMember) :
    pulled (m :: ms) = m :: pulled ms := by
  simp [pulled, h]

theorem Member.pulled_cons_of_not_isMember {m : Member} {ms : List Member}
    (h : m.node.kind.isMember = false) : pulled (m :: ms) = [m] := by
  simp [pulled, h]

/-- The deeds that an operation comes to. -/
def Operation.deeds : Operation Member → List Deed
  | .attach l => [.attached l]
  | .add m => [.offered m]
  | .addAll ms => (Member.pulled ms).map .offered
  | .build | .getNode => [.built]
  | .extend _ | .implement _ | .makeAbstract | .makeFinal | .copy => []

namespace ClassBuilder
variable {keep : Keeper} {b c : ClassBuilder} {name : Name} {past : List Deed} {d : Deed}
  {m : Member} {ms : List Member} {l : Logger} {r : Remark} {op : Operation Member}
  {ops : List (Operation Member)}

/-- A builder stands where deeds have brought it: it counts the members they tell of, and what it
says is heard as they have it. -/
structure Abreast (keep : Keeper) (b : ClassBuilder) (name : Name) (past : List Deed) : Prop where
  name_eq : b.name = name
  count_eq : ∀ k, b.count k = (Deed.kinds past).count k
  marks_say : ∀ r, (b.say r).flatMap (Event.marks keep) = Deed.heard keep name past r

theorem marks_say : (b.say r).flatMap (Event.marks keep) =
    (keep b.logger r.record).map .entry := by
  rw [say_eq, List.flatMap_singleton, Event.marks]

theorem abreast_new (hkeep : Keeping keep) : Abreast keep (new name) name [] := by
  refine ⟨rfl, ?_, ?_⟩
  · intro k
    cases k <;> rfl
  · intro r
    have hnone : keep (new name).logger r.record = [] := hkeep.discarding _
    rw [ClassBuilder.marks_say, hnone]
    rfl

theorem Abreast.total_eq (h : Abreast keep b name past) :
    Kind.total b.count = (Deed.kinds past).length := by
  rw [Kind.length_eq_total fun _ => Deed.isMember_of_mem_kinds, funext h.count_eq]

theorem Abreast.attach (hkeep : Keeping keep) (h : Abreast keep b name past) :
    Abreast keep (b.attach l) name (past ++ [.attached l]) := by
  refine ⟨h.name_eq, ?_, ?_⟩
  · intro k
    rw [Deed.kinds_concat]
    exact (h.count_eq k).trans (by simp [Deed.kind?])
  · intro r
    have hparent : keep (b.attach l).logger r.record =
      keep l (r.record.addFields [("class", b.name.text)]) := hkeep.child _ _ _
    rw [ClassBuilder.marks_say, hparent, h.name_eq, Deed.heard, Deed.lastLogger?_concat]
    rfl

/-- A deed without a logger changes the numbers alone. -/
theorem Abreast.concat (h : Abreast keep b name past) (hd : d.logger? = none)
    (hname : c.name = b.name) (hlogger : c.logger = b.logger)
    (hcount : ∀ k, c.count k = b.count k + d.kind?.toList.count k) :
    Abreast keep c name (past ++ [d]) := by
  refine ⟨hname.trans h.name_eq, ?_, ?_⟩
  · intro k
    rw [hcount, h.count_eq, Deed.kinds_concat, List.count_append]
  · intro r
    rw [say_congr hlogger, h.marks_say, Deed.heard_concat hd]

theorem Abreast.built (h : Abreast keep b name past) : Abreast keep b name (past ++ [.built]) :=
  h.concat rfl rfl rfl fun _ => rfl

theorem Abreast.add (h : Abreast keep b name past) :
    Abreast keep (b.add m).builder name (past ++ [.offered m]) := by
  refine h.concat rfl (eq_of_header_eq header_add).1 logger_add ?_
  intro k
  cases hm : m.node.kind.isMember with
  | true =>
    have hkind : (Deed.offered m).kind? = some m.node.kind := if_pos hm
    rw [count_add hm, hkind, Option.toList_some, List.count_singleton]
    by_cases hk : k = m.node.kind
    · simp [hk]
    · simp [hk, Ne.symm hk]
  | false =>
    have hkind : (Deed.offered m).kind? = none := if_neg (by simp [hm])
    rw [builder_add_of_not_isMember hm, hkind]
    rfl

theorem Abreast.marks_add (h : Abreast keep b name past) :
    (b.add m).events.flatMap (Event.marks keep) = (Deed.offered m).marks keep name past := by
  rw [events_add_eq_say, List.flatMap_append, h.marks_say, h.count_eq, Deed.marks, Deed.remark?]
  split <;> simp [Deed.prelude]

theorem Abreast.marks_buildEvents (h : Abreast keep b name past) :
    b.buildEvents.flatMap (Event.marks keep) = Deed.built.marks keep name past := by
  rw [buildEvents_eq_utter, h.total_eq, h.name_eq, utter_cons, utter_nil, List.append_nil,
    List.nil_append, h.marks_say]
  simp [Deed.marks, Deed.prelude, Deed.remark?]

/-- Each member is one deed, up to the one refused. -/
theorem Abreast.addAll (h : Abreast keep b name past) :
    Abreast keep (b.addAll ms).builder name (past ++ (Member.pulled ms).map .offered) ∧
      (b.addAll ms).events.flatMap (Event.marks keep) =
        Deed.trace keep name past ((Member.pulled ms).map .offered) := by
  -- Each member taken joins the history that the next one is counted in.
  induction ms generalizing b past with
  | nil => exact ⟨by simpa [ClassBuilder.addAll, Member.pulled] using h, rfl⟩
  | cons m ms ih =>
    cases hm : m.node.kind.isMember with
    | true =>
      obtain ⟨hbuilder, hmarks⟩ := ih (h.add : Abreast keep (b.add m).builder name _)
      rw [addAll_cons_of_isMember hm, Member.pulled_cons_of_isMember hm, List.map_cons]
      refine ⟨by simpa using hbuilder, ?_⟩
      rw [Deed.trace, ← h.marks_add, ← hmarks]
      exact List.flatMap_append
    | false =>
      rw [addAll_cons_of_not_isMember hm, Member.pulled_cons_of_not_isMember hm, List.map_singleton]
      exact ⟨h.add, h.marks_add.trans Deed.trace_singleton.symm⟩

theorem Abreast.perform (hkeep : Keeping keep) (h : Abreast keep b name past) :
    Abreast keep (b.perform op).builder name (past ++ op.deeds) ∧
      (b.perform op).events.flatMap (Event.marks keep) = Deed.trace keep name past op.deeds := by
  cases op with
  | attach l => exact ⟨h.attach hkeep, rfl⟩
  | add m => exact ⟨h.add, h.marks_add.trans Deed.trace_singleton.symm⟩
  | addAll ms => exact h.addAll
  | build | getNode => exact ⟨h.built, h.marks_buildEvents.trans Deed.trace_singleton.symm⟩
  | extend n | implement ns | makeAbstract | makeFinal | copy =>
    -- There is no deed, and nothing that a deed is told by has changed.
    rw [Operation.deeds, List.append_nil]
    refine ⟨⟨h.name_eq, ?_, h.marks_say⟩, rfl⟩
    intro k
    rw [← h.count_eq, count, count, ofKind_perform]
    simp [Operation.accepted]

theorem Abreast.after (hkeep : Keeping keep) (h : Abreast keep b name past) :
    Abreast keep (b.after ops) name (past ++ ops.flatMap Operation.deeds) ∧
      (b.events ops).flatMap (Event.marks keep) =
        Deed.trace keep name past (ops.flatMap Operation.deeds) := by
  induction ops generalizing b past with
  | nil => exact ⟨by simpa [ClassBuilder.after] using h, rfl⟩
  | cons op ops ih =>
    have hstep : Abreast keep (b.perform op).builder name (past ++ op.deeds) ∧
      (b.perform op).events.flatMap (Event.marks keep) = Deed.trace keep name past op.deeds :=
        h.perform hkeep
    obtain ⟨hlater, htrace⟩ := ih hstep.1
    rw [List.flatMap_cons, Deed.trace_append, ← List.append_assoc, ← hstep.2, ← htrace]
    exact ⟨hlater, List.flatMap_append⟩

/-- Whatever loggers leave of records, the log of a run is the trace of its history, record by
record. The number said on building is the sum of what the builder then counts. What a class builder
says when it is offered as a member is told by its own history. -/
theorem events_eq_trace (hkeep : Keeping keep) (name : Name) (ops : List (Operation Member)) :
    ((new name).events ops).flatMap (Event.marks keep) =
        Deed.trace keep name [] (ops.flatMap Operation.deeds) ∧
      Kind.total ((new name).after ops).count = (Deed.kinds (ops.flatMap Operation.deeds)).length ∧
      ((((new name).after ops : ClassBuilder) : Producer) : Member).events.flatMap
        (Event.marks keep) = Deed.built.marks keep name (ops.flatMap Operation.deeds) := by
  have hstart : Abreast keep (new name) name [] := abreast_new hkeep
  obtain ⟨hafter, hevents⟩ := hstart.after hkeep
  exact ⟨hevents, hafter.total_eq, hafter.marks_buildEvents⟩

/-- The first property is not heard of, and counts all the same. A source is asked before the
builder speaks of its node. -/
theorem events_eq_trace_late :
    let size : Node := .property (.single "size")
    let source : NodeSource := ⟨"s", size, []⟩
    let ops : List (Operation Member) := [.add size, .attach (.capturing [("k", "v")]),
      .addAll [(source : Producer), .finished (.echo [] .unknown), .finished size], .build,
      .attach .discarding, .build]
    let entry (message : String) (own : List LogField) : Mark :=
      .entry ⟨.memory, ⟨.debug, message, own ++ [("class", "C"), ("k", "v")]⟩⟩
    ((new "C").events ops).flatMap (Event.marks Logger.keep) =
      [.asked "s", entry "added member of type Stmt_Property" [("count", "2")],
        entry "rejected member of type Stmt_Echo" [],
        entry "building class C" [("members", "2")]] := by
  intro size source ops entry
  exact (events_eq_trace Logger.keeping_keep "C" ops).1.trans (by decide)

end ClassBuilder

end ClassAssembly
