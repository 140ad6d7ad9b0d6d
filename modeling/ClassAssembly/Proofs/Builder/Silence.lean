import ClassAssembly.Proofs.Builder.Adding
import Mathlib.Data.List.Forall2

/-! Logging changes nothing but the log. A run does what it does with every logger taken out, from
the builder and from the builders offered to it, so two runs that differ in loggers alone have the
same results. -/

namespace ClassAssembly

/-- The builder without a logger that anyone hears. -/
def ClassBuilder.silent (b : ClassBuilder) : ClassBuilder := { b with logger := .discarding }

def Producer.silent : Producer → Producer
  | .source s => .source s
  | .classBuilder b => .classBuilder b.silent

def Member.silent : Member → Member
  | .finished n => .finished n
  | .pending p => .pending p.silent

/-- The operation with silent members. Nothing is left of one that attaches a logger. -/
def Operation.silent? : Operation Member → Option (Operation Member)
  | .attach _ => none
  | .extend n => some (.extend n)
  | .implement ns => some (.implement ns)
  | .makeAbstract => some .makeAbstract
  | .makeFinal => some .makeFinal
  | .add m => some (.add m.silent)
  | .addAll ms => some (.addAll (ms.map Member.silent))
  | .build => some .build
  | .getNode => some .getNode
  | .copy => some .copy

@[simp]
theorem Member.node_silent {m : Member} : m.silent.node = m.node := by
  cases m with
  | finished n => rfl
  | pending p => cases p <;> rfl

theorem Member.map_node_silent {ms : List Member} :
    (ms.map Member.silent).map Member.node = ms.map Member.node := by
  simp [Function.comp_def, node_silent]

/-- What a reply gives back, with nothing said on the way and the builder's logger taken out. -/
def Reply.silent (r : Reply) : Reply := ⟨r.builder.silent, r.answer, []⟩

/-- Two replies give the same answer, and leave builders that are the same but for their loggers and
have the same debug text, on one line and on many. -/
structure Reply.Agrees (r s : Reply) : Prop where
  answer_eq : r.answer = s.answer
  silent_eq : r.builder.silent = s.builder.silent
  line_eq : r.builder.outline.line = s.builder.outline.line
  block_eq : r.builder.outline.block = s.builder.outline.block

namespace ClassBuilder
variable {a b : ClassBuilder} {n : Node} {m : Member} {ms : List Member} {op op' : Operation Member}
  {ops ops' : List (Operation Member)}

theorem insert?_silent : b.silent.insert? n = (b.insert? n).map silent := by
  cases n <;> rfl

theorem outline_silent : b.silent.outline = b.outline := rfl

theorem outline_congr (h : a.silent = b.silent) : a.outline = b.outline := by
  rw [← outline_silent, h, outline_silent]

theorem eq_of_silent_eq (h : a.silent = b.silent) : a = { b with logger := a.logger } := by
  cases a
  cases b
  simp_all [silent]

theorem builder_add_silent : (b.silent.add m.silent).builder = (b.add m).builder.silent := by
  rw [builder_add, builder_add, Member.node_silent, insert?_silent]
  cases b.insert? m.node <;> rfl

theorem refused_add_silent : (b.silent.add m.silent).refused = (b.add m).refused := by
  rw [refused_add, refused_add, Member.node_silent, refused_addNode, refused_addNode]

theorem builder_addAll_silent :
    (b.silent.addAll (ms.map Member.silent)).builder = (b.addAll ms).builder.silent := by
  induction ms generalizing b with
  | nil => rfl
  | cons m ms ih =>
    rw [List.map_cons]
    cases h : m.node.kind.isMember with
    | true =>
      have hs : m.silent.node.kind.isMember := by rwa [Member.node_silent]
      rw [addAll_cons_of_isMember h, addAll_cons_of_isMember hs]
      change ((b.silent.add m.silent).builder.addAll _).builder = _
      rw [builder_add_silent, ih]
    | false =>
      have hs : m.silent.node.kind.isMember = false := by rwa [Member.node_silent]
      rw [addAll_cons_of_not_isMember h, addAll_cons_of_not_isMember hs, builder_add_silent]

theorem refused_addAll_silent :
    (b.silent.addAll (ms.map Member.silent)).refused = (b.addAll ms).refused := by
  rw [refused_addAll, refused_addAll, Member.map_node_silent]

theorem taken_addAll_silent :
    (b.silent.addAll (ms.map Member.silent)).taken = (b.addAll ms).taken := by
  rw [taken_addAll, taken_addAll, Member.map_node_silent, List.length_map]

/-- An operation does to a silent builder what it does to the builder. -/
theorem perform_silent (h : op.silent? = some op') :
    (b.silent.perform op').builder = (b.perform op).builder.silent ∧
      (b.silent.perform op').answer = (b.perform op).answer := by
  cases op with
  | attach l => cases h
  | add m =>
    cases h
    refine ⟨builder_add_silent, ?_⟩
    change Answer.added _ _ = Answer.added _ _
    rw [taken_add, taken_add, refused_add_silent]
  | addAll ms =>
    cases h
    refine ⟨builder_addAll_silent, ?_⟩
    change Answer.added _ _ = Answer.added _ _
    rw [taken_addAll_silent, refused_addAll_silent]
  | _ =>
    cases h
    exact ⟨rfl, rfl⟩

theorem silent_perform_of_attach (h : op.silent? = none) :
    (b.perform op).builder.silent = b.silent := by
  cases op with
  | attach l => rfl
  | _ => cases h

theorem silent_reply_perform (h : op.silent? = some op') :
    (b.silent.perform op').silent = (b.perform op).silent := by
  obtain ⟨hbuilder, hanswer⟩ := perform_silent (b := b) h
  rw [Reply.silent, Reply.silent, hbuilder, hanswer]
  rfl

/-- The replies to all operations but those that attach loggers. -/
def replies (b : ClassBuilder) (ops : List (Operation Member)) : List Reply :=
  ((ops.zip (b.run ops)).filter fun x => x.1.silent?.isSome).map Prod.snd

theorem replies_cons_of_attach (h : op.silent? = none) :
    b.replies (op :: ops) = (b.perform op).builder.replies ops := by
  simp [replies, run, h]

theorem replies_cons (h : op.silent? = some op') :
    b.replies (op :: ops) = b.perform op :: (b.perform op).builder.replies ops := by
  simp [replies, run, h]

/-- Taking the loggers out of a run takes them out of the builder it leads to. -/
theorem silent_after : (b.after ops).silent = b.silent.after (ops.filterMap Operation.silent?) := by
  induction ops generalizing b with
  | nil => rfl
  | cons op ops ih =>
    change ((b.perform op).builder.after ops).silent = _
    rw [ih]
    cases h : op.silent? with
    | none => rw [List.filterMap_cons_none h, silent_perform_of_attach h]
    | some op' =>
      rw [List.filterMap_cons_some h, ← (perform_silent h).1]
      rfl

theorem map_silent_replies : (b.replies ops).map Reply.silent =
    (b.silent.run (ops.filterMap Operation.silent?)).map Reply.silent := by
  -- Where a logger is attached, the run goes on by itself, and the silent one waits.
  induction ops generalizing b with
  | nil => rfl
  | cons op ops ih =>
    cases h : op.silent? with
    | none =>
      rw [List.filterMap_cons_none h, replies_cons_of_attach h, ih, silent_perform_of_attach h]
    | some op' =>
      rw [List.filterMap_cons_some h, replies_cons h, run, List.map_cons, List.map_cons, ih,
        silent_reply_perform h, (perform_silent h).1]

theorem agrees_of_silent_eq {r s : Reply} (h : r.silent = s.silent) : r.Agrees s := by
  obtain ⟨hbuilder, hanswer, -⟩ := Reply.mk.inj h
  have houtline := outline_congr hbuilder
  exact ⟨hanswer, hbuilder, congrArg _ houtline, congrArg _ houtline⟩

/-- Two runs that are the same but for the loggers attached, to the builder or to builders offered
as members, give the same replies one for one. The builders they lead to are the same but for their
loggers, so either may in turn be offered in place of the other. -/
theorem replies_agree_of_silent_eq (hstart : a.silent = b.silent)
    (hops : ops.filterMap Operation.silent? = ops'.filterMap Operation.silent?) :
    List.Forall₂ Reply.Agrees (a.replies ops) (b.replies ops') ∧
      a.after ops = { b.after ops' with logger := (a.after ops).logger } ∧
      (((a.after ops : ClassBuilder) : Producer) : Member).silent =
        (((b.after ops' : ClassBuilder) : Producer) : Member).silent := by
  have hreplies : (a.replies ops).map Reply.silent = (b.replies ops').map Reply.silent := by
    rw [map_silent_replies, map_silent_replies, hstart, hops]
  have hafter : (a.after ops).silent = (b.after ops').silent := by
    rw [silent_after, silent_after, hstart, hops]
  refine ⟨?_, ?_, ?_⟩
  · rw [← List.forall₂_eq_eq_eq, List.forall₂_map_left_iff, List.forall₂_map_right_iff] at hreplies
    exact hreplies.imp fun _ _ => agrees_of_silent_eq
  · exact eq_of_silent_eq hafter
  · exact congrArg (fun c : ClassBuilder => Member.pending (.classBuilder c)) hafter

/-- One run is heard, then muted, and offers a class builder with a logger. The other is heard only
at its end, and by another logger. -/
theorem replies_agree_of_silent_eq_muted :
    let size : Node := .property (.single "size")
    let inner : ClassBuilder := (new "D").makeFinal
    let offer (c : ClassBuilder) : Operation Member := .add (c : Producer)
    let ops := [.attach (.capturing []), .add size, .attach ({} : LogOptions).logger,
      offer (inner.attach (.capturing [])), .build]
    let ops' := [.add size, offer inner, .attach (.capturing [("k", "v")]), .build]
    ((new "C").events ops).flatMap (Event.entries Logger.keep) ≠
        ((new "C").events ops').flatMap (Event.entries Logger.keep) ∧
      List.Forall₂ Reply.Agrees ((new "C").replies ops) ((new "C").replies ops') ∧
      ((new "C").replies ops).length = 3 := by
  intro size inner offer ops ops'
  have hops : ops.filterMap Operation.silent? = ops'.filterMap Operation.silent? := rfl
  exact ⟨by decide, (replies_agree_of_silent_eq rfl hops).1, rfl⟩

end ClassBuilder

end ClassAssembly
