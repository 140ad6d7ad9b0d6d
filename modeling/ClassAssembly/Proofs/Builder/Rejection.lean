import ClassAssembly.Proofs.Builder.Remarks

/-! Refused offers. Whether a member is refused depends on the kind of its node alone, never on the
builder, and a builder that refuses one is the same as before. Refused offers may be put into a run
or taken out of it, and nothing else in the run tells. -/

namespace ClassAssembly

/-- Whether an operation is anything but the offer of one node that no class body holds. -/
def Operation.isHeeded : Operation Member → Bool
  | .add m => m.node.kind.isMember
  | .attach _ | .extend _ | .implement _ | .makeAbstract | .makeFinal | .addAll _ | .build
  | .getNode | .copy => true

namespace ClassBuilder
variable {b c : ClassBuilder} {m : Member} {n : Node} {op : Operation Member}
  {ops : List (Operation Member)}

/-- One builder is the other with a node behind those of its kind. -/
structure Gains (b c : ClassBuilder) (n : Node) : Prop where
  ofKind_self : c.ofKind n.kind = b.ofKind n.kind ++ [n]
  ofKind_of_ne : ∀ k, k ≠ n.kind → c.ofKind k = b.ofKind k
  header_eq : c.header = b.header

/-- The replies to all operations but the offers that are refused. -/
def heeded (b : ClassBuilder) (ops : List (Operation Member)) : List Reply :=
  ((ops.zip (b.run ops)).filter (·.1.isHeeded)).map Prod.snd

theorem gains_of_insert? (h : b.insert? n = some c) : b.Gains c n where
  ofKind_self := by
    have hself := ofKind_of_insert? h n.kind
    rwa [if_pos rfl] at hself
  ofKind_of_ne := by
    intro k hk
    have hother := ofKind_of_insert? h k
    rwa [if_neg (Ne.symm hk)] at hother
  header_eq := header_of_insert? h

theorem gains_add (h : m.node.kind.isMember) : b.Gains (b.add m).builder m.node := by
  obtain ⟨c, hc⟩ := exists_insert? (b := b) h
  have hadd : (b.add m).builder = c := by rw [builder_add, hc, Option.getD_some]
  exact hadd ▸ gains_of_insert? hc

theorem isHeeded_eq_false_iff : op.isHeeded = false ↔
    (∃ m, op = .add m) ∧ ∃ taken e, (b.perform op).answer = .added taken (some e) := by
  constructor
  · intro h
    cases op with
    | add m =>
      exact ⟨⟨m, rfl⟩, 1, _, congrArg₂ Answer.added taken_add (refused_add_of_not_isMember h)⟩
    | _ => cases h
  · rintro ⟨⟨m, rfl⟩, taken, e, h⟩
    have hrefused : (b.add m).refused = some e := (Answer.added.inj h).2
    cases hm : m.node.kind.isMember with
    | true =>
      have hnone : (b.add m).refused = none := refused_add_eq_none_iff.mpr hm
      exact absurd (hnone.symm.trans hrefused) nofun
    | false => exact hm

/-- A refused offer leaves the builder to what comes next. -/
theorem builder_perform_of_not_isHeeded (h : op.isHeeded = false) : (b.perform op).builder = b := by
  cases op with
  | add m => exact builder_add_of_not_isMember h
  | _ => cases h

theorem run_filter_isHeeded : b.run (ops.filter Operation.isHeeded) = b.heeded ops := by
  induction ops generalizing b with
  | nil => rfl
  | cons op ops ih =>
    cases h : op.isHeeded with
    | true =>
      have hrest : (b.perform op).builder.run (ops.filter Operation.isHeeded) =
        (b.perform op).builder.heeded ops := ih
      simp [heeded, run, h, hrest]
    | false =>
      have hrest : b.run (ops.filter Operation.isHeeded) = b.heeded ops := ih
      simp [heeded, run, h, hrest, builder_perform_of_not_isHeeded h]

theorem after_filter_isHeeded : b.after (ops.filter Operation.isHeeded) = b.after ops := by
  induction ops generalizing b with
  | nil => rfl
  | cons op ops ih =>
    cases h : op.isHeeded with
    | true =>
      rw [List.filter_cons_of_pos h]
      exact ih
    | false =>
      have hsame := builder_perform_of_not_isHeeded (b := b) h
      rw [List.filter_cons_of_neg (by simp [h])]
      exact ih.trans (congrArg (after · ops) hsame.symm)

/-- An offer is refused when its node is of a kind that no class body holds, and then nothing has
changed. Any other one puts its node behind those of its kind, and changes nothing else. Two runs
that are the same but for refused offers give the same replies to all the rest, and lead to the same
builder. -/
theorem heeded_eq_of_filter_eq :
    (∀ (b : ClassBuilder) (m : Member), ((b.add m).refused = none ↔ m.node.kind.isMember) ∧
      (m.node.kind.isMember → b.Gains (b.add m).builder m.node) ∧
      (m.node.kind.isMember = false →
        (b.add m).refused = some (.nonMember m.node.kind) ∧ (b.add m).builder = b)) ∧
    (∀ (b : ClassBuilder) (op : Operation Member), op.isHeeded = false ↔
      (∃ m, op = .add m) ∧ ∃ taken e, (b.perform op).answer = .added taken (some e)) ∧
    ∀ (b : ClassBuilder) (ops ops' : List (Operation Member)),
      ops.filter Operation.isHeeded = ops'.filter Operation.isHeeded →
      b.heeded ops = b.heeded ops' ∧ b.after ops = b.after ops' := by
  refine ⟨?_, ?_, ?_⟩
  · intro b m
    refine ⟨refused_add_eq_none_iff, gains_add, ?_⟩
    intro h
    exact ⟨refused_add_of_not_isMember h, builder_add_of_not_isMember h⟩
  · intro b op
    exact isHeeded_eq_false_iff
  · intro b ops ops' h
    have hheeded : b.heeded ops = b.heeded ops' := by
      rw [← run_filter_isHeeded, h, run_filter_isHeeded]
    have hafter : b.after ops = b.after ops' := by
      rw [← after_filter_isHeeded, h, after_filter_isHeeded]
    exact ⟨hheeded, hafter⟩

/-- One run is refused an echo and a class behind a property, the other a return before it, and only
their logs differ. -/
theorem heeded_eq_of_filter_eq_logged :
    let size : Node := .property (.single "size")
    let echo : Node := .echo [] .unknown
    let source : NodeSource := { label := "s", next := .returned none .unknown, later := [size] }
    let b := (new "C").attach (.capturing [])
    let ops : List (Operation Member) := [.add size, .add echo, .add (new "D" : Producer), .build]
    let ops' : List (Operation Member) := [.add (source : Producer), .add size, .build]
    (b.events ops).flatMap (Event.entries Logger.keep) ≠
        (b.events ops').flatMap (Event.entries Logger.keep) ∧
      b.heeded ops = b.heeded ops' ∧ (b.heeded ops).length = 2 ∧
      b.after ops = b.after ops' ∧ (b.add echo).refused = some (.nonMember .echo) ∧
      (b.add echo).builder = b ∧ (b.add size).builder.ofKind .property = [size] := by
  intro size echo source b ops ops'
  obtain ⟨hsame, hafter⟩ := heeded_eq_of_filter_eq.2.2 b ops ops' rfl
  obtain ⟨hrefused, hbuilder⟩ := (heeded_eq_of_filter_eq.1 b echo).2.2 rfl
  have hgains := (heeded_eq_of_filter_eq.1 b size).2.1 rfl
  exact ⟨by decide, hsame, rfl, hafter, hrefused, hbuilder, hgains.ofKind_self⟩

end ClassBuilder

end ClassAssembly
