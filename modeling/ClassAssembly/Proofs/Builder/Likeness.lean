import ClassAssembly.Proofs.Builder.History
import ClassAssembly.Proofs.Builder.Remarks
import ClassAssembly.Proofs.ClassDecl.Queries
import Mathlib.Data.List.Forall2

/-! Two builders side by side. What they build tells them apart as far as anything can: if it is
equal, equal things done to both are answered alike, and leave builders that again build equal
declarations. -/

namespace ClassAssembly

/-- The same operation twice, with equal names and members that come to equal nodes. The loggers may
be any two. -/
inductive Operation.Like : Operation Member → Operation Member → Prop
  | attach (l l' : Logger) : Like (.attach l) (.attach l')
  | extend {n n' : Name} (h : n == n') : Like (.extend n) (.extend n')
  | implement {ns ns' : List Name} (h : ns == ns') : Like (.implement ns) (.implement ns')
  | makeAbstract : Like .makeAbstract .makeAbstract
  | makeFinal : Like .makeFinal .makeFinal
  | add {m m' : Member} (h : m.node == m'.node) : Like (.add m) (.add m')
  | addAll {ms ms' : List Member} (h : ms.map Member.node == ms'.map Member.node) :
    Like (.addAll ms) (.addAll ms')
  | build : Like .build .build
  | getNode : Like .getNode .getNode
  | copy : Like .copy .copy

/-- The same outcome: the same refusal if any, and results that are equal. -/
inductive Answer.Like : Answer → Answer → Prop
  | done : Like .done .done
  | added (taken : Nat) (refused : Option Refusal) :
      Like (.added taken refused) (.added taken refused)
  | built {d d' : ClassDecl} (h : d == d') : Like (.built d) (.built d')
  | produced {n n' : Node} (h : n == n') : Like (.produced n) (.produced n')

namespace Node
variable {ms ns : List Node}

theorem map_kind_eq (h : ms.map erase = ns.map erase) : ms.map kind = ns.map kind := by
  have hkind (as : List Node) : as.map kind = (as.map erase).map kind := by
    simp [Function.comp_def]
  rw [hkind ms, h, ← hkind]

theorem leading_map_erase : leading (ns.map erase) = (leading ns).map erase := by
  simp [leading, List.takeWhile_map, Function.comp_def]

theorem map_kind_firstStranger? :
    (firstStranger? ns).map kind = (ns.map kind).find? (!·.isMember) := by
  rw [firstStranger?, List.find?_map]
  rfl

end Node

namespace Operation
variable {op op' : Operation Member}

theorem Like.parent?_erase (h : op.Like op') :
    op.parent?.map Name.erase = op'.parent?.map Name.erase := by
  cases h with
  | extend h => exact congrArg some ((Name.kernel_erase _ _).mp h)
  | _ => rfl

theorem Like.interfaces_erase (h : op.Like op') :
    op.interfaces.map Name.erase = op'.interfaces.map Name.erase := by
  cases h with
  | implement h => exact (Name.kernel_erase.list _ _).mp h
  | _ => rfl

theorem Like.modifier?_eq (h : op.Like op') : op.modifier? = op'.modifier? := by
  cases h <;> rfl

theorem Like.accepted_erase (h : op.Like op') :
    op.accepted.map Node.erase = op'.accepted.map Node.erase := by
  cases h with
  | add h =>
    have hkind := Node.kind_eq_of_beq h
    have herase := (Node.kernel_erase _ _).mp h
    simp only [accepted, hkind]
    split <;> simp [herase]
  | addAll h =>
    have herase := (Node.kernel_erase.list _ _).mp h
    change (Node.leading _).map Node.erase = (Node.leading _).map Node.erase
    rw [← Node.leading_map_erase, herase, Node.leading_map_erase]
  | _ => rfl

/-- What is said depends on the kinds of nodes alone, and not on how they were come by. -/
theorem Like.remarks_eq {name : String} {count : Kind → Nat} (h : op.Like op') :
    op.remarks name count = op'.remarks name count := by
  cases h with
  | add h => simp only [remarks, Node.kind_eq_of_beq h]
  | addAll h =>
    have hkind := Node.map_kind_eq ((Node.kernel_erase.list _ _).mp h)
    simp only [List.map_map] at hkind
    simp only [remarks]
    exact congrArg (Remark.onKinds count) hkind
  | _ => rfl

end Operation

namespace ClassBuilder
variable {a b : ClassBuilder} {ms ms' : List Member} {op op' : Operation Member}
  {ops ops' : List (Operation Member)}

/-- Builders that only places, the sign of a zero and their loggers tell apart. -/
structure Alike (a b : ClassBuilder) : Prop where
  name_eq : a.name.erase = b.name.erase
  parent_eq : a.parent.map Name.erase = b.parent.map Name.erase
  interfaces_eq : a.interfaces.map Name.erase = b.interfaces.map Name.erase
  modifier_eq : a.modifier = b.modifier
  ofKind_eq : ∀ k, (a.ofKind k).map Node.erase = (b.ofKind k).map Node.erase

theorem statements_map_erase (b : ClassBuilder) : b.statements.map Node.erase =
    (b.ofKind .traitUse).map Node.erase ++ (b.ofKind .classConst).map Node.erase
      ++ (b.ofKind .property).map Node.erase ++ (b.ofKind .method).map Node.erase := by
  simp [statements]

theorem Alike.declaration_beq (h : a.Alike b) : a.declaration == b.declaration := by
  rw [ClassDecl.kernel_erase]
  simp only [declaration, ClassDecl.erase, Node.eraseAll_eq_map, statements_map_erase, h.name_eq,
    h.parent_eq, h.interfaces_eq, h.modifier_eq, h.ofKind_eq]

/-- The body of a declaration gives the lists of members back, so what two builders make tells
whether they are alike. -/
theorem alike_of_declaration_beq (ha : a.Grouped) (hb : b.Grouped)
    (h : a.declaration == b.declaration) : a.Alike b := by
  have he := (ClassDecl.kernel_erase _ _).mp h
  simp only [declaration, ClassDecl.erase, Node.eraseAll_eq_map, ClassDecl.mk.injEq, and_true] at he
  obtain ⟨hname, hmodifier, hparent, hinterfaces, hstatements⟩ := he
  refine ⟨hname, hparent, hinterfaces, hmodifier, ?_⟩
  intro k
  rw [← ha.select_statements, ← hb.select_statements, ← Node.select_map_erase, hstatements,
    Node.select_map_erase]

theorem Alike.perform (h : a.Alike b) (hop : op.Like op') :
    (a.perform op).builder.Alike (b.perform op').builder where
  name_eq := by
    rw [name_perform, name_perform, h.name_eq]
  parent_eq := by
    rw [parent_perform, parent_perform, Option.map_or, Option.map_or,
      hop.parent?_erase, h.parent_eq]
  interfaces_eq := by
    rw [interfaces_perform, interfaces_perform, List.map_append, List.map_append, h.interfaces_eq,
      hop.interfaces_erase]
  modifier_eq := by
    rw [modifier_perform, modifier_perform, hop.modifier?_eq, h.modifier_eq]
  ofKind_eq := by
    intro k
    rw [ofKind_perform, ofKind_perform, List.map_append, List.map_append, h.ofKind_eq,
      ← Node.select_map_erase, ← Node.select_map_erase, hop.accepted_erase]

theorem Alike.after (h : a.Alike b) (hops : List.Forall₂ Operation.Like ops ops') :
    (a.after ops).Alike (b.after ops') := by
  induction hops generalizing a b with
  | nil => exact h
  | cons hop _ ih => exact ih (h.perform hop)

theorem Alike.count_eq (h : a.Alike b) : a.count = b.count := by
  funext k
  have hlength := congrArg List.length (h.ofKind_eq k)
  rwa [List.length_map, List.length_map] at hlength

/-- Neither the builder nor the places in the nodes matter to how many are taken. -/
theorem taken_addAll_congr
    (h : (ms.map Member.node).map Node.erase = (ms'.map Member.node).map Node.erase) :
    (a.addAll ms).taken = (b.addAll ms').taken := by
  have hlength := congrArg List.length h
  have hleading := congrArg (fun ns => (Node.leading ns).length) h
  simp only [Node.leading_map_erase, List.length_map] at hlength hleading
  rw [taken_addAll, taken_addAll, hlength, hleading]

theorem refused_addAll_congr
    (h : (ms.map Member.node).map Node.erase = (ms'.map Member.node).map Node.erase) :
    (a.addAll ms).refused = (b.addAll ms').refused := by
  have hkinds := Node.map_kind_eq h
  have hrefused (c : ClassBuilder) (os : List Member) : (c.addAll os).refused =
      (((os.map Member.node).map Node.kind).find? (!·.isMember)).map .nonMember := by
    rw [← Node.map_kind_firstStranger?, Option.map_map, refused_addAll]
    rfl
  rw [hrefused, hrefused, hkinds]

theorem Alike.answer_like (h : a.Alike b) (hop : op.Like op') :
    (a.perform op).answer.Like (b.perform op').answer := by
  cases hop with
  | @add m m' hm =>
    have hrefused : (a.add m).refused = (b.add m').refused := by
      rw [refused_add, refused_add, refused_addNode, refused_addNode, Node.kind_eq_of_beq hm]
    change Answer.Like (.added (a.add m).taken _) (.added (b.add m').taken _)
    rw [taken_add, taken_add, hrefused]
    exact .added ..
  | @addAll ms ms' hms =>
    have herase := (Node.kernel_erase.list _ _).mp hms
    change Answer.Like (.added (a.addAll ms).taken _) (.added (b.addAll ms').taken _)
    rw [taken_addAll_congr herase, refused_addAll_congr herase]
    exact .added ..
  | build => exact .built h.declaration_beq
  | getNode => exact .produced h.declaration_beq
  | _ => exact .done

/-- All that comes of an operation on one builder and an operation on another is alike: the answers,
what the builders then build, and what may be asked of that. The remarks are the same, each builder
saying them to its own logger. So where both loggers are heard, the entries are the same in what
they say and in their numbers. -/
structure LikeSteps (a b : ClassBuilder) (op op' : Operation Member) : Prop where
  answer_like : (a.perform op).answer.Like (b.perform op').answer
  declaration_beq : (a.perform op).builder.declaration == (b.perform op').builder.declaration
  likeAnswers : (a.perform op).builder.declaration.LikeAnswers (b.perform op').builder.declaration
  remarks_eq : ∃ rs, (a.perform op).events = a.utter op.preludes rs ∧
    (b.perform op').events = b.utter op'.preludes rs
  entries_eq : ∀ (keep : Keeper) (t t' : Channel) (context context' : List LogField),
    a.logger.HeardOn keep t context → b.logger.HeardOn keep t' context' →
    ∃ rs, (a.perform op).events.flatMap (Event.entries keep) =
        heardEntries keep t context op.preludes rs ∧
      (b.perform op').events.flatMap (Event.entries keep) =
        heardEntries keep t' context' op'.preludes rs

theorem Alike.events_eq (h : a.Alike b) (hop : op.Like op') :
    (b.perform op').events = b.utter op'.preludes (op.remarks a.name.text a.count) := by
  have hname : a.name.text = b.name.text :=
    Name.beq_iff_text_eq.mp ((Name.kernel_erase _ _).mpr h.name_eq)
  rw [hop.remarks_eq, hname, h.count_eq]
  exact events_perform

theorem Alike.likeSteps (h : a.Alike b) (hop : op.Like op') : a.LikeSteps b op op' := by
  have hnext : (a.perform op).builder.declaration == (b.perform op').builder.declaration :=
    (h.perform hop).declaration_beq
  have ha : (a.perform op).events = a.utter op.preludes (op.remarks a.name.text a.count) :=
    events_perform
  have hb := h.events_eq hop
  refine ⟨h.answer_like hop, hnext, ClassDecl.likeAnswers_of_beq hnext, ⟨_, ha, hb⟩, ?_⟩
  intro keep t t' context context' hheard hheard'
  refine ⟨op.remarks a.name.text a.count, ?_, ?_⟩
  · rw [ha, entries_utter hheard]
  · rw [hb, entries_utter hheard']

/-- Builders that make equal declarations cannot be told apart afterwards: operations that are alike
have like steps all along. -/
theorem likeSteps_of_declaration_beq (ha : a.Reachable) (hb : b.Reachable)
    (h : a.declaration == b.declaration) (hops : List.Forall₂ Operation.Like ops ops') (i : Nat)
    (hi : i < ops.length) (hi' : i < ops'.length) :
    (a.after (ops.take i)).LikeSteps (b.after (ops'.take i)) ops[i] ops'[i] := by
  have hstart : a.Alike b := alike_of_declaration_beq ha.grouped hb.grouped h
  have hbefore : (a.after (ops.take i)).Alike (b.after (ops'.take i)) :=
    hstart.after (List.forall₂_take i hops)
  exact hbefore.likeSteps (hops.get hi hi')

/-- A constant is read at two places and is once the negative zero. Each builder that is refused a
node says so to its own logger, which adds its own fields. -/
theorem likeSteps_of_declaration_beq_zeros :
    let negative : Binary64 := ⟨0x8000000000000000, by decide⟩
    let x (v : Binary64) (p : Position) : Node := .classConst ⟨[⟨"X", .literal (.float v)⟩], p⟩
    let a := (new "C").after [.attach (.capturing []), .add (x negative (.known 1 2))]
    let b := (new ⟨"C", .known 3 4⟩).after [.add (x .zero .unknown), .attach (.capturing [("k", "v")])]
    let ops : List (Operation Member) := [.extend "B", .addAll [.finished (.echo [] .unknown)]]
    let ops' : List (Operation Member) :=
      [.extend ⟨"B", .known 5 6⟩, .addAll [.finished (.echo [] (.known 7 8))]]
    let entries (c : ClassBuilder) (op : Operation Member) :=
      (c.perform op).events.flatMap (Event.entries Logger.keep)
    a.declaration ≠ b.declaration ∧ a.declaration == b.declaration ∧
      (a.after (ops.take 1)).LikeSteps (b.after (ops'.take 1)) ops[1] ops'[1] ∧
      ∃ rs, entries (a.after (ops.take 1)) ops[1] =
          heardEntries Logger.keep .memory [("class", "C")] ops[1].preludes rs ∧
        entries (b.after (ops'.take 1)) ops'[1] =
          heardEntries Logger.keep .memory [("class", "C"), ("k", "v")] ops'[1].preludes rs := by
  intro negative x a b ops ops' entries
  have hne : a.declaration.name ≠ b.declaration.name := by decide
  have h : a.declaration == b.declaration := by decide
  have hops : List.Forall₂ Operation.Like ops ops' :=
    .cons (.extend (by decide)) (.cons (.addAll (by decide)) .nil)
  have hsteps : (a.after (ops.take 1)).LikeSteps (b.after (ops'.take 1)) ops[1] ops'[1] :=
    likeSteps_of_declaration_beq ⟨_, _, rfl⟩ ⟨_, _, rfl⟩ h hops 1 (by decide) (by decide)
  have hheard (context : List LogField) := (Logger.heardOn_capturing context).child
    Logger.keeping_keep [("class", "C")]
  exact ⟨fun he => hne (congrArg _ he), h, hsteps,
    hsteps.entries_eq _ _ _ _ _ (hheard []) (hheard [("k", "v")])⟩

end ClassBuilder

end ClassAssembly
