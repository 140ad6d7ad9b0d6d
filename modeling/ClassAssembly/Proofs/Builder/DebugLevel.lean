import ClassAssembly.Proofs.Builder.Remarks

/-! All that builders say is said at the debug level. -/

namespace ClassAssembly

/-- Of a record: it is at the debug level. -/
def Event.IsDebug : Event → Prop
  | .asked .. => True
  | .logged _ r => r.severity = .debug

namespace ClassBuilder
variable {b : ClassBuilder} {m : Member} {rs : List Remark} {ess : List (List Event)} {e : Event}
  {op : Operation Member} {ops : List (Operation Member)}

theorem isDebug_of_mem_note {message : String} {own : List LogField} (h : e ∈ b.note message own) :
    e.IsDebug := by
  obtain rfl := List.mem_singleton.mp h
  rfl

theorem isDebug_of_mem_member (h : e ∈ m.events) : e.IsDebug := by
  rcases m with n | (s | b)
  · cases h
  · obtain rfl := List.mem_singleton.mp h
    trivial
  · exact isDebug_of_mem_note h

theorem isDebug_of_mem_utter (hess : ∀ es ∈ ess, ∀ e ∈ es, e.IsDebug) (h : e ∈ b.utter ess rs) :
    e.IsDebug := by
  induction ess generalizing rs with
  | nil => cases h
  | cons es ess ih =>
    cases rs with
    | nil =>
      rw [utter_nil] at h
      cases h
    | cons r rs =>
      obtain ⟨hes, hrest⟩ := List.forall_mem_cons.mp hess
      rw [utter_cons, List.mem_append, List.mem_append] at h
      obtain (h | h) | h := h
      · exact hes e h
      · exact isDebug_of_mem_note h
      · exact ih hrest h

theorem isDebug_of_mem_preludes {es : List Event} (hes : es ∈ op.preludes) (h : e ∈ es) :
    e.IsDebug := by
  cases op with
  | add m =>
    obtain rfl := List.mem_singleton.mp hes
    exact isDebug_of_mem_member h
  | addAll ms =>
    obtain ⟨m, -, rfl⟩ := List.mem_map.mp hes
    exact isDebug_of_mem_member h
  | build | getNode =>
    obtain rfl := List.mem_singleton.mp hes
    cases h
  | _ => cases hes

/-- Nothing is said at another level than the debug level. -/
theorem isDebug_of_mem_events (h : e ∈ b.events ops) : e.IsDebug := by
  induction ops generalizing b with
  | nil => cases h
  | cons op ops ih =>
    change e ∈ (b.perform op).events ++ (b.perform op).builder.events ops at h
    obtain hhead | hrest := List.mem_append.mp h
    · rw [events_perform] at hhead
      exact isDebug_of_mem_utter (fun _ hes _ => isDebug_of_mem_preludes hes) hhead
    · exact ih hrest

end ClassBuilder

end ClassAssembly
