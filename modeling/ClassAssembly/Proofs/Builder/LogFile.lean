import ClassAssembly.Proofs.Builder.DebugLevel
import ClassAssembly.Proofs.Builder.Silence

/-! What a builder leaves in a log file: a line for each member it was offered, and one for the
class it built. A logger that discards, or asks for warnings at least, leaves nothing, since all
that builders say is said at the debug level. -/

namespace ClassAssembly

/-- A logger for a file leaves there, in order, all that is at least as severe as its level, and one
that discards leaves nothing. -/
structure KeepingFiles (keep : Keeper) : Prop where
  discarding : ∀ r, keep .discarding r = []
  file : ∀ path least r, keep (.onto (.file path) least) r =
    if r.severity.rank ≤ least.rank then [⟨.file path, r⟩] else []

theorem Logger.keepingFiles_keep : KeepingFiles Logger.keep where
  discarding _ := rfl
  file _ _ _ := rfl

/-- What one logger is given. -/
def Event.givenTo (l : Logger) : Event → List LogRecord
  | .asked .. => []
  | .logged k r => if k = l then [r] else []

theorem LogRecord.line_debug {message : String} {own : List LogField} :
    (LogRecord.mk .debug message own).line = "DEBG " ++ message := rfl

namespace Member
variable {m : Member} {keep : Keeper} {c : Channel} {l : Logger}

/-- What is said of the member when it is offered. -/
def verdict (m : Member) : String :=
  (if m.node.kind.isMember then "added" else "rejected") ++ " member of type " ++
    m.node.kind.typeName

/-- A class builder among the members has the logger it was made with. -/
def HasDefaultLogger : Member → Prop
  | .pending (.classBuilder b) => b.logger = (ClassBuilder.new b.name).logger
  | .pending (.source _) | .finished _ => True

theorem lines_events (hkeep : KeepingFiles keep) (h : m.HasDefaultLogger) :
    m.events.flatMap (Event.lines keep c) = [] := by
  rcases m with n | (s | b)
  · rfl
  · rfl
  · have hlogger : b.logger = .discarding := h
    change b.buildEvents.flatMap (Event.lines keep c) = []
    rw [ClassBuilder.buildEvents, ClassBuilder.note, hlogger, List.flatMap_singleton, Event.lines,
      Event.entries, hkeep.discarding]
    rfl

theorem givenTo_events_silent (h : l ≠ .discarding) :
    m.silent.events.flatMap (Event.givenTo l) = [] := by
  rcases m with n | (s | b)
  · rfl
  · rfl
  · exact (List.append_nil _).trans (if_neg h.symm)

theorem verdict_silent (m : Member) : m.silent.verdict = m.verdict := by
  rw [verdict, verdict, node_silent]

end Member

/-- Lines at the debug level, unless the options hold them back. -/
def LogOptions.admitted (o : LogOptions) (lines : List String) : List String :=
  if o.discard || o.quiet then [] else lines

namespace ClassBuilder
open Event
variable {b : ClassBuilder} {m : Member} {ms : List Member} {l : Logger} {name : Name}
  {view : Event → List String}

/-- The operations of one who offers members one by one, whatever comes of it, and builds. -/
def offering (ms : List Member) : List (Operation Member) := ms.map .add ++ [.build]

section
variable (lines : String → List String)

theorem flatMap_add (h : ∀ r, (b.say r).flatMap view = lines r.message) :
    (b.add m).events.flatMap view = m.events.flatMap view ++ lines m.verdict := by
  rw [events_add_eq_say, List.flatMap_append, h, Member.verdict]
  split <;> rfl

/-- Whatever is looked at in the events: what each remark shows decides it, beside what the members
show themselves. -/
theorem flatMap_offering (h : ∀ r, (b.say r).flatMap view = lines r.message) :
    (b.events (offering ms)).flatMap view =
      (ms.flatMap fun m => m.events.flatMap view ++ lines m.verdict) ++
        lines ("building class " ++ b.name.text) := by
  induction ms generalizing b with
  | nil =>
    change (b.buildEvents ++ []).flatMap view = _
    rw [List.append_nil]
    exact h (.building b.name.text b.statements.length)
  | cons m ms ih =>
    have hname : (b.add m).builder.name = b.name := (eq_of_header_eq header_add).1
    have hnext (r : Remark) : ((b.add m).builder.say r).flatMap view = lines r.message := by
      rw [say_congr logger_add, h]
    change ((b.add m).events ++ (b.add m).builder.events (offering ms)).flatMap view = _
    rw [List.flatMap_append, flatMap_add lines h, ih hnext, hname, List.flatMap_cons]
    simp only [List.append_assoc]

end

/-- The records that a builder gives to its logger when it is offered members and built, while the
members themselves say nothing. -/
def given (l : Logger) (name : Name) (ms : List Member) : List LogRecord :=
  let b := (new name).attach l
  (b.events (offering (ms.map Member.silent))).flatMap (givenTo b.logger)

theorem severity_of_mem_given {r : LogRecord} (h : r ∈ given l name ms) : r.severity = .debug := by
  obtain ⟨e, he, hr⟩ := List.mem_flatMap.mp h
  have hdebug : e.IsDebug := isDebug_of_mem_events he
  cases e with
  | asked => cases hr
  | logged k s =>
    rw [givenTo, List.mem_ite_nil_right] at hr
    obtain rfl := List.mem_singleton.mp hr.2
    exact hdebug

theorem map_line_given : (given l name ms).map LogRecord.line =
    ms.map (fun m => "DEBG " ++ m.verdict) ++ ["DEBG building class " ++ name.text] := by
  have hsay (r : Remark) : (((new name).attach l).say r).flatMap (fun e =>
      (e.givenTo ((new name).attach l).logger).map LogRecord.line) = ["DEBG " ++ r.message] := by
    rw [say_eq, List.flatMap_singleton, givenTo, if_pos rfl]
    rfl
  have hchild : ((new name).attach l).logger ≠ .discarding := nofun
  have hmember (m : Member) : m.silent.events.flatMap (fun e =>
      (e.givenTo ((new name).attach l).logger).map LogRecord.line) = [] := by
    rw [← List.map_flatMap, Member.givenTo_events_silent hchild]
    rfl
  rw [given, List.map_flatMap, flatMap_offering (fun s => ["DEBG " ++ s]) hsay, List.flatMap_map]
  simp only [hmember, Member.verdict_silent, List.nil_append, ← List.map_eq_flatMap]
  rfl

end ClassBuilder

namespace LogOptions
open ClassBuilder Event
variable {o : LogOptions} {path : String} {keep : Keeper} {name : Name} {ms : List Member}

/-- Warnings are what is least severe for a quiet logger, and no debug record is as severe. -/
theorem keep_logger (hfiles : KeepingFiles keep) (hpath : o.path = some path) {r : LogRecord}
    (hr : r.severity = .debug) :
    keep o.logger r = if o.discard || o.quiet then [] else [⟨.file path, r⟩] := by
  cases hd : o.discard with
  | true =>
    have hlogger : o.logger = .discarding := if_pos hd
    rw [hlogger, hfiles.discarding]
    rfl
  | false =>
    have hlogger : o.logger = .onto (.file path) o.severity := by
      simp [logger, channel, hd, hpath]
    rw [hlogger, hfiles.file, hr, severity, Bool.false_or]
    cases o.quiet <;> rfl

theorem map_line_keep (hfiles : KeepingFiles keep) (hpath : o.path = some path)
    {rs : List LogRecord} (hrs : ∀ r ∈ rs, r.severity = .debug) :
    (rs.flatMap (keep o.logger)).map (·.record.line) = o.admitted (rs.map LogRecord.line) := by
  rw [List.flatMap_congr fun r hr => keep_logger hfiles hpath (hrs r hr), admitted]
  split
  · simp
  · simp [← List.map_eq_flatMap]

theorem lines_say (hfiles : KeepingFiles keep) (hkeep : Keeping keep) (hpath : o.path = some path)
    (r : Remark) : (((new name).attach o.logger).say r).flatMap (Event.lines keep (.file path)) =
      o.admitted ["DEBG " ++ r.message] := by
  have hdebug : (r.record.addFields [("class", name.text)]).severity = .debug := rfl
  have hentries : keep ((new name).attach o.logger).logger r.record = _ :=
    (hkeep.child _ _ _).trans (keep_logger hfiles hpath hdebug)
  rw [say_eq, List.flatMap_singleton, Event.lines, Event.entries, hentries, admitted]
  split
  · rfl
  · simp [LogRecord.addFields, Remark.record, LogRecord.line_debug]

theorem flatMap_admitted (verdict : Member → String) :
    (ms.flatMap fun m => o.admitted [verdict m]) = o.admitted (ms.map verdict) := by
  unfold admitted
  split
  · exact List.flatMap_eq_nil_iff.mpr fun _ _ => rfl
  · exact List.map_eq_flatMap.symm

theorem admitted_append {lines more : List String} :
    o.admitted lines ++ o.admitted more = o.admitted (lines ++ more) := by
  unfold admitted
  split <;> rfl

/-- What a builder says through the logger of the options. Whatever loggers are like otherwise, they
keep a line for each member, in order, and one for the class, or nothing if they discard or are
quiet. If the builder's own logger hands on to that one, the file holds these lines, each behind
what the member itself has left there, and members with the loggers they were made with leave
nothing. -/
theorem lines_kept_by_options (hfiles : KeepingFiles keep) (hpath : o.path = some path) (name : Name)
    (ms : List Member) :
    ((given o.logger name ms).flatMap (keep o.logger)).map (·.record.line) =
      o.admitted (ms.map (fun m => "DEBG " ++ m.verdict) ++ ["DEBG building class " ++ name.text]) ∧
    (Keeping keep →
      ((new name).attach o.logger).logLines keep path (offering ms) =
        (ms.flatMap fun m => m.events.flatMap (Event.lines keep (.file path)) ++
            o.admitted ["DEBG " ++ m.verdict]) ++
          o.admitted ["DEBG building class " ++ name.text] ∧
      ((∀ m ∈ ms, m.HasDefaultLogger) →
        ((new name).attach o.logger).logLines keep path (offering ms) =
          o.admitted
            (ms.map (fun m => "DEBG " ++ m.verdict) ++ ["DEBG building class " ++ name.text]))) := by
  refine ⟨?_, ?_⟩
  · rw [map_line_keep hfiles hpath fun _ => severity_of_mem_given, map_line_given]
  · intro hkeep
    have hlines : ((new name).attach o.logger).logLines keep path (offering ms) =
        (ms.flatMap fun m => m.events.flatMap (Event.lines keep (.file path)) ++
            o.admitted ["DEBG " ++ m.verdict]) ++
          o.admitted ["DEBG building class " ++ name.text] :=
      flatMap_offering (fun s => o.admitted ["DEBG " ++ s]) (lines_say hfiles hkeep hpath)
    refine ⟨hlines, ?_⟩
    intro hms
    have hsilent : (ms.flatMap fun m => m.events.flatMap (Event.lines keep (.file path)) ++
        o.admitted ["DEBG " ++ m.verdict]) = ms.flatMap fun m => o.admitted ["DEBG " ++ m.verdict] :=
      List.flatMap_congr fun m hm => by
        rw [Member.lines_events hfiles (hms m hm), List.nil_append]
    rw [hlines, hsilent, flatMap_admitted, admitted_append]

/-- A class builder that is offered says nothing, having the logger it was made with, and is
refused. -/
theorem lines_kept_by_options_mixed :
    let loud : LogOptions := { quiet := false, path := some "log", discard := false }
    let quiet : LogOptions := { quiet := true, path := some "log", discard := false }
    let size : Node := .property (.single "size")
    let ms : List Member := [.finished size, .finished (.echo [] .unknown),
      .pending (.classBuilder (.new "D")), .pending (.source ⟨"s", size, []⟩)]
    let lines := ["DEBG added member of type Stmt_Property", "DEBG rejected member of type Stmt_Echo",
      "DEBG rejected member of type Stmt_Class", "DEBG added member of type Stmt_Property",
      "DEBG building class C"]
    ((given loud.logger "C" ms).flatMap loud.logger.keep).map (·.record.line) = lines ∧
    ((new "C").attach loud.logger).logLines Logger.keep "log" (offering ms) = lines ∧
    ((new "C").attach quiet.logger).logLines Logger.keep "log" (offering ms) = [] := by
  intro loud quiet size ms lines
  have hloudpath : loud.path = some "log" := rfl
  have hquietpath : quiet.path = some "log" := rfl
  have hms : ∀ m ∈ ms, m.HasDefaultLogger := by
    simp only [ms, List.forall_mem_cons]
    exact ⟨trivial, trivial, rfl, trivial, List.forall_mem_nil _⟩
  obtain ⟨hkept, hloud⟩ := lines_kept_by_options Logger.keepingFiles_keep hloudpath "C" ms
  obtain ⟨-, hquiet⟩ := lines_kept_by_options Logger.keepingFiles_keep hquietpath "C" ms
  have hlines : loud.admitted (ms.map (fun m => "DEBG " ++ m.verdict) ++
      ["DEBG building class " ++ (("C" : Name).text)]) = lines := by decide
  exact ⟨hkept.trans hlines, ((hloud Logger.keeping_keep).2 hms).trans hlines,
    (hquiet Logger.keeping_keep).2 hms⟩

end LogOptions

end ClassAssembly
