import ClassAssembly.Node.Outline

/-! Log records, and the loggers they are given to. A logger is known by how it was made. What is
left of a record is a function of the two, which is not settled here: it may be any that keeps to
the laws of loggers. Options choose a logger. -/

namespace ClassAssembly

inductive Severity
  | critical
  | error
  | warning
  | info
  | debug
  | trace
  deriving DecidableEq, Repr

namespace Severity

/-- From the most severe up. -/
def rank : Severity → Nat
  | .critical => 0
  | .error => 1
  | .warning => 2
  | .info => 3
  | .debug => 4
  | .trace => 5

def all : List Severity := [.critical, .error, .warning, .info, .debug, .trace]

def name : Severity → String
  | .critical => "CRITICAL"
  | .error => "ERROR"
  | .warning => "WARNING"
  | .info => "INFO"
  | .debug => "DEBUG"
  | .trace => "TRACE"

/-- The name in four letters. -/
def tag : Severity → String
  | .critical => "CRIT"
  | .error => "ERRO"
  | .warning => "WARN"
  | .info => "INFO"
  | .debug => "DEBG"
  | .trace => "TRCE"

end Severity

/-- A key with the text of its value. -/
abbrev LogField := String × String

structure LogRecord where
  severity : Severity
  message : String
  fields : List LogField
  deriving DecidableEq, Repr

/-- A record as a line of a log file: severity and message. -/
def LogRecord.line (r : LogRecord) : String := r.severity.tag ++ " " ++ r.message

/-- The record with fields behind those it has. -/
def LogRecord.addFields (r : LogRecord) (own : List LogField) : LogRecord :=
  { r with fields := r.fields ++ own }

inductive Channel
  | memory
  | console
  | file (path : String)
  deriving DecidableEq, Repr

/-- A record that has reached a channel. -/
structure Entry where
  channel : Channel
  record : LogRecord
  deriving DecidableEq, Repr

inductive Logger
  | discarding
  /-- For a channel, and for records that are at least as severe as the level. -/
  | onto (channel : Channel) (least : Severity)
  /-- Has fields of its own for every record. -/
  | child (parent : Logger) (own : List LogField)
  deriving DecidableEq, Repr

/-- What loggers leave of the records they are given. -/
abbrev Keeper := Logger → LogRecord → List Entry

/-- What holds of all loggers. One that discards leaves nothing of a record, and a child leaves what
its parent leaves of the record with the child's fields behind. -/
structure Keeping (keep : Keeper) : Prop where
  discarding : ∀ r, keep .discarding r = []
  child : ∀ l own r, keep (.child l own) r = keep l (r.addFields own)

namespace Logger

/-- A logger that keeps everything it is given. -/
def capturing (context : List LogField) : Logger := .child (.onto .memory .trace) context

instance : Inhabited Logger := ⟨.discarding⟩

/-- What loggers leave if a level is all that holds records back. -/
def keep : Keeper
  | .discarding, _ => []
  | .onto c least, r => if r.severity.rank ≤ least.rank then [⟨c, r⟩] else []
  | .child l own, r => l.keep (r.addFields own)

theorem keeping_keep : Keeping keep where
  discarding _ := rfl
  child _ _ _ := rfl

/-- The logger is heard on a channel: a debug record leaves one entry there, with the logger's
fields behind its own. -/
def HeardOn (keep : Keeper) (l : Logger) (c : Channel) (context : List LogField) : Prop :=
  ∀ r : LogRecord, r.severity = .debug → keep l r = [⟨c, r.addFields context⟩]

theorem heardOn_capturing (context : List LogField) :
    (capturing context).HeardOn keep .memory context := by
  intro r hr
  have hlevel : r.severity.rank ≤ Severity.trace.rank := by
    rw [hr]
    decide
  exact if_pos hlevel

theorem HeardOn.child {keep : Keeper} (hkeep : Keeping keep) {l : Logger} {c : Channel}
    {context : List LogField} (h : l.HeardOn keep c context) (own : List LogField) :
    (Logger.child l own).HeardOn keep c (own ++ context) := by
  intro r hr
  have hparent : keep l (r.addFields own) = [⟨c, (r.addFields own).addFields context⟩] := h _ hr
  rw [hkeep.child, hparent]
  simp [LogRecord.addFields]

end Logger

structure LogOptions where
  /-- Only warnings and worse are logged. -/
  quiet : Bool := true
  /-- The log file. Without one the console is used. -/
  path : Option String := none
  discard : Bool := true
  deriving DecidableEq

namespace LogOptions
open Outline

instance : Inhabited LogOptions := ⟨{}⟩

def severity (o : LogOptions) : Severity := if o.quiet then .warning else .debug

def channel (o : LogOptions) : Channel := o.path.elim .console .file

/-- Discarding goes before all else. -/
def logger (o : LogOptions) : Logger :=
  if o.discard then .discarding else .onto o.channel o.severity

def outline (o : LogOptions) : Outline :=
  record "LogOptions" [("quiet", truth o.quiet), ("log_path", option Outline.quoted o.path),
    ("discard_logs", truth o.discard)]

end LogOptions

end ClassAssembly
