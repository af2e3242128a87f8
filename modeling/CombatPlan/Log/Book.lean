import CombatPlan.Journal
import CombatPlan.Json.Text
import CombatPlan.Log.Clock
import CombatPlan.Log.Template
import CombatPlan.Settings
import CombatPlan.Text.Capital
import CombatPlan.Text.Split

/-!
# Logs

A log has a threshold and a row of sinks. A record at or above the threshold goes to every sink in order, one
line each. Setting up the log again replaces the sink of the last set-up and leaves those of the host alone.
-/

namespace CombatPlan

inductive LineFormat where
  | readable
  | json
  deriving DecidableEq, Repr

/-- The severities by number, those in between by the number alone. -/
def levelWord (n : Nat) : String :=
  match [Severity.debug, .info, .warning, .error, .critical].find? (·.number == n) with
  | some s => s.word
  | none => "Level " ++ toString n

structure LogRecord where
  level : Nat
  /-- The host may give a level a name of its own. -/
  levelName : String := levelWord level
  source : String
  message : String
  time : Moment
  deriving DecidableEq, Repr

namespace LogRecord

def fields (stamp level source message : String) : List (String × String) :=
  [("ts", stamp), ("level", level), ("logger", source), ("msg", message)]

def object (fields : List (String × String)) : List Char :=
  '{' :: Text.glue ',' (fields.map fun f => Json.quote f.1 ++ ':' :: Json.quote f.2) ++ ['}']

def jsonText (stamp level source message : String) : String :=
  String.ofList (object (fields stamp level source message))

def jsonLine (r : LogRecord) : String :=
  jsonText r.time.stamp r.levelName r.source r.message

def readableLine (r : LogRecord) : String :=
  r.time.timeOfDay ++ " | " ++ r.levelName ++ " | " ++ r.message

def line (r : LogRecord) : LineFormat → String
  | .readable => r.readableLine
  | .json => r.jsonLine

end LogRecord

inductive Sink where
  /-- The sink of a set-up, told by the number of set-ups before it. -/
  | own (index : Nat) (format : LineFormat)
  /-- A sink of the host, which puts its label in front of each message. -/
  | host (label : String)
  deriving DecidableEq, Repr

def Sink.isOwn : Sink → Bool
  | own _ _ => true
  | host _ => false

/-- What a sink writes of a record. Its own one shows the time, if there is a clock that can. -/
def Sink.write (r : LogRecord) : Sink → String
  | own _ format => if r.time.isShowable then r.line format ++ "\n" else ""
  | host label => label ++ ":" ++ r.message ++ "\n"

inductive LevelFault where
  /-- The name stands for a layout of lines. -/
  | layout (template : String)
  /-- The name stands for a table of such layouts. -/
  | layouts (table : String)
  deriving DecidableEq, Repr

def LevelFault.message : LevelFault → String
  | layout template => "Unknown level: " ++ Text.quoted template
  | layouts table => "Level not an integer or a valid string: " ++ table

/-- The layouts of lines that have a name, by the sign that marks a slot. -/
def layoutTable : List (Char × String × String) := [
  ('%', "PercentStyle", "%(levelname)s:%(name)s:%(message)s"),
  ('\x7b', "StrFormatStyle", "\x7blevelname\x7d:\x7bname\x7d:\x7bmessage\x7d"),
  ('$', "StringTemplateStyle", "$\x7blevelname\x7d:$\x7bname\x7d:$\x7bmessage\x7d")]

def shownLayouts : String :=
  let entry (mark : Char) (style template : String) : String :=
    Text.quoted (String.singleton mark) ++ ": (<class 'logging." ++ style ++ "'>, "
      ++ Text.quoted template ++ ")"
  "\x7b" ++ String.intercalate ", " (layoutTable.map fun (mark, style, template) =>
    entry mark style template) ++ "\x7d"

/-- The number of a level given by name, in any case; an unknown name counts as INFO. The names of layouts are
known, but not as levels. -/
def levelNumber (name : String) : Except LevelFault Nat :=
  let name := Text.capitals name
  if name = "BASIC_FORMAT" then .error (.layout "%(levelname)s:%(name)s:%(message)s")
  else if name = "_STYLES" then .error (.layouts shownLayouts)
  else
    match [("NOTSET", 0), ("DEBUG", 10), ("INFO", 20), ("WARN", 30), ("WARNING", 30), ("ERROR", 40),
        ("FATAL", 50), ("CRITICAL", 50)].lookup name with
    | some n => .ok n
    | none => .ok 20

def LogSettings.lineFormat (s : LogSettings) : LineFormat :=
  if s.format = "json" then .json else .readable

structure LogBook where
  threshold : Nat := 30
  sinks : List Sink := []
  setUps : Nat := 0
  deriving DecidableEq, Repr

namespace LogBook

/-- Sets up the log and hands back its new sink, which goes last, in place of the one before. If the level is none,
the sink is in place already, but the threshold stays, and nothing is handed back. -/
def install (b : LogBook) (s : LogSettings) : LogBook × Except LevelFault Sink :=
  let sink := Sink.own b.setUps s.lineFormat
  let sinks := b.sinks.filter (!·.isOwn) ++ [sink]
  match levelNumber s.level with
  | .ok threshold => ({ threshold, sinks, setUps := b.setUps + 1 }, .ok sink)
  | .error f => ({ b with sinks }, .error f)

def setUp (b : LogBook) (s : LogSettings) : LogBook × Option LevelFault :=
  match b.install s with
  | (b, .ok _) => (b, none)
  | (b, .error f) => (b, some f)

def addHost (b : LogBook) (label : String) : LogBook :=
  { b with sinks := b.sinks ++ [.host label] }

def removeHost (b : LogBook) (label : String) : LogBook :=
  { b with sinks := b.sinks.erase (.host label) }

def admits (b : LogBook) (level : Nat) : Bool :=
  1 ≤ level && b.threshold ≤ level

def output (b : LogBook) (r : LogRecord) : String :=
  if b.admits r.level then String.join (b.sinks.map (·.write r)) else ""

/-- What is written of a message that is made from a template. Nothing is, if the arguments do not fit. -/
def log (b : LogBook) (level : Nat) (source template : String) (arguments : List Datum) (time : Moment) : String :=
  match Template.message? template arguments with
  | some message => b.output { level, source, message, time }
  | none => ""

end LogBook

def Event.toRecord (e : Event) (time : Moment) : LogRecord where
  level := e.severity.number
  source := e.source
  message := e.message
  time := time

end CombatPlan
