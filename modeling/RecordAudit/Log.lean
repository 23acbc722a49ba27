import RecordAudit.Assoc
import RecordAudit.Fault
import RecordAudit.Settings.Basic
import RecordAudit.Text.Blank
import RecordAudit.Text.Lowercase

/-!
# Logs

Events are logged with a method, the name of a logger, and named values. A log writes those that
reach its level, as entries for machines or as lines for people.
-/

namespace RecordAudit

open Text

/-- The ways to log an event, with increasing weight. -/
inductive LogMethod where
  | debug
  | info
  | warning
  | error
  | critical
  deriving DecidableEq, Repr

namespace LogMethod

def all : List LogMethod := [.debug, .info, .warning, .error, .critical]

def name : LogMethod → String
  | .debug => "debug"
  | .info => "info"
  | .warning => "warning"
  | .error => "error"
  | .critical => "critical"

def weight : LogMethod → Nat
  | .debug => 10
  | .info => 20
  | .warning => 30
  | .error => 40
  | .critical => 50

def ofName? : String → Option LogMethod
  | "warn" => some .warning
  | "exception" => some .error
  | "fatal" => some .critical
  | s => all.find? (·.name == s)

end LogMethod

inductive LogFormat where
  /-- Entries for machines. -/
  | entries
  /-- Lines for people. -/
  | lines
  deriving DecidableEq, Repr

/-- The format that a name stands for; any unknown name stands for lines. -/
def LogFormat.ofName (s : String) : LogFormat := if s == "json" then .entries else .lines

def logLevels : List (String × Nat) :=
  [("CRITICAL", 50), ("FATAL", 50), ("ERROR", 40), ("WARN", 30), ("WARNING", 30), ("INFO", 20),
    ("DEBUG", 10), ("NOTSET", 0)]

/-- The layouts of lines, which are named like levels and are none. -/
def layoutsShown : String :=
  "\x7b'%': (<class 'logging.PercentStyle'>, '%(levelname)s:%(name)s:%(message)s'), " ++
    "'\x7b': (<class 'logging.StrFormatStyle'>, '\x7blevelname\x7d:\x7bname\x7d:\x7bmessage\x7d'), " ++
    "'$': (<class 'logging.StringTemplateStyle'>, '$\x7blevelname\x7d:$\x7bname\x7d:$\x7bmessage\x7d')\x7d"

/-- The level that a name stands for. The case of letters does not matter, and an unknown name
stands for the level of information. -/
def logLevel (name : String) : Except Fault Nat :=
  let name := String.ofList (uppercaseAscii name.toList)
  if name == "BASIC_FORMAT" then .error (.unknownLevel "%(levelname)s:%(name)s:%(message)s")
  else if name == "_STYLES" then .error (.noLevel layoutsShown)
  else .ok ((logLevels.lookup name).getD 20)

/-- What a log writes for an event. -/
inductive LogRecord where
  | entry (values : Assoc Value)
  | line (text : String)

structure Log where
  level : Nat
  /-- The format, once the log has been set up. -/
  format : Option LogFormat

namespace Log

def initial : Log := ⟨30, none⟩

/-- Sets the log up: the format counts even when the level is refused. -/
def setUp (log : Log) (settings : LoggingSettings) : Except Fault Unit × Log :=
  let log := { log with format := some (.ofName settings.format) }
  match logLevel settings.level with
  | .ok level => (.ok (), { log with level := level })
  | .error f => (.error f, log)

def pad (width : Nat) (s : String) : String :=
  s ++ String.ofList (List.replicate (width - s.length) ' ')

/-- A value in a line: a text stands without quotes unless it has blanks, quotes or an equals
sign. -/
def valueText (v : Value) : String :=
  match v with
  | .text s => if s.toList.any [' ', '\t', '=', '\r', '\n', '"', '\''].contains then quote s else s
  | v => v.shown

/-- Values that a line shows in a place of their own, or not among the others. -/
def placedNames : List String := ["logger_name", "exc_info", "exception", "stack"]

/-- The line for an event: its method, the event, the logger, a second name of the logger, and the
other values sorted by name. -/
def lineText (method : LogMethod) (logger event : String) (values : Assoc Value) : String :=
  let others := (values.filter fun name _ => !placedNames.contains name).entries
  let sorted := others.mergeSort fun a b => !(b.1 < a.1)
  " ".intercalate (("[" ++ pad 9 method.name ++ "]") :: pad 30 event :: ("[" ++ logger ++ "]") ::
    ((values.get? "logger_name").toList.map fun v => "[" ++ v.plain ++ "]") ++
    sorted.map fun (name, v) => name ++ "=" ++ valueText v)

/-- The text of a value, unless it is absent; nothing for a value that is no text. -/
def attachment? (values : Assoc Value) (name : String) : Option (Option String) :=
  match values.get? name with
  | none | some .null => some none
  | some (.text s) => some (some s)
  | some _ => none

/-- The text for an event: its line, the stack, and the exception behind a rule of equals signs.
There is none when the stack or the exception is no text. -/
def eventText? (method : LogMethod) (logger event : String) (values : Assoc Value) :
    Option String := do
  let line := lineText method logger event values
  let stack ← attachment? values "stack"
  let exception ← attachment? values "exception"
  let isFailure := exception.isSome || ((values.get? "exc_info").getD .null).isTruthy
  let rule := "\n\n" ++ String.ofList (List.replicate 79 '=') ++ "\n"
  let stackText := match stack with
    | some s => "\n" ++ s ++ (if isFailure then rule else "")
    | none => ""
  return line ++ stackText ++ (exception.map ("\n" ++ ·)).getD ""

/-- The name that a logger goes by; the one without a name is the root. -/
def loggerName (logger : String) : String := if logger == "" then "root" else logger

/-- Refuses values under the names of what a method is called with. -/
def checkNames (method : String) (values : Assoc Value) : Except Fault Unit :=
  match values.keys.find? fun name => name == "event" || name == "self" with
  | some name => .error (.givenTwice method name)
  | none =>
    if values.keys.contains "method_name" then .error (.givenTwice "_proxy_to_logger" "method_name")
    else .ok ()

/-- What the log writes for an event, which is nothing when the event does not reach its level. The
method, the logger and the time take the place of values under their names, and values under the
names of the log's own notes are dropped. -/
def write (log : Log) (method : LogMethod) (logger event : String) (values : Assoc Value) :
    List LogRecord :=
  if method.weight < log.level then []
  else
    let own := ["level", "logger", "timestamp", "stack_info", "_record", "_from_structlog"]
    let values := values.filter fun name _ => !own.contains name
    match log.format with
    | none => []
    | some .lines =>
      match eventText? method (loggerName logger) event values with
      | some text => (splitLines text.toList).map (.line ∘ String.ofList)
      | none => []
    | some .entries =>
      [.entry (((values.insert "event" (.text event)).insert "level" (.text method.name)).insert
        "logger" (.text (loggerName logger)))]

/-- What the log writes for an event that is logged with a method given by name. One name says that
there is an exception to show, unless the values say something else. -/
def writeNamed (log : Log) (name logger event : String) (values : Assoc Value) :
    Except Fault (List LogRecord) := do
  match LogMethod.ofName? name with
  | none => throw (.unknownMethod name)
  | some method =>
    let isException := name == "exception"
    checkNames (if isException then name else method.name) values
    let values :=
      if isException && (values.get? "exc_info").isNone then values.insert "exc_info" (.bool true)
      else values
    return log.write method logger event values

end Log

end RecordAudit
