import AccountAudit.Log.Template
import AccountAudit.Value.Json

/-!
# Log records

How a record of the log is written: as a line of JSON for other programs, or as a coloured line for
people.
-/

namespace AccountAudit
namespace Log

/-- The place in the program that a record comes from. -/
structure Origin where
  module : String
  function : Option String
  line : Int
  deriving DecidableEq, Repr

structure Record where
  level : String
  logger : String
  /-- The message, or a template for it if there are values. -/
  message : String
  values : List Value := []
  origin : Option Origin := none
  fault : Option Fault := none
  /-- What the record is about: fields by their names. -/
  context : List (String × Value) := []
  deriving DecidableEq, Repr

namespace Record

/-- The message with its values. -/
def text (r : Record) : Except TemplateFailure String :=
  if r.values.isEmpty then .ok r.message else fill r.message r.values

/-- The names of the context fields that are written as JSON, in their order. -/
def contextNames : List String :=
  ["unit", "class_id", "handler", "duration_ms", "findings"]

/-- How a fault stands in the log. -/
def faultText (fault : Fault) : String :=
  if fault.message.isEmpty then fault.kind else fault.text

def originFields (origin : Origin) : List (String × Value) :=
  [("module", .text origin.module), ("function", (origin.function.map Value.text).getD .null),
    ("line", .int origin.line)]

def faultField (fault : Fault) : String × Value :=
  ("exception", .ofFields
    [("type", .text fault.kind), ("message", .text fault.message),
      ("traceback", .text (faultText fault))])

/-- The fields of a record without its time. -/
def fields (r : Record) : Except TemplateFailure (List (String × Value)) :=
  r.text.map fun message =>
    [("level", .text r.level), ("logger", .text r.logger), ("message", .text message)] ++
      (r.origin.map originFields).getD [] ++
      (r.fault.map faultField).toList ++
      contextNames.filterMap fun name => (r.context.lookup name).map fun v => (name, v)

/-- A record as a line of JSON. -/
def jsonLine (time : String) (r : Record) : Except TemplateFailure String :=
  r.fields.map fun fields => Json.compact (.ofFields (("timestamp", .text time) :: fields))

/-- The colours of levels. -/
def colors : List (String × String) :=
  [("DEBUG", "\x1b[36m"), ("INFO", "\x1b[32m"), ("WARNING", "\x1b[33m"), ("ERROR", "\x1b[31m"),
    ("CRITICAL", "\x1b[35m")]

/-- A name in a column of eight characters, at its right end. -/
def inColumn (name : String) : String :=
  String.ofList (List.replicate (8 - name.length) ' ') ++ name

/-- A record as a coloured line, with the text of a fault below it. -/
def coloredLine (time : String) (r : Record) : Except TemplateFailure String :=
  r.text.map fun message =>
    let about := match r.context.lookup "unit" with
      | some unit => if unit.isGiven then "[" ++ unit.plain ++ "] " else ""
      | none => ""
    let color := (colors.lookup r.level).getD ""
    color ++ time ++ " [" ++ inColumn r.level ++ "]\x1b[0m " ++ r.logger ++ ": " ++ about ++
      message ++ (r.fault.map fun fault => "\n" ++ faultText fault).getD ""

end Record

end Log
end AccountAudit
