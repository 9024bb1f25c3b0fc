import AccountAudit.Failure

/-!
# Setting up the log

Which records are written, and how. The level is named without regard to capital letters, and an
unknown name means the usual level; where other programs read the log it is written as JSON.
-/

namespace AccountAudit
namespace Log

inductive LineFormat where
  | colored
  | json
  deriving DecidableEq, Repr

structure Setup where
  /-- The least level of records that are written. -/
  level : Nat
  format : LineFormat
  deriving DecidableEq, Repr

/-- The numbers of levels. -/
def levels : List (String × Nat) :=
  [("NOTSET", 0), ("DEBUG", 10), ("INFO", 20), ("WARN", 30), ("WARNING", 30), ("ERROR", 40),
    ("CRITICAL", 50), ("FATAL", 50)]

/-- The level that is used where no other one is named. -/
def usualLevel : Nat := 20

/-- The level of the loggers that write too much. -/
def quietLevel : Nat := 30

/-- The capital letters from A to Z that a character has, and else the character itself. Besides the
small letters the dotless i and the long s have one, and the ligatures of s and t have two. -/
def capitalForm (c : Char) : List Char :=
  if c = '\u0131' then ['I']
  else if c = '\u017f' then ['S']
  else if c = '\ufb05' ∨ c = '\ufb06' then ['S', 'T']
  else [c.toUpper]

/-- The layout of lines that is used where no other one is given. -/
def basicLayout : String := "%(levelname)s:%(name)s:%(message)s"

/-- The styles of layouts, as messages show them. -/
def stylesText : String :=
  "\x7b'%': (<class 'logging.PercentStyle'>, '" ++ basicLayout ++
    "'), '\x7b': (<class 'logging.StrFormatStyle'>, " ++
    "'\x7blevelname\x7d:\x7bname\x7d:\x7bmessage\x7d'), " ++
    "'$': (<class 'logging.StringTemplateStyle'>, " ++
    "'$\x7blevelname\x7d:$\x7bname\x7d:$\x7bmessage\x7d')\x7d"

/-- Settings of the log that are known under a name like the levels, but are none. -/
def mistakable : List (String × Fault) :=
  [("BASIC_FORMAT",
      { kind := "ValueError", message := "Unknown level: '" ++ basicLayout ++ "'" }),
    ("_STYLES",
      { kind := "TypeError"
        message := "Level not an integer or a valid string: " ++ stylesText })]

/-- The level that a text names. -/
def levelOf (name : String) : Except Fault Nat :=
  let name := String.ofList (name.toList.flatMap capitalForm)
  match mistakable.lookup name with
  | some fault => .error fault
  | none => .ok ((levels.lookup name).getD usualLevel)

/-- How lines are written in a deployment. -/
def formatIn (deployment : String) : LineFormat :=
  if deployment = "staging" ∨ deployment = "production" then .json else .colored

/-- The set-up for a deployment and a level. -/
def setup (deployment level : String) : Except Fault Setup :=
  (levelOf level).map fun level => { level, format := formatIn deployment }

end Log
end AccountAudit
