import AccountAudit.Text.Digit
import AccountAudit.Text.Quoted

/-!
# Command lines

A command line is read by a grammar: options, which may take a value, and operands. A long option may
be shortened as long as it is the only one with that beginning; its value may be joined to it by `=`.
Short options may be written behind one dash as long as they take no value; the last one may take
one, and have it joined to it. Behind `--` everything is an operand.

Operands have to stand together; those of a later group are not recognised. Reading gives the events
of a command line in their order, up to the first misuse.
-/

namespace AccountAudit
namespace Cli

/-- An option, known by its first name. -/
structure OptionSpec where
  names : List String
  takesValue : Bool := false
  deriving DecidableEq, Repr

/-- The first name of an option. -/
def OptionSpec.key (o : OptionSpec) : String :=
  o.names.headD ""

/-- The names of an option in a message. -/
def OptionSpec.label (o : OptionSpec) : String :=
  "/".intercalate o.names

/-- What a command takes besides options. -/
inductive Operands where
  | none
  /-- One or more operands. -/
  | several
  /-- The name of another command, which takes the rest of the line. -/
  | command
  deriving DecidableEq, Repr

structure Grammar where
  options : List OptionSpec
  operands : Operands
  deriving DecidableEq, Repr

/-- What is wrong with a command line. -/
inductive Misuse where
  | ambiguous (written : String) (candidates : List String)
  | missingValue (option : String)
  | unexpectedValue (option value : String)
  | unrecognized (arguments : List String)
  | notAmong (place value : String) (choices : List String)
  | notInteger (place value : String)
  | missingOperands (name : String)
  deriving DecidableEq, Repr

def Misuse.message : Misuse → String
  | ambiguous written candidates =>
    "ambiguous option: " ++ written ++ " could match " ++ ", ".intercalate candidates
  | missingValue option => "argument " ++ option ++ ": expected one argument"
  | unexpectedValue option value =>
    "argument " ++ option ++ ": ignored explicit argument " ++ Text.quote value
  | unrecognized arguments => "unrecognized arguments: " ++ " ".intercalate arguments
  | notAmong place value choices =>
    "argument " ++ place ++ ": invalid choice: " ++ Text.quote value ++ " (choose from " ++
      ", ".intercalate (choices.map Text.quote) ++ ")"
  | notInteger place value => "argument " ++ place ++ ": invalid int value: " ++ Text.quote value
  | missingOperands name => "the following arguments are required: " ++ name

/-- What a command line tells, piece by piece. -/
inductive Event where
  | flag (option : String)
  | value (option value : String)
  | operands (arguments : List String)
  /-- The name of a command and the arguments for it. -/
  | command (name : String) (arguments : List String)
  deriving DecidableEq, Repr

/-- The events of a command line, and the misuse that ended it. -/
structure Reading where
  events : List Event
  misuse : Option Misuse := none
  deriving DecidableEq, Repr

namespace Reading

def misused (m : Misuse) : Reading :=
  { events := [], misuse := some m }

def after (events : List Event) (reading : Reading) : Reading :=
  { reading with events := events ++ reading.events }

end Reading

/-! ## Recognising options -/

/-- What is joined to the name of an option. -/
structure Joined where
  /-- An equals sign stands between them. -/
  byEquals : Bool
  text : List Char
  deriving DecidableEq, Repr

/-- What an argument is by its form. -/
inductive Token where
  | operand
  /-- The argument `--`. -/
  | separator
  /-- A name of an option, and what is joined to it. -/
  | option (name : String) (joined : Option Joined)
  | unknown
  deriving DecidableEq, Repr

/-- What an option tells. -/
structure OptionReading where
  events : List Event
  /-- An option that needs its value from the next argument. -/
  pending : Option OptionSpec := none
  /-- What is no option, though it is written behind the dash of one. -/
  extra : List String := []
  deriving DecidableEq, Repr

namespace Grammar

/-- The option with a name. -/
def find? (g : Grammar) (name : String) : Option OptionSpec :=
  g.options.find? (·.names.contains name)

/-- The names of all options. -/
def names (g : Grammar) : List String :=
  g.options.flatMap (·.names)

/-- A negative number is no option. -/
def isNegativeNumber (cs : List Char) : Bool :=
  match cs with
  | '-' :: body =>
    let whole := body.takeWhile Text.isDigit
    match body.drop whole.length with
    | [] => !whole.isEmpty
    | '.' :: fraction => !fraction.isEmpty && fraction.all Text.isDigit
    | _ => false
  | _ => false

/-- The part before `=`, and what is joined to it. -/
def splitValue (cs : List Char) : List Char × Option Joined :=
  let name := cs.takeWhile (· != '=')
  match cs.drop name.length with
  | [] => (name, none)
  | _ :: text => (name, some { byEquals := true, text })

/-- The options that an argument may be a shorter form of. -/
def candidates (g : Grammar) (cs : List Char) : List (String × Option Joined) :=
  match cs with
  | '-' :: '-' :: _ =>
    let (start, joined) := splitValue cs
    (g.names.filter fun name => start.isPrefixOf name.toList).map fun name => (name, joined)
  | _ =>
    g.names.filterMap fun name =>
      if name.toList = cs.take 2 then some (name, some { byEquals := false, text := cs.drop 2 })
      else if cs.isPrefixOf name.toList then some (name, none)
      else none

/-- What an argument is that starts with a dash and has more behind it. -/
def classifyDashed (g : Grammar) (argument : String) : Except Misuse Token :=
  let cs := argument.toList
  let (start, joined) := splitValue cs
  if joined.isSome && g.names.contains (String.ofList start) then
    .ok (.option (String.ofList start) joined)
  else
    match g.candidates cs with
    | [(name, joined)] => .ok (.option name joined)
    | [] => .ok (if isNegativeNumber cs || cs.contains ' ' then .operand else .unknown)
    | several => .error (.ambiguous argument (several.map Prod.fst))

/-- What an argument is by its form. -/
def classify (g : Grammar) (argument : String) : Except Misuse Token :=
  if !"-".toList.isPrefixOf argument.toList then .ok .operand
  else if g.names.contains argument then .ok (.option argument none)
  else if argument = "-" then .ok .operand
  else g.classifyDashed argument

/-- All arguments with their forms. -/
def tokens (g : Grammar) : List String → Except Misuse (List (String × Token))
  | [] => .ok []
  | argument :: rest =>
    if argument = "--" then
      .ok ((argument, .separator) :: rest.map fun argument => (argument, .operand))
    else
      match g.classify argument with
      | .error m => .error m
      | .ok token => (g.tokens rest).map fun rest => (argument, token) :: rest

/-! ## Values of options -/

def isLong (name : String) : Bool :=
  "--".toList.isPrefixOf name.toList

/-- What an option tells together with what is joined to its name. -/
def joinedReading (g : Grammar) (name : String) (byEquals : Bool) :
    List Char → Except Misuse OptionReading
  | [] =>
    match g.find? name with
    | none => .ok { events := [], extra := [name] }
    | some o =>
      if o.takesValue then .ok { events := [.value o.key ""] }
      else .error (.unexpectedValue o.label "")
  | c :: rest =>
    let text := String.ofList (c :: rest)
    match g.find? name with
    | none => .ok { events := [], extra := [name ++ text] }
    | some o =>
      if o.takesValue then .ok { events := [.value o.key text] }
      else if isLong name || byEquals || c == '-' then .error (.unexpectedValue o.label text)
      else
        let next := String.ofList ['-', c]
        match g.find? next with
        | none => .ok { events := [.flag o.key], extra := ["-" ++ text] }
        | some following =>
          let later : Except Misuse OptionReading :=
            match rest with
            | [] =>
              if following.takesValue then .ok { events := [], pending := some following }
              else .ok { events := [.flag following.key] }
            | '=' :: rest => g.joinedReading next true rest
            | c :: rest => g.joinedReading next false (c :: rest)
          later.map fun later => { later with events := .flag o.key :: later.events }

/-- What an option tells. -/
def optionReading (g : Grammar) (name : String) (joined : Option Joined) :
    Except Misuse OptionReading :=
  match joined with
  | some joined => g.joinedReading name joined.byEquals joined.text
  | none =>
    match g.find? name with
    | none => .ok { events := [], extra := [name] }
    | some o =>
      if o.takesValue then .ok { events := [], pending := some o }
      else .ok { events := [.flag o.key] }

/-! ## Reading -/

/-- What has been read of a command line. -/
structure Progress where
  /-- The arguments behind the last option. -/
  group : List String := []
  /-- One of them is an operand. -/
  hasOperand : Bool := false
  /-- No operands have been recognised. -/
  isOpen : Bool := true
  /-- The arguments that were not recognised. -/
  extra : List String := []
  deriving DecidableEq, Repr

/-- Recognises the group of arguments behind the last option as operands, if it can be that. The
first separator is no operand. -/
def close (g : Grammar) (p : Progress) : List Event × Progress :=
  if p.isOpen && p.hasOperand && g.operands == .several then
    ([.operands (p.group.erase "--")], { isOpen := false, extra := p.extra })
  else ([], { isOpen := p.isOpen, extra := p.extra ++ p.group })

/-- The arguments that were not recognised are a misuse. -/
def finish (p : Progress) : Reading :=
  if p.extra.isEmpty then { events := [] } else .misused (.unrecognized p.extra)

/-- Reads arguments from left to right. -/
def readFrom (g : Grammar) (p : Progress) : List (String × Token) → Reading
  | [] =>
    let (events, p) := g.close p
    (finish p).after events
  | (argument, .separator) :: rest =>
    g.readFrom { p with group := p.group ++ [argument] } rest
  | (argument, .operand) :: rest =>
    if g.operands == .command then
      let words := p.group ++ argument :: rest.map Prod.fst
      (finish p).after [.command (words.headD "") (words.drop 1)]
    else g.readFrom { p with group := p.group ++ [argument], hasOperand := true } rest
  | (argument, .unknown) :: rest =>
    let (events, p) := g.close p
    (g.readFrom { p with extra := p.extra ++ [argument] } rest).after events
  | (_, .option name joined) :: rest =>
    let (before, p) := g.close p
    match g.optionReading name joined with
    | .error m => (Reading.misused m).after before
    | .ok found =>
      let p := { p with extra := p.extra ++ found.extra }
      match found.pending, rest with
      | none, rest => (g.readFrom p rest).after (before ++ found.events)
      | some o, (v, .operand) :: rest =>
        (g.readFrom p rest).after (before ++ found.events ++ [.value o.key v])
      | some o, _ => (Reading.misused (.missingValue o.label)).after before

/-- Reads a command line. -/
def read (g : Grammar) (arguments : List String) : Reading :=
  match g.tokens arguments with
  | .error m => .misused m
  | .ok tokens => g.readFrom {} tokens

end Grammar

end Cli
end AccountAudit
