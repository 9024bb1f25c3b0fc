import AccountAudit.Value.Yaml.Document

/-!
# Formats of documents

A document is written in JSON or in YAML. Which of the two is told by the ending of its file's name.
-/

namespace AccountAudit
namespace Document

inductive Format where
  | json
  | yaml
  deriving DecidableEq, Repr

/-- The endings of documents, with their formats. -/
def suffixes : List (String × Format) :=
  [(".json", .json), (".yaml", .yaml), (".yml", .yaml)]

/-- The format that an ending stands for. -/
def Format.ofSuffix? (suffix : String) : Option Format :=
  suffixes.lookup suffix

/-- Why a text is no document. -/
inductive DecodingFailure where
  | malformed (message : String)
  | integer (failure : IntegerFailure)
  deriving DecidableEq, Repr

/-- What is said of a text that is not YAML. -/
def yamlMessage : String :=
  "<yaml error>"

/-- The value that a text writes in a format. -/
def decode (format : Format) (text : List Char) : Except DecodingFailure Value :=
  match format with
  | .json =>
    match Json.parse text with
    | .ok v => .ok v
    | .error f =>
      match f.cause with
      | .integerTooLong excess => .error (.integer (.tooLong excess))
      | _ => .error (.malformed (f.message text))
  | .yaml =>
    match Yaml.parse text with
    | .ok v => .ok v
    | .error .invalid => .error (.malformed yamlMessage)
    | .error (.integer failure) => .error (.integer failure)

end Document
end AccountAudit
