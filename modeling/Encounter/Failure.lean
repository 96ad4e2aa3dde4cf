import Encounter.Fault

namespace Encounter

inductive ProblemKind
  | missing
  | stringType
  | stringTooShort
  | stringUnicode
  | intType
  | intParsing
  | intParsingSize
  | intFromFloat
  | finiteNumber
  | greaterThanEqual
  | boolType
  | boolParsing
  | datetimeType
  | datetimeParsing
  | datetimeFromDateParsing
  | listType
  | dictType
  | modelType
  | literalError
  | enum
  | extraForbidden
  | noSuchAttribute
  deriving DecidableEq, Repr

def ProblemKind.code : ProblemKind → String
  | missing => "missing"
  | stringType => "string_type"
  | stringTooShort => "string_too_short"
  | stringUnicode => "string_unicode"
  | intType => "int_type"
  | intParsing => "int_parsing"
  | intParsingSize => "int_parsing_size"
  | intFromFloat => "int_from_float"
  | finiteNumber => "finite_number"
  | greaterThanEqual => "greater_than_equal"
  | boolType => "bool_type"
  | boolParsing => "bool_parsing"
  | datetimeType => "datetime_type"
  | datetimeParsing => "datetime_parsing"
  | datetimeFromDateParsing => "datetime_from_date_parsing"
  | listType => "list_type"
  | dictType => "dict_type"
  | modelType => "model_type"
  | literalError => "literal_error"
  | enum => "enum"
  | extraForbidden => "extra_forbidden"
  | noSuchAttribute => "no_such_attribute"

/-- A rejected part of a value, found by a path of field names and positions. -/
structure Problem where
  path : List String
  kind : ProblemKind
  deriving DecidableEq, Repr

def Problem.text (p : Problem) : String := ".".intercalate p.path ++ ":" ++ p.kind.code

def Problem.under (key : String) (p : Problem) : Problem := { p with path := key :: p.path }

def Problem.listing (ps : List Problem) : String := "; ".intercalate (ps.map Problem.text)

inductive Failure
  | fault (f : Fault)
  | rejected (problems : List Problem)
  | numeral (flaw : Numeral.Flaw)
  | host (text : String)
  | scriptEnded (formula : String)
  | pastEnd
  | unknownKey (key : String)
  | unknownName (name : String)
  | readOnly (field : String)
  | absent (what : String)
  | unexpectedArgument (name : String)
  | wrongType (what : String)
  | tooLargeForFloat
  | unusableVariable (name : String)
  | unreadableVariable (field : String)

namespace Failure

def typeName : Failure → String
  | fault f => f.kind.name
  | rejected _ => "ValidationError"
  | numeral _ => "ValueError"
  | host _ => "RuntimeError"
  | scriptEnded _ => "AssertionError"
  | pastEnd => "IndexError"
  | unknownKey _ => "KeyError"
  | unknownName _ => "ValueError"
  | readOnly _ => "AttributeError"
  | absent _ => "AttributeError"
  | unexpectedArgument _ => "TypeError"
  | wrongType _ => "TypeError"
  | tooLargeForFloat => "OverflowError"
  | unusableVariable name => if name.isEmpty then "OSError" else "ValueError"
  | unreadableVariable _ => "SettingsError"

def text : Failure → String
  | fault f => f.text
  | rejected ps => "<schema " ++ Problem.listing ps ++ ">"
  | numeral flaw => flaw.message
  | host t => t
  | scriptEnded formula => "No scripted outcome left for " ++ formula
  | pastEnd => "list index out of range"
  | unknownKey k => Text.quoted k
  | unknownName n => Text.quoted n ++ " is not a known name"
  | readOnly _ => "can't set attribute"
  | absent what => "no " ++ what ++ " is given"
  | unexpectedArgument n => "got an unexpected keyword argument " ++ Text.quoted n
  | wrongType what => what ++ " is of the wrong type"
  | tooLargeForFloat => "int too large to convert to float"
  | unusableVariable name => Text.quoted name ++ " cannot be a variable of the environment"
  | unreadableVariable f =>
    "error parsing value for field \"" ++ f ++ "\" from source \"EnvSettingsSource\""

/-- What a failure says of itself, without the details of a fault. -/
def reason : Failure → String
  | fault f => f.message
  | other => other.text

end Failure

abbrev Result (α : Type) := Except Failure α

def Result.ofNumeral {α : Type} : Except Numeral.Flaw α → Result α
  | .ok a => .ok a
  | .error flaw => .error (.numeral flaw)

end Encounter
