/-! What is wrong with a field of a configuration or of a result. -/

namespace GuardedSql.Config

inductive ProblemKind where
  | missing
  | notProduct
  | notText
  | notUnicode
  | tooShort (least : Nat)
  | tooLong (most : Nat)
  | notInteger
  | unreadableInteger
  | overlongInteger
  | fractional
  | notFinite
  | tooSmall (least : Int)
  | tooLarge (most : Int)
  | unreadableBool
  | required (field product : String)
  deriving DecidableEq, Repr

namespace ProblemKind

def code : ProblemKind → String
  | .missing => "missing"
  | .notProduct => "enum"
  | .notText => "string_type"
  | .notUnicode => "string_unicode"
  | .tooShort _ => "string_too_short"
  | .tooLong _ => "string_too_long"
  | .notInteger => "int_type"
  | .unreadableInteger => "int_parsing"
  | .overlongInteger => "int_parsing_size"
  | .fractional => "int_from_float"
  | .notFinite => "finite_number"
  | .tooSmall _ => "greater_than_equal"
  | .tooLarge _ => "less_than_equal"
  | .unreadableBool => "bool_parsing"
  | .required .. => "value_error"

def characters (n : Nat) : String :=
  toString n ++ (if n == 1 then " character" else " characters")

def message : ProblemKind → String
  | .missing => "Field required"
  | .notProduct => "Input should be 'sqlite', 'mysql' or 'postgres'"
  | .notText => "Input should be a valid string"
  | .notUnicode =>
    "Input should be a valid string, unable to parse raw data as a unicode string"
  | .tooShort least => "String should have at least " ++ characters least
  | .tooLong most => "String should have at most " ++ characters most
  | .notInteger => "Input should be a valid integer"
  | .unreadableInteger => "Input should be a valid integer, unable to parse string as an integer"
  | .overlongInteger => "Unable to parse input string as an integer, exceeded maximum size"
  | .fractional => "Input should be a valid integer, got a number with a fractional part"
  | .notFinite => "Input should be a finite number"
  | .tooSmall least => "Input should be greater than or equal to " ++ toString least
  | .tooLarge most => "Input should be less than or equal to " ++ toString most
  | .unreadableBool => "Input should be a valid boolean, unable to interpret input"
  | .required field product =>
    "Value error, " ++ field ++ " is required for " ++ product ++ " datasources"

end ProblemKind

/-- A problem and the field it lies in; one of the whole has no field. -/
structure Problem where
  field : Option String
  kind : ProblemKind
  deriving DecidableEq, Repr

end GuardedSql.Config
