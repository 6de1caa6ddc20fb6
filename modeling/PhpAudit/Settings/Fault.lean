import PhpAudit.Text.Search

/-!
Faults of settings: what is wrong with a value and where it stands. A report counts the faults and
lists them in the order they were found.
-/

namespace PhpAudit

inductive FaultKind where
  | notInteger
  | integerUnreadable
  | integerFractional
  | numberInfinite
  | integerTooLarge
  | notNumber
  | numberUnreadable
  | notText
  | textMalformed
  | notTruth
  | truthUnreadable
  | notList
  | notMapping
  | notModel (model : String)
  | unexpectedKey
  | notAbove (bound : Int)
  | below (bound : Int)
  | above (bound : Int)
  /-- A named constant passed for an integer and could not be compared with a bound. -/
  | unordered
  deriving DecidableEq, Repr

namespace FaultKind

def code : FaultKind → String
  | .notInteger => "int_type"
  | .integerUnreadable => "int_parsing"
  | .integerFractional => "int_from_float"
  | .numberInfinite => "finite_number"
  | .integerTooLarge => "int_parsing_size"
  | .notNumber => "float_type"
  | .numberUnreadable => "float_parsing"
  | .notText => "string_type"
  | .textMalformed => "string_unicode"
  | .notTruth => "bool_type"
  | .truthUnreadable => "bool_parsing"
  | .notList => "list_type"
  | .notMapping => "dict_type"
  | .notModel _ => "model_type"
  | .unexpectedKey => "extra_forbidden"
  | .notAbove _ => "greater_than"
  | .below _ => "greater_than_equal"
  | .above _ => "less_than_equal"
  | .unordered => "type_error"

def message : FaultKind → String
  | .notInteger => "Input should be a valid integer"
  | .integerUnreadable => "Input should be a valid integer, unable to parse string as an integer"
  | .integerFractional => "Input should be a valid integer, got a number with a fractional part"
  | .numberInfinite => "Input should be a finite number"
  | .integerTooLarge => "Unable to parse input string as an integer, exceeded maximum size"
  | .notNumber => "Input should be a valid number"
  | .numberUnreadable => "Input should be a valid number, unable to parse string as a number"
  | .notText => "Input should be a valid string"
  | .textMalformed => "Input should be a valid string, unable to parse raw data as a unicode string"
  | .notTruth => "Input should be a valid boolean"
  | .truthUnreadable => "Input should be a valid boolean, unable to interpret input"
  | .notList => "Input should be a valid list"
  | .notMapping => "Input should be a valid dictionary"
  | .notModel model => "Input should be a valid dictionary or instance of " ++ model
  | .unexpectedKey => "Extra inputs are not permitted"
  | .notAbove bound => "Input should be greater than " ++ toString bound
  | .below bound => "Input should be greater than or equal to " ++ toString bound
  | .above bound => "Input should be less than or equal to " ++ toString bound
  | .unordered => "Expected int, got <class 'str'>"

end FaultKind

/-- A step into a value. -/
inductive Place where
  | key (name : String)
  | index (n : Nat)
  deriving DecidableEq, Repr

/-- Keys that hold a full stop are set apart by grave accents. -/
def Place.text : Place → String
  | .key name => if Text.contains name "." then "`" ++ name ++ "`" else name
  | .index n => toString n

structure Fault where
  place : List Place
  kind : FaultKind
  deriving DecidableEq, Repr

namespace Fault

def under (step : Place) (f : Fault) : Fault := { f with place := step :: f.place }

def text (f : Fault) : String :=
  (if f.place.isEmpty then "" else String.intercalate "." (f.place.map Place.text) ++ "\n") ++
    "  " ++ f.kind.message ++ " [type=" ++ f.kind.code ++ "]"

/-- The report on all faults of a value that was to be a `title`. -/
def report (title : String) (faults : List Fault) : String :=
  toString faults.length ++ " validation error" ++ (if faults.length = 1 then "" else "s") ++
    " for " ++ title ++ "\n" ++ String.intercalate "\n" (faults.map text)

end Fault

end PhpAudit
