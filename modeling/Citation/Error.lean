import Citation.Location

/-! What can go wrong between a bibliography source and its formatted form. -/
namespace Citation

inductive Error
  /-- No item can be read at `location`; `kind` is the name found behind the `@`. -/
  | malformed (location : Location) (kind excerpt : List Char)
  /-- A field still refers to the macro `name`. -/
  | undefinedMacro (key field name : List Char)
  | missingField (key type field : List Char)
  | unsupportedType (key type : List Char)
  | noSuchStyle (name : List Char)
  | noSuchNameStyle (name : List Char)
  | noSuchFormat (name : List Char)
  /-- The text of the style options is not understood. -/
  | badOptions
  deriving DecidableEq

namespace Error

def malformedDetail (kind : List Char) : List Char :=
  "Failed to parse @".toList ++ kind ++ " block".toList

def quote (s : List Char) : List Char := '\'' :: s ++ ['\'']

def message : Error → List Char
  | .malformed l kind _ =>
      "Parse error at line ".toList ++ decimal l.line ++ ", column ".toList ++ decimal l.column
        ++ ": ".toList ++ malformedDetail kind
  | .undefinedMacro key field name =>
      "Undefined string variable ".toList ++ quote name ++ " in field ".toList ++ quote field
        ++ " of entry ".toList ++ quote key
  | .missingField key type field =>
      "Missing required field ".toList ++ quote field ++ " in ".toList ++ type
        ++ " entry ".toList ++ quote key
  | .unsupportedType key type =>
      "Unsupported entry type ".toList ++ quote type ++ " for entry ".toList ++ quote key
  | .noSuchStyle name => "Unknown formatting style ".toList ++ quote name
  | .noSuchNameStyle name => "Unknown name style ".toList ++ quote name
  | .noSuchFormat name => "Unknown output format ".toList ++ quote name
  | .badOptions => "Invalid style options".toList

/-- Whether all that is wrong is a field without text. An optional part of a citation swallows
these errors and no others. -/
def isLack : Error → Bool
  | .undefinedMacro .. => true
  | .missingField .. => true
  | _ => false

end Error
end Citation
