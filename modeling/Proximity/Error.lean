import Proximity.Field.Layout
import Proximity.Json.Printer

/-!
# Errors

What can go wrong, by its cause. Each cause belongs to a kind, and its message is the kind's label
followed by the details.
-/

namespace Proximity

/-- The kinds of errors. -/
inductive ErrorKind where
  | config
  | invalidInput
  | geocoding
  | serialization
  | internal
deriving DecidableEq, Repr

/-- What the messages of a kind begin with. -/
def ErrorKind.label : ErrorKind → String
  | .config => "Configuration error"
  | .invalidInput => "Invalid input"
  | .geocoding => "Geocoding error"
  | .serialization => "Serialization error"
  | .internal => "Internal error"

/-- The message of an error of a kind with the given details. -/
def ErrorKind.describe (kind : ErrorKind) (details : String) : String :=
  kind.label ++ ": " ++ details

/-- A cause of failure. -/
inductive Error where
  /-- No database goes by the name. -/
  | unknownDriver (name : String)
  /-- The field that is to hold the radius is not on the layout of the address field. -/
  | noRadiusField (handle : String) (addressField : String)
  /-- The field that is to hold the radius holds something else than numbers. -/
  | radiusNotNumber (handle : String) (kind : FieldKind)
  /-- The options are no object. -/
  | optionsNotObject (given : Json)
  /-- The result of a geocoder is no object. -/
  | resultNotObject (given : Json)
  /-- A lookup failed with a message of its own. -/
  | lookupFailed (message : String)
  /-- A text or a value does not have the form that is read. -/
  | malformed (form : String)

/-- The name of the kind of a value. -/
def Json.kindName : Json → String
  | .null => "null"
  | .bool _ => "boolean"
  | .number _ => "number"
  | .string _ => "string"
  | .array _ => "array"
  | .object _ => "object"

namespace Error

/-- The kind that a cause belongs to. -/
def kind : Error → ErrorKind
  | unknownDriver _ | noRadiusField _ _ | radiusNotNumber _ _ => .config
  | optionsNotObject _ => .invalidInput
  | resultNotObject _ | lookupFailed _ => .geocoding
  | malformed _ => .serialization

/-- What is asked for where a radius field cannot be used. -/
def radiusHint : String :=
  "Please specify a Number field for the \x60reverseRadius\x60 option."

/-- The details of a cause. -/
def details : Error → String
  | unknownDriver name => "Unsupported database driver: " ++ name
  | noRadiusField handle addressField =>
    "The \"" ++ handle ++ "\" field does not exist on the layout of \"" ++ addressField ++ "\". " ++
      radiusHint
  | radiusNotNumber handle kind =>
    "The \"" ++ handle ++ "\" field is a " ++ kind.name ++ " field. " ++ radiusHint
  | optionsNotObject given =>
    "proximity search options must be an object, got " ++ given.kindName
  | resultNotObject given => "expected a result object, got " ++ given.compact
  | lookupFailed message => message
  | malformed form => "expected " ++ form

/-- The message of an error. -/
def message (e : Error) : String :=
  e.kind.describe e.details

end Error

end Proximity
