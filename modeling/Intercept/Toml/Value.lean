/-
This file holds the values of a document: scalars, arrays, and tables, which keep their
keys in the order in which they were written.
-/
import Intercept.Binary64
import Intercept.Toml.DateTime

namespace Intercept.Toml

/-- A value of a document. -/
inductive Value where
  | string (text : String)
  | integer (value : Int64)
  | float (value : Binary64)
  | boolean (value : Bool)
  | dateTime (value : DateTime)
  | array (items : List Value)
  | table (entries : List (String × Value))

namespace Value

/-- The name of a value's type. -/
def typeName : Value → String
  | .string _ => "string"
  | .integer _ => "integer"
  | .float _ => "float"
  | .boolean _ => "boolean"
  | .dateTime _ => "datetime"
  | .array _ => "array"
  | .table _ => "table"

end Value

end Intercept.Toml
