/-
This file holds the values that traced methods pass around, their type names, their
text, and the equality a program sees between them. Numbers are 64 bits wide. A list
is written as its items joined by commas, an object as its class and its identity in
hexadecimal, so the text of a value does not determine the value.
-/
import Intercept.Binary64

namespace Intercept

/-- A value as hooks see it. -/
inductive Value where
  /-- The result of a method that returns nothing. -/
  | void
  | null
  | bool (value : Bool)
  | int (value : Int64)
  | float (value : Binary64)
  | str (text : String)
  | list (items : List Value)
  /-- A reference to an object, by its class and its identity. -/
  | object (className : String) (identity : UInt64)

namespace Value

/-! ### Types -/

/-- The type name that overload matching looks at; an object's is the name of its class. -/
def typeName : Value → String
  | .void => "void"
  | .null => "null"
  | .bool _ => "boolean"
  | .int _ => "int"
  | .float _ => "double"
  | .str _ => "String"
  | .list _ => "List"
  | .object className _ => className

/-- The text of a string value. -/
def text? : Value → Option String
  | .str text => some text
  | _ => none

/-! ### Text -/

mutual

/-- The text of a value. -/
def render : Value → String
  | .void => "void"
  | .null => "null"
  | .bool value => if value then "true" else "false"
  | .int value => Text.signedDecimal value.toInt
  | .float value => value.render
  | .str text => text
  | .list items => String.intercalate "," (renderEach items)
  | .object className identity => className ++ "@" ++ Text.hex identity.toNat

/-- The texts of values, one by one. -/
def renderEach : List Value → List String
  | [] => []
  | value :: rest => render value :: renderEach rest

end

/-- The texts of values with a separator between them. -/
def join (values : List Value) (separator : String) : String :=
  String.intercalate separator (values.map render)

/-! ### Equality -/

mutual

/-- Equality as a program sees it: floats compare as numbers, and an integer equals no
float. -/
def equals : Value → Value → Bool
  | .void, .void => true
  | .null, .null => true
  | .bool left, .bool right => left == right
  | .int left, .int right => left == right
  | .float left, .float right => left.equals right
  | .str left, .str right => left == right
  | .list left, .list right => equalsEach left right
  | .object leftClass left, .object rightClass right => leftClass == rightClass && left == right
  | _, _ => false

/-- Equality of lists, position by position. -/
def equalsEach : List Value → List Value → Bool
  | [], [] => true
  | left :: leftRest, right :: rightRest => equals left right && equalsEach leftRest rightRest
  | _, _ => false

end

end Value

end Intercept
