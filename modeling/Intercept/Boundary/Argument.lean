/-
This file holds the arguments of a native call as a probe sees them: null pointers, plain
words, and pointers to bytes that a zero byte ends. A probe decodes one of them as text.
-/
import Intercept.Text.Utf8

namespace Intercept.Boundary

/-- An argument of a native call. -/
inductive Argument where
  | null
  /-- A number that points to nothing readable. -/
  | word (value : Int64)
  /-- A pointer to bytes; what follows the first zero byte is not seen. -/
  | bytes (content : List UInt8)

/-- The text that an argument points to, faults in it replaced. -/
def Argument.text? : Argument → Option String
  | .null => none
  | .word _ => none
  | .bytes content => some (Text.Utf8.decodeLossy (content.takeWhile (· ≠ 0)))

/-- The text that the argument at an index points to; none for a null pointer and past the
end. -/
def textAt? (arguments : List Argument) (index : Nat) : Option String :=
  arguments[index]?.bind Argument.text?

end Intercept.Boundary
