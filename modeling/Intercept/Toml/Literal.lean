/-
This file reads the scalars of a document that are written out: strings in their four
forms, and numbers. A string in three quotes may hold up to two quotes more right before
its end. A number without a fraction and without an exponent is an integer and must fit
into 64 bits; any other one is rounded to the nearest float, which must not be infinite
above.
-/
import Intercept.Toml.Value

namespace Intercept.Toml.Reader

/-! ### Strings on one line -/

/-- The character of a code point written in so many hexadecimal digits. -/
def codePoint (width : Nat) : Reader Char := do
  let number := Text.number 16 (← fixedDigits 16 width)
  if number.isValidChar then return Char.ofNat number else failure

/-- The character that an escape stands for, after the backslash. -/
def escaped : Reader Char := do
  match ← next with
  | 'b' => return '\x08'
  | 't' => return '\t'
  | 'n' => return '\n'
  | 'f' => return '\x0c'
  | 'r' => return '\r'
  | '"' => return '"'
  | '\\' => return '\\'
  | 'u' => codePoint 4
  | 'U' => codePoint 8
  | _ => failure

/-- The rest of a string with escapes, up to its closing quote. -/
def basicRest : Nat → Reader (List Char)
  | 0 => failure
  | fuel + 1 => do
    match ← next with
    | '"' => return []
    | '\\' =>
      let char ← escaped
      return char :: (← basicRest fuel)
    | char => if isPlain char then return char :: (← basicRest fuel) else failure

/-- A string with escapes. -/
def basicString : Reader (List Char) := do
  expect ['"']
  basicRest (← budget)

/-- A string without escapes. -/
def literalString : Reader (List Char) := do
  expect ['\'']
  let text ← takeWhile fun char => isPlain char ∧ char ≠ '\''
  expect ['\'']
  return text

/-! ### Strings on several lines -/

/-- A run of at most five quotes: the quotes that belong to the string, and whether the run
ends it. -/
def quoteRun (quote : Char) : Reader (List Char × Bool) := do
  let rest ← get
  let count := min 5 (rest.takeWhile (· = quote)).length
  set (rest.drop count)
  if count < 3 then return (List.replicate count quote, false)
  else return (List.replicate (count - 3) quote, true)

/-- Takes a backslash at the end of a line, and all white space after it. -/
def lineContinuation : Reader Unit := do
  expect ['\\']
  blanks
  newline
  discard (takeWhile fun char => isBlank char ∨ char = '\n' ∨ char = '\r')

/-- The rest of a string in three quotes, up to its end. -/
def multiLineRest (quote : Char) (escapes : Bool) : Nat → Reader (List Char)
  | 0 => failure
  | fuel + 1 => do
    match ← peek with
    | none => failure
    | some char =>
      if char = quote then
        let (quotes, ended) ← quoteRun quote
        if ended then return quotes
        else return quotes ++ (← multiLineRest quote escapes fuel)
      else if char = '\n' ∨ char = '\r' then
        newline
        return '\n' :: (← multiLineRest quote escapes fuel)
      else if escapes ∧ char = '\\' then
        match ← optional lineContinuation with
        | some _ => multiLineRest quote escapes fuel
        | none =>
          discard next
          let char ← escaped
          return char :: (← multiLineRest quote escapes fuel)
      else if isPlain char then
        discard next
        return char :: (← multiLineRest quote escapes fuel)
      else failure

/-- A string in three quotes. A line end right after the opening quotes is dropped. -/
def multiLineString (quote : Char) (escapes : Bool) : Reader (List Char) := do
  expect [quote, quote, quote]
  discard (optional newline)
  multiLineRest quote escapes (← budget)

/-- A string in any form. -/
def string : Reader (List Char) :=
  multiLineString '"' true <|> basicString <|> multiLineString '\'' false <|> literalString

/-! ### Numbers -/

/-- Takes a sign; the answer says whether it is a minus. -/
def sign : Reader Bool := do
  if ← accept ['-'] then return true
  else
    discard (accept ['+'])
    return false

/-- The digits of a decimal number without superfluous zeros in front. -/
def wholeDigits : Reader (List Char) := do
  if ← accept ['0'] then return ['0'] else groupedDigits 10 (← budget)

/-- An integer, if it fits. -/
def fitting (value : Int) : Reader Value :=
  if Int64.minValue.toInt ≤ value ∧ value ≤ Int64.maxValue.toInt then
    return .integer (Int64.ofInt value)
  else failure

/-- An integer in a base that is announced by a letter. -/
def basedInteger (letter : Char) (base : Nat) : Reader Value := do
  expect ['0', letter]
  fitting (Text.number base (← groupedDigits base (← budget)))

/-- A decimal integer. -/
def decimalInteger : Reader Value := do
  let negative ← sign
  let magnitude : Int := Text.number 10 (← wholeDigits)
  fitting (if negative then -magnitude else magnitude)

/-- An integer. -/
def integer : Reader Value :=
  basedInteger 'x' 16 <|> basedInteger 'o' 8 <|> basedInteger 'b' 2 <|> decimalInteger

/-- The exponent of a decimal number. -/
def exponent : Reader Int := do
  discard (satisfying fun char => char = 'e' ∨ char = 'E')
  let negative ← sign
  let magnitude : Int := Text.number 10 (← groupedDigits 10 (← budget))
  return if negative then -magnitude else magnitude

/-- The digits after the point of a decimal number. -/
def fractionDigits : Reader (List Char) := do
  expect ['.']
  groupedDigits 10 (← budget)

/-- A number with a fraction, an exponent or both. -/
def decimalFloat : Reader Value := do
  let negative ← sign
  let whole ← wholeDigits
  let fraction ← optional fractionDigits
  let power ← if fraction.isSome then optional exponent else some <$> exponent
  let places := fraction.getD []
  let magnitude := Binary64.ofDecimal (Text.number 10 (whole ++ places))
    (power.getD 0 - (places.length : Int))
  if negative then return .float magnitude.negate
  else if magnitude.isInfinite then failure
  else return .float magnitude

/-- Infinity, or the pattern that is no number. -/
def specialFloat : Reader Value := do
  let negative ← sign
  let magnitude ← (do expect ['i', 'n', 'f']; return Binary64.infinity) <|>
    (do expect ['n', 'a', 'n']; return Binary64.notANumber)
  return .float (if negative then magnitude.negate else magnitude)

/-- A number, or a date and time. -/
def number : Reader Value :=
  (Value.dateTime <$> dateTime .document) <|> decimalFloat <|> specialFloat <|> integer

end Intercept.Toml.Reader
