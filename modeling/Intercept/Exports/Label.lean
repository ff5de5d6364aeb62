/-
This file finds the file name of a path and makes the short label of a module from it.
The file name is the last component, components that are empty or a single dot apart; a
path that ends in two dots has none. The label is the file name up to its first dot, or
all of it when it starts with one.
-/
import Intercept.Text.Split

namespace Intercept.Exports

/-- The file name of a path, if it has one. -/
def fileName? (path : List Char) : Option (List Char) :=
  match (Text.cut '/' path).reverse.dropWhile fun part => part == [] || part == ['.'] with
  | [] => none
  | ['.', '.'] :: _ => none
  | name :: _ => some name

/-- The label of a path: of its file name, or of all of it if it has none. An empty path
stands for any module. -/
def label (path : List Char) : List Char :=
  if path.isEmpty then ['*']
  else
    let name := (fileName? path).getD path
    let stem := name.takeWhile (· ≠ '.')
    if stem.isEmpty then name else stem

/-- The label of a module, as attach lines show it. -/
def labelText (path : String) : String :=
  String.ofList (label path.toList)

end Intercept.Exports
