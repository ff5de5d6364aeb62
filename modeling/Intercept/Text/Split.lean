/-
This file cuts text at separators: at every one, or at the last one only.
-/

namespace Intercept.Text

/-- Cuts text at every occurrence of a separator. -/
def cut (separator : Char) : List Char → List (List Char)
  | [] => [[]]
  | char :: rest =>
    if char = separator then [] :: cut separator rest
    else
      match cut separator rest with
      | [] => [[char]]
      | first :: others => (char :: first) :: others

theorem cut_ne_nil (separator : Char) (text : List Char) : cut separator text ≠ [] := by
  fun_cases cut separator text <;> exact List.cons_ne_nil _ _

/-- A separator is the end of a part. -/
theorem cut_append_cons (separator : Char) (before after : List Char) :
    cut separator (before ++ separator :: after) = cut separator before ++ cut separator after := by
  fun_induction cut separator before with
  | case1 => exact if_pos rfl
  | case2 _ inductionHypothesis =>
    rw [List.cons_append, cut, if_pos rfl, inductionHypothesis, List.cons_append]
  | case3 _ rest _ empty => exact absurd empty (cut_ne_nil separator rest)
  | case4 char rest other first others cuts inductionHypothesis =>
    rw [List.cons_append, cut, if_neg other, inductionHypothesis, cuts]
    rfl

/-- A text without a separator is one part. -/
theorem cut_of_not_mem {separator : Char} {text : List Char} (absent : separator ∉ text) :
    cut separator text = [text] := by
  induction text with
  | nil => rfl
  | cons char rest inductionHypothesis =>
    rw [List.mem_cons, not_or] at absent
    rw [cut, if_neg (Ne.symm absent.1), inductionHypothesis absent.2]

/-- Splits text at the last occurrence of a separator: what stands before it and what
stands after it. -/
def splitLast? (separator : Char) : List Char → Option (List Char × List Char)
  | [] => none
  | head :: tail =>
    match splitLast? separator tail with
    | some (before, after) => some (head :: before, after)
    | none => if head = separator then some ([], tail) else none

end Intercept.Text
