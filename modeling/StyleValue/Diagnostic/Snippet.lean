import StyleValue.Decimal.Basic
import StyleValue.Terminal.Style

/-!
# Source snippets

A snippet is a window of numbered lines around an offending one, with a caret under a column of it.
It is shown between two empty gutters; the offending line is marked, and the caret stands below the
last line.
-/

namespace StyleValue

/-- Numbered lines around an offending one. -/
structure Snippet where
  lines : List (Int × String)
  errorLine : Int
  /-- The column of the caret, counted from zero. -/
  column : Option Int

namespace Snippet

/-- A number with blanks before it, three characters wide unless it needs more. -/
def lineNumber (n : Int) : String :=
  let digits := (Decimal.ofInt n).plain
  String.ofList (List.replicate (3 - digits.length) ' ') ++ digits

/-- A numbered line; the offending one is marked. -/
def numberedLine (colors : Bool) (n : Int) (content : String) (isError : Bool) : String :=
  let number :=
    Terminal.paint colors [.yellow] ((if isError then ">" else " ") ++ lineNumber n)
  let body :=
    if isError then Terminal.paint colors [.brightRed] content else Terminal.dimText colors content
  number ++ " | " ++ body

/-- The margin of a line without a number. -/
def gutter (colors : Bool) : String := Terminal.dimText colors "   |"

/-- The line with the caret. -/
def caretLine (colors : Bool) (column : Int) : String :=
  gutter colors ++ "   " ++ String.ofList (List.replicate column.toNat ' ')
    ++ Terminal.paint colors [.brightRed] "^"

/-- The lines that show a snippet. -/
def rows (colors : Bool) (snippet : Snippet) : List String :=
  gutter colors
    :: (snippet.lines.map fun (n, content) =>
        numberedLine colors n content (n = snippet.errorLine))
      ++ (snippet.column.map (caretLine colors)).toList
      ++ [gutter colors]

/-- The snippet as text. -/
def format (colors : Bool) (snippet : Snippet) : String :=
  String.intercalate "\n" (snippet.rows colors)

end Snippet

end StyleValue
