import StyleValue.Diagnostic.Cut
import StyleValue.Operator.Error

/-!
# Diagnostics

A diagnostic reports a mistake in a style sheet: what is wrong, where, in which operation, and a
code to search for, as far as they are known.  `Diagnostic.text` says it in a line or two;
`Diagnostic.compact` shows it for a terminal, with the offending line when the source is at hand.
-/

namespace StyleValue

/-- A report of a mistake in a style sheet. -/
structure Diagnostic where
  message : String
  loc : Option Location
  operation : Option Operation
  code : Option ErrorCode

/-- The report of a mistake found in an operation. -/
def OperationError.diagnostic (e : OperationError) : Diagnostic :=
  ⟨e.message, e.loc, some e.operation, some e.code⟩

namespace Diagnostic

/-- The report of a mistake that is not one of an operation. -/
def plain (message : String) (loc : Option Location) : Diagnostic := ⟨message, loc, none, none⟩

/-- The report of a mistake in an operation that has no code, at the location of the node to
blame. -/
def blaming (message symbol : String) (left right blamed : Node) : Diagnostic :=
  ⟨message, blamed.loc, some (.of symbol left right), none⟩

/-- What is put before a location. -/
def arrow : String := "  --> "

/-- The message, followed by the location if it is known. -/
def text (d : Diagnostic) : String :=
  match d.loc with
  | none => d.message
  | some loc => d.message ++ "\n" ++ arrow ++ loc.text

/-- The code and the message. -/
def header (colors : Bool) (d : Diagnostic) : String :=
  match d.code with
  | none => d.message
  | some code => Terminal.errorCode colors code.text ++ ": " ++ d.message

/-- The snippet around a location, one line to either side, if the source has a line there or
beside it. -/
def snippet? (source : Option String) (loc : Location) : Option Snippet :=
  match source with
  | none => none
  | some text =>
      let snippet := Snippet.ofSource text loc.line 1 (some loc.column)
      if snippet.lines.isEmpty then none else some snippet

/-- Where the mistake is, and the source around it. -/
def place (colors : Bool) (source : Option String) (d : Diagnostic) : List String :=
  match d.loc with
  | none => []
  | some loc =>
      (arrow ++ Terminal.locationText colors loc.text)
        :: ((snippet? source loc).map (Snippet.format colors)).toList

/-- Where the mistake is explained. -/
def documentation (colors : Bool) (d : Diagnostic) : List String :=
  match d.code with
  | none => []
  | some code =>
      ["  " ++ Terminal.dimText colors "Docs:" ++ " "
        ++ Terminal.documentationLink colors code.documentation]

/-- The diagnostic as shown on a terminal. -/
def compact (colors : Bool) (source : Option String) (d : Diagnostic) : String :=
  String.intercalate "\n"
    (d.header colors :: d.place colors source ++ d.documentation colors)

end Diagnostic

end StyleValue
