/-
**What is typed into the search box.**

A text of the form `field: value` becomes one clause of the filter. The field is one or more runs of
word characters with single dots between them; blanks around the colon and at both ends do not count;
the value begins at the first character after the first colon that is no blank, holds no line feed,
and keeps every later colon. Any other text is no clause.
-/

import HostDashboard.Json.Printer
import HostDashboard.Text.Pieces
import HostDashboard.Text.Word

namespace HostDashboard

/-- A field and the value that it must have. -/
structure FieldQuery where
  field : String
  value : String
  deriving DecidableEq, Repr

namespace FieldQuery

/-- A character of a field: a word character or a dot. -/
def isFieldChar (c : Char) : Bool := Text.isWord c || c = '.'

/-- Runs of word characters with single dots between them. -/
def isField (source : List Char) : Bool := (Text.pieces '.' source).all fun run => !run.isEmpty

/-- The field and the value of a text. -/
def split? (source : List Char) : Option (List Char × List Char) :=
  let start := Text.trimStart source
  let field := start.takeWhile isFieldChar
  match Text.trimStart (start.dropWhile isFieldChar) with
  | ':' :: rest =>
    let value := Text.trim rest
    if isField field && !value.isEmpty && !value.contains '\n' then some (field, value) else none
  | _ => none

/-- The clause of a text. -/
def parse? (source : String) : Option FieldQuery :=
  (split? source.toList).map fun (field, value) => ⟨String.ofList field, String.ofList value⟩

/-- The clause as a filter fragment. -/
def fragment (query : FieldQuery) : String :=
  (Json.record [(query.field, .text query.value)]).print

end FieldQuery

end HostDashboard
