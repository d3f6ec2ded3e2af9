/-
**Reading JSON text.**

The reader takes one character at a time. Its `State` is a stack of the lists and records that are
open, and a `Place` that says what may come next; a text is a document when the last character leaves
no container open and one value finished.

* Blanks are space, tab, line feed and carriage return, between tokens only.
* A numeral ends at the first character that cannot belong to one.
* A string is collected in 16-bit code units, so that escapes of surrogate pairs can be joined.
-/

import HostDashboard.Json.Numeral
import HostDashboard.Text.Escape

namespace HostDashboard.Json.Reader

/-- A list or record that is open, with its contents so far in reverse. -/
inductive Frame where
  /-- A list. -/
  | list (done : List Document)
  /-- A record, with the name whose value comes next. -/
  | record (done : List (Option String × Document)) (name : Option String)

/-- What may come next. -/
inductive Place where
  /-- A value. -/
  | value
  /-- A value, or the end of the list that was just opened. -/
  | firstItem
  /-- A name, or the end of the record that was just opened. -/
  | firstName
  /-- A name. -/
  | name
  /-- The colon after a name. -/
  | colon
  /-- A comma, or the end of the container. -/
  | after
  /-- Blanks after the whole value. -/
  | finished (value : Document)
  /-- The rest of a word that stands for a value. -/
  | word (rest : List Char) (value : Document)
  /-- More of a numeral, read so far in reverse. -/
  | numeral (seen : List Char)
  /-- More of a string or name, its code units so far in reverse. -/
  | string (naming : Bool) (units : List Nat)
  /-- The character after a reverse solidus. -/
  | escape (naming : Bool) (units : List Nat)
  /-- Hexadecimal digits of a code unit: how many are missing, and the value so far. -/
  | unit (naming : Bool) (units : List Nat) (missing value : Nat)

/-- The open containers, innermost first, and what may come next. -/
structure State where
  /-- The open containers. -/
  stack : List Frame
  /-- What may come next. -/
  place : Place

/-- Nothing has been read. -/
def start : State := ⟨[], .value⟩

/-- A blank between tokens. -/
def isSpace (c : Char) : Bool := c = ' ' || c = '\n' || c = '\t' || c = '\r'

/-- A character that can belong to a numeral. -/
def isNumeric (c : Char) : Bool :=
  c.isDigit || c = '-' || c = '+' || c = '.' || c = 'e' || c = 'E'

/-- The character that a one-character escape stands for. -/
def unescape? (c : Char) : Option Char :=
  if c = '"' then some '"'
  else if c = '\\' then some '\\'
  else if c = '/' then some '/'
  else if c = 'b' then some '\x08'
  else if c = 'f' then some '\x0C'
  else if c = 'n' then some '\n'
  else if c = 'r' then some '\r'
  else if c = 't' then some '\t'
  else none

/-- A value ends, inside the innermost open container or as the whole. -/
def close (value : Document) : List Frame → State
  | [] => ⟨[], .finished value⟩
  | .list done :: outer => ⟨.list (value :: done) :: outer, .after⟩
  | .record done name :: outer => ⟨.record ((name, value) :: done) none :: outer, .after⟩

/-- The string of some code units in reverse, if it has one. -/
def stringOf? (units : List Nat) : Option String :=
  (Text.Surrogate.ofUnits units.reverse).map String.ofList

/-- A string ends: it is a value, or the name of the next member. -/
def closeString (naming : Bool) (units : List Nat) (stack : List Frame) : Option State :=
  if naming then
    match stack with
    | .record done _ :: outer => some ⟨.record done (stringOf? units) :: outer, .colon⟩
    | _ => none
  else some (close (.text (stringOf? units)) stack)

/-- The innermost container ends. -/
def closeContainer (c : Char) : List Frame → Option State
  | .list done :: outer => if c = ']' then some (close (.list done.reverse) outer) else none
  | .record done _ :: outer =>
    if c = '\x7d' then some (close (.record done.reverse) outer) else none
  | [] => none

/-- The first character of a value. -/
def openValue (c : Char) (stack : List Frame) : Option State :=
  if c = '\x7b' then some ⟨.record [] none :: stack, .firstName⟩
  else if c = '[' then some ⟨.list [] :: stack, .firstItem⟩
  else if c = '"' then some ⟨stack, .string false []⟩
  else if c = 'n' then some ⟨stack, .word "ull".toList .null⟩
  else if c = 't' then some ⟨stack, .word "rue".toList (.bool true)⟩
  else if c = 'f' then some ⟨stack, .word "alse".toList (.bool false)⟩
  else if c = '-' || c.isDigit then some ⟨stack, .numeral [c]⟩
  else none

/-- A character after a value: a comma, the end of the container, or a blank. -/
def follow (state : State) (c : Char) : Option State :=
  if isSpace c then some state
  else match state.place with
    | .after =>
      if c = ',' then
        match state.stack with
        | .list _ :: _ => some { state with place := .value }
        | .record _ _ :: _ => some { state with place := .name }
        | [] => none
      else closeContainer c state.stack
    | _ => none

/-- A numeral ends. -/
def closeNumeral (seen : List Char) (stack : List Frame) : Option State :=
  (Numeral.parse? seen.reverse).map fun numeral => close (.number numeral.value?) stack

def step (state : State) (c : Char) : Option State :=
  match state.place with
  | .value => if isSpace c then some state else openValue c state.stack
  | .firstItem =>
    if isSpace c then some state
    else if c = ']' then closeContainer c state.stack
    else openValue c state.stack
  | .firstName =>
    if isSpace c then some state
    else if c = '\x7d' then closeContainer c state.stack
    else if c = '"' then some { state with place := .string true [] }
    else none
  | .name =>
    if isSpace c then some state
    else if c = '"' then some { state with place := .string true [] }
    else none
  | .colon =>
    if isSpace c then some state
    else if c = ':' then some { state with place := .value }
    else none
  | .after => follow state c
  | .finished _ => follow state c
  | .word [] _ => none
  | .word [last] value => if c = last then some (close value state.stack) else none
  | .word (next :: rest) value =>
    if c = next then some { state with place := .word rest value } else none
  | .numeral seen =>
    if isNumeric c then some { state with place := .numeral (c :: seen) }
    else (closeNumeral seen state.stack).bind (follow · c)
  | .string naming units =>
    if c = '"' then closeString naming units state.stack
    else if c = '\\' then some { state with place := .escape naming units }
    else if c.toNat < 0x20 then none
    else some { state with place := .string naming (c.toNat :: units) }
  | .escape naming units =>
    if c = 'u' then some { state with place := .unit naming units 4 0 }
    else (unescape? c).map fun plain =>
      { state with place := .string naming (plain.toNat :: units) }
  | .unit naming units missing value =>
    (Text.Hexadecimal.value? c).map fun digit =>
      if missing ≤ 1 then { state with place := .string naming ((value * 16 + digit) :: units) }
      else { state with place := .unit naming units (missing - 1) (value * 16 + digit) }

def run (state : State) : List Char → Option State
  | [] => some state
  | c :: rest => (step state c).bind (run · rest)

/-- The document that was read, if the text may end here. -/
def result? (state : State) : Option Document :=
  match state.place with
  | .finished value => some value
  | .numeral seen =>
    match closeNumeral seen state.stack with
    | some ⟨_, .finished value⟩ => some value
    | _ => none
  | _ => none

end HostDashboard.Json.Reader

namespace HostDashboard

/-- The document that a text is. -/
def Document.read? (source : List Char) : Option Document :=
  (Json.Reader.run Json.Reader.start source).bind Json.Reader.result?

def Document.parse? (source : String) : Option Document := Document.read? source.toList

/-- The value that a string is. -/
def Json.parse? (source : String) : Option Json := (Document.parse? source).bind Document.toJson?

end HostDashboard
