/-
**The compact text of a JSON value.**

No blanks; the members of a record as they stand; quotation marks, reverse solidi and control
characters escaped and all else written as it is. A double always has a fraction or an exponent, so
it is never mistaken for a whole number.
-/

import HostDashboard.Json.Basic
import HostDashboard.Decimal.Shortest
import HostDashboard.Text.Escape

namespace HostDashboard.Json

/-- The two-character escape of a character that has one. -/
def shortEscape? (c : Char) : Option Char :=
  if c = '"' then some '"'
  else if c = '\\' then some '\\'
  else if c = '\x08' then some 'b'
  else if c = '\x0C' then some 'f'
  else if c = '\n' then some 'n'
  else if c = '\r' then some 'r'
  else if c = '\t' then some 't'
  else none

/-- A character inside a string. -/
def escaped (c : Char) : List Char :=
  match shortEscape? c with
  | some short => ['\\', short]
  | none =>
    if c.toNat < 0x20 then
      ['\\', 'u', '0', '0', Text.Hexadecimal.lower (c.toNat / 16),
       Text.Hexadecimal.lower (c.toNat % 16)]
    else [c]

/-- A string between quotation marks. -/
def quoted (text : List Char) : List Char := '"' :: text.flatMap escaped ++ ['"']

def Number.write : Number → List Char
  | .int i => Decimal.signedDigits i
  | .real x => Decimal.Binary64.Layout.plain.write x

mutual

/-- The text of a value. -/
def write : Json → List Char
  | .null => "null".toList
  | .bool true => "true".toList
  | .bool false => "false".toList
  | .number n => n.write
  | .text s => quoted s.toList
  | .list items => '[' :: writeItems items ++ [']']
  | .record members => '\x7b' :: writeMembers members ++ ['\x7d']

/-- Values with commas between them. -/
def writeItems : List Json → List Char
  | [] => []
  | [item] => item.write
  | item :: rest => item.write ++ ',' :: writeItems rest

/-- Members with commas between them. -/
def writeMembers : List (String × Json) → List Char
  | [] => []
  | [(name, value)] => quoted name.toList ++ ':' :: value.write
  | (name, value) :: rest => quoted name.toList ++ ':' :: value.write ++ ',' :: writeMembers rest

end

def print (value : Json) : String := String.ofList value.write

end HostDashboard.Json
