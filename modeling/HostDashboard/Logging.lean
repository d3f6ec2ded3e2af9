/-
**Log levels and log lines.**

A level is read from its name, whatever the case and the blanks around it; any other text is `info`.
A line is written when its level is no finer than the one asked for.
-/

import HostDashboard.Text.Pieces

namespace HostDashboard

/-- How much is logged. -/
inductive LogLevel where
  | off
  | error
  | warn
  | info
  | debug
  | trace
  deriving DecidableEq, Repr

namespace LogLevel

def name : LogLevel → String
  | off => "OFF"
  | error => "ERROR"
  | warn => "WARN"
  | info => "INFO"
  | debug => "DEBUG"
  | trace => "TRACE"

/-- The levels by their names in small letters; one has two. -/
def byName : List (List Char × LogLevel) :=
  [("trace".toList, trace), ("debug".toList, debug), ("info".toList, info), ("warn".toList, warn),
   ("warning".toList, warn), ("error".toList, error), ("off".toList, off)]

/-- The level that a text names. Every level name is ASCII, and no other character becomes ASCII in
small letters that occur in one. -/
def ofText (text : String) : LogLevel :=
  (byName.lookup ((Text.trim text.toList).map Char.toLower)).getD info

/-- How fine a level is. -/
def fineness : LogLevel → Nat
  | off => 0
  | error => 1
  | warn => 2
  | info => 3
  | debug => 4
  | trace => 5

/-- A line of one level is written when another is asked for. -/
def isWritten (line asked : LogLevel) : Bool := line.fineness ≤ asked.fineness

end LogLevel

structure LogLine where
  level : LogLevel
  /-- The part of the program that writes it. -/
  target : String
  message : String
  deriving DecidableEq, Repr

def LogLine.text (line : LogLine) : String := s!"[{line.level.name}] {line.target} - {line.message}"

end HostDashboard
