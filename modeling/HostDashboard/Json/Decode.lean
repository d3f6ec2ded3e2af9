/-
**Taking typed values out of a document.**

A decoder gives `none` where the document has another shape. Members are found by name whatever
their order; a record may also be given as the list of its values in the declared order, of which
trailing ones may be missing. Unknown members are passed over without a look at them, and a known
name that stands twice is refused.
-/

import HostDashboard.Json.Reader

namespace HostDashboard.Document

variable {α : Type}

def asText? : Document → Option String
  | .text s => s
  | _ => none

/-- A truth value. -/
def asBool? : Document → Option Bool
  | .bool b => some b
  | _ => none

/-- A whole number. -/
def asInt? : Document → Option Int
  | .number (some (.int i)) => some i
  | _ => none

/-- A natural number below `2 ^ bits`. -/
def asNat? (bits : Nat) (document : Document) : Option Nat :=
  match document.asInt? with
  | some (.ofNat n) => if n < Nat.pow 2 bits then some n else none
  | _ => none

/-- A whole number in `-2^63 … 2^63 - 1`. -/
def asSigned? (document : Document) : Option Int :=
  document.asInt?.filter fun i => -(Nat.pow 2 63 : Int) ≤ i ∧ i < (Nat.pow 2 63 : Int)

/-- A double; a whole number is taken as the nearest one. -/
def asReal? : Document → Option Decimal.Binary64
  | .number (some (.real x)) => some x
  | .number (some (.int i)) => some (.ofInt i)
  | _ => none

/-- A list of values that one decoder takes. -/
def asList? (item? : Document → Option α) : Document → Option (List α)
  | .list items => items.mapM item?
  | _ => none

/-- A value, or null for none. -/
def orNull? (value? : Document → Option α) : Document → Option (Option α)
  | .null => some none
  | document => (value? document).map some

/-- A value, or null for a given one. -/
def orDefault? (default : α) (value? : Document → Option α) (document : Document) : Option α :=
  (document.orNull? value?).map (·.getD default)

/-- A record with any names; the last value of a repeated name wins. -/
def asDictionary? (value? : Document → Option α) : Document → Option (Dictionary α)
  | .record members =>
    (members.mapM fun (member : Option String × Document) => do
      let name ← member.1
      let value ← value? member.2
      return (name, value)).map Dictionary.ofList
  | _ => none

/-- The known members among some members: every name must be readable, and no known one may stand
twice. -/
def knownMembers? (names : List String) :
    List (Option String × Document) → Option (List (String × Document))
  | [] => some []
  | (name, value) :: rest => do
    let name ← name
    let others ← knownMembers? names rest
    if names.contains name then
      if (others.lookup name).isSome then none else some ((name, value) :: others)
    else some others

/-- The known members of a record, or of the list of its values in the order of the names. -/
def fields? (names : List String) : Document → Option (List (String × Document))
  | .record members => knownMembers? names members
  | .list items => if items.length ≤ names.length then some (names.zip items) else none
  | _ => none

/-- A member that must be there. -/
def required? (fields : List (String × Document)) (name : String)
    (value? : Document → Option α) : Option α :=
  (fields.lookup name).bind value?

/-- A member that has a given value when it is missing. -/
def optional? (fields : List (String × Document)) (name : String) (default : α)
    (value? : Document → Option α) : Option α :=
  match fields.lookup name with
  | none => some default
  | some document => value? document

end HostDashboard.Document
