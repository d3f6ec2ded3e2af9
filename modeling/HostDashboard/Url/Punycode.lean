/-
**Punycode: labels of domain names in ASCII.**

A label is written as its ASCII characters, a hyphen if there are any, and then digits in base 36 that
tell where the other characters go: in order of their code points, each as a difference from the one
before. The thresholds of the digits adapt to the size of the differences.

Both directions are total: the encoder runs through the sorted code points, the decoder through the
digits.
-/

namespace HostDashboard.Url.Punycode

/-- The digit of a number below 36. -/
def digit (n : Nat) : Char := Char.ofNat (if n < 26 then 'a'.toNat + n else '0'.toNat + (n - 26))

def digitValue? (c : Char) : Option Nat :=
  if 'a' ≤ c ∧ c ≤ 'z' then some (c.toNat - 'a'.toNat)
  else if 'A' ≤ c ∧ c ≤ 'Z' then some (c.toNat - 'A'.toNat)
  else if '0' ≤ c ∧ c ≤ '9' then some (c.toNat - '0'.toNat + 26)
  else none

/-- The threshold of the digit at a weight position, under a bias. -/
def threshold (position bias : Nat) : Nat :=
  if position ≤ bias then 1 else if bias + 26 ≤ position then 26 else position - bias

/-- Divides a difference down until it is small, and counts the steps by 36. -/
def scaleDown : Nat → Nat → Nat → Nat × Nat
  | 0, delta, count => (delta, count)
  | steps + 1, delta, count =>
    if 455 < delta then scaleDown steps (delta / 35) (count + 36) else (delta, count)

/-- The bias after a difference was written. -/
def adapt (delta written : Nat) (first : Bool) : Nat :=
  let halved := if first then delta / 700 else delta / 2
  let (small, count) := scaleDown 32 (halved + halved / written) 0
  count + 36 * small / (small + 38)

/-- The digits of a difference. -/
def writeDelta (bias : Nat) : Nat → Nat → Nat → List Char
  | 0, _, _ => []
  | steps + 1, position, delta =>
    let t := threshold position bias
    if delta < t then [digit delta]
    else digit (t + (delta - t) % (36 - t)) ::
      writeDelta bias steps (position + 36) ((delta - t) / (36 - t))

/-- The output of the encoder so far, the difference that is due, the bias, and how many characters
have been written. -/
structure Writing where
  output : List Char
  delta : Nat
  bias : Nat
  written : Nat

/-- Passes a character of the label while the code point `current` is being written. -/
def Writing.pass (basic current : Nat) (state : Writing) (c : Char) : Writing :=
  if c.toNat < current then { state with delta := state.delta + 1 }
  else if c.toNat = current then
    { output := state.output ++ writeDelta state.bias 64 36 state.delta
      delta := 0
      bias := adapt state.delta (state.written + 1) (state.written == basic)
      written := state.written + 1 }
  else state

/-- Writes the code points from the least one on. -/
def Writing.run (label : List Char) (basic : Nat) : Nat → List Nat → Writing → Writing
  | _, [], state => state
  | previous, current :: rest, state =>
    let raised :=
      { state with delta := state.delta + (current - previous) * (state.written + 1) }
    let passed := label.foldl (Writing.pass basic current) raised
    run label basic (current + 1) rest { passed with delta := passed.delta + 1 }

/-- A code point at its place among strictly increasing ones, once. -/
def placeCode (code : Nat) : List Nat → List Nat
  | [] => [code]
  | next :: rest =>
    if code < next then code :: next :: rest
    else if code = next then next :: rest
    else next :: placeCode code rest

/-- The ASCII form of a label. -/
def encode (label : List Char) : List Char :=
  let basic := label.filter fun c => c.toNat < 0x80
  let codes := ((label.map Char.toNat).filter (0x80 ≤ ·)).foldr placeCode []
  let start := if basic.isEmpty then [] else basic ++ ['-']
  (Writing.run label basic.length 0x80 codes ⟨start, 0, 72, basic.length⟩).output

/-- What the decoder has: the characters, the code point and place reached, the bias, and the
difference that is being read with the weight and position of its next digit. -/
structure Reading where
  output : List Char
  code : Nat
  place : Nat
  bias : Nat
  sum : Nat
  weight : Nat
  position : Nat

/-- Takes a digit into account. -/
def Reading.take? (state : Reading) (c : Char) : Option Reading := do
  let d ← digitValue? c
  let sum := state.sum + d * state.weight
  let t := threshold state.position state.bias
  if d < t then
    let count := state.output.length + 1
    let total := state.place + sum
    let code := state.code + total / count
    if (0xD800 ≤ code ∧ code ≤ 0xDFFF) ∨ 0x10FFFF < code then none
    else
      let place := total % count
      return {
        output := state.output.take place ++ Char.ofNat code :: state.output.drop place
        code
        place := place + 1
        bias := adapt sum count (state.place == 0)
        sum := 0
        weight := 1
        position := 36 }
  else
    return { state with
      sum
      weight := state.weight * (36 - t)
      position := state.position + 36 }

/-- The characters before the last hyphen, and the digits. -/
def splitBasic (source : List Char) : List Char × List Char :=
  let digits := (source.reverse.takeWhile (· ≠ '-')).reverse
  (source.take (source.length - digits.length - 1), digits)

/-- The label of an ASCII form. -/
def decode? (source : List Char) : Option (List Char) := do
  let (basic, digits) := splitBasic source
  let state ← digits.foldlM Reading.take? ⟨basic, 0x80, 0, 72, 0, 1, 36⟩
  if state.position = 36 then return state.output else none

end HostDashboard.Url.Punycode
