/-!
# Punycode

A label of a host name written in plain characters only.  The plain code points come first and as they
are, then a hyphen, then one number for each of the others in increasing order: how many places lie
between it and the one before, where a place is a code point and an index in the text so far.

A number is written with the digits `a` to `z` and `0` to `9`, the lowest one first.  A digit below the
threshold of its place ends the number, so the numbers need nothing between them, and thresholds adapt
to the size of the numbers before.  Reading is a machine that takes one digit at a time.
-/
namespace FlowBundle
namespace Punycode

/-! ## Digits and thresholds -/

def base : Nat := 36

def digitChar (d : Nat) : Char := if d < 26 then Char.ofNat ('a'.toNat + d) else Char.ofNat ('0'.toNat + d - 26)

def digitValue? (c : Char) : Option Nat :=
  if 'a' ≤ c ∧ c ≤ 'z' then some (c.toNat - 'a'.toNat)
  else if 'A' ≤ c ∧ c ≤ 'Z' then some (c.toNat - 'A'.toNat)
  else if '0' ≤ c ∧ c ≤ '9' then some (c.toNat - '0'.toNat + 26)
  else none

/-- The digits from the threshold on go on with the number. -/
def threshold (bias place : Nat) : Nat := min 26 (max 1 (base * (place + 1) - bias))

theorem threshold_pos (bias place : Nat) : 0 < threshold bias place := by unfold threshold; omega

/-- How often a number is divided before it is small, in steps of the base, and what is left of it. -/
def reduce (n : Nat) : Nat × Nat :=
  if 455 < n then
    let (steps, rest) := reduce (n / 35)
    (steps + base, rest)
  else (0, n)
termination_by n
decreasing_by omega

def initialBias : Nat := 72

/-- The bias after a number: the first one of a label is damped, and `count` code points are known. -/
def adapt (n : Nat) (first : Bool) (count : Nat) : Nat :=
  let n := if first then n / 700 else n / 2
  let (steps, rest) := reduce (n + n / count)
  steps + base * rest / (rest + 38)

/-! ## Writing -/

def isBasic (n : Nat) : Bool := decide (n < 0x80)

def writeNumber (bias place n : Nat) : List Char :=
  let limit := threshold bias place
  if n < limit then [digitChar n]
  else digitChar (limit + (n - limit) % (base - limit)) ::
    writeNumber bias (place + 1) ((n - limit) / (base - limit))
termination_by n
decreasing_by
  have := threshold_pos bias place
  exact Nat.lt_of_le_of_lt (Nat.div_le_self _ _) (by omega)

/-- A label on its way: what is written, the code points that are known, the bias, and the places
since the last code point. -/
structure Writing where
  out : List Char
  count : Nat
  bias : Nat := initialBias
  gap : Nat := 0

/-- One code point passed by while `code` is being written; `basic` of them are plain. -/
def Writing.pass (basic code : Nat) (w : Writing) (n : Nat) : Writing :=
  if n < code then { w with gap := w.gap + 1 }
  else if n = code then
    { out := w.out ++ writeNumber w.bias 0 w.gap
      count := w.count + 1
      bias := adapt w.gap (w.count == basic) (w.count + 1)
      gap := 0 }
  else w

def Writing.codes (text : List Nat) (basic : Nat) (w : Writing) (next : Nat) : List Nat → Writing
  | [] => w
  | code :: rest =>
    let w := { w with gap := w.gap + (code - next) * (w.count + 1) }
    let w := text.foldl (Writing.pass basic code) w
    Writing.codes text basic { w with gap := w.gap + 1 } (code + 1) rest

/-- **The plain characters for a text.** -/
def encode (text : List Nat) : List Char :=
  let basic := text.filter isBasic
  let codes := (text.filter fun n => !isBasic n).eraseDups.mergeSort
  let start := if basic = [] then [] else basic.map Char.ofNat ++ ['-']
  (Writing.codes text basic.length { out := start, count := basic.length } 0x80 codes).out

/-! ## Reading -/

/-- A text on its way: the code points so far, the last one and the index behind it, the bias, whether
the first number is still to come, and of the number in hand the value, the next place and its weight. -/
structure Reading where
  text : List Nat
  code : Nat := 0x80
  index : Nat := 0
  bias : Nat := initialBias
  first : Bool := true
  value : Nat := 0
  place : Nat := 0
  weight : Nat := 1

def maxCode : Nat := 0x10FFFF

/-- The number in hand comes to an end: the next code point is put in its place. -/
def Reading.insert? (r : Reading) : Option Reading :=
  let count := r.text.length + 1
  let code := r.code + (r.index + r.value) / count
  let index := (r.index + r.value) % count
  if maxCode < code then none
  else some
    { text := r.text.take index ++ code :: r.text.drop index
      code := code
      index := index + 1
      bias := adapt r.value r.first count
      first := false }

def Reading.step? (r : Reading) (c : Char) : Option Reading :=
  (digitValue? c).bind fun d =>
    let limit := threshold r.bias r.place
    let r := { r with value := r.value + d * r.weight }
    if d < limit then r.insert?
    else some { r with place := r.place + 1, weight := r.weight * (base - limit) }

def Reading.text? (r : Reading) : Option (List Nat) := if r.place = 0 then some r.text else none

/-- **The text for plain characters.** -/
def decode? (s : List Char) : Option (List Nat) :=
  let digits := (s.reverse.takeWhile (· != '-')).reverse
  let basic := s.take (s.length - digits.length - 1)
  (digits.foldlM Reading.step? { text := basic.map Char.toNat }).bind Reading.text?

end Punycode
end FlowBundle
