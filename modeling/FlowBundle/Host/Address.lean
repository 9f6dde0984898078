import FlowBundle.Text.Hex
import FlowBundle.Text.Split
/-!
# Addresses of hosts

A host is named, or given by its address: four numbers with dots, or eight groups of hexadecimal
digits with colons, of which two colons in a row stand for as many zero groups as there is room for.
-/
namespace FlowBundle
namespace Address

/-! ## Four numbers -/

/-- **The text is four numbers**, of any size, so it has to be an address. -/
def looksLikeFour (s : List Char) : Bool :=
  let parts := Text.split '.' s
  parts.length == 4 && parts.all fun part => !part.isEmpty && part.all Char.isDigit

/-- A number of an address: at most three digits, no zero in front, and no more than a byte. -/
def isOctet (s : List Char) : Bool :=
  !s.isEmpty && decide (s.length ≤ 3) && s.all Char.isDigit && (s == ['0'] || s.head? != some '0') &&
    decide (Nat.ofDigitChars 10 s 0 ≤ 255)

def isFour (s : List Char) : Bool :=
  let parts := Text.split '.' s
  parts.length == 4 && parts.all isOctet

/-! ## Eight groups -/

def groupCount : Nat := 8

def isGroup (s : List Char) : Bool :=
  !s.isEmpty && decide (s.length ≤ 4) && s.all fun c => (Text.hexValue? c).isSome

/-- The parts between the colons, with two groups in the place of four numbers at the end. -/
def groups? (s : List Char) : Option (List (List Char)) :=
  let parts := Text.split ':' s
  let last := parts.getLastD []
  if last.contains '.' then if isFour last then some (parts.dropLast ++ [['0'], ['0']]) else none
  else some parts

/-- The groups on one side of two colons, where nothing is an empty part. -/
def side (parts : List (List Char)) : List (List Char) := if parts = [[]] then [] else parts

/-- Eight groups, or fewer with two colons once. -/
def areGroups (parts : List (List Char)) : Bool :=
  let front := parts.head?.toList ++ (parts.tail.dropLast).takeWhile (!·.isEmpty)
  if front.length + 1 < parts.length then
    let groups := side front ++ side (parts.drop (front.length + 1))
    decide (groups.length < groupCount) && groups.all isGroup
  else parts.length == groupCount && parts.all isGroup

/-- An address of eight groups, without the zone behind a percent sign, which must not be empty. -/
def isEight (s : List Char) : Bool :=
  let address := s.takeWhile (· != '%')
  let zone := s.drop address.length
  (zone.isEmpty || (zone.length != 1 && !zone.tail.contains '%')) && (groups? address).any areGroups

end Address
end FlowBundle
