import FlowBundle.Host.Address
import FlowBundle.Settings.NumberText
import FlowBundle.Text.Escape
/-!
# Sites

A header of a request names the site at which the request comes in: a host, and perhaps a number behind
a colon.  The host is an address of groups or of a later kind in brackets, or a name with escapes.
-/
namespace FlowBundle
namespace Http
namespace Site

def maxNumber : Int := 65535

def isHex (c : Char) : Bool := (Text.hexValue? c).isSome

/-- The letter of an address of a later kind, its version, a point, and more. -/
def isLaterAddress : List Char → Bool
  | 'v' :: rest =>
    rest.head?.any isHex &&
      match rest.dropWhile isHex with
      | '.' :: _ :: _ => true
      | _ => false
  | _ => false

def isNameChar (c : Char) : Bool := Text.isUnreserved c || "!$&'()*+,;=".toList.contains c

def isBracketed (s : List Char) : Bool :=
  (isLaterAddress s || Address.isEight s) && s.all fun c => isNameChar c || c == ':' || c == '%'

def isName : List Char → Bool
  | '%' :: a :: b :: rest => isHex a && isHex b && isName rest
  | c :: rest => isNameChar c && isName rest
  | [] => true

/-- Nothing, or a colon and a number, which may be left out. -/
def isNumber : List Char → Bool
  | [] => true
  | [':'] => true
  | ':' :: digits =>
    digits.all Char.isDigit &&
      match NumberText.readInteger (String.ofList digits) with
      | .integer n => decide (n ≤ maxNumber)
      | _ => false
  | _ => false

/-- **A header that names a site.** -/
def isSite (header : String) : Bool :=
  match header.toList with
  | '[' :: rest =>
    let address := rest.takeWhile (· != ']')
    match rest.dropWhile (· != ']') with
    | ']' :: number => isBracketed address && isNumber number
    | _ => false
  | s =>
    let name := s.takeWhile (· != ':')
    !name.isEmpty && isName name && isNumber (s.drop name.length)

end Site
end Http
end FlowBundle
