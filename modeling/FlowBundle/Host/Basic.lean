import FlowBundle.Host.Address
import FlowBundle.Host.Name
import FlowBundle.Text.Escape
import FlowBundle.Text.LetterCase
/-!
# Hosts

The host of an address: four numbers, eight groups in brackets, or a name.  What looks like an address
has to be one.  A name in plain characters is taken as it is, in lower case and with escapes; any other
name has to be that of a host.
-/
namespace FlowBundle
namespace Host

inductive Fault where
  | four (text : String)
  | eight (text : String)
  | name (text : String)

def Fault.message : Fault → String
  | .four text => "Invalid IPv4 address: " ++ Text.quoted text
  | .eight text => "Invalid IPv6 address: " ++ Text.quoted text
  | .name text => "Invalid IDNA hostname: " ++ Text.quoted text

def isSafe (c : Char) : Bool :=
  Text.isUnreserved c || "!$&'()*+,;=\"\x60\x7B\x7D%|\\".toList.contains c

/-- **The host that a text stands for**, as it is carried: an address without brackets, or a name. -/
def ofText (text : String) : Except Fault String :=
  let cs := text.toList
  if Address.looksLikeFour cs then
    if Address.isFour cs then .ok text else .error (.four text)
  else if cs.head? = some '[' ∧ cs.tail.getLast? = some ']' then
    let address := cs.tail.dropLast
    if Address.isEight address then .ok (String.ofList address) else .error (.eight text)
  else if cs.all Name.isPlain then .ok (String.ofList (Text.escape isSafe (cs.map Char.toLower)))
  else match Name.encode? (Text.lower text) with
    | some name => .ok name
    | none => .error (.name text)

/-- Why a host that is carried cannot be shown.  Only a name with Punycode in it is looked at. -/
def fault? (host : String) : Option NameFault :=
  if Name.holdsMark host.toList then Name.fault? host.toList else none

/-- The host in front of a number: an address of groups is put in brackets. -/
def bracketed (host : String) : String := if host.toList.contains ':' then "[" ++ host ++ "]" else host

end Host
end FlowBundle
