import FlowBundle.Text.Digit
/-!
# Arguments

What an argument is, is decided first, for all of them: an option, which may be shortened as long as
it stays the only one and may carry a value behind an equals sign; plain text; or the mark behind
which everything is plain text.  A negative number, a lone hyphen and a text with a space in it are
plain text too.  Then the arguments are gone through in order.  Plain text is of use only as the
value of an option; what is left over, like an unknown option, is held against the arguments at
their end, so a request for help before that is granted.
-/
namespace FlowBundle
namespace CommandLine

inductive Switch where
  | help
  | workflow
  | workflowFile
  | outputFile
  | summary
  deriving DecidableEq, Repr

inductive Stop where
  | usage
  | help
  deriving DecidableEq, Repr

structure Arguments where
  workflow : Option String := none
  workflowFile : Option String := none
  outputFile : Option String := none
  summary : Bool := false
  deriving DecidableEq, Repr

inductive Word where
  | text (s : String)
  | mark
  | option (o : Switch) (value : Option String)
  | helpLetters (letters : List Char)
  | unknown
  deriving DecidableEq, Repr

def longOptions : List (String × Switch) :=
  [("--help", .help), ("--workflow", .workflow), ("--workflow-file", .workflowFile),
   ("--output-file", .outputFile), ("--summary", .summary)]

def cutAtEquals (cs : List Char) : List Char × Option String :=
  (cs.takeWhile (· != '='), if cs.contains '=' then some (String.ofList (cs.dropWhile (· != '=')).tail) else none)

/-- A hyphen before digits, or before digits with a point in or before them. -/
def isNegativeNumber (cs : List Char) : Bool :=
  let isDigit (c : Char) : Bool := (Text.digitValue? c).isSome
  let body := cs.tail
  let body := if body.getLast? = some '\n' then body.dropLast else body
  let rest := body.dropWhile isDigit
  cs.head? == some '-' &&
    ((rest.isEmpty && !body.isEmpty) || (rest.head? == some '.' && !rest.tail.isEmpty && rest.tail.all isDigit))

def otherWord (s : String) : Word :=
  if isNegativeNumber s.toList || s.toList.contains ' ' then .text s else .unknown

/-- The options that a name may stand for: itself alone, or all that it begins. -/
def candidates (name : List Char) : List Switch :=
  match longOptions.lookup (String.ofList name) with
  | some o => [o]
  | none => (longOptions.filter fun o => name.isPrefixOf o.1.toList).map (·.2)

/-- A value behind an equals sign; two hyphens stand for nothing at all. -/
def valueOf (text : String) : String := if text = "--" then "" else text

def longWord (s : String) : Except Stop Word :=
  let (name, value) := cutAtEquals s.toList
  match candidates name with
  | [] => .ok (otherWord s)
  | [o] => .ok (.option o (value.map valueOf))
  | _ => .error .usage

/-- **An argument by its form.** -/
def classify (s : String) : Except Stop Word :=
  match s.toList with
  | '-' :: '-' :: _ => longWord s
  | '-' :: 'h' :: '=' :: c :: letters => .ok (.helpLetters (c :: letters))
  | '-' :: 'h' :: letters => .ok (.helpLetters letters)
  | ['-'] => .ok (.text s)
  | '-' :: _ => .ok (otherWord s)
  | _ => .ok (.text s)

def classifyAll : List String → Except Stop (List Word)
  | [] => .ok []
  | "--" :: rest => .ok (.mark :: rest.map .text)
  | s :: rest => do
    let w ← classify s
    let ws ← classifyAll rest
    return w :: ws

/-- The letters behind the short form of help may repeat it, and nothing else. -/
def helpStop : List Char → Stop
  | [] => .help
  | 'h' :: letters => helpStop letters
  | _ => .usage

def Arguments.set (a : Arguments) (o : Switch) (value : String) : Except Stop Arguments :=
  match o with
  | .workflow => .ok { a with workflow := some value }
  | .workflowFile => .ok { a with workflowFile := some value }
  | .outputFile => .ok { a with outputFile := some value }
  | .help => .error .usage
  | .summary => .error .usage

/-- **The arguments gone through in order**, `left` saying whether something was left over. -/
def collect (a : Arguments) (left : Bool) : List Word → Except Stop Arguments
  | [] => if left then .error .usage else .ok a
  | .option o (some value) :: rest =>
    match a.set o value with
    | .error stop => .error stop
    | .ok a => collect a left rest
  | .option .help none :: _ => .error .help
  | .option .summary none :: rest => collect { a with summary := true } left rest
  | .option o none :: .text value :: rest =>
    match a.set o value with
    | .error stop => .error stop
    | .ok a => collect a left rest
  | .option _ none :: _ => .error .usage
  | .helpLetters letters :: _ => .error (helpStop letters)
  | _ :: rest => collect a true rest

def Arguments.ofList (args : List String) : Except Stop Arguments :=
  match classifyAll args with
  | .error stop => .error stop
  | .ok words => collect {} false words

end CommandLine
end FlowBundle
