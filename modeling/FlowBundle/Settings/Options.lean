import FlowBundle.Settings.Basic
import FlowBundle.Settings.OptionText
import FlowBundle.Violation
/-!
# Settings from options

Options come under their names as values of any kind; an option that is not given has its default,
and unknown names are passed over.  A number may come as a number of the other kind or as a text.
Everything wrong with the options is reported, in the order of the settings.
-/
namespace FlowBundle

open Json (Value Members)

namespace Setting

/-- A float stands for an integer if it is whole and lies between this bound and its negative. -/
def integerBound : Int := 2 ^ (63 : Nat)

def integerOfText (place : List String) (s : String) : Checked Int :=
  match OptionText.readInteger s with
  | .integer n => .ok n
  | .tooLong _ => .error [⟨place, .integerSize, .str s⟩]
  | .unreadable => .error [⟨place, .integerText, .str s⟩]

def integerOfFloat (place : List String) (x : Binary64) : Checked Int :=
  match x with
  | .finite .. =>
    match x.toInt? with
    | some n => if -integerBound < n ∧ n < integerBound then .ok n else .error [⟨place, .integerSize, .float x⟩]
    | none => .error [⟨place, .wholeNumber, .float x⟩]
  | x => .error [⟨place, .finiteNumber, .float x⟩]

/-- **An integer option.** -/
def integerOf (place : List String) : Value → Checked Int
  | .int n => .ok n
  | .bool b => .ok (if b then 1 else 0)
  | .float x => integerOfFloat place x
  | .str s => integerOfText place s
  | v => .error [⟨place, .integer, v⟩]

/-- **An option that is any number.** -/
def numberOf (place : List String) : Value → Checked Binary64
  | .float x => .ok x
  | .int n =>
    match Binary64.ofInt n with
    | .infinite _ => .error [⟨place, .number, .int n⟩]
    | x => .ok x
  | .bool b => .ok (Binary64.ofInt (if b then 1 else 0))
  | .str s =>
    match OptionText.readFloat? s with
    | some x => .ok x
    | none => .error [⟨place, .numberText, .str s⟩]
  | v => .error [⟨place, .number, v⟩]

def textOf (place : List String) : Value → Checked String
  | .str s => .ok s
  | v => .error [⟨place, .text, v⟩]

def textsOf (place : List String) : Value → Checked (List String)
  | .arr items => Checked.all (fun i v => textOf (place ++ [toString i]) v) 0 items
  | v => .error [⟨place, .list, v⟩]

def atLeast (least : Nat) (place : List String) (v : Value) : Checked { n : Nat // least ≤ n } :=
  match integerOf place v with
  | .error vs => .error vs
  | .ok n => if h : (least : Int) ≤ n then .ok ⟨n.toNat, TooSmall.le_toNat h⟩ else .error [⟨place, .atLeast least, v⟩]

/-- The delay of an answer, in seconds. -/
def delayOf (place : List String) (v : Value) :
    Checked { x : Binary64 // x.isNonneg = true ∧ x.isAtMost 30 = true } :=
  match numberOf place v with
  | .error vs => .error vs
  | .ok x =>
    if hle : x.isAtMost 30 = true then
      if hge : x.isNonneg = true then .ok ⟨x, hge, hle⟩ else .error [⟨place, .atLeast 0, v⟩]
    else .error [⟨place, .atMost 30, v⟩]

end Setting

namespace Settings

def defaults : Members :=
  [("simulated_delay_seconds", .float (Binary64.ofRatio false 3 2)), ("history_limit", .int 20),
   ("max_archives", .int 32), ("cors_origins", .arr [.str "*"]), ("log_level", .str "INFO"),
   ("archive_filename", .str defaultFilename)]

def option {α : Type} (check : List String → Value → Checked α) (options : Members) (key : String) :
    Checked α :=
  check [key] ((options.get? key).getD ((defaults.get? key).getD .null))

/-- **The settings that options stand for.** -/
def ofOptions (options : Members) : Checked Settings :=
  (Checked.both (option Setting.delayOf options "simulated_delay_seconds")
    (Checked.both (option (Setting.atLeast 2) options "history_limit")
      (Checked.both (option (Setting.atLeast 1) options "max_archives")
        (Checked.both (option Setting.textsOf options "cors_origins")
          (Checked.both (option Setting.textOf options "log_level")
            (option Setting.textOf options "archive_filename")))))).map
    fun (⟨delay, hnonneg, hle⟩, ⟨history, htwo⟩, ⟨archives, hone⟩, origins, level, filename) =>
      { delay := delay, historyLimit := history, maxArchives := archives, origins := origins
        logLevel := level, filename := filename, delay_nonneg := hnonneg, delay_le := hle
        two_le_historyLimit := htwo, one_le_maxArchives := hone }

def report (vs : List Violation) : String := Violation.report "Settings" vs

end Settings
end FlowBundle
