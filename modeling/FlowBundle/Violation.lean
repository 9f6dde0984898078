import FlowBundle.Json.Basic
/-!
# Violations

A value that should have a certain shape is checked as a whole: the answer is what it means, or the
list of everything wrong with it.  A violation says where it is, which rule is broken, and what kind
of value was found there.  Checks are combined so that no violation is lost and their order is the
order of the checks.
-/
namespace FlowBundle

inductive Rule where
  | required
  | text
  | object
  | list
  | record (name : String)
  | requestObject
  | atLeast (bound : Int)
  | atMost (bound : Int)
  | integer
  | wholeNumber
  | integerText
  | integerSize
  | number
  | finiteNumber
  | numberText
  deriving DecidableEq, Repr

def Rule.code : Rule → String
  | .required => "missing"
  | .text => "string_type"
  | .object => "dict_type"
  | .list => "list_type"
  | .record _ => "model_type"
  | .requestObject => "model_attributes_type"
  | .atLeast _ => "greater_than_equal"
  | .atMost _ => "less_than_equal"
  | .integer => "int_type"
  | .wholeNumber => "int_from_float"
  | .integerText => "int_parsing"
  | .integerSize => "int_parsing_size"
  | .number => "float_type"
  | .finiteNumber => "finite_number"
  | .numberText => "float_parsing"

def Rule.message : Rule → String
  | .required => "Field required"
  | .text => "Input should be a valid string"
  | .object => "Input should be a valid dictionary"
  | .list => "Input should be a valid list"
  | .record name => "Input should be a valid dictionary or instance of " ++ name
  | .requestObject => "Input should be a valid dictionary or object to extract fields from"
  | .atLeast bound => "Input should be greater than or equal to " ++ toString bound
  | .atMost bound => "Input should be less than or equal to " ++ toString bound
  | .integer => "Input should be a valid integer"
  | .wholeNumber => "Input should be a valid integer, got a number with a fractional part"
  | .integerText => "Input should be a valid integer, unable to parse string as an integer"
  | .integerSize => "Unable to parse input string as an integer, exceeded maximum size"
  | .number => "Input should be a valid number"
  | .finiteNumber => "Input should be a finite number"
  | .numberText => "Input should be a valid number, unable to parse string as a number"

/-- A broken rule, the way to the place, and the value found there (for a missing field, the object
that lacks it). -/
structure Violation where
  place : List String
  rule : Rule
  found : Json.Value

def Violation.text (v : Violation) : String :=
  "\n" ++ String.intercalate "." v.place ++ "\n  " ++ v.rule.message ++ " [type=" ++ v.rule.code ++
    ", input_type=" ++ v.found.kind ++ "]"

/-- **The report on a value that should be a record of this name.** -/
def Violation.report (record : String) (vs : List Violation) : String :=
  toString vs.length ++ (if vs.length = 1 then " validation error for " else " validation errors for ") ++
    record ++ String.join (vs.map Violation.text)

/-- What a value means, or everything that is wrong with it. -/
abbrev Checked (α : Type) := Except (List Violation) α

namespace Checked

def violations {α : Type} : Checked α → List Violation
  | .ok _ => []
  | .error vs => vs

def both {α β : Type} : Checked α → Checked β → Checked (α × β)
  | .ok a, .ok b => .ok (a, b)
  | a, b => .error (a.violations ++ b.violations)

def all {α β : Type} (check : Nat → α → Checked β) : Nat → List α → Checked (List β)
  | _, [] => .ok []
  | i, a :: as => (both (check i a) (all check (i + 1) as)).map fun p => p.1 :: p.2

theorem violations_both {α β : Type} (a : Checked α) (b : Checked β) :
    (both a b).violations = a.violations ++ b.violations := by
  cases a <;> cases b <;> simp [both, violations]

theorem violations_map {α β : Type} (f : α → β) (a : Checked α) :
    violations (a.map f) = a.violations := by
  cases a <;> rfl

/-- A list of readable forms is read as what they are the forms of. -/
theorem all_map {α β : Type} {check : Nat → α → Checked β} {form : β → α} :
    ∀ (i : Nat) (bs : List β), (∀ b ∈ bs, ∀ i, check i (form b) = .ok b) → all check i (bs.map form) = .ok bs
  | _, [], _ => rfl
  | i, b :: bs, h => by
    have ih := all_map (i + 1) bs fun c hc => h c (List.mem_cons_of_mem b hc)
    rw [List.map_cons, all, h b List.mem_cons_self i, ih]
    rfl

end Checked
end FlowBundle
