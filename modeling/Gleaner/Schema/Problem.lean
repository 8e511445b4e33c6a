/-!
# Problems of reading

What is wrong with a value that should have had a certain form, and where in it. A reading
goes through all parts of a value and gathers the problems of each, in the order of the form:
`Checked` is applicative, not monadic.
-/

set_option autoImplicit false

namespace Gleaner

inductive PathStep where
  | field (name : String)
  | item (index : Nat)
  deriving DecidableEq, Repr

def PathStep.text : PathStep → String
  | .field name => name
  | .item index => toString index

inductive Complaint where
  | missing
  | notText
  | notInteger
  | unreadableInteger
  | oversizedInteger
  | fractional
  | notFinite
  | notNumber
  | unreadableNumber
  | notBoolean
  | unreadableBoolean
  | notAmong (choices : List String)
  | notList
  | notObject
  | notObjectOf (form : String)
  | notTagged
  | noTag
  | unknownTag (given : String) (expected : List String)
  | below (least : Int)
  | above (most : Int)
  | notAbove (bound : Int)
  | noCondition
  deriving DecidableEq, Repr

private def quote (s : String) : String := "'" ++ s ++ "'"

/-- `'a', 'b' or 'c'` -/
def orList : List String → String
  | [] => ""
  | [one] => quote one
  | [one, other] => quote one ++ " or " ++ quote other
  | first :: rest => quote first ++ ", " ++ orList rest

def Complaint.message : Complaint → String
  | .missing => "Field required"
  | .notText => "Input should be a valid string"
  | .notInteger => "Input should be a valid integer"
  | .unreadableInteger => "Input should be a valid integer, unable to parse string as an integer"
  | .oversizedInteger => "Unable to parse input string as an integer, exceeded maximum size"
  | .fractional => "Input should be a valid integer, got a number with a fractional part"
  | .notFinite => "Input should be a finite number"
  | .notNumber => "Input should be a valid number"
  | .unreadableNumber => "Input should be a valid number, unable to parse string as a number"
  | .notBoolean => "Input should be a valid boolean"
  | .unreadableBoolean => "Input should be a valid boolean, unable to interpret input"
  | .notAmong choices => "Input should be " ++ orList choices
  | .notList => "Input should be a valid list"
  | .notObject => "Input should be a valid dictionary"
  | .notObjectOf form => "Input should be a valid dictionary or instance of " ++ form
  | .notTagged => "Input should be a valid dictionary or object to extract fields from"
  | .noTag => "Unable to extract tag using discriminator 'type'"
  | .unknownTag given expected =>
      "Input tag " ++ quote given ++
        " found using 'type' does not match any of the expected tags: " ++
        ", ".intercalate (expected.map quote)
  | .below least => s!"Input should be greater than or equal to {least}"
  | .above most => s!"Input should be less than or equal to {most}"
  | .notAbove bound => s!"Input should be greater than {bound}"
  | .noCondition => "invalid condition"

/-- A complaint and the steps to the part it is about. -/
structure Problem where
  path : List PathStep
  complaint : Complaint
  deriving DecidableEq, Repr

def Problem.message (p : Problem) : String :=
  ".".intercalate (p.path.map PathStep.text) ++ ": " ++ p.complaint.message

/-- At least one problem. -/
structure Problems where
  first : Problem
  rest : List Problem
  deriving DecidableEq, Repr

namespace Problems

def toList (problems : Problems) : List Problem :=
  problems.first :: problems.rest

def append (problems more : Problems) : Problems :=
  ⟨problems.first, problems.rest ++ more.toList⟩

instance : Append Problems := ⟨append⟩

/-- The problems as problems of a part of a larger value. -/
def under (step : PathStep) (problems : Problems) : Problems :=
  let move (p : Problem) : Problem := { p with path := step :: p.path }
  ⟨move problems.first, problems.rest.map move⟩

/-- The problems as seen from inside the first step. -/
def inside (problems : Problems) : Problems :=
  let enter (p : Problem) : Problem := { p with path := p.path.drop 1 }
  ⟨enter problems.first, problems.rest.map enter⟩

def messages (problems : Problems) : List String :=
  problems.toList.map Problem.message

end Problems

/-- A value, or everything that is wrong with what it should have been read from. -/
def Checked (α : Type) := Except Problems α

namespace Checked

variable {α β : Type}

def ok (value : α) : Checked α := Except.ok value

def failed (problems : Problems) : Checked α := Except.error problems

def complain (complaint : Complaint) : Checked α := failed ⟨⟨[], complaint⟩, []⟩

def map (f : α → β) : Checked α → Checked β
  | .ok value => .ok (f value)
  | .error problems => .error problems

/-- Applies a function that was read to a value that was read; the problems of both count. -/
def seq (f : Checked (α → β)) (x : Checked α) : Checked β :=
  match f, x with
  | .ok f, .ok value => .ok (f value)
  | .ok _, .error problems => .error problems
  | .error problems, .ok _ => .error problems
  | .error problems, .error more => .error (problems ++ more)

instance : Applicative Checked where
  pure := ok
  map := map
  seq f x := seq f (x ())

/-- The problems belong to a part of a larger value. -/
def under (step : PathStep) : Checked α → Checked α
  | .ok value => .ok value
  | .error problems => .error (problems.under step)

def demand (test : α → Bool) (complaint : Complaint) (x : Checked α) : Checked α :=
  match x with
  | .ok value => if test value then ok value else complain complaint
  | .error problems => .error problems

def toExcept : Checked α → Except Problems α := id

def toOption : Checked α → Option α
  | .ok value => some value
  | .error _ => none

end Checked

end Gleaner
