import Gleaner.Decimal.Binary

/-!
# Numbers of either kind

A number that is an integer of any size or a floating number, with the arithmetic of mixed
operands: integers stay exact, and a floating operand makes the result floating.
-/

set_option autoImplicit false

namespace Gleaner

inductive Number where
  | int (value : Int)
  | float (value : Float)
  deriving Repr, Inhabited

namespace Number

def toFloat : Number → Float
  | .int n => Decimal.ofInt n
  | .float x => x

def isZero : Number → Bool
  | .int n => n = 0
  | .float x => x == 0

def mul : Number → Number → Number
  | .int a, .int b => .int (a * b)
  | a, b => .float (a.toFloat * b.toFloat)

instance : Mul Number := ⟨mul⟩

def add : Number → Number → Number
  | .int a, .int b => .int (a + b)
  | a, b => .float (a.toFloat + b.toFloat)

instance : Add Number := ⟨add⟩

def sub : Number → Number → Number
  | .int a, .int b => .int (a - b)
  | a, b => .float (a.toFloat - b.toFloat)

instance : Sub Number := ⟨sub⟩

def intBelowFloat (n : Int) (x : Float) : Bool :=
  match Decimal.floor? x with
  | some low => n < low || (n = low && !(Decimal.ofInt low == x))
  | none => x > 0

def floatBelowInt (x : Float) (n : Int) : Bool :=
  match Decimal.floor? x with
  | some low => low < n
  | none => x < 0

def less : Number → Number → Bool
  | .int a, .int b => a < b
  | .float a, .float b => a < b
  | .int a, .float b => intBelowFloat a b
  | .float a, .int b => floatBelowInt a b

def isNaN : Number → Bool
  | .int _ => false
  | .float x => x.isNaN

/-- The order that a NaN has no place in: nothing is at most a NaN, nor a NaN at most anything. -/
def atMost (a b : Number) : Bool :=
  !a.isNaN && !b.isNaN && !less b a

/-- The number as a floating one, unless it is an integer out of range. -/
def toFloat? : Number → Option Float
  | .int n =>
      let x := Decimal.ofInt n
      if x.isInf then none else some x
  | .float x => some x

/-- The product, unless an integer out of range meets a floating number. -/
def product? : Number → Number → Option Number
  | .int a, .int b => some (.int (a * b))
  | a, b => do return .float ((← a.toFloat?) * (← b.toFloat?))

/-- The first number unless the second is less. -/
def least (a b : Number) : Number :=
  if less b a then b else a

def thousandth : Number → Float
  | .int n => Decimal.nearest (n < 0) n.natAbs 1000
  | .float x => x / 1000

def truncate? : Number → Option Int
  | .int n => some n
  | .float x => Decimal.truncate? x

end Number

end Gleaner
