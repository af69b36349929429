namespace InferenceDispatch

inductive Double where
  | value (x : Float) (isDefined : x.isNaN = false)
  /-- The undefined number, with its sign. Arithmetic passes an undefined operand on, the first one if both are;
  an undefined number that arises from numbers with a value is negative. -/
  | undefined (negative : Bool)
deriving DecidableEq

namespace Double

def ofFloat (x : Float) : Double :=
  if h : x.isNaN = false then .value x h else .undefined true

def infinity (negative : Bool) : Double := ofFloat (if negative then -1.0 / 0.0 else 1.0 / 0.0)

instance : Inhabited Double := ⟨.undefined false⟩

def ofNat (n : Nat) : Double := ofFloat (Float.ofNat n)

instance (n : Nat) : OfNat Double n := ⟨ofNat n⟩

instance : OfScientific Double := ⟨fun m s e => ofFloat (Float.ofScientific m s e)⟩

/-- The number as a machine holds it, where the sign of the undefined number does not show. -/
def toFloat : Double → Float
  | value x _ => x
  | undefined _ => 0.0 / 0.0

def isUndefined : Double → Bool
  | value .. => false
  | undefined _ => true

def isFinite (a : Double) : Bool := a.toFloat.isFinite

def isInfinite (a : Double) : Bool := a.toFloat.isInf

def map (f : Float → Float) : Double → Double
  | value x _ => ofFloat (f x)
  | undefined s => .undefined s

def zip (f : Float → Float → Float) : Double → Double → Double
  | undefined s, _ => .undefined s
  | _, undefined s => .undefined s
  | value x _, value y _ => ofFloat (f x y)

protected def neg : Double → Double
  | value x _ => ofFloat (-x)
  | undefined s => .undefined !s

def exp : Double → Double := map Float.exp

def ceil : Double → Double := map Float.ceil

/-- The value without its fraction as a count of 64 bits, held at the limits of those; zero for the
undefined number. -/
def toCount : Double → Nat
  | value x _ => x.toUInt64.toNat
  | undefined _ => 0

instance : Neg Double := ⟨Double.neg⟩

def ofInt (n : Int) : Double := if n < 0 then -ofNat n.natAbs else ofNat n.natAbs

instance : Add Double := ⟨zip (· + ·)⟩
instance : Sub Double := ⟨zip (· - ·)⟩
instance : Mul Double := ⟨zip (· * ·)⟩
instance : Div Double := ⟨zip (· / ·)⟩

protected def le : Double → Double → Bool
  | value x _, value y _ => x ≤ y
  | _, _ => false

protected def lt : Double → Double → Bool
  | value x _, value y _ => x < y
  | _, _ => false

instance : LE Double := ⟨fun a b => a.le b⟩
instance : LT Double := ⟨fun a b => a.lt b⟩

instance : DecidableLE Double := fun a b => inferInstanceAs (Decidable (a.le b = true))
instance : DecidableLT Double := fun a b => inferInstanceAs (Decidable (a.lt b = true))

end Double

end InferenceDispatch
