import InferenceDispatch.Number.Double
import InferenceDispatch.Number.Whole

namespace InferenceDispatch

/-- The place of a double in the total order. The bits of doubles without a sign ascend with their
value, those with a sign descend. -/
def totalKey : Double → Int
  | .value x _ =>
    let bits := x.toBits.toNat
    if bits < Whole.signedBound then bits else (Whole.signedBound : Int) - 1 - bits
  | .undefined negative => if negative then -(Whole.wordBound : Int) else Whole.wordBound

end InferenceDispatch
