import InferenceDispatch.Text.Blank
import InferenceDispatch.Text.LetterCase

namespace InferenceDispatch

/-- Where a model runs and who operates it, the strictest tier first. -/
inductive PrivacyTier where
  | onPremises
  /-- In an EU data centre run by an EU company. -/
  | euByEu
  /-- In an EU data centre run by a US company. -/
  | euByUs
  | outsideEu
deriving DecidableEq, Repr, Inhabited

namespace PrivacyTier

def all : List PrivacyTier := [onPremises, euByEu, euByUs, outsideEu]

def strictness : PrivacyTier → Nat
  | onPremises => 3
  | euByEu => 2
  | euByUs => 1
  | outsideEu => 0

/-- Whether a model of this tier may serve a request that asks for `required`. -/
def satisfies (tier required : PrivacyTier) : Bool := required.strictness ≤ tier.strictness

def name : PrivacyTier → String
  | onPremises => "LOCAL"
  | euByEu => "CLOUD_IN_EU_BY_EU_PROVIDER"
  | euByUs => "CLOUD_IN_EU_BY_US_PROVIDER"
  | outsideEu => "CLOUD_NOT_IN_EU_BY_US_PROVIDER"

def ofName? (s : String) : Option PrivacyTier := all.find? fun t => t.name = s

def read? (s : String) : Option PrivacyTier := ofName? (Text.upper (Text.trim s))

def unknownMessage (s : String) : String := "unknown privacy tier '" ++ s ++ "'"

end PrivacyTier

end InferenceDispatch
