/-!
# Options

What a compiler can be asked to do differently.
-/

set_option autoImplicit false

namespace JsonSchema

structure Options where
  /-- Report every violation, and not only the first. -/
  allErrors : Bool := false
  /-- Let keywords take their values from the data. -/
  data : Bool := false
  /-- Refuse schemas with unknown keywords. -/
  strictKeywords : Bool := false
  /-- Leave strings of unknown formats unchecked. -/
  ignoreUnknownFormats : Bool := false
deriving DecidableEq, Inhabited

end JsonSchema
