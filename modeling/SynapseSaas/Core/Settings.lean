import Mathlib.Init

/-! The settings the modelled services read. -/

set_option autoImplicit false

namespace SynapseSaas

structure Settings where
  defaultPlanKey : String := "free"
  graceOnPastDue : Bool := true
  billingProvider : String := "manual"
  billingCurrency : String := "PHP"
  secretKeys : List String := []        -- the providers whose secret key is set
  deriving DecidableEq, Repr

end SynapseSaas
