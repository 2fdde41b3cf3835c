/-! # Status codes

The outcome that every response carries. -/

set_option autoImplicit false

namespace StorageBroker

inductive StatusCode
  | success
  | notFound
  | badArguments
  | adhocInUse
  | alreadyDeployed
  | invalidState
  | resourceExhausted
  | timeout
  | undetermined
  deriving DecidableEq, Repr

namespace StatusCode

/-- Every code, in the order of the wire format. -/
def all : List StatusCode :=
  [.success, .notFound, .badArguments, .adhocInUse, .alreadyDeployed, .invalidState,
   .resourceExhausted, .timeout, .undetermined]

def name : StatusCode → String
  | .success => "success"
  | .notFound => "not_found"
  | .badArguments => "bad_arguments"
  | .adhocInUse => "adhoc_in_use"
  | .alreadyDeployed => "already_deployed"
  | .invalidState => "invalid_state"
  | .resourceExhausted => "resource_exhausted"
  | .timeout => "timeout"
  | .undetermined => "undetermined"

instance : ToString StatusCode := ⟨name⟩

end StatusCode

end StorageBroker
