import StorageBroker.IoError
import StorageBroker.StatusCode
import StorageBroker.Wire.Decoder

/-! # Network errors

What can go wrong below a call: input and output, framing, decoding, and answers that are not the
expected ones. -/

set_option autoImplicit false

namespace StorageBroker

/-- Why a network operation fails. -/
inductive NetError
  | io (e : IoError)
  | serialization (text : String)
  | frameTooLarge (size limit : Nat)
  | closed
  | remote (code : StatusCode) (message : String)
  | unexpectedReply (text : String)
  | unresolved (text : String)
  deriving DecidableEq, Repr

namespace NetError

/-- The status code that an error is answered with; the code of a remote error is kept. -/
def code : NetError → StatusCode
  | .remote code _ => code
  | .io (.timedOut _) => .timeout
  | .frameTooLarge _ _ => .badArguments
  | .unresolved _ => .notFound
  | .io _ | .serialization _ | .closed | .unexpectedReply _ => .undetermined

def message : NetError → String
  | .io e => "io error: " ++ e.text
  | .serialization text => "serialization error: " ++ text
  | .frameTooLarge size limit => s!"frame too large: {size} bytes (max {limit})"
  | .closed => "connection closed by peer"
  | .remote code message => s!"remote error {code}: " ++ message
  | .unexpectedReply text => "unexpected reply: " ++ text
  | .unresolved text => "cannot resolve " ++ text

def ofWire (e : WireError) : NetError := .serialization e.text

end NetError

end StorageBroker
