import Alert2IR.Core.Text

/-!
# HTTP responses
-/

namespace Alert2IR

/-- An HTTP response, as far as a client reads it. -/
structure Response where
  statusCode : Nat
  content : List UInt8
  headers : List (String × String)
deriving DecidableEq

/-- `headers.get_list(name)`; names of headers are compared without regard to case. -/
def Response.getList (response : Response) (name : String) : List String :=
  (response.headers.filter fun header => lower header.1 = lower name).map Prod.snd

end Alert2IR
