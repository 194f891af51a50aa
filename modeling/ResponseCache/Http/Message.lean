import ResponseCache.Http.Method
import ResponseCache.Http.Header
import ResponseCache.Http.Uri
/-!
# Requests and responses

A request has a method, a target, headers and a body; a response has a status code, headers and
a body. Bodies are whole byte lists.
-/

namespace ResponseCache
namespace Http

/-- An HTTP request with its whole body. -/
structure Request where
  /-- The method. -/
  method : Method
  /-- The target. -/
  uri : Uri
  /-- The header fields. -/
  headers : Headers := {}
  /-- The body. -/
  body : List UInt8 := []

/-- An HTTP response with its whole body. -/
structure Response where
  /-- The status code, from 100 to 999. -/
  status : Nat
  /-- The header fields. -/
  headers : Headers := {}
  /-- The body. -/
  body : List UInt8 := []
deriving DecidableEq, Repr

namespace Response

/-- A response with a status, a text body and no headers. -/
def plain (status : Nat) (text : String) : Response := ⟨status, {}, text.toUTF8.toList⟩

/-- Whether the status is a success, 200 to 299. -/
def isSuccess (r : Response) : Bool := 200 ≤ r.status && r.status ≤ 299

end Response

/-- Whether a number is a status code. -/
def isStatusCode (n : Nat) : Bool := 100 ≤ n && n ≤ 999

end Http
end ResponseCache
