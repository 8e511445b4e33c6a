import Gleaner.Json.Value
import Gleaner.Page
import Gleaner.Text.LowerCase

/-!
# Requests over HTTP

What goes to a host and what comes back. An exchange may fail below HTTP, in the reading of
the response, or in a way that has nothing to do with either.
-/

set_option autoImplicit false

namespace Gleaner

inductive HttpMethod where
  | get
  | post
  deriving DecidableEq, Repr

def HttpMethod.name : HttpMethod → String
  | .get => "GET"
  | .post => "POST"

structure HttpRequest where
  method : HttpMethod
  url : String
  authorization : String
  contentType : String
  body : Option Json := none

structure HttpResponse where
  status : Nat := 200
  headers : List (String × String) := []
  body : String := ""

namespace HttpResponse

def succeeded (response : HttpResponse) : Bool :=
  200 ≤ response.status && response.status < 300

/-- The value of a header, whose name does not heed case; several are joined. -/
def header? (name : String) (response : HttpResponse) : Option String :=
  match response.headers.filter fun header => header.1.toLower = name with
  | [] => none
  | found => some (", ".intercalate (found.map (·.2)))

end HttpResponse

inductive HttpFault where
  /-- The host was not reached or did not answer. -/
  | unreachable (message : String)
  /-- The answer could not be taken. -/
  | broken (name message : String)
  | other (fault : Fault)

/-- The way on which requests go out. -/
structure Transport (σ : Type) where
  send : HttpRequest → StateM σ (Except HttpFault HttpResponse)

end Gleaner
