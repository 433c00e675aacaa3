import Waymark.Http.Request
import Waymark.Table

/-!
# Waymark.Http.Response

Responses as handlers give them, and what of them is sent.

Design points:

* a handler spells header names as it likes, and the last value given for a
  spelling counts;
* `Response.send` is all that happens to a response on its way out: ill-formed
  headers are dropped and names are put into lower case.
-/

namespace Waymark.Http

/-- A handler's answer. -/
structure Response where
  /-- The status code. -/
  status : Nat
  /-- The headers, by the name as spelled. -/
  headers : Table String := {}
  /-- The body, if there is one. -/
  body : Option Bytes := none
  deriving Inhabited

namespace Response

/-- A response without headers and body. Codes outside of 100 to 999 become 500. -/
def ofStatus (code : Nat) : Response :=
  { status := if 100 ≤ code ∧ code ≤ 999 then code else 500 }

/-- A response with a body. -/
def withBody (code : Nat) (body : Bytes) : Response :=
  { ofStatus code with body := some body }

/-- Add a header. -/
def header (response : Response) (name value : String) : Response :=
  { response with headers := response.headers.insert name value }

/-- A response with plain text. -/
def plainBytes (code : Nat) (body : Bytes) : Response :=
  (withBody code body).header "Content-Type" "text/plain"

/-- A response with plain text. -/
def plain (code : Nat) (text : String) : Response :=
  plainBytes code (Text.encode text)

/-- The answer to a request that makes no sense. -/
def badRequest : Response := plain 400 "Bad Request"

/-- The answer when there is nothing to show. -/
def notFound : Response := plain 404 "Not Found"

/-- The answer when the server is at fault. -/
def internalError : Response := plain 500 "Internal Server Error"

end Response

/-- A response as sent. -/
structure SentResponse where
  /-- The status code. -/
  status : Nat
  /-- The headers, by the name in lower case. -/
  headers : Table String
  /-- The body; nothing is sent for a body that is missing. -/
  body : Bytes

/-- The headers that are sent for some that a handler gave. Those that are not
well-formed are left out; of names that differ in case only, the last counts. -/
def sentHeaders (headers : List (String × String)) : Table String :=
  .ofList <| (headers.filter fun (name, value) =>
    isHeaderName name && isHeaderValue (Text.encode value)).map
      fun (name, value) => (lowerCase name, value)

/-- What is sent of a response. -/
def Response.send (response : Response) : SentResponse :=
  ⟨response.status, sentHeaders response.headers.entries, response.body.getD []⟩

end Waymark.Http
