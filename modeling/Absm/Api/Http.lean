import Absm.Foundation.Json
import Absm.Foundation.Python

/-! Requests, responses and exceptions of the API. -/

namespace Absm

/-- A request; the names of its headers are in lower case. -/
structure Request where
  /-- The method. -/
  method : String
  /-- The path of the URL. -/
  path : String
  /-- Names and values of the headers, in order. -/
  headers : List (String × String)
  /-- The host of the client, if it is known. -/
  client : Option String
  deriving DecidableEq

/-- The value of a header, of which the first counts. -/
def Request.header (request : Request) (name : String) : Option String :=
  -- Header names are in lower case, as the server hands them over.
  lookupEntry name request.headers

/-- The `Authorization` header of a request, which is empty when it is missing. -/
def Request.authorization (request : Request) : String :=
  -- A missing header counts as an empty one.
  (request.header "authorization").getD ""

/-- A response. -/
structure Response (K : Type) where
  /-- The status code. -/
  statusCode : Nat
  /-- The headers. -/
  headers : Dict String String
  /-- The content, before it becomes text. -/
  content : Json K

/-- A response with some content and no headers of its own. -/
def Response.json {K : Type} (statusCode : Nat) (content : Json K) : Response K :=
  ⟨statusCode, .empty, content⟩

/-- An `HTTPException`. -/
structure HTTPException where
  /-- The status code of the response that it becomes. -/
  statusCode : Nat
  /-- What that response says. -/
  detail : String
  deriving DecidableEq

/-- The exceptions that come out of a route. -/
inductive ApiException where
  /-- An exception of a dependency or a handler that is meant to become a response. -/
  | http (exception : HTTPException)
  /-- A `RateLimitExceeded`, with the limit. -/
  | rateLimitExceeded (limit : String)
  /-- Any exception that nothing makes a response of. -/
  | unhandled (error : PyError)
  deriving DecidableEq

/-- What changes from request to request: the clock has been read some times, and the limiter has
counted. -/
structure Site (S : Type) where
  /-- How often the clock was read. -/
  readings : Nat
  /-- What the limiter has counted. -/
  limits : S

/-- The site after a look at the clock. -/
def Site.tick {S : Type} (site : Site S) : Site S :=
  -- Only the number of readings changes.
  { site with readings := site.readings + 1 }

@[simp] theorem Site.tick_readings {S : Type} (site : Site S) :
    site.tick.readings = site.readings + 1 := rfl

end Absm
