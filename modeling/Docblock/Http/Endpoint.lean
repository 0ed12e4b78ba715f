import Docblock.Http.Target

/-! What the service offers over HTTP: the endpoints, their methods and their paths. -/

set_option autoImplicit false

namespace Docblock.Http

def version : String := "0.1.0"

inductive Endpoint where
  | health
  | alive
  | locate
  | generate
  | fileHeader
  | complete
  deriving DecidableEq, Repr

namespace Endpoint

def all : List Endpoint := [health, alive, locate, generate, fileHeader, complete]

def method : Endpoint → String
  | health | alive => "GET"
  | locate | generate | fileHeader | complete => "POST"

def path : Endpoint → String
  | health => "/health"
  | alive => "/live"
  | locate => "/api/v1/declarations/locate"
  | generate => "/api/v1/docs/generate"
  | fileHeader => "/api/v1/docs/file-header"
  | complete => "/api/v1/completions"

def ofPath? (path : Text) : Option Endpoint := all.find? (·.path.toList == path)

theorem ofPath?_path (endpoint : Endpoint) : ofPath? endpoint.path.toList = some endpoint := by
  cases endpoint <;> decide

end Endpoint

inductive Route where
  | endpoint (endpoint : Endpoint)
  | unknownPath
  | wrongMethod
  deriving DecidableEq, Repr

namespace Route

-- The endpoint of a path. Slashes at the end do not matter.
def endpointOf? (path : Text) : Option Endpoint :=
  (Endpoint.ofPath? path).orElse fun _ =>
    Endpoint.ofPath? (path.reverse.dropWhile (· == '/')).reverse

def find (method target : Text) : Route :=
  match endpointOf? (Target.path target) with
  | none => unknownPath
  | some found => if method = found.method.toList then endpoint found else wrongMethod

end Route

end Docblock.Http
