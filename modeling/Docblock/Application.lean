import Docblock.Http.Endpoint
import Docblock.Log

/-! The application as a whole: what it calls itself, how it is started, and what it reports about that. -/

set_option autoImplicit false

namespace Docblock.Application

def title : String := "Doc Generator API"

def description : String := "ApexDoc and JSDoc comment generation from declaration scanning"

def routes : List (String × String) :=
  (Http.Endpoint.all.map fun endpoint => (endpoint.method, endpoint.path)).mergeSort fun first second =>
    decide (first.1 < second.1) || first.1 == second.1 && decide (first.2 ≤ second.2)

def startEvents (settings : Settings) : List Event :=
  [.configured settings.debug settings.templateFolder, .starting Http.version]

def events (settings : Settings) : List Event := startEvents settings ++ [.stopped]

structure Launch where
  host : Text
  tcpPort : Int
  level : Level
  reload : Bool
  accessLog : Bool
  deriving DecidableEq, Repr

-- Debugging brings reloading and a log of each access.
def launch (settings : Settings) : Launch where
  host := settings.host
  tcpPort := settings.tcpPort
  level := settings.level
  reload := settings.debug
  accessLog := settings.debug

end Docblock.Application
