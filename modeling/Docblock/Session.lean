import Docblock.Buffer
import Docblock.Planner

/-! Editing sessions: comments and file headers are planned for one buffer, one after the other, and each
plan is carried out before the next one is made. -/

set_option autoImplicit false

namespace Docblock

def Buffer.apply (buffer : Buffer) (plan : Plan) : Except NoFirstLine Buffer :=
  buffer.insert plan.lines plan.insertLine plan.insertColumn

def Planner.Outcome.plan? (outcome : Planner.Outcome (Option Plan)) : Option Plan :=
  outcome.result.toOption.join

structure Session where
  buffer : Buffer
  cache : Template.Cache := []

namespace Session

/-- What is asked for: the comment for the declaration near a line, or the header of the file. -/
inductive Request where
  | comment (line : Int)
  | header
  deriving DecidableEq, Repr

def start (text : Text) : Session := { buffer := { document := .ofText text } }

def document (session : Session) : Document := session.buffer.document

def answer (store : Template.Store) (grammar : Grammar) (session : Session) :
    Request → Planner.Outcome (Option Plan)
  | .comment line => Planner.generate store session.cache grammar session.document line
  | .header => Planner.fileHeader store session.cache grammar session.document

/-- The session after a call. A call or an insertion that fails leaves the buffer as it was. -/
def settle (session : Session) (outcome : Planner.Outcome (Option Plan)) : Session where
  buffer := (outcome.plan?.bind fun plan => (session.buffer.apply plan).toOption).getD session.buffer
  cache := outcome.cache

def step (store : Template.Store) (grammar : Grammar) (session : Session) (request : Request) : Session :=
  session.settle (session.answer store grammar request)

def run (store : Template.Store) (grammar : Grammar) (session : Session) (requests : List Request) :
    Session :=
  requests.foldl (step store grammar) session

/-- The plans that were made and carried out, in their order. -/
def plans (store : Template.Store) (grammar : Grammar) : Session → List Request → List Plan
  | _, [] => []
  | session, request :: rest =>
    (session.answer store grammar request).plan?.toList ++
      plans store grammar (session.step store grammar request) rest

end Session

end Docblock
