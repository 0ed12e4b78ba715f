import Docblock.Template.Store

/-! Shelves: a store of templates with the cache in front of it. Files come and go in the store while templates
are read, straight from the store or through the cache. -/

set_option autoImplicit false

namespace Docblock.Template

abbrev Key := Dialect × Text

structure Shelf where
  store : Store
  cache : Cache := []

namespace Shelf

inductive Action where
  | write (path : Path) (content : ByteArray)
  | delete (path : Path)
  | load (key : Key)
  | get (key : Key)

def load (shelf : Shelf) (key : Key) : Except Error (List Points) := shelf.store.load key.1 key.2

def get (shelf : Shelf) (key : Key) : Except Error Fetched := shelf.cache.get shelf.store key.1 key.2

/-- The shelf after an action. A get that fails leaves it as it was. -/
def step (shelf : Shelf) : Action → Shelf
  | .write path content => { shelf with store := shelf.store.write path content }
  | .delete path => { shelf with store := shelf.store.delete path }
  | .load _ => shelf
  | .get key =>
    match shelf.get key with
    | .ok fetched => { shelf with cache := fetched.cache }
    | .error _ => shelf

def run (shelf : Shelf) (actions : List Action) : Shelf := actions.foldl step shelf

/-- A get in a run: what the store held at that time, and what was got. -/
structure Attempt where
  key : Key
  store : Store
  result : Except Error (List Points)

def Attempt.succeeded (attempt : Attempt) : Bool := attempt.result.isOk

def attempt? (shelf : Shelf) : Action → Option Attempt
  | .get key => some ⟨key, shelf.store, (shelf.get key).map (·.rows)⟩
  | _ => none

/-- The gets of a run, in their order. -/
def attempts : Shelf → List Action → List Attempt
  | _, [] => []
  | shelf, action :: rest => (shelf.attempt? action).toList ++ attempts (shelf.step action) rest

def firstGot? (key : Key) (attempts : List Attempt) : Option Attempt :=
  attempts.find? fun attempt => attempt.key == key && attempt.succeeded

end Shelf

end Docblock.Template
