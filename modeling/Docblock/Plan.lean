import Docblock.Declaration

/-! What is known about a declaration, and the comment that is planned for it. -/

set_option autoImplicit false

namespace Docblock

structure Info where
  site : Site
  insertLine : Nat
  enclosingType : Option Text
  parameters : List Text
  deriving DecidableEq, Repr

/-- A comment, and where it goes. -/
structure Plan where
  templateName : Text
  lines : List Text
  insertLine : Int
  insertColumn : Int := 0
  kind : Option Kind := none
  declarationLine : Option Int := none
  parameters : List Text := []
  isFileHeader : Bool := false
  deriving DecidableEq, Repr

def Plan.snippet (plan : Plan) : Text := Text.join ['\n'] plan.lines ++ ['\n']

end Docblock
