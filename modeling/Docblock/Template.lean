import Docblock.Dialect
import Docblock.Json.Reader

/-! Comment templates: the bodies that come with the library, and reading a body from a file. -/

set_option autoImplicit false

namespace Docblock.Template

def bundled : Dialect → List (String × List String)
  | .apex =>
    [("class",
      ["/**",
       " * @description $\x7b1:What this type is responsible for\x7d",
       " * @author $\x7b2:author\x7d",
       " * @date $\x7b3:date\x7d",
       " * @group $\x7b4:group\x7d",
       " */"]),
     ("method",
      ["/**",
       " * @description $\x7b1:What this method does\x7d",
       " * @param $\x7b2:paramName\x7d $\x7b3:description\x7d",
       " * @return $\x7b4:description\x7d",
       " * @example",
       " * $\x7b5:example\x7d",
       " */"]),
     ("property",
      ["/**",
       " * @description $\x7b1:What this property holds\x7d",
       " */"]),
     ("enumValue",
      ["/**",
       " * @description $\x7b1:What this value means\x7d",
       " */"])]
  | .javaScript =>
    [("file",
      ["/**",
       " * @file $\x7b1:File purpose\x7d",
       " * @description $\x7b2:What this helper provides\x7d",
       " * @author $\x7b3:author\x7d",
       " */"]),
     ("functions",
      ["/**",
       " * @description $\x7b1:What this function does\x7d",
       " * @param \x7bany\x7d paramName description",
       " * @example",
       " * // usage",
       " */"]),
     ("method",
      ["/**",
       " * @description $\x7b1:What this does\x7d",
       " */"]),
     ("variable",
      ["/**",
       " * @description $\x7b1:What this variable holds\x7d",
       " * @type \x7bany\x7d",
       " */"])]

def textOf? : Json Points → Option Points
  | .text value => some value
  | _ => none

/-- The lines that a value gives as a body: an array of strings, or one string to be cut into lines. -/
def bodyLines? : Json Points → Option (List Points)
  | .text value => some value.proseLines
  | .array items => items.mapM textOf?
  | _ => none

def bodyName : Points := .ofText "body".toList

-- The field `body`; one that is null counts as missing.
def bodyField? (value : Json Points) : Option (Json Points) :=
  match value.lookup bodyName with
  | some .null | none => none
  | some body => some body

/-- The body of a template file: that of the file's object, or else that of its first entry. -/
def body? : Json Points → Option (List Points)
  | .object fields =>
    match bodyField? (.object fields), fields with
    | some body, _ => bodyLines? body
    | none, (_, first) :: _ => (bodyField? first).bind bodyLines?
    | none, [] => none
  | _ => none

end Docblock.Template
