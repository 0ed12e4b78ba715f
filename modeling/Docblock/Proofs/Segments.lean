import Docblock.Proofs.FunctionLines
import Docblock.Proofs.Parameters

/-! Segments of parameter lists. In both dialects a list that is put together of segments is cut into the same segments
again, if their brackets are closed, and whatever is cut, nothing but commas gets lost. -/

set_option autoImplicit false

namespace Docblock.Dialect

open Signature

theorem distinct_nesting (dialect : Dialect) (windows : Windows) : Distinct (dialect.grammar windows).nesting := by
  cases dialect with
  | apex => exact Apex.distinct_nesting
  | javaScript => exact JavaScript.distinct_nesting

/-- Segments with nested brackets and no comma outside them are found again, trimmed and without the blank ones. Of any
list at all, closed or not, the pieces that it is cut into give the list again when commas are put between them. -/
theorem split_segments (dialect : Dialect) (windows : Windows) :
    (∀ segments : List Text, (∀ segment ∈ segments, Nested (dialect.grammar windows).nesting false segment) →
      split (dialect.grammar windows).nesting (Text.join [','] segments) = (segments.filter (!·.blank)).map Text.trim) ∧
    ∀ list : Text,
      Text.join [','] (pieces (dialect.grammar windows).nesting [] list) = list ∧
      split (dialect.grammar windows).nesting list =
        ((pieces (dialect.grammar windows).nesting [] list).filter (!·.blank)).map Text.trim := by
  constructor
  · intro segments nested
    have distinct := dialect.distinct_nesting windows
    have carried (segment : Text) (member : segment ∈ segments) :
        Carries (dialect.grammar windows).nesting [] segment [] := (nested segment member).carries distinct
    rw [split_join distinct carried, Text.filled_trim]
  · intro list
    exact ⟨join_pieces _ [] list, Text.filled_trim _⟩

-- A blank segment is dropped. Commas between braces part no segments in Apex; in a script they do, so that a brace may
-- be left open there.
theorem split_segments_with_braces :
    (∀ segment ∈ ["final Map<Id, List<X>> found".toList, " ".toList, " pick(\x7ba, b\x7d) ".toList],
      Nested (apex.grammar {}).nesting false segment) ∧
    split (apex.grammar {}).nesting "final Map<Id, List<X>> found, , pick(\x7ba, b\x7d) ".toList =
      ["final Map<Id, List<X>> found".toList, "pick(\x7ba, b\x7d)".toList] ∧
    (∀ segment ∈ ["\x7b from".toList, " to \x7d = seek(1, 2)".toList],
      Nested (javaScript.grammar {}).nesting false segment) ∧
    split (javaScript.grammar {}).nesting "\x7b from, to \x7d = seek(1, 2)".toList =
      ["\x7b from".toList, "to \x7d = seek(1, 2)".toList] := by
  have nested_apex : ∀ segment ∈ ["final Map<Id, List<X>> found".toList, " ".toList, " pick(\x7ba, b\x7d) ".toList],
      Nested (apex.grammar {}).nesting false segment := by
    have found : Nested (apex.grammar {}).nesting false "final Map<Id, List<X>> found".toList :=
      .plains "final Map".toList (by decide) <| .group (by decide : ('<', '>') ∈ _)
        (.plains "Id, List".toList (by decide) <| .group (by decide : ('<', '>') ∈ _)
          (.plains "X".toList (by decide) .nil) .nil)
        (.plains " found".toList (by decide) .nil)
    have blank : Nested (apex.grammar {}).nesting false " ".toList := .plains " ".toList (by decide) .nil
    have pick : Nested (apex.grammar {}).nesting false " pick(\x7ba, b\x7d) ".toList :=
      .plains " pick".toList (by decide) <| .group (by decide : ('(', ')') ∈ _)
        (.group (by decide : ('\x7b', '\x7d') ∈ _) (.plains "a, b".toList (by decide) .nil) .nil)
        (.plains " ".toList (by decide) .nil)
    simpa using ⟨found, blank, pick⟩
  have nested_script : ∀ segment ∈ ["\x7b from".toList, " to \x7d = seek(1, 2)".toList],
      Nested (javaScript.grammar {}).nesting false segment := by
    have front : Nested (javaScript.grammar {}).nesting false "\x7b from".toList :=
      .plains "\x7b from".toList (by decide) .nil
    have seek : Nested (javaScript.grammar {}).nesting false " to \x7d = seek(1, 2)".toList :=
      .plains " to \x7d = seek".toList (by decide) <| .group (by decide : ('(', ')') ∈ _)
        (.plains "1, 2".toList (by decide) .nil) .nil
    simpa using ⟨front, seek⟩
  exact ⟨nested_apex, ((split_segments apex {}).1 _ nested_apex).trans (by decide), nested_script,
    ((split_segments javaScript {}).1 _ nested_script).trans (by decide)⟩

end Docblock.Dialect
