import TemplatePaint.Distinct
import TemplatePaint.Span.Basic
import TemplatePaint.Text.LowerCase

/-!
# Identifiers

Two names mean the same controller or frame if their normal forms are equal:
letters are compared in lower case, and an underscore counts as a hyphen.
-/

namespace TemplatePaint

/-- The normal form of an identifier. -/
def normalize (name : String) : String :=
  String.ofList (name.toList.flatMap fun c => lowerCase (if c = '_' then '-' else c))

/-- The distinct normal forms of some names, in written order. -/
def distinctIdentifiers (names : List Name) : List String :=
  distinct (names.map fun name => normalize name.text)

end TemplatePaint
