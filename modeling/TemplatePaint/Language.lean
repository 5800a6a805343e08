/-!
# Template languages

A document is a template if the last part of its path has one of the
extensions of the language. A name that is nothing but an extension has none.
-/

namespace TemplatePaint

/-- A language of templates, and the extensions of its files. -/
structure Language where
  name : String
  extensions : List String
deriving DecidableEq

namespace Language

/-- The language that templates are written in if no other is given. -/
def default : Language := ⟨"Embedded Ruby", ["erb"]⟩

/-- The characters between the parts of a path. -/
def isPathSeparator (c : Char) : Bool := c == '/' || c == '\\'

/-- The last part of a path. -/
def fileName (path : List Char) : List Char :=
  (path.reverse.takeWhile (!isPathSeparator ·)).reverse

/-- What follows the last dot of a file name, if something precedes that dot. -/
def extension? (file : List Char) : Option (List Char) :=
  match file.reverse.dropWhile (· != '.') with
  | [] | ['.'] => none
  | _ => some (file.reverse.takeWhile (· != '.')).reverse

/-- The two texts are equal but for the case of ASCII letters. -/
def equalIgnoringCase (a b : List Char) : Bool := a.map Char.toLower == b.map Char.toLower

/-- The document at this path is a template of the language. -/
def claims (l : Language) (path : String) : Bool :=
  (extension? (fileName path.toList)).any fun ext =>
    l.extensions.any fun candidate => equalIgnoringCase candidate.toList ext

end Language

end TemplatePaint
