import ConversionRelay.Text.Case
import ConversionRelay.Text.Pieces
/-!
Guessing a data layer path from the name of a variable.

Four rules are tried in order on the trimmed name. A name with a dot is a path already; a name in
camel case is cut before each capital; a name with a space is a label and tells nothing; a name that
begins like a well-known branch of the data layer is its own path. A name that no rule accepts has
no path.
-/
namespace ConversionRelay.NamePath

open Text

/-- The beginnings of names that are paths of their own. -/
def knownBranches : List Text :=
  ["event", "page", "ecommerce", "user", "google_tag_params", "enhanced ecommerce data"]

/-- Whether a text is a lower-case letter of ASCII followed by letters of ASCII; one line feed at
the end is overlooked. -/
def isCamelShape (name : Text) : Bool :=
  let body := if name.getLast? = some '\n' then name.dropLast else name
  match body with
  | [] => false
  | c :: rest => c.isLower && rest.all CodePoint.isLetter

/-- Whether a name is in camel case and has a capital. -/
def isCamelCase (name : Text) : Bool := isCamelShape name && lower name != name

/-- A text with a dot before each capital of ASCII. -/
def dotCapitals (name : Text) : Text :=
  name.flatMap fun c => if c.isUpper then ['.', c] else [c]

/-- The path of a name in camel case. -/
def ofCamelCase (name : Text) : Text :=
  (lower (dotCapitals name)).dropWhile (· == '.')

/-- Whether a text begins like a known branch. -/
def startsKnown (name : Text) : Bool :=
  knownBranches.any fun branch => startsWith name branch

/-- The path of a trimmed name. -/
def ofTrimmed? (name : Text) : Option Text :=
  if name.contains '.' then some (removeBlanks (lower name))
  else if isCamelCase name then some (ofCamelCase name)
  else if name.contains ' ' then none
  else if startsKnown (lower name) then some (lower name)
  else none

/-- The path that a name suggests, if any. -/
def ofName? (name : Text) : Option Text := ofTrimmed? (trim name)

end ConversionRelay.NamePath
