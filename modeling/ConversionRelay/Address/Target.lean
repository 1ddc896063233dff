import ConversionRelay.Address.Form
import ConversionRelay.Address.Host
import ConversionRelay.Fault
/-!
Targets of requests below a base.

A target is cut into an authority, a path, a query and a fragment, each of which is checked. Only
the path and the query are put below the base; so an authority in a target is checked but never
followed. Paths and queries keep every printable character of ASCII that has no meaning of its own
there, and a path loses its segments of one or two dots.

Main statement: a path without dots is left as it is (`withoutDots_of_not_mem`).
-/
namespace ConversionRelay.Address

open Text

/-- The parts of a target. -/
structure Target where
  authority : Text
  path : Text
  query : Option Text
  fragment : Text

/-- The parts of an authority. -/
structure Authority where
  user : Text
  host : Text
  portText : Text

/-- The character between the segments of a path. -/
def slash : CodePoint := '/'

/-- The character before a query. -/
def queryMark : CodePoint := '?'

/-- The character before a fragment. -/
def fragmentMark : CodePoint := '#'

/-- The character behind the user of an authority. -/
def userMark : CodePoint := '@'

/-- The part of a text before the first of some marks, and the rest. -/
def splitAtAny (marks : List CodePoint) (s : Text) : Text × Text :=
  s.span fun c => !marks.contains c

/-- Cut a target, which begins with a slash, into its parts. -/
def Target.ofText (target : Text) : Target :=
  let named := match target with
    | .char '/' :: .char '/' :: rest => splitAtAny [slash, queryMark, fragmentMark] rest
    | other => ([], other)
  let located := splitAtAny [queryMark, fragmentMark] named.2
  let asked := match located.2 with
    | .char '?' :: rest => let found := splitAtAny [fragmentMark] rest; (some found.1, found.2)
    | other => (none, other)
  ⟨named.1, located.1, asked.1, asked.2.drop 1⟩

/-- What stands before the last occurrence of a character, and the rest. -/
def splitAtLast (c : CodePoint) (s : Text) : Option (Text × Text) :=
  let after := (s.reverse.takeWhile (· != c)).reverse
  if after.length = s.length then none
  else some ((s.take (s.length - after.length)).dropLast, after)

/-- The host at the front of a text: what stands in brackets up to the last closing one, or else
what stands before a colon. -/
def takeHost (s : Text) : Text × Text :=
  match s with
  | .char '[' :: _ =>
    match splitAtLast ']' s with
    | some (inside, rest) => (inside ++ "]", rest)
    | none => splitAtAny [colon] s
  | _ => splitAtAny [colon] s

/-- Cut an authority into its parts. -/
def Authority.ofText (s : Text) : Authority :=
  let found := (splitAtLast userMark s).getD ([], s)
  let named := takeHost found.2
  let portText := match named.2 with
    | .char ':' :: rest => rest
    | other => other
  ⟨found.1, named.1, portText⟩

/-- Whether an authority says anything. -/
def Authority.isGiven (authority : Authority) : Bool :=
  !authority.user.isEmpty || !authority.host.isEmpty || !authority.portText.isEmpty

/-- What is wrong with the host of an authority or the number behind it, if anything is. -/
def Authority.flaw? (authority : Authority) : Option AddressFlaw :=
  match hostFlaw? authority.host with
  | some flaw => some flaw
  | none =>
    if authority.portText.isEmpty || isWholeNumber authority.portText then none
    else some (.badPort authority.portText)

/-- Whether a character is kept in a query. -/
def isQuerySafe (c : CodePoint) : Bool :=
  0x20 < c.code && c.code < 0x7f && !("\x22#<>" : Text).contains c

/-- Whether a character is kept in a path. -/
def isPathSafe (c : CodePoint) : Bool := isQuerySafe c && !("?\x60\x7b\x7d" : Text).contains c

/-- A segment that stays where it is. -/
def singleDot : Text := "."

/-- A segment that takes the last one back. -/
def doubleDot : Text := ".."

/-- Take a segment of a path. The list of segments taken has the last one in front. -/
def takeSegment (taken : List Text) (segment : Text) : List Text :=
  if segment = singleDot then taken
  else if segment = doubleDot then (if taken.isEmpty || taken == [[]] then taken else taken.tail)
  else segment :: taken

/-- A path without segments of one or two dots. -/
def withoutDots (path : Text) : Text :=
  let segments := cut slash path
  if segments.contains singleDot || segments.contains doubleDot then
    join "/" (segments.foldl takeSegment []).reverse
  else path

/-- The most characters that an address, or a part of it, may have. -/
def longestPart : Nat := 65536

/-- What keeps a text from being looked at as an address, if anything does. -/
def outerFlaw? (target : Text) : Option AddressFlaw :=
  let valid := target.takeWhile fun c => !c.isControl
  if longestPart < target.length then some .tooLong
  else
    match target.drop valid.length with
    | [] => none
    | c :: _ => some (.control c valid.length)

/-- Refuse a flaw. -/
def refuse : Option AddressFlaw → Except Fault Unit
  | none => .ok ()
  | some flaw => .error (.notAddress flaw)

/-- A part of an address with its bytes where they are needed. -/
def escapedPart (kept : CodePoint → Bool) (s : Text) : Except Fault Text :=
  (escape kept s).mapError .unencodable

/-- The path and the query of a target as they are sent, after all its parts were checked. -/
def checked (target : Text) : Except Fault (Text × Option Text) := do
  refuse (outerFlaw? target)
  let found := Target.ofText target
  let authority := Authority.ofText found.authority
  let _ ← escapedPart isPathSafe authority.user
  refuse authority.flaw?
  if !authority.isGiven && Text.startsWith found.path "//" then
    refuse (some .authorityInPath)
  let path ← escapedPart isPathSafe
    (if authority.isGiven then withoutDots found.path else found.path)
  let query ← found.query.mapM (escapedPart isQuerySafe)
  let _ ← escapedPart isQuerySafe found.fragment
  return (path, query)

/-- Refuse a part that is too long. -/
def refuseLong (part : AddressPart) (s : Text) : Except Fault Unit :=
  refuse (if longestPart < s.length then some (.partTooLong part) else none)

/-- The address of a target below a base that has no path of its own. -/
def below (base target : Text) : Except Fault Text := do
  let (path, query) ← checked target
  let path := "/" ++ path.dropWhile (· == slash)
  refuseLong .path path
  refuseLong .query (query.getD [])
  let asked : Text := match query with
    | none => ""
    | some query => "?" ++ query
  return base ++ withoutDots path ++ asked

/-- An address with a form as its query. -/
def withForm (address : Text) (pairs : List (Text × Text)) : Except Fault Text := do
  let query ← (form pairs).mapError Fault.unencodable
  refuseLong .query query
  return address ++ "?" ++ query

/-- A path without dots is left as it is. -/
theorem withoutDots_of_not_mem {path : Text} (single : singleDot ∉ cut slash path)
    (double : doubleDot ∉ cut slash path) : withoutDots path = path := by
  simp [withoutDots, single, double]

end ConversionRelay.Address
