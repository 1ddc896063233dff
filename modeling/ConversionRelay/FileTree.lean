import ConversionRelay.Fault
import ConversionRelay.Text.Encoding
/-!
Documents on disk: paths, and a tree of files and directories.

A path is normalised when it is read: empty segments and single dots vanish, a double dot stays. It
is followed through the tree one segment at a time, starting in the working directory or at the top;
only there does a double dot lead back, and only from a directory that exists. What is known of the
disk are the directories that are named on the way; those above the working directory exist, but
nothing is known to stand in them.

Main statement: what is found at the end of a path is a directory exactly if the path leads to one
(`FileTree.find_eq_directory_iff`).
-/
namespace ConversionRelay

/-- A path as written: what it starts from, and its segments. -/
structure FilePath where
  /-- Slashes in front of the segments; none if the path starts in the working directory. -/
  root : Text
  segments : List Text
  deriving DecidableEq, Repr

namespace FilePath

/-- The character between segments. -/
def slash : CodePoint := '/'

/-- Read a path. Two slashes in front are kept, any other number but zero counts as one. -/
def ofText (text : Text) : FilePath :=
  let slashes := (text.takeWhile (· == slash)).length
  { root := if slashes = 0 then "" else if slashes = 2 then "//" else "/"
    segments := (Text.cut slash text).filter fun s => s ≠ "" && s ≠ "." }

/-- A path in its normalised form; the working directory is a single dot. -/
def text (path : FilePath) : Text :=
  if path.root = "" && path.segments.isEmpty then "."
  else path.root ++ Text.join "/" path.segments

/-- The path of the directory that holds what a path names. -/
def parent (path : FilePath) : FilePath := { path with segments := path.segments.dropLast }

/-- The most bytes that a segment may have. -/
def longestSegment : Nat := 255

/-- The most bytes that a path may have. -/
def longest : Nat := 4095

/-- Whether a code point stands for a byte that belongs to no character. -/
def isStrayByte (c : CodePoint) : Bool := 0xdc80 ≤ c.code && c.code ≤ 0xdcff

/-- The number of bytes of a name on disk. -/
def byteSize (name : Text) : Nat :=
  name.foldl (fun size c => size + if isStrayByte c then 1 else (Text.utf8Bytes c).length) 0

/-- What keeps a path from being looked up at all. -/
def obstacle? (path : FilePath) : Option FileObstacle :=
  if path.text.any fun c => c.isSurrogate && !isStrayByte c then some .notEncodable
  else if path.text.any fun c => c.code = 0 then some .badName
  else if longest < byteSize path.text then some .tooLong
  else none

end FilePath

/-- What stands under a name in a directory. -/
inductive FileEntry where
  | file (bytes : List UInt8)
  | directory (entries : List (Text × FileEntry))

/-- What stands in a directory, in the order in which it was made. -/
abbrev Folder := OrderedMap Text FileEntry

/-- What is known of a disk. -/
structure FileTree where
  /-- What stands at the top. -/
  top : Folder
  /-- What stands in the working directory and in those above it, from the inside out. The way back
  down is left out. -/
  levels : List Folder

/-- The directories that names are counted from. -/
inductive Anchor where
  | top
  /-- The directory some levels above the working directory. -/
  | above (levels : Nat)
  deriving DecidableEq, Repr

/-- A directory together with the way to it. -/
structure Place where
  anchor : Anchor
  /-- What stands in the directory. -/
  folder : Folder
  /-- The names that lead to it, the last one first, each with what stands around it. -/
  trail : List (Text × Folder)

/-- Where a path leads. -/
inductive Spot where
  | directory (place : Place)
  /-- A name in a directory under which there is no directory: a file or nothing. -/
  | name (place : Place) (name : Text) (bytes : Option (List UInt8))

namespace FileTree

/-- The tree in which nothing stands. -/
def empty : FileTree := ⟨[], []⟩

/-- What stands in an anchor. -/
def folderAt (tree : FileTree) : Anchor → Folder
  | .top => tree.top
  | .above levels => tree.levels.getD levels []

/-- The place of an anchor. -/
def anchored (tree : FileTree) (anchor : Anchor) : Place := ⟨anchor, tree.folderAt anchor, []⟩

/-- The directory that holds a place. -/
def holder (tree : FileTree) (place : Place) : Place :=
  match place.trail, place.anchor with
  | (_, around) :: trail, anchor => ⟨anchor, around, trail⟩
  | [], .top => place
  | [], .above levels => tree.anchored (.above (levels + 1))

/-- Replace what stands in the directory some levels above the working directory. -/
def setLevel : (levels : Nat) → List Folder → Folder → List Folder
  | 0, folders, new => new :: folders.drop 1
  | levels + 1, folders, new => folders.headD [] :: setLevel levels (folders.drop 1) new

/-- The tree after what stands at a place was replaced. -/
def replace (tree : FileTree) (place : Place) (new : Folder) : FileTree :=
  let outermost := place.trail.foldl
    (fun folder step => OrderedMap.put step.2 step.1 (.directory folder)) new
  match place.anchor with
  | .top => { tree with top := outermost }
  | .above levels => { tree with levels := setLevel levels tree.levels outermost }

/-- Go one segment further from where a directory has to be. -/
def advance (tree : FileTree) (spot : Spot) (segment : Text) : Except FileObstacle Spot :=
  match spot with
  | .name _ _ none => .error .missing
  | .name _ _ (some _) => .error .notDirectory
  | .directory place =>
    if FilePath.longestSegment < FilePath.byteSize segment then .error .tooLong
    else if segment = ".." then .ok (.directory (tree.holder place))
    else
      match OrderedMap.lookup? place.folder segment with
      | some (.directory entries) =>
        .ok (.directory ⟨place.anchor, entries, (segment, place.folder) :: place.trail⟩)
      | some (.file bytes) => .ok (.name place segment (some bytes))
      | none => .ok (.name place segment none)

/-- Where a path leads. Whether anything stands there is another question. -/
def locate (path : FilePath) (tree : FileTree) : Except FileObstacle Spot :=
  match path.obstacle? with
  | some obstacle => .error obstacle
  | none =>
    let start := tree.anchored (if path.root = "" then .above 0 else .top)
    path.segments.foldlM (advance tree) (.directory start)

/-- What stands where a path leads. -/
def find (path : FilePath) (tree : FileTree) : Except FileObstacle FileEntry :=
  match locate path tree with
  | .error obstacle => .error obstacle
  | .ok (.directory place) => .ok (.directory place.folder)
  | .ok (.name _ _ (some bytes)) => .ok (.file bytes)
  | .ok (.name _ _ none) => .error .missing

/-- Whether anything stands where a path leads. -/
def contains (path : FilePath) (tree : FileTree) : Except Fault Bool :=
  match find path tree with
  | .ok _ => .ok true
  | .error .tooLong => .error (.file .tooLong)
  | .error _ => .ok false

/-- The bytes of a file. -/
def read (path : FilePath) (tree : FileTree) : Except Fault (List UInt8) :=
  match find path tree with
  | .ok (.file bytes) => .ok bytes
  | .ok (.directory _) => .error (.file .directory)
  | .error obstacle => .error (.file obstacle)

/-- The text of a file: UTF-8 with line breaks of any convention, without a meaning for byte order
marks. -/
def readText (path : FilePath) (tree : FileTree) : Except Fault Text :=
  (read path tree).bind fun bytes =>
    match Text.decodeUtf8 .refused bytes with
    | .ok text => .ok (Text.plainLineBreaks text)
    | .error problem => .error (.undecodable problem)

/-- Make one directory where nothing stands yet. -/
def makeDirectory (path : FilePath) (tree : FileTree) : Except FileObstacle FileTree :=
  match locate path tree with
  | .error obstacle => .error obstacle
  | .ok (.name place name none) =>
    .ok (tree.replace place (OrderedMap.put place.folder name (.directory [])))
  | .ok _ => .error .exists

/-- Accept a directory that exists already. -/
def acceptDirectory (path : FilePath) (tree : FileTree) (obstacle : FileObstacle) :
    Except Fault FileTree :=
  match find path tree with
  | .ok (.directory _) => .ok tree
  | _ => .error (.file obstacle)

/-- How many directories above each other may be missing. -/
def deepestGap : Nat := 985

/-- Make a directory and those above it that are missing, of which there may not be too many. -/
def makeDirectories : (room : Nat) → FilePath → FileTree → Except Fault FileTree
  | room, path, tree =>
    match makeDirectory path tree with
    | .ok made => .ok made
    | .error .missing =>
      match room with
      | 0 => .error (.file .tooDeep)
      | room + 1 =>
        (makeDirectories room path.parent tree).bind fun above =>
          match makeDirectory path above with
          | .ok made => .ok made
          | .error obstacle => acceptDirectory path above obstacle
    | .error obstacle => acceptDirectory path tree obstacle

/-- Put bytes into a file, which replaces what it held. -/
def write (path : FilePath) (bytes : List UInt8) (tree : FileTree) : Except Fault FileTree :=
  match locate path tree with
  | .error obstacle => .error (.file obstacle)
  | .ok (.directory _) => .error (.file .directory)
  | .ok (.name place name _) =>
    .ok (tree.replace place (OrderedMap.put place.folder name (.file bytes)))

/-- Put a text into a file, making the directories above it. -/
def writeText (path : FilePath) (text : Text) (tree : FileTree) : Except Fault FileTree :=
  (makeDirectories deepestGap path.parent tree).bind fun made =>
    match Text.encodeUtf8 text with
    | .ok bytes => write path bytes made
    | .error problem => .error (.unencodable problem)

/-- The tree that holds the given files, with the directories that their paths name. -/
def ofFiles (files : List (Text × List UInt8)) : FileTree :=
  files.foldl
    (fun tree file =>
      let path := FilePath.ofText file.1
      match (makeDirectories path.segments.length path.parent tree).bind (write path file.2) with
      | .ok next => next
      | .error _ => tree)
    empty

mutual
/-- The files at or below an entry, with their paths; the names that lead to the entry are given,
the last one first. -/
def filesUnder (names : List Text) : FileEntry → List (Text × List UInt8)
  | .file bytes => [(Text.join "/" names.reverse, bytes)]
  | .directory entries => filesAmong names entries

/-- The files at or below several entries of a directory. -/
def filesAmong (names : List Text) : List (Text × FileEntry) → List (Text × List UInt8)
  | [] => []
  | (name, entry) :: rest => filesUnder (name :: names) entry ++ filesAmong names rest
end

/-- The files below the working directory, with their paths. -/
def files (tree : FileTree) : List (Text × List UInt8) :=
  filesAmong [] (tree.folderAt (.above 0))

/-- A directory is found where a path leads to one. -/
theorem find_eq_directory_iff {path : FilePath} {tree : FileTree} {entries : Folder} :
    find path tree = .ok (.directory entries) ↔
      ∃ place, locate path tree = .ok (.directory place) ∧ place.folder = entries := by
  unfold find
  split <;> rename_i h <;> simp [h]

end FileTree

end ConversionRelay
