import CorpusLint.Text.Basic

/-!
# Files and directories

A tree of files is what a path can lead to. A *disk* is the function that says where each path
leads; all that reads files is a function of the disk, whether that is a tree in memory or the files
of a computer. A path is a text whose components are separated by slashes, and one that is too long
leads nowhere.

A tree is changed by writing a file, making a directory and removing what a path leads to. What a
path leads through is made before the new node at its end, and that includes the directories that it
leaves again. A path that leads above the topmost directory changes nothing.
-/

namespace CorpusLint

inductive FileTree where
  | file (bytes : ByteArray)
  | directory (entries : List (Text × FileTree))

/-- Where each path leads. -/
abbrev Disk := Text → Option FileTree

namespace Path

/-- The path `right` as seen from `left`. An absolute path is the same from everywhere. -/
def join (left right : Text) : Text :=
  if right.head? = some '/' then right
  else if left = [] || left.getLast? = some '/' then left ++ right
  else left ++ '/' :: right

/-- How many bytes a path may have. -/
def maxBytes : Nat := 4095

/-- Whether a path is short enough to lead anywhere. -/
def fits (path : Text) : Bool :=
  path.byteSize ≤ maxBytes

end Path

namespace FileTree

/-- The entries of a directory, each name once, with the node that it leads to. -/
def listing (entries : List (Text × FileTree)) : List (Text × FileTree) :=
  (entries.map (·.1)).eraseDups.filterMap fun name => (entries.lookup name).map (name, ·)

/-- The node that the components lead to from `node`, where `above` are the directories above it,
the nearest first. Nothing lies beyond a file or above the topmost directory. -/
def walk : List Text → FileTree → List FileTree → Option FileTree
  | [], node, _ => some node
  | _ :: _, file _, _ => none
  | component :: rest, directory entries, above =>
    if component = [] || component = ['.'] then walk rest (directory entries) above
    else if component = "..".toList then
      match above with
      | [] => none
      | parent :: above => walk rest parent above
    else
      match entries.lookup component with
      | none => none
      | some node => walk rest node (directory entries :: above)

/-- The disk whose current directory is the tree. It has no absolute paths, and the empty path leads
nowhere. -/
def disk (tree : FileTree) : Disk := fun path =>
  if path = [] || path.head? = some '/' || !Path.fits path then none
  else walk (path.splitOn '/') tree []

end FileTree

namespace Disk

def file? (disk : Disk) (path : Text) : Option ByteArray :=
  match disk path with
  | some (.file bytes) => some bytes
  | _ => none

/-- The entries of the directory that a path leads to, each name once. Those that no path from there
is short enough for are left out. -/
def directory? (disk : Disk) (path : Text) : Option (List (Text × FileTree)) :=
  match disk path with
  | some (.directory entries) =>
    some ((FileTree.listing entries).filter fun entry => Path.fits (Path.join path entry.1))
  | _ => none

end Disk

/-- The text of a file, if it is UTF-8. -/
def Text.ofUtf8? (bytes : ByteArray) : Option Text :=
  (String.fromUTF8? bytes).map String.toList

/-! ## Changing a tree -/

namespace FileTree

/-- The entries with the node under the name. -/
def putEntry (name : Text) (node : FileTree) (entries : List (Text × FileTree)) :
    List (Text × FileTree) :=
  entries.filter (·.1 != name) ++ [(name, node)]

/-- The tree with `change` applied to the node that names lead down to, which may be missing.
Directories are made on the way to a new node, and what is in their way gives way. Nothing is made
on the way to a node that stays missing. -/
def update (change : Option FileTree → Option FileTree) :
    List Text → Option FileTree → Option FileTree
  | [], node => change node
  | name :: rest, some (directory entries) =>
    match update change rest (entries.lookup name) with
    | some child => some (directory (putEntry name child entries))
    | none => some (directory (entries.filter (·.1 != name)))
  | name :: rest, node =>
    match update change rest none with
    | some child => some (directory [(name, child)])
    | none => node

/-- The tree with a change at the end of the names. -/
def edit (names : List Text) (change : Option FileTree → Option FileTree) (tree : FileTree) :
    FileTree :=
  (update change names (some tree)).getD (directory [])

/-- The tree with a directory at the end of the names. One that is there already is kept. -/
def openDirectory (tree : FileTree) (names : List Text) : FileTree :=
  tree.edit names fun
    | some (directory entries) => some (directory entries)
    | _ => some (directory [])

/-- Where components lead from a place: the places on the way, and the one at the end. A place is
given by the names that lead down to it, and `here` has these the last one first. -/
def routeFrom? (here : List Text) : List Text → Option (List (List Text) × List Text)
  | [] => some ([], here.reverse)
  | component :: rest =>
    if component = [] || component = ['.'] then routeFrom? here rest
    else if component = "..".toList then
      match here with
      | [] => none
      | _ :: above => (routeFrom? above rest).map fun (way, place) => (here.reverse :: way, place)
    else
      (routeFrom? (component :: here) rest).map fun (way, place) => (here.reverse :: way, place)

/-- Where a path leads from the topmost directory. -/
def route? (path : Text) : Option (List (List Text) × List Text) :=
  routeFrom? [] (path.splitOn '/')

/-- The tree with a file at the end of a path. -/
def write (path : Text) (bytes : ByteArray) (tree : FileTree) : FileTree :=
  match route? path with
  | none => tree
  | some (way, place) => (way.foldl openDirectory tree).edit place (fun _ => some (file bytes))

/-- The tree with a directory at the end of a path. -/
def makeDirectory (path : Text) (tree : FileTree) : FileTree :=
  match route? path with
  | none => tree
  | some (way, place) => (way.foldl openDirectory tree).openDirectory place

/-- The tree without what a path leads to. The way to it has to be there. -/
def remove (path : Text) (tree : FileTree) : FileTree :=
  match tree.disk path, route? path with
  | some _, some (_, place) => tree.edit place (fun _ => none)
  | _, _ => tree

end FileTree

end CorpusLint
