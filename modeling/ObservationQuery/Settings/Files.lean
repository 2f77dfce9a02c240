/-!
# Files

* `FileState` — what is found under a path.
* `FileTree` — a directory held in memory; `FileTree.find` follows a path in it.
* `FileTree.root` — where a path leads that begins with a slash.
-/

namespace ObservationQuery

/-- What is found under a path. -/
inductive FileState where
  | missing
  /-- A directory, or a file that is not UTF-8 text. -/
  | unreadable
  | text (content : String)
  deriving DecidableEq, Repr

/-- A file or a directory. -/
inductive FileTree where
  | file (content : ByteArray)
  | directory (entries : List (String × FileTree))

namespace FileTree

/-- The empty directory. -/
def empty : FileTree := directory []

/-- The outermost directory, of which only the directories that every system has are known, and the
null device, which reads as an empty file. -/
def root : FileTree :=
  directory (("dev", directory [("null", file .empty)]) ::
    ["bin", "etc", "home", "lib", "opt", "proc", "sbin", "sys", "tmp", "usr", "var"].map (·, empty))

/-- The entry of a name in a directory. -/
def entry? (name : String) : FileTree → Option FileTree
  | file _ => none
  | directory entries => entries.lookup name

/-- The parts of a path between slashes. -/
def pathParts (path : String) : List String :=
  split path.toList []
where
  split : List Char → List Char → List String
    | [], part => [String.ofList part.reverse]
    | c :: cs, part =>
      if c = '/' then String.ofList part.reverse :: split cs [] else split cs (c :: part)

/-- The tree with `node` at a path, and directories on the way to it. An empty part or a dot
stays. -/
def put (node : FileTree) : List String → FileTree → FileTree
  | [], _ => node
  | name :: path, tree =>
    if name = "" ∨ name = "." then put node path tree
    else
      let entries := match tree with
        | directory entries => entries
        | file _ => []
      let child := put node path ((entries.lookup name).getD empty)
      directory ((name, child) :: entries.filter (·.1 != name))

/-- Follows the parts of a path from `tree`, whose enclosing directories are `parents`. An empty
part or a dot stays, two dots go up; all three need a directory. Above the outermost directory there
are only directories without known entries. -/
def follow : List String → FileTree → List FileTree → Option FileTree
  | [], tree, _ => some tree
  | part :: path, tree, parents =>
    match tree with
    | file _ => none
    | directory _ =>
      if part = "" ∨ part = "." then follow path tree parents
      else if part = ".." then
        match parents with
        | [] => follow path empty []
        | parent :: parents => follow path parent parents
      else
        match tree.entry? part with
        | none => none
        | some child => follow path child (tree :: parents)

/-- What is found under a path: in the tree, or in the root if the path begins with a slash. -/
def find (tree : FileTree) (path : String) : FileState :=
  if path = "" then .missing
  else
    let start := if path.toList.head? = some '/' then root else tree
    match follow (pathParts path) start [] with
    | none => .missing
    | some (directory _) => .unreadable
    | some (file content) =>
      match String.fromUTF8? content with
      | some text => .text text
      | none => .unreadable

end FileTree

end ObservationQuery
