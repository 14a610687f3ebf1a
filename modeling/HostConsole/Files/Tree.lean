/-
Files that a program can read. Reading gives text or the reason why there is none.

`Tree` holds files and directories in memory and resolves paths the usual way: `.` stays, `..` goes up, every part
but the last has to be a directory, and a slash at the end asks for one too. A part has at most 255 bytes, a path
less than 4096.
-/
namespace HostConsole

/-- why a file gives no text -/
inductive FileError where
  | notFound
  | isDirectory
  | notDirectory
  | denied
  | nameTooLong
  | notText
  deriving DecidableEq

/-- the text of a failure to read -/
def FileError.message : FileError → String
  | notFound => "No such file or directory (os error 2)"
  | isDirectory => "Is a directory (os error 21)"
  | notDirectory => "Not a directory (os error 20)"
  | denied => "Permission denied (os error 13)"
  | nameTooLong => "File name too long (os error 36)"
  | notText => "stream did not contain valid UTF-8"

/-- what a program can see of the files around it -/
structure Files where
  read : String → Except FileError String
  isFile : String → Bool

/-- files and directories in memory, by their path from the root, and the working directory -/
structure Tree where
  files : List (List String × ByteArray)
  directories : List (List String)
  working : List String

namespace Tree

/-- there is a directory: one of its own, or above something -/
def isDirectory (tree : Tree) (path : List String) : Bool :=
  path.isEmpty || tree.directories.any (path.isPrefixOf ·) || tree.files.any (path.isPrefixOf ·.1.dropLast)

/-- the most bytes of a part of a path -/
def maxName : Nat := 255

/-- the most bytes of a path -/
def maxPath : Nat := 4095

/-- what a path leads to, the parts still to go being given -/
def walk (tree : Tree) (here : List String) : List String → Except FileError (List String)
  | [] => .ok here
  | part :: rest =>
    if !tree.isDirectory here then .error .notDirectory
    else if part = "" || part = "." then walk tree here rest
    else if part = ".." then walk tree here.dropLast rest
    else if maxName < part.utf8ByteSize then .error .nameTooLong
    else
      let next := here ++ [part]
      if tree.isDirectory next || (tree.files.lookup next).isSome then walk tree next rest
      else .error .notFound

/-- what a path leads to -/
def resolve (tree : Tree) (path : String) : Except FileError (List String) :=
  if path.isEmpty then .error .notFound
  else if maxPath < path.utf8ByteSize then .error .nameTooLong
  else walk tree (if path.toList.head? = some '/' then [] else tree.working) (path.splitOn "/")

/-- the text of a file -/
def read (tree : Tree) (path : String) : Except FileError String := do
  match tree.files.lookup (← tree.resolve path) with
  | none => .error .isDirectory
  | some bytes =>
    match String.fromUTF8? bytes with
    | some text => .ok text
    | none => .error .notText

/-- the path leads to a file -/
def isFile (tree : Tree) (path : String) : Bool :=
  match tree.resolve path with
  | .ok found => (tree.files.lookup found).isSome
  | .error _ => false

/-- what a program sees of the tree -/
def view (tree : Tree) : Files := ⟨tree.read, tree.isFile⟩

end Tree

end HostConsole
