/-!
Files that settings can be read from, as a tree of directories.

A path is followed name by name from the root or, if it does not start with a slash, from the
working directory. The first name that leads nowhere says why.
-/

namespace ExclusiveAudio

/-- Why a file cannot be read. -/
inductive FileFailure where
  | missing
  | denied
  | notDirectory
  | isDirectory
  | nameTooLong
  /-- The bytes of the file are no text. -/
  | notText
  | other (reason : String)
  deriving DecidableEq

def FileFailure.text : FileFailure → String
  | .missing => "No such file or directory (os error 2)"
  | .denied => "Permission denied (os error 13)"
  | .notDirectory => "Not a directory (os error 20)"
  | .isDirectory => "Is a directory (os error 21)"
  | .nameTooLong => "File name too long (os error 36)"
  | .notText => "stream did not contain valid UTF-8"
  | .other reason => reason

/-- A file, with its text or the reason why it has none, or a directory. -/
inductive FileNode where
  | file (content : Except FileFailure String)
  | directory (entries : List (String × FileNode))

namespace FileNode

/-- The most bytes in a name. -/
def maxName : Nat := 255

/-- The most bytes in a path. -/
def maxPath : Nat := 4095

/-- Follows names from a node, given the directories above it, nearest first. An empty name stands
for the directory itself, and there is nothing above the root. -/
def follow : List FileNode → FileNode → List String → Except FileFailure FileNode
  | _, node, [] => .ok node
  | _, file _, _ :: _ => .error .notDirectory
  | above, directory entries, name :: names =>
    if name = "" ∨ name = "." then follow above (directory entries) names
    else if name = ".." then
      match above with
      | [] => follow [] (directory entries) names
      | parent :: above => follow above parent names
    else if maxName < name.utf8ByteSize then .error .nameTooLong
    else
      match entries.lookup name with
      | none => .error .missing
      | some node => follow (directory entries :: above) node names

/-- The text of a file. -/
def content : FileNode → Except FileFailure String
  | file content => content
  | directory _ => .error .isDirectory

end FileNode

structure FileTree where
  root : FileNode
  /-- The working directory, right below the root. -/
  working : FileNode := .directory []

/-- Reads the file at a path. -/
def FileTree.read (t : FileTree) (path : String) : Except FileFailure String := do
  if FileNode.maxPath < path.utf8ByteSize then throw .nameTooLong
  let names := path.splitOn "/"
  let node ←
    if path.startsWith "/" then FileNode.follow [] t.root names
    else FileNode.follow [t.root] t.working names
  node.content

end ExclusiveAudio
