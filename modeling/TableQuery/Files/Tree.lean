import TableQuery.Files.Path

/-! # Files

A store reads its tables through a view of the file system: what reading a path gives and
whether a path is a folder. A file tree is such a view held in memory, with folders and files
below one current folder. The folders above the current one are there, with nothing else in them.
-/

namespace TableQuery.Files

/-- Why a path cannot be read as a file. -/
inductive ReadFault where
  | notFound
  /-- A component before the last is a file. -/
  | notFolder
  | isFolder
  | nulInPath
  | other (message : String)
  deriving DecidableEq, Repr

def ReadFault.message : ReadFault → String
  | .notFound => "No such file or directory (os error 2)"
  | .notFolder => "Not a directory (os error 20)"
  | .isFolder => "Is a directory (os error 21)"
  | .nulInPath => "file name contained an unexpected NUL byte"
  | .other message => message

/-- What a path leads to. -/
inductive Node where
  | folder
  | file (content : ByteArray)

/-- What the paths of a file system lead to. -/
structure View where
  node : String → Except ReadFault Node

namespace View

def read (view : View) (path : String) : Except ReadFault ByteArray :=
  match view.node path with
  | .ok (.file content) => .ok content
  | .ok .folder => .error .isFolder
  | .error fault => .error fault

/-- Whether the path leads to something that is no folder. -/
def isFile (view : View) (path : String) : Bool :=
  match view.node path with
  | .ok (.file _) => true
  | _ => false

end View

/-- Folders and files by their components from the current folder on. -/
structure Tree where
  folders : List (List String)
  files : List (List String × ByteArray)

namespace Tree

def empty : Tree := ⟨[], []⟩

def node? (tree : Tree) (place : List String) : Option Node :=
  if place.isEmpty || tree.folders.contains place then some .folder
  else (tree.files.lookup place).map .file

/-- What the pieces of a path lead to from a folder above the current one. -/
def followAbove (rest : List String) : Except ReadFault Node :=
  if rest.all isUnnamed then .ok .folder else .error .notFound

/-- Follows the pieces of a path from a folder. Every piece but the last has to be a folder. -/
def follow (tree : Tree) (place : List String) : List String → Except ReadFault Node
  | [] => .ok .folder
  | piece :: rest =>
      if piece = "" ∨ piece = "." then tree.follow place rest
      else if piece = ".." then
        if place.isEmpty then followAbove rest else tree.follow place.dropLast rest
      else
        match tree.node? (place ++ [piece]) with
        | none => .error .notFound
        | some .folder => tree.follow (place ++ [piece]) rest
        | some (.file content) => if rest.isEmpty then .ok (.file content) else .error .notFolder

/-- The tree seen from its current folder. -/
def view (tree : Tree) : View where
  node path :=
    if path.toList.contains '\x00' then .error .nulInPath
    else if path.isEmpty then .error .notFound
    else if isAbsolute path then followAbove (pieces path)
    else tree.follow [] (pieces path)

/-- Adds the folders that are not there yet. -/
def makeFolders (tree : Tree) (places : List (List String)) : Tree :=
  { tree with
    folders := tree.folders ++ places.filter fun place => !tree.folders.contains place }

def writeFile (tree : Tree) (place : List String) (content : ByteArray) : Tree :=
  { tree with files := (place, content) :: tree.files.filter (·.1 ≠ place) }

def removeFile (tree : Tree) (place : List String) : Tree :=
  { tree with files := tree.files.filter (·.1 ≠ place) }

/-- Removes a folder and all below it. -/
def removeFolder (tree : Tree) (place : List String) : Tree :=
  { folders := tree.folders.filter fun folder => !place.isPrefixOf folder
    files := tree.files.filter fun file => !place.isPrefixOf file.1 }

end Tree

/-- A change to the files below the current folder. -/
inductive Change where
  | write (path : String) (content : ByteArray)
  | makeFolder (path : String)
  | remove (path : String)
  | removeFolder (path : String)

/-- The tree after a change. Folders that a path goes through are made on the way to a new file
    or folder. A path that leads out of the tree changes nothing. -/
def Tree.apply (tree : Tree) : Change → Tree
  | .write path content =>
      let parts := components path
      match way? parts.dropLast, normalize? parts with
      | some way, some place => (tree.makeFolders way).writeFile place content
      | _, _ => tree
  | .makeFolder path =>
      match way? (components path) with
      | some way => tree.makeFolders way
      | none => tree
  | .remove path =>
      match normalize? (components path) with
      | some place => tree.removeFile place
      | none => tree
  | .removeFolder path =>
      match normalize? (components path) with
      | some place => tree.removeFolder place
      | none => tree

end TableQuery.Files
