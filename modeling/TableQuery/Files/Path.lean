/-! # Paths

A path is a text of components between slashes. Nothing is looked up here.
-/

namespace TableQuery.Files

def isAbsolute (path : String) : Bool := path.toList.head? == some '/'

/-- The path of a file in a folder. The empty folder adds nothing, and an absolute path stays
    what it is. -/
def joinPath (folder file : String) : String :=
  if isAbsolute file || folder.isEmpty then file
  else if folder.toList.getLast? == some '/' then folder ++ file
  else folder ++ "/" ++ file

/-- What stands between the slashes, empty pieces included. -/
def pieces (path : String) : List String := (path.toList.splitOn '/').map String.ofList

/-- The components that name something: no empty piece and no single dot. -/
def components (path : String) : List String :=
  (pieces path).filter fun piece => piece ≠ "" && piece ≠ "."

/-- Whether a piece leads to no name: it stays where it is or goes one folder up. -/
def isUnnamed (piece : String) : Bool := piece == "" || piece == "." || piece == ".."

/-- The components with each `..` taking back the one before it, none when they lead out of the
    folder they start from. -/
def normalize? (components : List String) : Option (List String) :=
  components.foldlM (fun (walked : List String) piece =>
    if piece = ".." then
      if walked.isEmpty then none else some walked.dropLast
    else some (walked ++ [piece])) []

/-- The places that components lead through, one after the other, none when they lead out of the
    folder they start from. -/
def way? (components : List String) : Option (List (List String)) :=
  (List.range components.length).mapM fun depth => normalize? (components.take (depth + 1))

end TableQuery.Files
