import TableQuery.Text.Cluster
import TableQuery.Text.Search

/-! # Lines of the console

What the lines of an input hold once they are read. A line ends with a line feed, with a carriage
return before it or not, and a backspace in it takes back the cluster before. A line cannot be
read when taking back would leave part of a character.
-/

namespace TableQuery.Console

open Text (byteSize clusters)

/-- A line while it is read: its characters and the sizes of its clusters, both from the last
    back. A size is kept in one byte, so that of a cluster of 256 bytes is zero. -/
structure EditedLine where
  chars : List Char
  sizes : List UInt8

/-- Drops the characters that fill the given number of bytes, none when they do not end there. -/
def dropBytes? : Nat → List Char → Option (List Char)
  | 0, chars => some chars
  | _ + 1, [] => none
  | size + 1, c :: rest =>
      if c.utf8Size ≤ size + 1 then dropBytes? (size + 1 - c.utf8Size) rest else none

namespace EditedLine

def empty : EditedLine := ⟨[], []⟩

def put (line : EditedLine) (cluster : List Char) : EditedLine :=
  ⟨cluster.reverse ++ line.chars, UInt8.ofNat (byteSize cluster) :: line.sizes⟩

/-- Takes back as many bytes as the last cluster is remembered to have. -/
def takeBack? (line : EditedLine) : Option EditedLine :=
  match line.sizes with
  | [] => some line
  | size :: sizes => (dropBytes? size.toNat line.chars).map (⟨·, sizes⟩)

def type? (line : EditedLine) (cluster : List Char) : Option EditedLine :=
  if cluster = ['\x08'] then line.takeBack? else some (line.put cluster)

end EditedLine

/-- What a line holds after its backspaces have been obeyed. -/
def applyBackspaces? (line : List Char) : Option (List Char) :=
  if line.contains '\x08' then
    ((clusters line).foldlM EditedLine.type? EditedLine.empty).map fun edited =>
      edited.chars.reverse
  else some line

/-- A line without the carriage return of its line end. -/
def dropReturn (line : List Char) : List Char :=
  if line.getLast? = some '\r' then line.dropLast else line

/-- The lines of an input, none for one that cannot be read. What follows the last line feed is a
    line unless it is empty. -/
def inputLines (input : String) : List (Option String) :=
  let pieces := input.toList.splitOn '\n'
  let last := pieces.getLast?.getD []
  let lines := pieces.dropLast.map dropReturn ++ if last.isEmpty then [] else [last]
  lines.map fun line => (applyBackspaces? line).map String.ofList

end TableQuery.Console
