import PageScan.Text.Find

/-!
# Files

The part of a file system that a command sees: the folders that exist, and the files with their
contents. A file can be read if it is there and written if its folder is.

* `Path.join`, `Path.folder`, `Path.parent` and `Path.name` put paths together and take them apart.
* `Files.read`, `Files.write` and `Files.createFolder` work on files.
-/

namespace PageScan

namespace Path

/-- A path without the slashes and single dots that stand at its end, last character first. -/
def stripEnd : List Char → List Char
  | '/' :: rest => stripEnd rest
  | '.' :: '/' :: rest => stripEnd rest
  | other => other

/-- A name below a folder. A name that begins at the root stays as it is. -/
def join (folder name : String) : String :=
  if name.startsWith "/" || folder = "" then name
  else if folder.endsWith "/" then folder ++ name
  else folder ++ "/" ++ name

/-- A path, last character first, as the path of a folder: without the slashes and single dots that
stand at its end. -/
def ofReversed (path : List Char) : String :=
  match stripEnd path with
  | [] => if path.isEmpty then "" else "/"
  | folder => String.ofList folder.reverse

/-- The path of a folder in the form in which `parent` gives it. -/
def folder (path : String) : String :=
  ofReversed path.toList.reverse

/-- The path of what a path lies in, or nothing for the root and the empty path. -/
def parent (path : String) : Option String :=
  match stripEnd path.toList.reverse with
  | [] => none
  | body =>
    match body.dropWhile (· ≠ '/') with
    | [] => some ""
    | rest => some (ofReversed rest)

/-- The last part of a path. -/
def name (path : String) : String :=
  String.ofList ((stripEnd path.toList.reverse).takeWhile (· ≠ '/')).reverse

end Path

/-- The files that a command sees. -/
structure Files where
  folders : List String
  contents : List (String × List UInt8)

namespace Files

/-- What is said of a path that leads nowhere. -/
def missing : String := "No such file or directory (os error 2)"

/-- What is said of bytes that are no text. -/
def notText : String := "stream did not contain valid UTF-8"

/-- The content of a file. -/
def read (f : Files) (path : String) : Except String (List UInt8) :=
  match f.contents.lookup path with
  | some bytes => .ok bytes
  | none => .error missing

/-- The folder is there. The folder without a name always is. -/
def hasFolder (f : Files) (path : String) : Bool :=
  path = "" || f.folders.contains path

/-- Writes a file, in place of one that is there. -/
def write (f : Files) (path : String) (bytes : List UInt8) : Except String Files :=
  if (Path.parent path).any f.hasFolder then
    .ok { f with contents := f.contents.filter (fun file => file.1 ≠ path) ++ [(path, bytes)] }
  else .error missing

/-- Creates a folder if it is not there. -/
def createFolder (f : Files) (path : String) : Files :=
  let folder := Path.folder path
  if f.hasFolder folder then f else { f with folders := f.folders ++ [folder] }

/-- The names of the files in a folder. -/
def inFolder (f : Files) (path : String) : List String :=
  (f.contents.filter fun file => Path.parent file.1 = some path).map fun file => Path.name file.1

end Files

end PageScan
