/-
  The files that recordings and settings are read from.

  A file system is a directory that exists from the start and the files in it, by absolute path.  A path
  is followed one name at a time, as bytes: an empty name and a point stay where they are, two points
  go up, and every name but the last must lead to a directory.  A path that ends in a slash names a
  directory, so no file is read through it.
-/
import CallMedia.Text.Utf8

namespace CallMedia

/-- The path of a file as bytes. -/
abbrev Path := List UInt8

/-- A file system. -/
structure Files where
  /-- The directory that exists from the start. -/
  directory : Path := []
  /-- The files with their contents; of two entries for one path the later counts. -/
  entries : List (Path × List UInt8) := []
deriving Inhabited

namespace Files

/-- A byte sequence cut at every slash. -/
def names : Path → List Path
  | [] => [[]]
  | b :: rest =>
    match names rest with
    | [] => [[b]]
    | head :: tail => if b = 0x2f then [] :: head :: tail else (b :: head) :: tail

/-- The names of a path without the empty ones. -/
def properNames (p : Path) : List Path := (names p).filter (fun n => n ≠ [])

/-- The content of the file whose proper names are given. -/
def content? (files : Files) (place : List Path) : Option (List UInt8) :=
  (files.entries.reverse.find? (fun e => properNames e.1 = place)).map Prod.snd

/-- Whether the proper names lead to a directory: one on the way to an existing file or directory. -/
def isDirectory (files : Files) (place : List Path) : Bool :=
  place.isPrefixOf (properNames files.directory) ||
  files.entries.any (fun e => place.isPrefixOf (properNames e.1).dropLast)

/-- Follow the names of a path from a directory. -/
def follow (files : Files) (place : List Path) : List Path → Option (List UInt8)
  | [] => none
  | [last] =>
    -- a path that ends so names a directory
    if last = [] ∨ last = [0x2e] ∨ last = [0x2e, 0x2e] then none else files.content? (place ++ [last])
  | name :: rest =>
    if name = [] ∨ name = [0x2e] then files.follow place rest
    else if name = [0x2e, 0x2e] then files.follow place.dropLast rest
    else if files.isDirectory (place ++ [name]) then files.follow (place ++ [name]) rest
    else none

/-- The content of the file at an absolute path. -/
def read? (files : Files) (path : Path) : Option (List UInt8) :=
  match path with
  | 0x2f :: rest => files.follow [] (names rest)
  | _ => none

/-- Write a file. -/
def write (files : Files) (path : Path) (bytes : List UInt8) : Files :=
  { files with entries := files.entries ++ [(path, bytes)] }

end Files

end CallMedia
