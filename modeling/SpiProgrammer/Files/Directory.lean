import SpiProgrammer.Dialogue.Run
import SpiProgrammer.Files.Basic
import Std.Data.TreeMap

/-! # A directory of files

The working directory and those above it hold files and, as far as names go, no directories.  A
path is walked part by part, so it leads to one of these directories, to an entry of one, or to
somewhere behind a name that would have to be a directory.  Which fault is met first follows
from the walk.

Main statement: a file that could be created is read back with its contents. -/
set_option autoImplicit false

namespace SpiProgrammer

structure Directory where
  /-- The files by the shortest path to them: `name` is in the working directory, `../name` in
  the one above it, `/name` in the root. -/
  files : Std.TreeMap String Bytes := ∅

namespace Directory

/-- Where a walk ends.  `base` is the shortest path to the directory that it had come to. -/
inductive Place where
  | itself
  /-- an entry of a directory, `closed` if a slash follows its name -/
  | entry (base name : String) (closed : Bool)
  /-- somewhere behind an entry of a directory -/
  | behind (base name : String)
deriving DecidableEq, Repr

/-- The directory above; above the root is the root. -/
def above (base : String) : String :=
  if base = "/" then "/" else base ++ "../"

def walk (closed : Bool) : String → List String → Place
  | _, [] => .itself
  | base, name :: rest =>
    if name = "." then walk closed base rest
    else if name = ".." then walk closed (above base) rest
    else if rest = [] then .entry base name closed
    else .behind base name

/-- Empty parts of a path lead nowhere else. -/
def locate (path : String) : Place :=
  walk (path.endsWith "/") (if path.startsWith "/" then "/" else "")
    ((path.splitOn "/").filter fun part => part ≠ "")

def nameMax : Nat := 255

def pathMax : Nat := 4095

def badPath? (path : String) : Option FileFault :=
  if path.toList.contains '\x00' then some .nameWithNul
  else if path = "" then some .notFound
  else if pathMax < path.utf8ByteSize then some .nameTooLong
  else none

/-- The file of a name in the directory at `base`, if the name is not too long to be looked up. -/
def find (directory : Directory) (base name : String) : Except FileFault Bytes :=
  if nameMax < name.utf8ByteSize then .error .nameTooLong
  else match directory.files[base ++ name]? with
    | some contents => .ok contents
    | none => .error .notFound

/-- The fault of going on behind a name: what it stands for is no directory. -/
def behindFault (directory : Directory) (base name : String) : FileFault :=
  match directory.find base name with
  | .ok _ => .notADirectory
  | .error fault => fault

def read (directory : Directory) (path : String) : Except FileFault Bytes :=
  match badPath? path with
  | some fault => .error fault
  | none =>
    match locate path with
    | .itself => .error .isADirectory
    | .behind base name | .entry base name true => .error (directory.behindFault base name)
    | .entry base name false => directory.find base name

/-- A name with a slash behind it asks for a directory to be created, which is refused before the
name is looked at. -/
def create (directory : Directory) (path : String) (contents : Bytes) :
    Except FileFault Directory :=
  match badPath? path with
  | some fault => .error fault
  | none =>
    match locate path with
    | .itself | .entry _ _ true => .error .isADirectory
    | .behind base name => .error (directory.behindFault base name)
    | .entry base name false =>
      if nameMax < name.utf8ByteSize then .error .nameTooLong
      else .ok ⟨directory.files.insert (base ++ name) contents⟩

/-- What was created is what is read. -/
theorem read_of_create {directory created : Directory} {path : String} {contents : Bytes}
    (done : directory.create path contents = .ok created) :
    created.read path = .ok contents := by
  unfold create at done
  split at done
  · cases done
  · rename_i good
    split at done
    · cases done
    · cases done
    · cases done
    · rename_i base name place
      split at done
      · cases done
      · rename_i short
        cases done
        simp [read, good, place, find, short]

/-- The files of the working directory itself, in the order of their names. -/
def entries (directory : Directory) : List (String × Bytes) :=
  directory.files.toList.filter fun file => !file.1.toList.contains '/'

def machine : Machine Directory Files
  | .read path, directory => (directory.read path, directory)
  | .create path contents, directory =>
    match directory.create path contents with
    | .error fault => (.error fault, directory)
    | .ok directory => (.ok (), directory)

end Directory

end SpiProgrammer
