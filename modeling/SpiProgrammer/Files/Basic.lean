import SpiProgrammer.Dialogue
import SpiProgrammer.Bytes
import SpiProgrammer.Text.Quoted

/-! # Files

A job reads a whole file, or creates one with given contents. -/
set_option autoImplicit false

namespace SpiProgrammer

inductive FileFault where
  | notFound
  | permissionDenied
  | notADirectory
  | isADirectory
  | nameTooLong
  | nameWithNul
  | other (code : Nat) (reason : String)
deriving DecidableEq, Repr

namespace FileFault

/-- The number under which the system knows the fault. -/
def code : FileFault → Nat
  | .notFound => 2
  | .permissionDenied => 13
  | .notADirectory => 20
  | .isADirectory => 21
  | .nameTooLong => 36
  | .nameWithNul => 22
  | .other code _ => code

def label : FileFault → String
  | .notFound => "NotFound"
  | .permissionDenied => "PermissionDenied"
  | .notADirectory => "NotADirectory"
  | .isADirectory => "IsADirectory"
  | .nameTooLong => "InvalidFilename"
  | .nameWithNul => "InvalidInput"
  | .other _ _ => "Uncategorized"

def reason : FileFault → String
  | .notFound => "No such file or directory"
  | .permissionDenied => "Permission denied"
  | .notADirectory => "Not a directory"
  | .isADirectory => "Is a directory"
  | .nameTooLong => "File name too long"
  | .nameWithNul => "file name contained an unexpected NUL byte"
  | .other _ reason => reason

/-- A name that the system never gets to see has no number. -/
def message : FileFault → String
  | .nameWithNul => FileFault.nameWithNul.reason
  | fault => fault.reason ++ " (os error " ++ toString fault.code ++ ")"

def report (fault : FileFault) : String :=
  let head := match fault with
    | .nameWithNul => "Error \x7b "
    | _ => "Os \x7b code: " ++ toString fault.code ++ ", "
  head ++ "kind: " ++ fault.label ++ ", message: " ++ Text.quoted fault.reason ++ " \x7d"

end FileFault

inductive FilesRequest where
  | read (path : String)
  | create (path : String) (contents : Bytes)
deriving DecidableEq, Repr

@[reducible]
def FilesReply : FilesRequest → Type
  | .read _ => Except FileFault Bytes
  | .create _ _ => Except FileFault Unit

@[reducible]
def Files : Interface where
  Request := FilesRequest
  Reply := FilesReply

end SpiProgrammer
