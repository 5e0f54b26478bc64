import Tandem.Text.Basic

set_option autoImplicit false

/-!
What a command needs of the system that it runs on: files by name, the standard streams and the
working directory. A command is written over any such host.
-/

namespace Tandem

namespace FileError

inductive Operation where
  | opening
  | reading
  deriving DecidableEq

inductive Reason where
  | missing
  | notADirectory
  | isADirectory
  | invalidName
  | nameTooLong
  | other (text : Text)
  deriving DecidableEq

def Operation.text : Operation → Text
  | .opening => "open"
  | .reading => "read"

def Reason.text : Reason → Text
  | .missing => "no such file or directory"
  | .notADirectory => "not a directory"
  | .isADirectory => "is a directory"
  | .invalidName => "invalid argument"
  | .nameTooLong => "file name too long"
  | .other text => text

end FileError

/-- Why an operation on a file failed. -/
structure FileError where
  operation : FileError.Operation
  name : Text
  reason : FileError.Reason
  deriving DecidableEq

def FileError.message (e : FileError) : Text :=
  e.operation.text ++ 32 :: e.name ++ Text.ofString ": " ++ e.reason.text

structure Host (m : Type → Type) where
  workingDirectory : m Text
  readFile : Text → m (Except FileError Text)
  readInput : m Text
  /-- Makes a file, or empties it. -/
  create : Text → m (Except FileError Unit)
  /-- Adds to a file that has been created. -/
  append : Text → Text → m Unit
  print : Text → m Unit
  /-- Prints on the stream for errors. -/
  complain : Text → m Unit

end Tandem
