import Tandem.Command.Run

set_option autoImplicit false

/-!
The command line program.
-/

namespace Tandem.Main

def toBytes (t : Text) : ByteArray := ⟨t.toArray⟩

def ofBytes (bytes : ByteArray) : Text := bytes.toList

def fileName (name : Text) : String := String.fromUTF8! (toBytes (Text.scrub name))

def reason : IO.Error → FileError.Reason
  | .noFileOrDirectory .. => .missing
  | .inappropriateType _ code _ => if code = 21 then .isADirectory else .notADirectory
  | .invalidArgument .. => .invalidName
  | .permissionDenied .. => .other "permission denied"
  | e => .other (Text.ofString (toString e))

def attempt {α : Type} (operation : FileError.Operation) (name : Text) (action : IO α) :
    IO (Except FileError α) := do
  try
    return .ok (← action)
  catch e => return .error ⟨operation, name, reason e⟩

def readFile (name : Text) : IO (Except FileError Text) := do
  match ← attempt .opening name (IO.FS.Handle.mk (fileName name) .read) with
  | .error e => return .error e
  | .ok handle =>
      match ← attempt .reading name handle.readBinToEnd with
      | .error e => return .error e
      | .ok bytes => return .ok (ofBytes bytes)

def host : Host IO where
  workingDirectory := do return Text.ofString (← IO.currentDir).toString
  readFile := readFile
  readInput := do
    let bytes ← (← IO.getStdin).readBinToEnd
    return ofBytes bytes
  create name := attempt .opening name (IO.FS.writeBinFile (fileName name) ByteArray.empty)
  append name content := do
    let handle ← IO.FS.Handle.mk (fileName name) .append
    handle.write (toBytes content)
  print text := do (← IO.getStdout).write (toBytes text)
  complain text := do (← IO.getStderr).write (toBytes text)

/-- More moves than any run will make. -/
def moves : Nat := Nat.pow 2 62

end Tandem.Main

def main (arguments : List String) : IO UInt32 :=
  Tandem.Command.run Tandem.Main.host Tandem.Main.moves (arguments.map Tandem.Text.ofString)
