import Tandem.Machine.Program
import Tandem.Text.Utf8

set_option autoImplicit false

/-!
Listings. Each instruction takes one line: its text, filled up with blanks to 16 characters, and a
comment with its position and source line. A listing can be assembled again.
-/

namespace Tandem.Program

def padTo (width : Nat) (t : Text) : Text :=
  t ++ List.replicate (width - (Text.characters t).length) 32

def listingLine (pc : Nat) (line : CodeLine) : Text :=
  padTo 16 line.instruction.text ++ Text.ofString "; " ++ Text.ofNatPadded 3 pc ++
    (if line.lineNo = 0 then [] else Text.ofString " line " ++ Text.ofNat line.lineNo) ++ [10]

/-- The lines of the listing, in order. -/
def listing (p : Program) : List Text :=
  p.code.toList.zipIdx.map fun (line, pc) => listingLine pc line

def listingText (p : Program) : Text := Text.concat p.listing

end Tandem.Program
