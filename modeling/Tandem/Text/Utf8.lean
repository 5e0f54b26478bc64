import Tandem.Text.Basic

set_option autoImplicit false

/-!
UTF-8. `next?` splits the first character off a text: a well-formed sequence gives its code point,
and any other byte stands alone as the replacement character. Overlong forms, surrogates and
values above U+10FFFF are not well formed.
-/

namespace Tandem.Text

/-- The code point shown for a byte that starts no well-formed sequence. -/
def replacement : Nat := 0xFFFD

def isContinuation (b : UInt8) : Bool := 0x80 ≤ b && b ≤ 0xBF

def low (b : UInt8) : Nat := b.toNat % 64

/-- The code point and the number of bytes of the well-formed sequence at the start of a text. -/
def wellFormed? : Text → Option (Nat × Nat)
  | [] => none
  | a :: rest =>
      if a < 0x80 then some (a.toNat, 1)
      else if a < 0xC2 then none
      else if a < 0xE0 then
        match rest with
        | b :: _ => if isContinuation b then some (a.toNat % 32 * 64 + low b, 2) else none
        | _ => none
      else if a < 0xF0 then
        match rest with
        | b :: c :: _ =>
            let least : UInt8 := if a = 0xE0 then 0xA0 else 0x80
            let most : UInt8 := if a = 0xED then 0x9F else 0xBF
            if least ≤ b && b ≤ most && isContinuation c then
              some (a.toNat % 16 * 4096 + low b * 64 + low c, 3)
            else none
        | _ => none
      else if a < 0xF5 then
        match rest with
        | b :: c :: d :: _ =>
            let least : UInt8 := if a = 0xF0 then 0x90 else 0x80
            let most : UInt8 := if a = 0xF4 then 0x8F else 0xBF
            if least ≤ b && b ≤ most && isContinuation c && isContinuation d then
              some (a.toNat % 8 * 262144 + low b * 4096 + low c * 64 + low d, 4)
            else none
        | _ => none
      else none

/-- The first character and its length in bytes; a byte outside any sequence counts as one. -/
def next? : Text → Option (Nat × Nat)
  | [] => none
  | t@(_ :: _) => some ((wellFormed? t).getD (replacement, 1))

/-- Characters of a text; `skip` counts the bytes of the current character still to pass. -/
def characters.loop : Nat → Text → List Nat
  | _, [] => []
  | 0, t@(_ :: rest) =>
      let (c, n) := (wellFormed? t).getD (replacement, 1)
      c :: loop (n - 1) rest
  | skip + 1, _ :: rest => loop skip rest

def characters (t : Text) : List Nat := characters.loop 0 t

/-- Whether the bytes are UTF-8 throughout. -/
def isUtf8.loop : Nat → Text → Bool
  | skip, [] => skip == 0
  | 0, t@(_ :: rest) =>
      match wellFormed? t with
      | some (_, n) => loop (n - 1) rest
      | none => false
  | skip + 1, _ :: rest => loop skip rest

def isUtf8 (t : Text) : Bool := isUtf8.loop 0 t

/-- The text with every ill-formed byte replaced by U+FFFD. -/
def scrub (t : Text) : Text := (characters t).flatMap ofCodePoint

end Tandem.Text
