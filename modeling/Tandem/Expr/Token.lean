import Tandem.Expr.Term

set_option autoImplicit false

/-!
Tokens of the expression language: words, literals and signs, and the ends of lines and of blocks.
-/

namespace Tandem.Expr

inductive Symbol where
  | plus
  | minus
  | star
  | starStar
  | slash
  | floorSlash
  | percent
  | ampersand
  | bar
  | caret
  | tilde
  | shiftLeft
  | shiftRight
  | less
  | greater
  | lessEqual
  | greaterEqual
  | equal
  | notEqual
  | assign
  /-- An assignment that is joined with an operator, as in `+=`. -/
  | augment (op : BinaryOp)
  | dot
  | comma
  | colon
  | semicolon
  | leftParen
  | rightParen
  | leftBracket
  | rightBracket
  | leftBrace
  | rightBrace
  | wordAnd
  | wordBreak
  | wordContinue
  | wordDef
  | wordElif
  | wordElse
  | wordFor
  | wordIf
  | wordIn
  | wordLambda
  | wordLoad
  | wordNot
  | wordOr
  | wordPass
  | wordReturn
  | wordWhile
  /-- A word that is reserved and has no use. -/
  | reserved
  deriving DecidableEq

inductive Token where
  | symbol (s : Symbol)
  | name (t : Text)
  | int (n : Nat)
  | float (x : Float)
  | str (t : Text)
  | bytes (t : Text)
  | newline
  /-- The line that follows is indented more than those before it. -/
  | indent
  /-- A block of indented lines ends. -/
  | outdent

namespace Token

private def words : List (String × Symbol) :=
  [("and", .wordAnd), ("break", .wordBreak), ("continue", .wordContinue), ("def", .wordDef),
   ("elif", .wordElif), ("else", .wordElse), ("for", .wordFor), ("if", .wordIf), ("in", .wordIn),
   ("lambda", .wordLambda), ("load", .wordLoad), ("not", .wordNot), ("or", .wordOr),
   ("pass", .wordPass), ("return", .wordReturn), ("while", .wordWhile)]

private def reservedWords : List String :=
  ["as", "async", "await", "class", "del", "except", "finally", "from", "global", "import", "is",
   "nonlocal", "raise", "try", "with", "yield"]

/-- A word has a meaning of its own, is reserved, or else is a name. -/
def ofWord (word : Text) : Token :=
  match words.find? fun entry => Text.ofString entry.1 = word with
  | some (_, s) => .symbol s
  | none =>
      if reservedWords.any fun w => Text.ofString w = word then .symbol .reserved else .name word

/-- The spellings of signs; a longer one comes before its beginnings. -/
private def spellings : List (String × Symbol) :=
  [("<<=", .augment .shiftLeft), (">>=", .augment .shiftRight), ("//=", .augment .floorDiv),
   ("<<", .shiftLeft), (">>", .shiftRight), ("//", .floorSlash), ("**", .starStar),
   ("<=", .lessEqual), (">=", .greaterEqual), ("==", .equal), ("!=", .notEqual),
   ("+=", .augment .add), ("-=", .augment .sub), ("*=", .augment .mul), ("/=", .augment .div),
   ("%=", .augment .mod), ("&=", .augment .bitAnd), ("|=", .augment .bitOr),
   ("^=", .augment .bitXor), ("+", .plus), ("-", .minus), ("*", .star), ("/", .slash),
   ("%", .percent), ("&", .ampersand), ("|", .bar), ("^", .caret), ("~", .tilde), ("<", .less),
   (">", .greater), ("=", .assign), (".", .dot), (",", .comma), (":", .colon), (";", .semicolon),
   ("(", .leftParen), (")", .rightParen), ("[", .leftBracket), ("]", .rightBracket),
   ("\x7b", .leftBrace), ("\x7d", .rightBrace)]

/-- The sign that a text starts with, and what follows it. -/
def sign? (t : Text) : Option (Symbol × Text) :=
  (spellings.find? fun entry => Text.startsWith t entry.1).map fun (spelling, s) =>
    (s, t.drop (spelling : Text).length)

end Token

end Tandem.Expr
