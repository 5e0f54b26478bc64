import Tandem.Expr.FloatText
import Tandem.Expr.Sequence
import Tandem.Text.Quote

set_option autoImplicit false

/-!
Texts of values. `repr` writes a value as it would be written in an expression, and `text` is the
same except that a string stands for itself. A list or table inside itself is not written again.
-/

namespace Tandem.Expr.Value

private def separated (ts : List Text) : Text := Text.join ", " ts

mutual

/-- Writes tuples, where all else is written by a function. -/
def writtenWith (write : Value → Text) : Value → Text
  | .tuple items =>
      40 :: separated (allWritten write items) ++ (if items.length = 1 then [44, 41] else [41])
  | x => write x

def allWritten (write : Value → Text) : List Value → List Text
  | [] => []
  | x :: rest => writtenWith write x :: allWritten write rest

end

private def viewName : View → String
  | .bytes => "elems"
  | .byteNumbers => "elem_ords"
  | .characters => "codepoints"
  | .characterNumbers => "codepoint_ords"
  | .ofBytes => "elems"

/-- Writes a value that holds no others. -/
def written (s : Store) : Value → Text
  | .none => "None"
  | .bool true => "True"
  | .bool false => "False"
  | .int n => Text.decimal n
  | .float x => FloatText.render 103 x
  | .str t => Text.quote t
  | .bytes t => 98 :: Text.quote t
  | .range ⟨a, b, c⟩ =>
      let parts := if c ≠ 1 then [a, b, c] else if a ≠ 0 then [a, b] else [b]
      Text.ofString "range(" ++ separated (parts.map fun n => Text.decimal n.toInt) ++ [41]
  | .view v t =>
      (if v = .ofBytes then [98] else []) ++ Text.quote t ++
        46 :: Text.ofString (viewName v) ++ [40, 41]
  | .function place =>
      Text.ofString "<function " ++ ((s.functions[place]?.map (·.name)).getD []) ++ [62]
  | .builtin b => Text.ofString "<built-in function " ++ Text.ofString b.name ++ [62]
  | .method _ receiver name =>
      Text.ofString "<built-in method " ++ name ++ Text.ofString " of " ++
        Text.ofString receiver.typeName ++ Text.ofString " value>"
  | _ => []

/-- Writes a value inside the lists and tables that are open. No more than `fuel` others are
opened. -/
def reprTo (s : Store) : (fuel : Nat) → (lists dicts : List Nat) → Value → Text
  | 0, _, _, _ => []
  | fuel + 1, lists, dicts, x =>
      x.writtenWith fun x => match x with
        | .list place =>
            if lists.contains place then "[...]"
            else
              let items := (s.list place).toList
              91 :: separated (items.map (reprTo s fuel (place :: lists) dicts)) ++ [93]
        | .dict place =>
            if dicts.contains place then "\x7b...\x7d"
            else
              let entries := (s.dict place).entries.map fun (key, value) =>
                reprTo s fuel lists dicts key ++ 58 :: 32 ::
                  reprTo s fuel lists (place :: dicts) value
              123 :: separated entries ++ [125]
        | x => x.written s

def repr (s : Store) (x : Value) : Text := reprTo s (s.lists.size + s.dicts.size + 2) [] [] x

/-- A string itself, and the written form of all other values. -/
def text (s : Store) : Value → Text
  | .str t => t
  | x => x.repr s

end Tandem.Expr.Value
