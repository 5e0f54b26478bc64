import Tandem.Expr.Range
import Tandem.Text.Basic

set_option autoImplicit false

/-!
Values of the expression language. Integers are unbounded and strings are bytes. A list, a table or
a function is shared by all that refer to it, so its value is only the place where it is stored.
-/

namespace Tandem.Expr

inductive Builtin where
  | abs | all | any | bool | bytes | chr | dict | dir | enumerate | fail | float | getattr | hasattr
  | hash | int | len | list | max | min | ord | print | range | repr | reversed | sorted | str
  | tuple | type | zip
  deriving DecidableEq

/-- How a string is gone through: by bytes or by characters, each as a text or as a number. A byte
string is gone through by its bytes as numbers. -/
inductive View where
  | bytes
  | byteNumbers
  | characters
  | characterNumbers
  | ofBytes
  deriving DecidableEq

inductive Value where
  | none
  | bool (b : Bool)
  | int (n : Int)
  | float (x : Float)
  | str (t : Text)
  | bytes (t : Text)
  | tuple (items : List Value)
  | range (r : Range)
  | view (v : View) (t : Text)
  | list (place : Nat)
  | dict (place : Nat)
  | function (place : Nat)
  | builtin (b : Builtin)
  /-- A method of a value; no two of them are the same. -/
  | method (number : Nat) (receiver : Value) (name : Text)

namespace Builtin

def name : Builtin → String
  | .abs => "abs"
  | .all => "all"
  | .any => "any"
  | .bool => "bool"
  | .bytes => "bytes"
  | .chr => "chr"
  | .dict => "dict"
  | .dir => "dir"
  | .enumerate => "enumerate"
  | .fail => "fail"
  | .float => "float"
  | .getattr => "getattr"
  | .hasattr => "hasattr"
  | .hash => "hash"
  | .int => "int"
  | .len => "len"
  | .list => "list"
  | .max => "max"
  | .min => "min"
  | .ord => "ord"
  | .print => "print"
  | .range => "range"
  | .repr => "repr"
  | .reversed => "reversed"
  | .sorted => "sorted"
  | .str => "str"
  | .tuple => "tuple"
  | .type => "type"
  | .zip => "zip"

def every : List Builtin :=
  [.abs, .all, .any, .bool, .bytes, .chr, .dict, .dir, .enumerate, .fail, .float, .getattr,
   .hasattr, .hash, .int, .len, .list, .max, .min, .ord, .print, .range, .repr, .reversed, .sorted,
   .str, .tuple, .type, .zip]

def ofName? (t : Text) : Option Builtin := every.find? fun b => Text.ofString b.name = t

end Builtin

namespace Value

def typeName : Value → String
  | .none => "NoneType"
  | .bool _ => "bool"
  | .int _ => "int"
  | .float _ => "float"
  | .str _ => "string"
  | .bytes _ => "bytes"
  | .tuple _ => "tuple"
  | .range _ => "range"
  | .view .bytes _ | .view .byteNumbers _ => "string.elems"
  | .view .characters _ | .view .characterNumbers _ => "string.codepoints"
  | .view .ofBytes _ => "bytes.elems"
  | .list _ => "list"
  | .dict _ => "dict"
  | .function _ => "function"
  | .builtin _ | .method .. => "builtin_function_or_method"

def isCallable : Value → Bool
  | .builtin _ | .method .. | .function _ => true
  | _ => false

def text? : Value → Option Text
  | .str t => some t
  | _ => Option.none

def truth? : Value → Option Bool
  | .bool b => some b
  | _ => Option.none

/-- An integer of 64 bits. -/
def count? : Value → Option Int64
  | .int n =>
      if Int64.minValue.toInt ≤ n && n ≤ Int64.maxValue.toInt then some (Int64.ofInt n)
      else Option.none
  | _ => Option.none

/-- An integer of 32 bits, as those are that index. -/
def smallInt? : Value → Option Int
  | .int n =>
      if Int32.minValue.toInt ≤ n && n ≤ Int32.maxValue.toInt then some n else Option.none
  | _ => Option.none

end Value

end Tandem.Expr
