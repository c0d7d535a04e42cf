import Parley.Value
import Parley.Unicode.Printable

/-!
# Parley.Value.Display — values as people read them

`display` is the text of a value inside a message: text stands for itself, everything else as in
`quoted`.  `quoted` puts text in quotation marks, so that a list shows where its items end.
-/

namespace Parley

namespace Quoting

def hexDigit (n : Nat) : Char := "0123456789abcdef".toList.getD n '0'

/-- `n` in hexadecimal with exactly `width` digits. -/
def hex : Nat → Nat → List Char
  | 0, _ => []
  | width + 1, n => hex width (n / 16) ++ [hexDigit (n % 16)]

def backslash : Char := Char.ofNat 92
def singleQuote : Char := Char.ofNat 39
def doubleQuote : Char := Char.ofNat 34

/-- One character between the given quotation marks. -/
def escape (mark c : Char) : List Char :=
  if c = mark || c = backslash then [backslash, c]
  else if c = '\n' then [backslash, 'n']
  else if c = '\r' then [backslash, 'r']
  else if c = '\t' then [backslash, 't']
  else if Unicode.isPrintable c then [c]
  else if c.toNat < 0x100 then backslash :: 'x' :: hex 2 c.toNat
  else if c.toNat < 0x10000 then backslash :: 'u' :: hex 4 c.toNat
  else backslash :: 'U' :: hex 8 c.toNat

/-- Single marks, unless the text has one of those and no double mark. -/
def markFor (s : String) : Char :=
  if s.toList.contains singleQuote && !s.toList.contains doubleQuote then doubleQuote
  else singleQuote

/-- Text in quotation marks. -/
def quote (s : String) : String :=
  let mark := markFor s
  String.ofList (mark :: s.toList.flatMap (escape mark) ++ [mark])

end Quoting

namespace Value

mutual

/-- A value with its text in quotation marks. -/
def quoted : Value → String
  | null => "None"
  | bool true => "True"
  | bool false => "False"
  | int i => toString i
  | real x => Decimal.Layout.plain.render x
  | text s => Quoting.quote s
  | list items => "[" ++ ", ".intercalate (quotedList items) ++ "]"
  | object fields => "\x7b" ++ ", ".intercalate (quotedFields fields) ++ "\x7d"

def quotedList : List Value → List String
  | [] => []
  | a :: as => quoted a :: quotedList as

def quotedFields : List (String × Value) → List String
  | [] => []
  | (k, a) :: as => (Quoting.quote k ++ ": " ++ quoted a) :: quotedFields as

end

/-- A value inside a message. -/
def display : Value → String
  | text s => s
  | v => quoted v

end Value

/-- The name of a shape in messages. -/
def Kind.name : Kind → String
  | .null => "NoneType"
  | .bool => "bool"
  | .int => "int"
  | .real => "float"
  | .text => "str"
  | .list => "list"
  | .object => "dict"

end Parley
