import Parley.Value.Limits

/-!
# Parley.Document.Writer — values as document text

Documents are JSON text in ASCII: characters beyond it are written as escapes of their sixteen-bit
units.  `write` keeps the order of fields, `writeSorted` puts names in the order of their code
points, which is the form that content hashes are taken of.  These are the texts of all values;
`compose` and `composeSorted` write them, which they can do within the limits on numbers and nesting.
-/

namespace Parley.Document

open Quoting

def unitEscape (n : Nat) : List Char := backslash :: 'u' :: hex 4 n

/-- One character inside quoted document text. -/
def escapeChar (c : Char) : List Char :=
  let n := c.toNat
  if c = doubleQuote || c = backslash then [backslash, c]
  else if c = '\n' then [backslash, 'n']
  else if c = '\r' then [backslash, 'r']
  else if c = '\t' then [backslash, 't']
  else if n = 8 then [backslash, 'b']
  else if n = 12 then [backslash, 'f']
  else if 32 ≤ n && n < 127 then [c]
  else if n < 0x10000 then unitEscape n
  else unitEscape (0xD800 + (n - 0x10000) / 0x400) ++ unitEscape (0xDC00 + (n - 0x10000) % 0x400)

def writeText (s : String) : String :=
  String.ofList (doubleQuote :: s.toList.flatMap escapeChar ++ [doubleQuote])

/-- Fields in the order of their names. -/
def inOrder {α : Type} (fields : List (String × α)) : List (String × α) :=
  fields.mergeSort fun a b => !(b.1 < a.1)

mutual

/-- Document text with the fields in the order in which they are. -/
def write : Value → String
  | .null => "null"
  | .bool true => "true"
  | .bool false => "false"
  | .int i => toString i
  | .real x => Decimal.Layout.json.render x
  | .text s => writeText s
  | .list items => "[" ++ ", ".intercalate (writeList items) ++ "]"
  | .object fields => "\x7b" ++ ", ".intercalate (writeFields fields) ++ "\x7d"

def writeList : List Value → List String
  | [] => []
  | a :: as => write a :: writeList as

def writeFields : List (String × Value) → List String
  | [] => []
  | (k, a) :: as => (writeText k ++ ": " ++ write a) :: writeFields as

end

mutual

/-- The value with the fields of all its objects in the order of their names. -/
def sorted : Value → Value
  | .list items => .list (sortedList items)
  | .object fields => .object (inOrder (sortedFields fields))
  | v => v

def sortedList : List Value → List Value
  | [] => []
  | a :: as => sorted a :: sortedList as

def sortedFields : List (String × Value) → List (String × Value)
  | [] => []
  | (k, a) :: as => (k, sorted a) :: sortedFields as

end

/-- Document text with names in the order of their code points. -/
def writeSorted (v : Value) : String := write (sorted v)

def writing : String := " while encoding a JSON object"

/-- Writes a document. -/
def compose (v : Value) : Except Fault String :=
  (v.walk writing Limits.room).map fun _ => write v

/-- Writes a document with names in the order of their code points. -/
def composeSorted (v : Value) : Except Fault String := compose (sorted v)

theorem compose_eq_ok {v : Value} {s : String} :
    compose v = .ok s ↔ (v.brief = true ∧ v.nesting ≤ Limits.room) ∧ s = write v :=
  Value.map_walk_eq_ok

/-- What keeps a document from being written is a limit. -/
theorem isLimit_of_compose {v : Value} {f : Fault} (h : compose v = .error f) :
    f.isLimit = true := Value.isLimit_of_map_walk h

end Parley.Document
