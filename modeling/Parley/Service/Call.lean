import Parley.Document.Reader
import Parley.Http
import Parley.Record.Checked
import Parley.Unicode.Words

/-!
# Parley.Service.Call — calls of the service and its responses
-/

namespace Parley.Service

/-- A call: what to do, where, a document or null, and named texts. -/
structure Call where
  method : String
  path : String
  body : Value
  query : Fields String

structure Response where
  status : Nat
  body : Value
  /-- After how many seconds the call may be tried again. -/
  retryAfter : Option String
  deriving DecidableEq

namespace Response

def ok (fields : Fields Value) : Response := ⟨200, .object fields, none⟩

/-- A refusal that says one thing. -/
def detail (status : Nat) (wording : String) : Response :=
  ⟨status, .object [("detail", .text wording)], none⟩

/-- The place is known by another address. -/
def elsewhere : Response := ⟨307, .null, none⟩

def notFound : Response := detail 404 "Not Found"
def notAllowed : Response := detail 405 "Method Not Allowed"

/-- A refusal that names what is wrong with the call. -/
def flawed (flaws : List Record.Flaw) : Response :=
  ⟨422, .object [("detail", .list (flaws.map Record.Flaw.document))], none⟩

/-- A failure of the service. -/
def failure (status : Nat) (error wording : String) (more : Fields Value) : Response :=
  ⟨status, .object ([("error", .text error), ("message", .text wording)] ++ more), none⟩

end Response

/-- A byte from two hexadecimal digits. -/
def hexByte? (high low : Char) : Option UInt8 := do
  let h ← Document.hexValue? high
  let l ← Document.hexValue? low
  some (UInt8.ofNat (h * 16 + l))

/-- The bytes of a part of an address; three characters may stand for one byte. -/
def partBytes : List Char → List UInt8
  | [] => []
  | '%' :: high :: low :: rest =>
    match hexByte? high low with
    | some b => b :: partBytes rest
    | none => (String.singleton '%').toUTF8.toList ++ partBytes (high :: low :: rest)
  | c :: rest => (String.singleton c).toUTF8.toList ++ partBytes rest

/-- The text of a part of an address. -/
def decodePart (part : String) : String :=
  (String.fromUTF8? (partBytes part.toList).toByteArray).getD part

namespace Call

/-- The path of a call's address. -/
def place (c : Call) : String :=
  decodePart (Http.normalizePath (Unicode.cutAt '?' (Unicode.cutAt '#' c.path).1).1)

/-- The named texts behind the path of an address. -/
def pathQuery (c : Call) : Fields String :=
  let query := (Unicode.cutAt '?' (Unicode.cutAt '#' c.path).1).2.getD ""
  let pairs := (Unicode.splitAt '&' query).filter (!·.isEmpty)
  Table.ofPairs (pairs.map fun pair =>
    let (name, value) := Unicode.cutAt '=' (Unicode.replaceChar '+' ' ' pair)
    (decodePart name, decodePart (value.getD "")))

/-- The named texts of a call; those given beside the address go before those in it. -/
def texts (c : Call) : Fields String := if c.query.isEmpty then c.pathQuery else c.query

end Call

/-- The segments of a path that begins with a slash. -/
def segments (path : String) : List String := (Unicode.splitAt '/' path).drop 1

end Parley.Service
