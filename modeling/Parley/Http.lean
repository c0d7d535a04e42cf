import Parley.Action
import Parley.Document.Reader
import Parley.Unicode.Words

/-!
# Parley.Http — calls of other services

A call posts a document to an address.  It succeeds with a status from 200 to 299; the body of a
response is a document if it can be read as one.

Characters that an address cannot hold as they are become percent signs with the two hexadecimal
digits of each of their bytes.  Which ones depends on the part: the path ends at the first `?` or
`#`, the query at the first `#`.
-/

namespace Parley.Http

/-- A document for an address. -/
structure Request where
  url : String
  body : Value
  authorization : Option String

structure Response where
  status : Int
  body : String

/-- Why a call brought no response, or one that is no success. -/
inductive Failure
  | connection (wording : String)
  | status (code : Int)

/-- What carries requests. -/
structure Transport (σ : Type) where
  send : Request → Action σ (Except Failure Response)

def Response.isSuccess (r : Response) : Bool := 200 ≤ r.status && r.status < 300

/-- Posts a document and expects success. -/
def Transport.post {σ : Type} (t : Transport σ) (request : Request) :
    Action σ (Except Failure Response) := do
  match ← t.send request with
  | .ok response =>
    if response.isSuccess then return .ok response else return .error (.status response.status)
  | .error failure => return .error failure

/-- The document in a response. -/
def Response.document (r : Response) : Except Fault Value := Document.read r.body

/-- An address without the slashes at its end. -/
def trimUrl (url : String) : String := String.ofList ((url.toList.reverse.dropWhile (· = '/')).reverse)

/-! ### Addresses -/

/-- The parts of an address that differ in what they can hold. -/
inductive UrlPart
  | path | query | fragment
  deriving DecidableEq, Repr

/-- The characters that no part holds. -/
def neverHeld : List Char := [' ', Char.ofNat 34, '<', '>']

def UrlPart.holds (p : UrlPart) (c : Char) : Bool :=
  32 ≤ c.toNat && c.toNat < 127 && !(neverHeld.contains c) &&
    match p with
    | .path => !(['#', '?', Char.ofNat 96, Char.ofNat 123, Char.ofNat 125].contains c)
    | .query => c ≠ '#'
    | .fragment => c ≠ Char.ofNat 96

def upperHex (n : Nat) : Char := "0123456789ABCDEF".toList.getD n '0'

def percentByte (b : UInt8) : List Char := ['%', upperHex (b.toNat / 16), upperHex (b.toNat % 16)]

/-- A character as a part writes it. -/
def UrlPart.encodeChar (p : UrlPart) (c : Char) : List Char :=
  if p.holds c then [c] else (String.singleton c).toUTF8.toList.flatMap percentByte

/-- What comes after a path and a query. -/
def encodeRest : UrlPart → List Char → List Char
  | _, [] => []
  | p, c :: cs =>
    if p ≠ .fragment && c = '#' then '#' :: encodeRest .fragment cs
    else p.encodeChar c ++ encodeRest p cs

/-- The segments of a path without those that mean "here" and "up". -/
def dropDots : List String → List String → List String
  | kept, [] => kept
  | kept, "." :: more => dropDots kept more
  | kept, ".." :: more => dropDots (if kept = [""] then kept else kept.dropLast) more
  | kept, s :: more => dropDots (kept ++ [s]) more

def normalizePath (path : String) : String :=
  "/".intercalate (dropDots [] (Unicode.splitAt '/' path))

/-- An address: what comes before the path, and the text from there on. -/
def splitUrl (url : String) : String × String :=
  match url.splitOn "://" with
  | scheme :: rest@(_ :: _) =>
    let rest := ("://".intercalate rest).toList
    let host := rest.takeWhile fun c => c ≠ '/' && c ≠ '?' && c ≠ '#'
    (scheme ++ "://" ++ String.ofList host, String.ofList (rest.drop host.length))
  | _ => ("", url)

/-- An address as it is sent; none if it holds a control character. -/
def encodeUrl (url : String) : Option String :=
  if url.toList.any fun c => c.toNat < 32 || c.toNat = 127 then none
  else
    let (start, rest) := splitUrl url
    let path := rest.toList.takeWhile fun c => c ≠ '?' && c ≠ '#'
    let after := rest.toList.drop path.length
    let path := (normalizePath (String.ofList path)).toList.flatMap UrlPart.path.encodeChar
    let after := match after with
      | '?' :: cs => '?' :: encodeRest .query cs
      | cs => encodeRest .path cs
    some (start ++ String.ofList (path ++ after))

end Parley.Http
