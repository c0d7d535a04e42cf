import Parley.Digest.Blocks

/-!
# Parley.Digest.Sha1 — the 160-bit digest that names versions of templates

Five words of state, eighty steps a block, big-endian throughout.
-/

namespace Parley.Digest.Sha1

/-- The five words of state. -/
structure State where
  a : UInt32
  b : UInt32
  c : UInt32
  d : UInt32
  e : UInt32

def initial : State := ⟨0x67452301, 0xefcdab89, 0x98badcfe, 0x10325476, 0xc3d2e1f0⟩

/-- Sixteen words of a block extended to eighty. -/
def schedule (bytes : List UInt8) : Array UInt32 :=
  (List.range 64).foldl
    (fun words i =>
      words.push (rotateLeft
        (wordAt words (i + 13) ^^^ wordAt words (i + 8) ^^^ wordAt words (i + 2) ^^^ wordAt words i)
        1))
    ((pieces 4 bytes).map bigWord).toArray

/-- The round function and the constant of step `i`. -/
def mix (i : Nat) (b c d : UInt32) : UInt32 × UInt32 :=
  if i < 20 then ((b &&& c) ||| (~~~b &&& d), 0x5a827999)
  else if i < 40 then (b ^^^ c ^^^ d, 0x6ed9eba1)
  else if i < 60 then ((b &&& c) ||| (b &&& d) ||| (c &&& d), 0x8f1bbcdc)
  else (b ^^^ c ^^^ d, 0xca62c1d6)

def step (words : Array UInt32) (s : State) (i : Nat) : State :=
  let (f, k) := mix i s.b s.c s.d
  ⟨rotateLeft s.a 5 + f + s.e + k + wordAt words i, s.a, rotateLeft s.b 30, s.c, s.d⟩

def block (s : State) (bytes : List UInt8) : State :=
  let r := (List.range 80).foldl (step (schedule bytes)) s
  ⟨s.a + r.a, s.b + r.b, s.c + r.c, s.d + r.d, s.e + r.e⟩

/-- The twenty bytes of the digest. -/
def digest (message : List UInt8) : List UInt8 :=
  let s := (pieces 64 (padMessage (bigBytes 8) message)).foldl block initial
  [s.a, s.b, s.c, s.d, s.e].flatMap fun w => bigBytes 4 w.toNat

/-- The digest of a text in hexadecimal. -/
def hexDigest (s : String) : String := hexText (digest (utf8 s))

end Parley.Digest.Sha1
