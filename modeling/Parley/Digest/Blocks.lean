/-!
# Parley.Digest.Blocks — padding and words of message digests

The three digests of this library work on blocks of sixty-four bytes.  A message is closed by a
one-bit, padded with zeros, and ends in its length in bits; `padded` differs between them only in
the byte order of that length.
-/

namespace Parley.Digest

/-- The `count` lowest bytes of a number, the least significant first. -/
def littleBytes : Nat → Nat → List UInt8
  | 0, _ => []
  | count + 1, n => UInt8.ofNat n :: littleBytes count (n / 256)

def bigBytes (count n : Nat) : List UInt8 := (littleBytes count n).reverse

/-- The message with its closing bit, zeros and length. -/
def padMessage (lengthBytes : Nat → List UInt8) (message : List UInt8) : List UInt8 :=
  let zeros := (119 - message.length % 64) % 64
  message ++ 0x80 :: List.replicate zeros 0 ++ lengthBytes (8 * message.length)

/-- A list cut into pieces of `size`; a shorter rest is left out. -/
def pieces {α : Type} (size : Nat) (xs : List α) : List (List α) :=
  (List.range (xs.length / size)).map fun i => (xs.drop (i * size)).take size

def bigWord (bytes : List UInt8) : UInt32 :=
  bytes.foldl (fun w b => w <<< 8 ||| b.toUInt32) 0

def littleWord (bytes : List UInt8) : UInt32 := bigWord bytes.reverse

def rotateLeft (w : UInt32) (n : UInt32) : UInt32 := w <<< n ||| w >>> (32 - n)
def rotateRight (w : UInt32) (n : UInt32) : UInt32 := w >>> n ||| w <<< (32 - n)

/-- Words by position. -/
def wordAt (words : Array UInt32) (i : Nat) : UInt32 := words.getD i 0

def hexOfByte (b : UInt8) : List Char :=
  let digit (n : Nat) : Char := "0123456789abcdef".toList.getD n '0'
  [digit (b.toNat / 16), digit (b.toNat % 16)]

/-- Bytes in hexadecimal. -/
def hexText (bytes : List UInt8) : String := String.ofList (bytes.flatMap hexOfByte)

def utf8 (s : String) : List UInt8 := s.toUTF8.toList

theorem padMessage_length (message : List UInt8) {f : Nat → List UInt8}
    (hf : ∀ n, (f n).length = 8) : (padMessage f message).length % 64 = 0 := by
  simp only [padMessage, List.length_append, List.length_cons, List.length_replicate, hf]
  omega

end Parley.Digest
