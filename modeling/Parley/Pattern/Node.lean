import Parley.Unicode.Ranges
import Parley.Unicode.Numeric
import Parley.Unicode.CaseMap

/-!
# Parley.Pattern.Node — the shapes that a text pattern looks for

A pattern is a tree.  What depends on the modes in force where a node was written (case, line ends)
is in the node itself.
-/

namespace Parley.Pattern

/-- Modes in force at a place of a pattern. -/
structure Mode where
  ignoreCase : Bool := false
  multiline : Bool := false
  dotAll : Bool := false
  verbose : Bool := false
  ascii : Bool := false
  unicode : Bool := false
  deriving DecidableEq, Repr, Inhabited

/-- Classes of characters. -/
inductive Category
  | decimal | blank | word
  deriving DecidableEq, Repr

def Category.holds (ascii : Bool) : Category → Char → Bool
  | .decimal, c => if ascii then c.isDigit else Unicode.isDecimal c
  | .blank, c => if ascii then c = ' ' || (9 ≤ c.toNat && c.toNat ≤ 13) else Unicode.isBlank c
  | .word, c => if ascii then c = '_' || c.isAlphanum else Unicode.isWord c

/-- Members of a character set. -/
inductive SetItem
  | code (n : Nat)
  | range (low high : Nat)
  | category (category : Category) (negated : Bool)
  deriving DecidableEq, Repr

/-- Places in a text. -/
inductive Anchor
  | textStart | textEnd | lineStart | lineEnd | lastLineEnd | boundary | noBoundary
  deriving DecidableEq, Repr

/-- How a repetition chooses its number of rounds. -/
inductive Appetite
  | greedy | lazy | possessive
  deriving DecidableEq, Repr

/-- Pattern trees. -/
inductive Node
  | empty
  | char (mode : Mode) (negated : Bool) (code : Nat)
  | any (newline : Bool)
  | set (mode : Mode) (negated : Bool) (items : List SetItem)
  | anchor (mode : Mode) (place : Anchor)
  | seq (first second : Node)
  | alt (first second : Node)
  /-- A group without a number. -/
  | plain (inner : Node)
  | group (index : Nat) (inner : Node)
  | reference (mode : Mode) (index low high : Nat)
  | conditional (index : Nat) (yes no : Node)
  | ahead (negated : Bool) (inner : Node)
  | behind (negated : Bool) (inner : Node)
  | atomic (inner : Node)
  | repeated (least : Nat) (most : Option Nat) (appetite : Appetite) (inner : Node)
  deriving Repr

/-- Widths at or above this one count as unbounded. -/
def unbounded : Nat := Nat.pow 2 64

/-- Least and greatest number of characters that a node can take. -/
def Node.width : Node → Nat × Nat
  | empty | anchor .. | ahead .. | behind .. => (0, 0)
  | char .. | any .. | set .. => (1, 1)
  | seq a b => (min (a.width.1 + b.width.1) unbounded, min (a.width.2 + b.width.2) unbounded)
  | alt a b => (min a.width.1 b.width.1, max a.width.2 b.width.2)
  | plain a | group _ a | atomic a => a.width
  | reference _ _ low high => (low, high)
  | conditional _ a b => (min a.width.1 b.width.1, max a.width.2 b.width.2)
  | repeated least most _ a =>
    (min (a.width.1 * least) unbounded,
      match most with
      | none => if a.width.2 = 0 then 0 else unbounded
      | some n => min (a.width.2 * n) unbounded)

/-- All looks behind have a fixed width. -/
def Node.fixedBehind : Node → Bool
  | behind _ a => a.width.1 = a.width.2 && a.fixedBehind
  | seq a b | alt a b | conditional _ a b => a.fixedBehind && b.fixedBehind
  | plain a | group _ a | ahead _ a | atomic a | repeated _ _ _ a => a.fixedBehind
  | _ => true

def asciiLower (n : Nat) : Nat := if 65 ≤ n && n ≤ 90 then n + 32 else n

/-- Two code points are the same, or the same up to case where the mode ignores it. -/
def sameCode (mode : Mode) (a b : Nat) : Bool :=
  if !mode.ignoreCase then a = b
  else if mode.ascii then asciiLower a = asciiLower b
  else a = b || (Unicode.caseVariants a).contains b

/-- The code points that stand for a character of the text in a set. -/
def codesFor (mode : Mode) (c : Char) : List Nat :=
  if !mode.ignoreCase then [c.toNat]
  else if mode.ascii then
    let n := asciiLower c.toNat
    if 97 ≤ n && n ≤ 122 then [n, n - 32] else [n]
  else c.toNat :: Unicode.caseVariants c.toNat

def SetItem.holds (mode : Mode) (c : Char) : SetItem → Bool
  | code n => (codesFor mode c).contains n
  | range low high => (codesFor mode c).any fun n => low ≤ n && n ≤ high
  | category k negated => k.holds mode.ascii c != negated

end Parley.Pattern
