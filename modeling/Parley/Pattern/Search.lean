import Parley.Pattern.Reader

/-!
# Parley.Pattern.Search — patterns found in a text

Matching goes through the choices of a pattern in their order and stops at the first way to satisfy
all of it.  A choice is made by calling the rest of the match, so that a later failure comes back
for the next choice.  A repetition ends after a round that took no characters, which bounds its
number of rounds by the length of the text.
-/

namespace Parley.Pattern

/-- How far a match has come: its place, and where groups begin and end. -/
structure Progress where
  place : Nat
  starts : List (Option Nat)
  ends : List (Option Nat)

/-- A match of part of a pattern, followed by the rest. -/
abbrev Rest := Progress → Option Progress

def setAt {α : Type} : Nat → α → List (Option α) → List (Option α)
  | 0, a, [] => [some a]
  | 0, a, _ :: xs => some a :: xs
  | n + 1, a, [] => none :: setAt n a []
  | n + 1, a, x :: xs => x :: setAt n a xs

/-- The part of the text that a group took, if it is closed. -/
def Progress.span? (p : Progress) (index : Nat) : Option (Nat × Nat) := do
  let low ← (p.starts[index]?).join
  let high ← (p.ends[index]?).join
  if low ≤ high then some (low, high) else none

def wordAt (mode : Mode) (text : Array Char) (i : Nat) : Bool :=
  match text[i]? with
  | some c => Category.word.holds mode.ascii c
  | none => false

def Anchor.holds (mode : Mode) (text : Array Char) (i : Nat) : Anchor → Bool
  | .textStart => i = 0
  | .textEnd => i = text.size
  | .lineStart => i = 0 || text[i - 1]? = some '\n'
  | .lineEnd => i = text.size || text[i]? = some '\n'
  | .lastLineEnd => i = text.size || (i + 1 = text.size && text[i]? = some '\n')
  | .boundary => text.size ≠ 0 && atBoundary
  | .noBoundary => text.size ≠ 0 && !atBoundary
where
  atBoundary : Bool := (0 < i && wordAt mode text (i - 1)) != wordAt mode text i

/-- One character that a test accepts. -/
def oneChar (text : Array Char) (accepts : Char → Bool) (p : Progress) (rest : Rest) :
    Option Progress :=
  match text[p.place]? with
  | some c => if accepts c then rest { p with place := p.place + 1 } else none
  | none => none

/-- Rounds of `body`: at least `least`, then as many as `most` and the appetite allow.  `last` is
where the last optional round began. -/
def rounds (body : Progress → Rest → Option Progress) (least : Nat) (most : Option Nat)
    (lazily : Bool) (rest : Rest) : Nat → Nat → Option Nat → Progress → Option Progress
  | 0, _, _, _ => none
  | fuel + 1, count, last, p =>
    let again (last : Option Nat) : Option Progress :=
      body p (rounds body least most lazily rest fuel (count + 1) last)
    if count < least then again last
    else
      let mayRepeat := (match most with
        | none => true
        | some n => count < n) && last ≠ some p.place
      let more (_ : Unit) : Option Progress := if mayRepeat then again (some p.place) else none
      if lazily then
        match rest p with
        | some q => some q
        | none => more ()
      else
        match more () with
        | some q => some q
        | none => rest p

/-- A group's earlier text once more. -/
def repeatsSpan (mode : Mode) (text : Array Char) (p : Progress) (span : Nat × Nat) : Bool :=
  let same (a b : Char) : Bool :=
    if !mode.ignoreCase then a = b
    else if mode.ascii then asciiLower a.toNat = asciiLower b.toNat
    else Unicode.lowerCode a.toNat = Unicode.lowerCode b.toNat
  (List.range (span.2 - span.1)).all fun i =>
    match text[span.1 + i]?, text[p.place + i]? with
    | some a, some b => same a b
    | _, _ => false

/-- A node at a place, followed by the rest. -/
def Node.run (text : Array Char) : Node → Progress → Rest → Option Progress
  | .empty, p, rest => rest p
  | .char mode negated code, p, rest =>
    oneChar text (fun c => sameCode mode code c.toNat != negated) p rest
  | .any newline, p, rest => oneChar text (fun c => newline || c ≠ '\n') p rest
  | .set mode negated items, p, rest =>
    oneChar text (fun c => items.any (·.holds mode c) != negated) p rest
  | .anchor mode place, p, rest => if place.holds mode text p.place then rest p else none
  | .seq a b, p, rest => a.run text p fun q => b.run text q rest
  | .alt a b, p, rest =>
    match a.run text p rest with
    | some q => some q
    | none => b.run text p rest
  | .plain a, p, rest => a.run text p rest
  | .group index a, p, rest =>
    a.run text { p with starts := setAt index p.place p.starts } fun q =>
      rest { q with ends := setAt index q.place q.ends }
  | .reference mode index _ _, p, rest =>
    match p.span? index with
    | some span =>
      if repeatsSpan mode text p span then rest { p with place := p.place + (span.2 - span.1) }
      else none
    | none => none
  | .conditional index yes no, p, rest =>
    if (p.span? index).isSome then yes.run text p rest else no.run text p rest
  | .ahead negated a, p, rest =>
    match a.run text p some with
    | some q => if negated then none else rest { q with place := p.place }
    | none => if negated then rest p else none
  | .behind negated a, p, rest =>
    let width := a.width.1
    let found := if p.place < width then none
      else a.run text { p with place := p.place - width } some
    match found with
    | some q => if negated then none else rest { q with place := p.place }
    | none => if negated then rest p else none
  | .atomic a, p, rest => (a.run text p some).bind rest
  | .repeated least most appetite a, p, rest =>
    let bound := least + (text.size - p.place) + 2
    let body := fun q r => a.run text q r
    match appetite with
    | .greedy => rounds body least most false rest bound 0 none p
    | .lazy => rounds body least most true rest bound 0 none p
    | .possessive => (rounds body least most false some bound 0 none p).bind rest

/-- The pattern occurs somewhere in the text. -/
def Node.occursIn (node : Node) (text : String) : Bool :=
  let chars := text.toList.toArray
  (List.range (chars.size + 1)).any fun i => (node.run chars ⟨i, [], []⟩ some).isSome

end Parley.Pattern
