import Parley.Unicode.Ranges
import Parley.Unicode.Casing

/-!
# Parley.Unicode.Words — stripping and splitting text

Blanks are those of `Parley.Unicode.isBlank`.
-/

namespace Parley.Unicode

/-- Without the characters of a class at both ends. -/
def stripIf (p : Char → Bool) (s : String) : String :=
  String.ofList (((s.toList.dropWhile p).reverse.dropWhile p).reverse)

/-- Without blanks at both ends. -/
def strip (s : String) : String := stripIf isBlank s

/-- Without the trailing occurrences of a character. -/
def stripRight (c : Char) (s : String) : String :=
  String.ofList ((s.toList.reverse.dropWhile (· = c)).reverse)

/-- The runs between blanks; `word` is the run so far, reversed. -/
def splitBlanks : List Char → List Char → List (List Char)
  | word, [] => if word.isEmpty then [] else [word.reverse]
  | word, c :: cs =>
    if isBlank c then (if word.isEmpty then [] else [word.reverse]) ++ splitBlanks [] cs
    else splitBlanks (c :: word) cs

/-- The words of a text with one space between them. -/
def singleSpaced (s : String) : String :=
  " ".intercalate ((splitBlanks [] s.toList).map String.ofList)

/-- The text is a part of the other one. -/
def occursIn (part whole : List Char) : Bool :=
  match whole with
  | [] => part.isEmpty
  | _ :: rest => part.isPrefixOf whole || occursIn part rest

/-- The text before the first occurrence of a character, and the text after it if there is one. -/
def cutAt (c : Char) (s : String) : String × Option String :=
  let before := s.toList.takeWhile (· ≠ c)
  match s.toList.drop before.length with
  | [] => (s, none)
  | _ :: after => (String.ofList before, some (String.ofList after))

/-- The pieces between the occurrences of a character. -/
def piecesAt (c : Char) : List Char → List (List Char)
  | [] => [[]]
  | d :: ds =>
    if d = c then [] :: piecesAt c ds
    else
      match piecesAt c ds with
      | [] => [[d]]
      | piece :: more => (d :: piece) :: more

/-- The parts of a text between the occurrences of a character. -/
def splitAt (c : Char) (s : String) : List String := (piecesAt c s.toList).map String.ofList

/-- Every occurrence of one character replaced by another. -/
def replaceChar (old new : Char) (s : String) : String :=
  String.ofList (s.toList.map fun c => if c = old then new else c)

end Parley.Unicode
