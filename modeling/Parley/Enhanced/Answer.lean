import Parley.Value.RealText
import Parley.Pattern.Search
import Parley.Template.Predicate

/-!
# Parley.Enhanced.Answer — well-formed answers

An answer to a question of a known type is first brought into a canonical form and then checked.
A check that fails names what was not met.
-/

namespace Parley.Enhanced

open Unicode (isBlank isDecimal isLetter)

/-- Characters that separate groups of a phone number. -/
def isPhoneSeparator (c : Char) : Bool :=
  isBlank c || c = '-' || c = '(' || c = ')' || c = '.'

def dropSeparators (s : String) : String :=
  String.ofList (s.toList.filter fun c => !isPhoneSeparator c)

/-- The canonical form of an answer. -/
def normalizeAnswer (inputType : Value) (answer : String) : String :=
  let spaced := Unicode.singleSpaced answer
  match inputType with
  | .text "email" => Unicode.lowercase spaced
  | .text "phone" => dropSeparators spaced
  | .text "name" => Unicode.titlecase spaced
  | _ => spaced

/-- A line break may stand at the very end. -/
def withoutLastBreak (cs : List Char) : List Char :=
  if cs.getLast? = some '\n' then cs.dropLast else cs

def isAddressChar (c : Char) : Bool := !isBlank c && c ≠ '@'

/-- A point with something on both sides. -/
def hasInnerPoint (cs : List Char) : Bool := (cs.drop 1).dropLast.contains '.'

def isEmail (s : String) : Bool :=
  let cs := withoutLastBreak s.toList
  let name := cs.takeWhile isAddressChar
  match cs.drop name.length with
  | '@' :: domain => !name.isEmpty && domain.all isAddressChar && hasInnerPoint domain
  | _ => false

/-- An optional plus sign, a digit other than zero, and seven to fifteen digits of any script. -/
def isPhone (s : String) : Bool :=
  let cs := match s.toList with
    | '+' :: rest => rest
    | rest => rest
  match cs with
  | first :: digits =>
    '1' ≤ first && first ≤ '9' && digits.all isDecimal && 7 ≤ digits.length
      && digits.length ≤ 15
  | [] => false

/-- A number with a decimal point or a decimal comma. -/
def isNumber (s : String) : Bool := Numeral.isRealText (Unicode.replaceChar ',' '.' s)

/-- At least two characters, letters and blanks only. -/
def isName (s : String) : Bool :=
  2 ≤ s.length && s.toList.all fun c => isLetter c || isBlank c

/-- Whether an answer has the form of its type; answers of other types have any form. -/
def hasForm (inputType : Value) (answer : String) : Bool :=
  match inputType with
  | .text "email" => isEmail answer
  | .text "phone" => isPhone (dropSeparators answer)
  | .text "number" => isNumber answer
  | .text "name" => isName answer
  | _ => true

/-- Whether a pattern of any shape occurs in the answer; one that cannot be read is taken to. -/
def matchesPattern (pattern : Value) (answer : String) : Except Fault Bool :=
  match pattern with
  | .text p =>
    match Pattern.read false p with
    | .ok node => .ok (node.occursIn answer)
    | .error .grammar => .ok true
    | .error .repetitionTooLarge => .error Template.repetitionTooLarge
    | .error .incompatibleModes => .error Template.incompatibleModes
    | .error .tooDeep => .error Template.patternTooDeep
  | v =>
    if v.hashable then
      .error (.wrongArgument "first argument must be string or compiled pattern")
    else .error (.unhashable v.kind)

/-- The outcome of a check: none if it is passed, else what was not met. -/
abbrev Verdict := Option Value

/-- The validation rules of a question, if they are a table. -/
def validationFields (validation : Value) : Except Fault (Fields Value) :=
  if validation.truthy then validation.members "get" else .ok []

/-- Checks an answer for its type and a validation pattern. -/
def checkAnswer (inputType : Value) (answer : String) (validation : Value) :
    Except Fault Verdict :=
  if answer.isEmpty then .ok (some (inputType.orElse (.text "pattern")))
  else if !hasForm inputType answer then .ok (some inputType)
  else do
    let pattern := Value.field (← validationFields validation) "pattern"
    if pattern.truthy then
      .ok (if ← matchesPattern pattern answer then none else some (.text "pattern"))
    else .ok none

end Parley.Enhanced
