import Parley.Value.Limits
import Parley.Pattern.Search
import Parley.Unicode.Words

/-!
# Parley.Template.Predicate — tests on a message and on the conversation's variables

A predicate tells whether a condition's branch is taken.  A predicate that cannot be evaluated is a
fault of its own, so that a condition may go on to its next branch.
-/

namespace Parley.Template

/-- What a predicate compares. -/
inductive MatchType
  | contains | equals | regex | contextHas | contextValue
  | other (name : String)
  deriving DecidableEq, Repr

def MatchType.name : MatchType → String
  | contains => "contains"
  | equals => "equals"
  | regex => "regex"
  | contextHas => "context_has"
  | contextValue => "context_value"
  | other name => name

/-- The match types that a template may use. -/
def MatchType.known : List MatchType := [contains, equals, regex, contextHas, contextValue]

def MatchType.ofName? (name : String) : Option MatchType := known.find? (·.name = name)

def MatchType.ofName (name : String) : MatchType := (ofName? name).getD (other name)

theorem MatchType.ofName?_name {m : MatchType} (h : m ∈ known) : ofName? m.name = some m := by
  simp only [known, List.mem_cons, List.not_mem_nil, or_false] at h
  rcases h with rfl | rfl | rfl | rfl | rfl <;> decide

/-- One test. -/
structure Predicate where
  matchType : MatchType
  value : String
  caseSensitive : Bool
  deriving DecidableEq, Repr

def repetitionTooLarge : Fault := .tooLarge "the repetition number is too large"
def incompatibleModes : Fault := .badValue "ASCII and UNICODE flags are incompatible"
def patternTooDeep : Fault := .tooDeep ""

/-- What stands for the pattern reader's own reason. -/
def patternReason : String := "<regex>"

namespace Predicate

def fold (p : Predicate) (s : String) : String :=
  if p.caseSensitive then s else Unicode.lowercase s

def fault (p : Predicate) (reason : String) : Fault :=
  .predicate p.matchType.name p.value reason

/-- Whether the test holds for a message and the variables. -/
def holds (p : Predicate) (text : String) (context : Fields Value) : Except Fault Bool :=
  match p.matchType with
  | .contains => .ok (Unicode.occursIn (p.fold p.value).toList (p.fold text).toList)
  | .equals => .ok (p.fold text = p.fold p.value)
  | .regex =>
    match Pattern.read (!p.caseSensitive) p.value with
    | .ok node => .ok (node.occursIn text)
    | .error .grammar => .error (p.fault patternReason)
    | .error .repetitionTooLarge => .error repetitionTooLarge
    | .error .incompatibleModes => .error incompatibleModes
    | .error .tooDeep => .error patternTooDeep
  | .contextHas =>
    .ok (match context.get? p.value with
      | none | some .null => false
      | some (.text s) => !s.isEmpty
      | some _ => true)
  | .contextValue =>
    match Unicode.cutAt '=' p.value with
    | (_, none) => .error (p.fault "expected 'variable=value'")
    | (name, some wanted) =>
      match context.get? (Unicode.strip name) with
      | none | some .null => .ok false
      | some v => v.shown.map fun actual => p.fold actual = p.fold (Unicode.strip wanted)
  | .other _ => .error (p.fault "unsupported match type")

end Predicate

end Parley.Template
