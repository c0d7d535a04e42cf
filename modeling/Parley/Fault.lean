import Parley.Value.Display

/-!
# Parley.Fault — why something could not be done

A fault is a cause.  `Fault.message` is its wording, `Fault.label` the name of its class and
`Fault.family` the kind of mistake, which decides who handles it.
-/

namespace Parley

/-- Kinds of mistakes. -/
inductive Family
  /-- A value of the wrong shape. -/
  | shape
  /-- Text or a number outside what can be read. -/
  | content
  /-- A missing field. -/
  | missing
  /-- A value without the asked capability. -/
  | member
  | division
  | overflow
  /-- A failure of an engine or a collaborator that has no class of its own. -/
  | outside
  /-- A fault of the conversation service itself. -/
  | service
  deriving DecidableEq, Repr

/-- The causes of failure. -/
inductive Fault
  -- values of the wrong shape
  | cannotAdd (left right : Kind)
  | cannotCombine (operator : String) (left right : Kind)
  | notIterable (kind : Kind)
  | notContainer (kind : Kind)
  | unhashable (kind : Kind)
  | notOrdered (operator : String) (left right : String)
  | notSubscriptable (kind : Kind)
  | badSubscript (container : Kind) (key : String)
  | notJoinable (position : Nat) (kind : Kind)
  | entryNotSequence (position : Nat)
  | wrongArgument (wording : String)
  | mixedClocks
  -- content that cannot be read
  | entryLength (position length : Nat)
  | badInteger (shown : String)
  | badTime (shown : String)
  | badCalendar (wording : String)
  | notAMember (shown enumeration : String)
  | badDocument (wording : String) (line column position : Nat)
  | sessionKeyRequired
  | badValue (wording : String)
  /-- A whole number with too many digits for a text, or a text with too many for a number. -/
  | tooLong (digits : Option Nat)
  -- other mistakes with data
  | missingField (name : String)
  | noMember (kind : Kind) (member : String)
  | divisionByZero (wording : String)
  | tooLarge (wording : String)
  -- failures of engines and collaborators
  | surprise (wording : String)
  | refused (wording : String)
  /-- Data or patterns nested too deeply for what was being done. -/
  | tooDeep (doing : String)
  -- faults of the service
  | malformedGraph (summary : String) (templateId : String) (problems : List String)
  | unknownTemplate (templateId : String)
  | unknownNode (nodeId graphId : String)
  | predicate (matchType value reason : String)
  | storePersistence (operation key cause : String)
  | transient (wording : String) (attempts : Int)
  | moduleFailed (module wording : String)
  | moduleTimeout (module : String) (limit elapsed : Number)
  | baselineFailed (wording : String)
  deriving DecidableEq, Repr

namespace Fault

def wrongShape : Fault → Bool
  | cannotAdd .. | cannotCombine .. | notIterable .. | notContainer .. | unhashable ..
  | notOrdered .. | notSubscriptable .. | badSubscript .. | notJoinable .. | entryNotSequence ..
  | wrongArgument .. | mixedClocks => true
  | _ => false

def family : Fault → Family
  | entryLength .. | badInteger .. | badTime .. | badCalendar .. | notAMember .. | badDocument ..
  | sessionKeyRequired | badValue .. | tooLong .. => .content
  | missingField .. => .missing
  | noMember .. => .member
  | divisionByZero .. => .division
  | tooLarge .. => .overflow
  | surprise .. | refused .. | tooDeep .. => .outside
  | malformedGraph .. | unknownTemplate .. | unknownNode .. | predicate .. | storePersistence ..
  | transient .. | moduleFailed .. | moduleTimeout .. | baselineFailed .. => .service
  | _ => .shape

/-- The name of the fault's class. -/
def label : Fault → String
  | badDocument .. => "JSONDecodeError"
  | malformedGraph .. => "MalformedGraph"
  | unknownTemplate .. => "UnknownTemplateError"
  | unknownNode .. => "UnknownNodeError"
  | predicate .. => "PredicateEvaluationError"
  | storePersistence .. => "StorePersistenceError"
  | transient .. => "TransientProcessingError"
  | moduleFailed .. => "EnhancedModuleError"
  | moduleTimeout .. => "EnhancedModuleTimeout"
  | baselineFailed .. => "BaselineExecutionError"
  | refused .. => "LookupError"
  | tooDeep .. => "RecursionError"
  | f =>
    match f.family with
    | .shape => "TypeError"
    | .content => "ValueError"
    | .missing => "KeyError"
    | .member => "AttributeError"
    | .division => "ZeroDivisionError"
    | .overflow => "OverflowError"
    | .outside | .service => "RuntimeError"

/-- A limit was met, which says nothing against what was asked. -/
def isLimit : Fault → Bool
  | tooLong .. | tooDeep .. => true
  | _ => false

theorem family_of_isLimit {f : Fault} (h : f.isLimit = true) :
    f.family = .content ∨ f.family = .outside := by
  cases f with
  | tooLong => exact .inl rfl
  | tooDeep => exact .inr rfl
  | _ => exact nomatch h

/-- The wording for a number of more digits than are turned into text, or read from one. -/
def digitsMessage (digits : Option Nat) : String :=
  "Exceeds the limit (4300 digits) for integer string conversion"
    ++ (match digits with
      | none => ""
      | some n => ": value has " ++ toString n ++ " digits")
    ++ "; use sys.set_int_max_str_digits() to increase the limit"

/-- A limit in seconds as it was given. -/
def timeoutMessage (limit elapsed : Number) : String :=
  "timed out after " ++ elapsed.fixed 2 ++ "s (limit: " ++ limit.display ++ "s)"

def moduleMessage (module wording : String) : String :=
  "Enhanced module '" ++ module ++ "' failed: " ++ wording

def graphMessage (summary : String) (problems : List String) : String :=
  if problems.isEmpty then summary else summary ++ ": " ++ "; ".intercalate problems

/-- The wording of a fault. -/
def message : Fault → String
  | cannotAdd .text right =>
    "can only concatenate str (not \"" ++ right.name ++ "\") to str"
  | cannotAdd .list right =>
    "can only concatenate list (not \"" ++ right.name ++ "\") to list"
  | cannotAdd left right =>
    "unsupported operand type(s) for +: '" ++ left.name ++ "' and '" ++ right.name ++ "'"
  | cannotCombine operator left right =>
    "unsupported operand type(s) for " ++ operator ++ ": '" ++ left.name ++ "' and '"
      ++ right.name ++ "'"
  | notIterable kind => "'" ++ kind.name ++ "' object is not iterable"
  | notContainer kind => "argument of type '" ++ kind.name ++ "' is not iterable"
  | unhashable kind => "unhashable type: '" ++ kind.name ++ "'"
  | notOrdered operator left right =>
    "'" ++ operator ++ "' not supported between instances of '" ++ left ++ "' and '" ++ right
      ++ "'"
  | notSubscriptable kind => "'" ++ kind.name ++ "' object is not subscriptable"
  | badSubscript .text key => "string indices must be integers, not '" ++ key ++ "'"
  | badSubscript container key =>
    container.name ++ " indices must be integers or slices, not " ++ key
  | notJoinable position kind =>
    "sequence item " ++ toString position ++ ": expected str instance, " ++ kind.name ++ " found"
  | entryNotSequence position =>
    "cannot convert dictionary update sequence element #" ++ toString position
      ++ " to a sequence"
  | wrongArgument wording => wording
  | mixedClocks => "can't compare offset-naive and offset-aware datetimes"
  | entryLength position length =>
    "dictionary update sequence element #" ++ toString position ++ " has length "
      ++ toString length ++ "; 2 is required"
  | badInteger shown => "invalid literal for int() with base 10: " ++ shown
  | badTime shown => "Invalid isoformat string: " ++ shown
  | badCalendar wording => wording
  | notAMember shown enumeration => shown ++ " is not a valid " ++ enumeration
  | badDocument wording line column position =>
    wording ++ ": line " ++ toString line ++ " column " ++ toString column ++ " (char "
      ++ toString position ++ ")"
  | sessionKeyRequired => "session key is required to start a conversation"
  | badValue wording => wording
  | tooLong digits => digitsMessage digits
  | missingField name => Quoting.quote name
  | noMember kind member => "'" ++ kind.name ++ "' object has no attribute '" ++ member ++ "'"
  | divisionByZero wording => wording
  | tooLarge wording => wording
  | surprise wording => wording
  | refused wording => wording
  | tooDeep doing => "maximum recursion depth exceeded" ++ doing
  | malformedGraph summary _ problems => graphMessage summary problems
  | unknownTemplate templateId => "Unknown template '" ++ templateId ++ "'"
  | unknownNode nodeId graphId => "Node '" ++ nodeId ++ "' not found in graph '" ++ graphId ++ "'"
  | predicate matchType value reason =>
    "Cannot evaluate " ++ matchType ++ " predicate '" ++ value ++ "': " ++ reason
  | storePersistence operation key cause =>
    "State store " ++ operation ++ " failed for " ++ key ++ ": " ++ cause
  | transient wording _ => wording
  | moduleFailed module wording => moduleMessage module wording
  | moduleTimeout module limit elapsed => moduleMessage module (timeoutMessage limit elapsed)
  | baselineFailed wording => wording

/-- The class and the wording, as a result of a turn reports them. -/
def report (f : Fault) : String := f.label ++ ": " ++ f.message

end Fault

/-! ### Computations that may fail -/

section Except

variable {α β : Type}

theorem exceptBind_eq_ok {x : Except Fault α} {f : α → Except Fault β} {b : β} :
    x >>= f = .ok b ↔ ∃ a, x = .ok a ∧ f a = .ok b := by
  cases x with
  | ok a => exact ⟨fun h => ⟨a, rfl, h⟩, fun ⟨_, h, h'⟩ => by cases h; exact h'⟩
  | error e => exact ⟨fun h => (nomatch h), fun ⟨_, h, _⟩ => (nomatch h)⟩

theorem exceptMap_eq_ok {x : Except Fault α} {f : α → β} {b : β} :
    x.map f = .ok b ↔ ∃ a, x = .ok a ∧ f a = b := by
  cases x with
  | ok a => exact ⟨fun h => ⟨a, rfl, Except.ok.inj h⟩, fun ⟨_, h, h'⟩ => by cases h; exact h' ▸ rfl⟩
  | error e => exact ⟨fun h => (nomatch h), fun ⟨_, h, _⟩ => (nomatch h)⟩

theorem exceptMap_eq_error {x : Except Fault α} {f : α → β} {e : Fault} :
    x.map f = .error e ↔ x = .error e := by
  cases x with
  | ok a => exact ⟨fun h => (nomatch h), fun h => (nomatch h)⟩
  | error e' =>
    exact ⟨fun h => congrArg Except.error (Except.error.inj h),
      fun h => congrArg Except.error (Except.error.inj h)⟩

theorem exists_of_isOk {x : Except Fault α} (h : x.isOk = true) : ∃ a, x = .ok a := by
  cases x with
  | ok a => exact ⟨a, rfl⟩
  | error f => exact nomatch h

/-- What is tested of a result is true of it. -/
theorem exists_of_any {x : Except Fault α} {p : α → Bool} (h : x.toOption.any p = true) :
    ∃ a, x = .ok a ∧ p a = true := by
  cases x with
  | ok a => exact ⟨a, rfl, h⟩
  | error e => exact nomatch h

theorem test_of_any {x : Except Fault α} {p : α → Bool} {a : α} (hx : x = .ok a)
    (h : x.toOption.any p = true) : p a = true := by
  rw [hx] at h
  exact h

theorem exceptBind_eq_error {x : Except Fault α} {f : α → Except Fault β} {e : Fault} :
    x >>= f = .error e ↔ x = .error e ∨ ∃ a, x = .ok a ∧ f a = .error e := by
  cases x with
  | ok a =>
    refine ⟨fun h => .inr ⟨a, rfl, h⟩, fun h => ?_⟩
    rcases h with h | ⟨b, hb, h⟩
    · exact nomatch h
    · cases hb; exact h
  | error e' =>
    refine ⟨fun h => .inl (congrArg Except.error (Except.error.inj h)), fun h => ?_⟩
    rcases h with h | ⟨b, hb, -⟩
    · exact congrArg Except.error (Except.error.inj h)
    · exact nomatch hb

/-- A walk through a list gives a result for each item. -/
theorem mem_of_mapM_eq_ok {f : α → Except Fault β} : ∀ {xs : List α} {ys : List β},
    xs.mapM f = .ok ys → ∀ x ∈ xs, ∃ y ∈ ys, f x = .ok y
  | [], _, _, _, hx => by simp at hx
  | a :: as, ys, h, x, hx => by
    rw [List.mapM_cons, exceptBind_eq_ok] at h
    obtain ⟨y, hy, h⟩ := h
    obtain ⟨rest, hrest, h⟩ := exceptBind_eq_ok.mp h
    obtain rfl : y :: rest = ys := by injection h
    rcases List.mem_cons.mp hx with rfl | hx
    · exact ⟨y, by simp, hy⟩
    · obtain ⟨z, hz, hg⟩ := mem_of_mapM_eq_ok hrest x hx
      exact ⟨z, List.mem_cons_of_mem _ hz, hg⟩

theorem mapM_eq_ok_of_forall {f : α → Except Fault β} {g : α → β} {xs : List α}
    (h : ∀ x ∈ xs, f x = .ok (g x)) : xs.mapM f = .ok (xs.map g) := by
  induction xs with
  | nil => rfl
  | cons a as ih =>
    have hrest := ih fun x hx => h x (List.mem_cons_of_mem _ hx)
    rw [List.mapM_cons, h a List.mem_cons_self, hrest]
    rfl

/-- A walk is the same if what is done with each item is. -/
theorem mapM_congr {f g : α → Except Fault β} {xs : List α} (h : ∀ x ∈ xs, f x = g x) :
    xs.mapM f = xs.mapM g := by
  induction xs with
  | nil => rfl
  | cons a as ih =>
    have hrest := ih fun x hx => h x (List.mem_cons_of_mem _ hx)
    rw [List.mapM_cons, List.mapM_cons, h a List.mem_cons_self, hrest]

/-- A walk that fails fails at an item. -/
theorem exists_of_mapM_eq_error {f : α → Except Fault β} {xs : List α} {e : Fault}
    (h : xs.mapM f = .error e) : ∃ x ∈ xs, f x = .error e := by
  induction xs with
  | nil => exact nomatch h
  | cons a as ih =>
    rw [List.mapM_cons, exceptBind_eq_error] at h
    rcases h with h | ⟨b, -, h⟩
    · exact ⟨a, List.mem_cons_self, h⟩
    · rcases exceptBind_eq_error.mp h with h | ⟨_, -, h⟩
      · obtain ⟨x, hx, hfail⟩ := ih h
        exact ⟨x, List.mem_cons_of_mem _ hx, hfail⟩
      · exact nomatch h

/-- So does a walk that carries something on. -/
theorem exists_of_foldlM_eq_error {f : β → α → Except Fault β} {xs : List α} {b : β} {e : Fault}
    (h : xs.foldlM f b = .error e) : ∃ x ∈ xs, ∃ b', f b' x = .error e := by
  induction xs generalizing b with
  | nil => exact nomatch h
  | cons a as ih =>
    rw [List.foldlM_cons, exceptBind_eq_error] at h
    rcases h with h | ⟨b', -, h⟩
    · exact ⟨a, List.mem_cons_self, b, h⟩
    · obtain ⟨x, hx, hfail⟩ := ih h
      exact ⟨x, List.mem_cons_of_mem _ hx, hfail⟩

/-- What each item keeps, the whole walk keeps. -/
theorem foldlM_keeps {f : β → α → Except Fault β} {xs : List α} {b b' : β} (P : β → Prop)
    (hb : P b) (hf : ∀ x ∈ xs, ∀ c c', P c → f c x = .ok c' → P c')
    (h : xs.foldlM f b = .ok b') : P b' := by
  induction xs generalizing b with
  | nil => exact Except.ok.inj h ▸ hb
  | cons a as ih =>
    rw [List.foldlM_cons, exceptBind_eq_ok] at h
    obtain ⟨c, hc, h⟩ := h
    have hnext : P c := hf a List.mem_cons_self b c hb hc
    exact ih hnext (fun x hx => hf x (List.mem_cons_of_mem _ hx)) h

/-! A limit may be met where data are gone through, so that much is true only short of the limits. -/

/-- Something with the property comes out, unless a limit is met. -/
inductive UnlessLimited (P : α → Prop) : Except Fault α → Prop
  | ok {a : α} (h : P a) : UnlessLimited P (.ok a)
  | limited {f : Fault} (h : f.isLimit = true) : UnlessLimited P (.error f)

namespace UnlessLimited

variable {P : α → Prop} {Q : β → Prop} {x : Except Fault α}

theorem holds {a : α} (h : UnlessLimited P x) (hx : x = .ok a) : P a := by
  subst hx
  cases h with
  | ok h => exact h

theorem isLimit {f : Fault} (h : UnlessLimited P x) (hx : x = .error f) : f.isLimit = true := by
  subst hx
  cases h with
  | limited h => exact h

theorem of_cases (hok : ∀ a, x = .ok a → P a) (hlimit : ∀ f, x = .error f → f.isLimit = true) :
    UnlessLimited P x := by
  cases x with
  | ok a => exact .ok (hok a rfl)
  | error f => exact .limited (hlimit f rfl)

theorem imp {Q : α → Prop} (h : UnlessLimited P x) (himp : ∀ a, P a → Q a) : UnlessLimited Q x :=
  of_cases (fun a ha => himp a (h.holds ha)) fun _ hf => h.isLimit hf

theorem map {f : α → β} (h : UnlessLimited P x) (hf : ∀ a, P a → Q (f a)) :
    UnlessLimited Q (x.map f) := by
  cases h with
  | ok h => exact .ok (hf _ h)
  | limited h => exact .limited h

theorem bind {f : α → Except Fault β} (h : UnlessLimited P x)
    (hf : ∀ a, P a → UnlessLimited Q (f a)) : UnlessLimited Q (x >>= f) := by
  cases h with
  | ok h => exact hf _ h
  | limited h => exact .limited h

end UnlessLimited

end Except

end Parley
