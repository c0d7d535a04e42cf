import Parley.Value.Limits
import Parley.Unicode.Ranges
import Parley.Unicode.Numeric

/-!
# Parley.Template.Placeholder — text with variables in it

`{name}` and `{{ name }}` stand for the variable `name`.  A text is first taken apart into
segments, whatever the variables are, and then written with their values; a variable without a
value leaves its placeholder as it was.  Values are never taken apart again.  `renderText` is the
text that comes of it, however long and deep the values are; `fillIn` makes it within the limits.
-/

namespace Parley.Template

/-- A piece of a text. -/
inductive Segment
  | literal (c : Char)
  | variable (name : String) (source : List Char)
  deriving DecidableEq, Repr

/-- A name up to the closing text, and what follows. -/
def closedName? (blanks : Bool) (closing cs : List Char) : Option (List Char × List Char) :=
  let cs := if blanks then cs.dropWhile Unicode.isBlank else cs
  let name := cs.takeWhile Unicode.isWord
  let rest := cs.dropWhile Unicode.isWord
  let rest := if blanks then rest.dropWhile Unicode.isBlank else rest
  if name.isEmpty || !closing.isPrefixOf rest then none
  else some (name, rest.drop closing.length)

/-- The placeholder at the front, and what follows it. -/
def placeholder? : List Char → Option (List Char × List Char)
  | '{' :: '{' :: inner => closedName? true ['}', '}'] inner
  | '{' :: inner => closedName? false ['}'] inner
  | _ => none

theorem length_dropWhile_le {α : Type} (p : α → Bool) (xs : List α) :
    (xs.dropWhile p).length ≤ xs.length := by
  induction xs with
  | nil => simp
  | cons x xs ih =>
    simp only [List.dropWhile_cons]
    split
    · simp only [List.length_cons]; omega
    · simp

theorem closedName?_length {blanks : Bool} {closing cs name rest : List Char}
    (h : closedName? blanks closing cs = some (name, rest)) : rest.length ≤ cs.length := by
  unfold closedName? at h
  have h1 (ds : List Char) : (ds.dropWhile Unicode.isBlank).length ≤ ds.length :=
    length_dropWhile_le _ _
  have h2 (ds : List Char) : (ds.dropWhile Unicode.isWord).length ≤ ds.length :=
    length_dropWhile_le _ _
  cases blanks
  · simp only [Bool.false_eq_true, if_false] at h
    split at h
    · simp at h
    · simp only [Option.some.injEq, Prod.mk.injEq] at h
      rw [← h.2, List.length_drop]
      have := h2 cs
      omega
  · simp only [if_true] at h
    split at h
    · simp at h
    · simp only [Option.some.injEq, Prod.mk.injEq] at h
      rw [← h.2, List.length_drop]
      have a := h1 cs
      have b := h2 (cs.dropWhile Unicode.isBlank)
      have c := h1 ((cs.dropWhile Unicode.isBlank).dropWhile Unicode.isWord)
      omega

theorem placeholder?_length {cs name rest : List Char}
    (h : placeholder? cs = some (name, rest)) : rest.length < cs.length := by
  unfold placeholder? at h
  split at h
  · have := closedName?_length h
    simp only [List.length_cons]
    omega
  · have := closedName?_length h
    simp only [List.length_cons]
    omega
  · simp at h

/-- A text taken apart: at each place the placeholder there, else one character. -/
def segments (cs : List Char) : List Segment :=
  match cs with
  | [] => []
  | c :: more =>
    match h : placeholder? (c :: more) with
    | some (name, rest) =>
      have := placeholder?_length h
      .variable (String.ofList name) ((c :: more).take ((c :: more).length - rest.length))
        :: segments rest
    | none => .literal c :: segments more
termination_by cs.length
decreasing_by
  · exact this
  · exact Nat.lt_succ_self _

def Segment.render (context : Fields Value) : Segment → List Char
  | .literal c => [c]
  | .variable name source =>
    match context.get? name with
    | some .null | none => source
    | some v => v.display.toList

/-- A text with its variables filled in. -/
def renderText (text : String) (context : Fields Value) : String :=
  String.ofList ((segments text.toList).flatMap (Segment.render context))

/-- Writes a segment. -/
def Segment.fill (context : Fields Value) : Segment → Except Fault (List Char)
  | .literal c => .ok [c]
  | .variable name source =>
    match context.get? name with
    | some .null | none => .ok source
    | some v => v.shown.map String.toList

/-- Fills in the variables of a text, from its front to its end. -/
def fillIn (text : String) (context : Fields Value) : Except Fault String := do
  .ok (String.ofList (← (segments text.toList).mapM (Segment.fill context)).flatten)

section FillIn

variable {context : Fields Value} {text : String}

theorem Segment.eq_render_of_fill : ∀ {s : Segment} {cs : List Char},
    s.fill context = .ok cs → cs = s.render context
  | .literal _, _, h => (Except.ok.inj h).symm
  | .variable _ _, _, h => by
    rw [Segment.fill] at h
    rw [Segment.render]
    split at h
    · exact (Except.ok.inj h).symm
    · exact (Except.ok.inj h).symm
    · rename_i v hv
      obtain ⟨shown, hshown, hcs⟩ := exceptMap_eq_ok.mp h
      rw [← hcs, (Value.shown_eq_ok.mp hshown).2]

theorem Segment.isLimit_of_fill : ∀ {s : Segment} {f : Fault},
    s.fill context = .error f → f.isLimit = true
  | .variable _ _, _, h => by
    rw [Segment.fill] at h
    split at h
    · exact nomatch h
    · exact nomatch h
    · exact Value.isLimit_of_shown (exceptMap_eq_error.mp h)

theorem flatten_of_mapM_fill : ∀ {ss : List Segment} {pieces : List (List Char)},
    ss.mapM (Segment.fill context) = .ok pieces →
      pieces.flatten = ss.flatMap (Segment.render context)
  | [], _, h => Except.ok.inj h ▸ rfl
  | s :: ss, _, h => by
    rw [List.mapM_cons, exceptBind_eq_ok] at h
    obtain ⟨cs, hcs, h⟩ := h
    obtain ⟨rest, hrest, h⟩ := exceptBind_eq_ok.mp h
    rw [← Except.ok.inj h, List.flatten_cons, List.flatMap_cons, flatten_of_mapM_fill hrest,
      Segment.eq_render_of_fill hcs]

/-- What is filled in is the text. -/
theorem eq_renderText_of_fillIn {filled : String} (h : fillIn text context = .ok filled) :
    filled = renderText text context := by
  obtain ⟨pieces, hpieces, h⟩ := exceptBind_eq_ok.mp h
  rw [← Except.ok.inj h, renderText, flatten_of_mapM_fill hpieces]

/-- What keeps a text from being filled in is a limit. -/
theorem isLimit_of_fillIn {f : Fault} (h : fillIn text context = .error f) : f.isLimit = true := by
  rcases exceptBind_eq_error.mp h with h | ⟨_, -, h⟩
  · obtain ⟨s, -, hs⟩ := exists_of_mapM_eq_error h
    exact Segment.isLimit_of_fill hs
  · exact nomatch h

end FillIn

end Parley.Template
