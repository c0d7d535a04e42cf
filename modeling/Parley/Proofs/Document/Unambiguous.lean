import Mathlib.Data.Set.Defs
import Parley.Proofs.Document.Reader

/-!
# Parley.Proofs.Document.Unambiguous — no two values are written alike

`Proper S v`: the objects in the value have no name twice, and all its doubles are in the set `S`.
`write_injective`: if the doubles of the set are told by their texts, such a value is told from any
other by what is written of it.

What is written of a value need not be all of a text, so `Apart text a b` says of two things that
they are told apart by what begins with their texts.  Words and numbers are over where a mark comes
(`apart_of_tokens`), and a double is neither a word nor an integer (`fractional_render`); a quoted
text is over where its quotes are closed (`quoted_injective`); and what is told apart alone is told
apart behind each other (`joined_injective`).
-/

namespace Parley.Document

open Decimal
open Quoting

/-! ### Characters of a text -/

/-- All characters of the text are in the class. -/
def Made (p : Char → Bool) (s : String) : Prop := s.toList.all p = true

/-- Some character of the text is in the class. -/
def Shows (p : Char → Bool) (s : String) : Prop := s.toList.any p = true

section Made

variable {p : Char → Bool} {s t : String} {n : Nat}

theorem Made.append (hs : Made p s) (ht : Made p t) : Made p (s ++ t) := by
  unfold Made at *
  rw [String.toList_append, List.all_append, hs, ht]
  rfl

theorem Made.cut (h : Made p s) (k : Nat) : Made p (cut s k).1 ∧ Made p (cut s k).2 := by
  unfold Decimal.cut Made at *
  simp only [String.toList_ofList, List.all_eq_true] at h ⊢
  exact ⟨fun c hc => h c (List.mem_of_mem_take hc), fun c hc => h c (List.mem_of_mem_drop hc)⟩

theorem made_nat (h : ∀ c, isDigit c = true → p c = true) : Made p (toString n) := by
  have htext : (toString n).toList = Nat.toDigits 10 n := Nat.toList_repr
  unfold Made
  rw [htext]
  exact List.all_eq_true.mpr fun c hc => h c (isDigit_of_mem hc)

theorem made_zeros (h : p '0' = true) : Made p (zeros n) := by
  unfold Made zeros
  rw [String.toList_ofList]
  exact List.all_eq_true.mpr fun c hc => by rwa [List.eq_of_mem_replicate hc]

theorem Shows.append_left (h : Shows p s) (t : String) : Shows p (s ++ t) := by
  unfold Shows at *
  rw [String.toList_append, List.any_append, h, Bool.true_or]

theorem Shows.append_right (h : Shows p t) (s : String) : Shows p (s ++ t) := by
  unfold Shows at *
  rw [String.toList_append, List.any_append, h, Bool.or_true]

theorem not_made_of_shows (h : Shows (fun c => !p c) s) : ¬ Made p s := by
  unfold Shows at h
  unfold Made
  rw [Bool.not_eq_true, List.all_eq_not_any_not, h]
  rfl

end Made

/-- A mark that begins, divides or ends something. -/
def isMark (c : Char) : Bool := ['\x22', '[', '\x7b', ',', ']', '\x7d'].contains c

/-- A character of a word or a number. -/
def isToken (c : Char) : Bool := !isMark c

/-- A character of the words for null and the truth values. -/
def isLetter (c : Char) : Bool := 'a' ≤ c && c ≤ 'z'

/-- A character of an integer. -/
def isWhole (c : Char) : Bool := isDigit c || c = '-'

theorem isToken_of_isWhole (c : Char) (h : isWhole c = true) : isToken c = true := by
  unfold isToken isMark
  rw [Bool.not_eq_true', Bool.eq_false_iff]
  intro hmark
  simp only [List.contains_iff_mem, List.mem_cons, List.not_mem_nil, or_false] at hmark
  rcases hmark with rfl | rfl | rfl | rfl | rfl | rfl <;> exact absurd h (by decide)

theorem isToken_of_isDigit (c : Char) (h : isDigit c = true) : isToken c = true :=
  isToken_of_isWhole c (by rw [isWhole, h, Bool.true_or])

/-! ### Doubles -/

/-- The text of a double: it is neither a word nor an integer. -/
structure Fractional (s : String) : Prop where
  token : Made isToken s
  noWord : Shows (fun c => !isLetter c) s
  noInteger : Shows (fun c => !isWhole c) s

section Fractional

variable {s t lead fraction sign exponent : String}

theorem Fractional.append (h : Fractional s) (ht : Made isToken t) : Fractional (s ++ t) :=
  ⟨h.token.append ht, h.noWord.append_left t, h.noInteger.append_left t⟩

theorem Fractional.prepend (h : Fractional t) (hs : Made isToken s) : Fractional (s ++ t) :=
  ⟨hs.append h.token, h.noWord.append_right s, h.noInteger.append_right s⟩

/-- With an exponent: its mark belongs to no integer, and its sign to no word. -/
theorem fractional_exponent (hlead : Made isToken lead) (hfraction : Made isToken fraction)
    (hsign : sign = "-" ∨ sign = "+") (hexponent : Made isToken exponent) :
    Fractional (lead ++ fraction ++ "e" ++ sign ++ exponent) := by
  have hmark : Made isToken "e" := rfl
  have hinteger : Shows (fun c => !isWhole c) "e" := rfl
  have hsigned : Made isToken sign ∧ Shows (fun c => !isLetter c) sign := by
    rcases hsign with rfl | rfl
    · exact ⟨rfl, rfl⟩
    · exact ⟨rfl, rfl⟩
  refine Fractional.append ⟨((hlead.append hfraction).append hmark).append hsigned.1, ?_, ?_⟩
    hexponent
  · exact hsigned.2.append_right _
  · exact (hinteger.append_right _).append_left _

theorem fractional_decimal (d : Scientific) : Fractional (Layout.json.decimal d) := by
  have hdigits : Made isToken (toString d.digits) := made_nat isToken_of_isDigit
  have hcut (k : Nat) := hdigits.cut k
  have hzeros (n : Nat) : Made isToken (zeros n) := made_zeros rfl
  have hpoint : Fractional "." := ⟨rfl, rfl, rfl⟩
  unfold Layout.decimal
  dsimp only
  by_cases hplain : Layout.json.leastPoint ≤ ((toString d.digits).length : Int) + d.exponent ∧
      ((toString d.digits).length : Int) + d.exponent ≤ Layout.json.mostPoint
  · rw [if_pos hplain]
    split_ifs
    · have hbegin : Fractional "0." := ⟨rfl, rfl, rfl⟩
      exact (hbegin.append (hzeros _)).append hdigits
    · have hwhole : Fractional Layout.json.whole := ⟨rfl, rfl, rfl⟩
      exact hwhole.prepend (hdigits.append (hzeros _))
    · exact (hpoint.prepend (hcut _).1).append (hcut _).2
  · rw [if_neg hplain]
    refine fractional_exponent (hcut 1).1 ?_ ?_ ((hzeros _).append (made_nat isToken_of_isDigit))
    · split_ifs
      · exact rfl
      · exact hpoint.token.append (hcut 1).2
    · split_ifs
      · exact .inl rfl
      · exact .inr rfl

/-- **A double is written neither as a word nor as an integer.** -/
theorem fractional_render (x : Float) : Fractional (Layout.json.render x) := by
  have hsigned (negative : Bool) {text : String} (h : Fractional text) :
      Fractional (signed negative text) := by
    have hminus : Made isToken "-" := rfl
    cases negative
    · exact h
    · exact h.prepend hminus
  unfold Layout.render
  cases Float64.ofFloat x with
  | notANumber => exact ⟨rfl, rfl, rfl⟩
  | infinite negative => exact hsigned negative ⟨rfl, rfl, rfl⟩
  | finite b =>
    refine hsigned b.negative ?_
    split_ifs
    · have hwhole : Fractional Layout.json.whole := ⟨rfl, rfl, rfl⟩
      exact hwhole.prepend rfl
    · exact fractional_decimal _

end Fractional

/-! ### Texts behind each other -/

/-- A thing is told from another by what begins with its text, if it ends or goes on with a mark
behind the text. -/
def Apart {α : Type} (text : α → String) (a b : α) : Prop :=
  ∀ r s, Ends r → Ends s → (text a).toList ++ r = (text b).toList ++ s → a = b ∧ r = s

section Apart

variable {α : Type} {text : α → String} {a b : α} {u : String} {r s : List Char}

theorem Ends.takeWhile_token (h : Ends r) : r.takeWhile isToken = [] := by
  cases r with
  | nil => rfl
  | cons c r => rcases h c rfl with rfl | rfl | rfl <;> rfl

/-- A word or a number is over where a mark comes. -/
theorem takeWhile_of_token (hu : Made isToken u) (h : Ends r) :
    (u.toList ++ r).takeWhile isToken = u.toList := by
  rw [List.takeWhile_append_of_pos (List.all_eq_true.mp hu), h.takeWhile_token, List.append_nil]

theorem apart_of_tokens (ha : Made isToken (text a)) (hb : Made isToken (text b))
    (hab : text a = text b → a = b) : Apart text a b := by
  intro r s hr hs h
  have htext : (text a).toList = (text b).toList := by
    rw [← takeWhile_of_token ha hr, ← takeWhile_of_token hb hs, h]
  rw [htext] at h
  exact ⟨hab (String.toList_injective htext), List.append_cancel_left h⟩

/-- Quoted text is over where its quotes are closed. -/
theorem quoted_injective {name other : String}
    (h : name.toList.flatMap escapeChar ++ doubleQuote :: r =
      other.toList.flatMap escapeChar ++ doubleQuote :: s) : name = other ∧ r = s := by
  obtain ⟨after, hread⟩ := readText_write name r 0 0
  obtain ⟨after', hread'⟩ := readText_write other s 0 0
  rw [h, hread'] at hread
  obtain ⟨hname, hrest⟩ := Prod.mk.inj (Except.ok.inj hread)
  exact ⟨hname.symm, (Cursor.mk.inj hrest).1.symm⟩

/-- The text begins, and not with a mark that closes something. -/
def Begins (u : String) : Prop := ∃ c more, u.toList = c :: more ∧ c ≠ ']' ∧ c ≠ '\x7d'

/-- The marks that close a list and an object. -/
def Closes (c : Char) : Prop := c = ']' ∨ c = '\x7d'

/-- What stands behind the first of several parts. -/
def behind (close : Char) (parts : List String) (rest : List Char) : List Char :=
  if parts.isEmpty then close :: rest else ',' :: ' ' :: (joined parts ++ close :: rest)

variable {close : Char} {us vs : List String}

theorem Begins.ne_close (h : Begins u) (hclose : Closes close) (rest : List Char) :
    close :: r ≠ u.toList ++ rest := by
  obtain ⟨c, more, hu, hbracket, hbrace⟩ := h
  rw [hu]
  intro heq
  rcases hclose with rfl | rfl
  · exact hbracket (List.cons.inj heq).1.symm
  · exact hbrace (List.cons.inj heq).1.symm

theorem joined_behind (close : Char) (u : String) (us : List String) (r : List Char) :
    joined (u :: us) ++ close :: r = u.toList ++ behind close us r := by
  cases us with
  | nil =>
    rw [joined_single]
    rfl
  | cons v vs =>
    rw [joined_cons, List.append_assoc]
    rfl

theorem ends_behind (hclose : Closes close) (us : List String) (r : List Char) :
    Ends (behind close us r) := by
  cases us with
  | nil =>
    rcases hclose with rfl | rfl
    · exact ends_bracket r
    · exact ends_brace r
  | cons u us => exact ends_comma _

/-- Behind the first part, more parts are told from the end. -/
theorem joined_of_behind (hclose : Closes close) (h : behind close us r = behind close vs s) :
    joined us ++ close :: r = joined vs ++ close :: s := by
  have hcomma : close ≠ ',' := by rcases hclose with rfl | rfl <;> decide
  cases us with
  | nil =>
    cases vs with
    | nil => rw [(List.cons.inj h).2]
    | cons v vs => exact absurd (List.cons.inj h).1 hcomma
  | cons u us =>
    cases vs with
    | nil => exact absurd (List.cons.inj h).1.symm hcomma
    | cons v vs => exact (List.cons.inj (List.cons.inj h).2).2

/-- **What is told apart alone is told apart behind each other**, up to the mark that closes it. -/
theorem joined_injective (hclose : Closes close) {as bs : List α}
    (hapart : ∀ a ∈ as, ∀ b, Apart text a b) (hbegins : ∀ a, Begins (text a))
    (h : joined (as.map text) ++ close :: r = joined (bs.map text) ++ close :: s) :
    as = bs ∧ r = s := by
  induction as generalizing bs with
  | nil =>
    cases bs with
    | nil => exact ⟨rfl, (List.cons.inj h).2⟩
    | cons b bs =>
      rw [List.map_cons, joined_behind] at h
      exact absurd h ((hbegins b).ne_close hclose _)
  | cons a as ih =>
    cases bs with
    | nil =>
      rw [List.map_cons, joined_behind] at h
      exact absurd h.symm ((hbegins a).ne_close hclose _)
    | cons b bs =>
      rw [List.map_cons, List.map_cons, joined_behind, joined_behind] at h
      obtain ⟨rfl, hbehind⟩ := hapart a List.mem_cons_self b _ _
        (ends_behind hclose _ r) (ends_behind hclose _ s) h
      obtain ⟨rfl, hrest⟩ := ih (fun a' ha' => hapart a' (List.mem_cons_of_mem a ha'))
        (joined_of_behind hclose hbehind)
      exact ⟨rfl, hrest⟩

end Apart

/-! ### Values -/

mutual

/-- Objects have no name twice, and the doubles are in the set. -/
def Proper (S : Set Float) : Value → Prop
  | .real x => x ∈ S
  | .list items => ProperItems S items
  | .object fields => (Table.names fields).Nodup ∧ ProperFields S fields
  | _ => True

def ProperItems (S : Set Float) : List Value → Prop
  | [] => True
  | a :: as => Proper S a ∧ ProperItems S as

def ProperFields (S : Set Float) : List (String × Value) → Prop
  | [] => True
  | (_, a) :: as => Proper S a ∧ ProperFields S as

end

/-- A double of the set is told from any other by its text. -/
def Distinctive (S : Set Float) : Prop :=
  ∀ x ∈ S, ∀ y, Layout.json.render x = Layout.json.render y → x = y

/-- The text of one field. -/
def writeField (field : String × Value) : String := writeText field.1 ++ ": " ++ write field.2

theorem writeList_eq_map (items : List Value) : writeList items = items.map write := by
  induction items with
  | nil => rfl
  | cons a as ih => rw [writeList, ih, List.map_cons]

theorem writeFields_eq_map (fields : List (String × Value)) :
    writeFields fields = fields.map writeField := by
  induction fields with
  | nil => rfl
  | cons field as ih =>
    rw [writeFields, ih, List.map_cons]
    rfl

/-- The mark that a value begins with, if it is no word and no number. -/
def opening? : Value → Option Char
  | .text _ => some '\x22'
  | .list _ => some '['
  | .object _ => some '\x7b'
  | _ => none

section Values

variable {a b : Value} {c : Char} {r s : List Char}

theorem made_isWhole (i : Int) : Made isWhole (toString i) := by
  have hdigits (n : Nat) : (Nat.toDigits 10 n).all isWhole = true :=
    List.all_eq_true.mpr fun c hc => by rw [isWhole, isDigit_of_mem hc, Bool.true_or]
  unfold Made
  rw [toList_toString]
  split_ifs
  · exact hdigits _
  · exact hdigits _

theorem token_of_opening? (h : opening? a = none) : Made isToken (write a) := by
  cases a with
  | null => exact rfl
  | bool b => cases b <;> exact rfl
  | int i =>
    exact List.all_eq_true.mpr fun c hc =>
      isToken_of_isWhole c (List.all_eq_true.mp (made_isWhole i) c hc)
  | real x => exact (fractional_render x).token
  | text s => exact nomatch h
  | list items => exact nomatch h
  | object fields => exact nomatch h

theorem toList_of_opening? (h : opening? a = some c) : ∃ more, (write a).toList = c :: more := by
  cases a with
  | null | bool | int | real => exact nomatch h
  | text s =>
    rw [← Option.some.inj h, write, toList_writeText]
    exact ⟨_, rfl⟩
  | list items =>
    rw [← Option.some.inj h, toList_write_list]
    exact ⟨_, rfl⟩
  | object fields =>
    rw [← Option.some.inj h, toList_write_object]
    exact ⟨_, rfl⟩

theorem opening?_cases (h : opening? a = some c) : c = '\x22' ∨ c = '[' ∨ c = '\x7b' := by
  cases a with
  | null | bool | int | real => exact nomatch h
  | text s => exact .inl (Option.some.inj h).symm
  | list items => exact .inr (.inl (Option.some.inj h).symm)
  | object fields => exact .inr (.inr (Option.some.inj h).symm)

theorem begins_write (a : Value) : Begins (write a) := by
  cases hopening : opening? a with
  | some c =>
    obtain ⟨more, hmore⟩ := toList_of_opening? hopening
    rcases opening?_cases hopening with rfl | rfl | rfl
    · exact ⟨_, more, hmore, by decide, by decide⟩
    · exact ⟨_, more, hmore, by decide, by decide⟩
    · exact ⟨_, more, hmore, by decide, by decide⟩
  | none =>
    have htoken := List.all_eq_true.mp (token_of_opening? hopening)
    have hempty : (write a).toList ≠ [] := by
      cases a with
      | null => decide
      | bool b => cases b <;> decide
      | int i =>
        obtain ⟨_, hread⟩ := readScalar_int i ends_nil 0
        obtain ⟨c, more, hcs, -⟩ := opens_of_readScalar hread
        rw [write, hcs]
        exact List.cons_ne_nil c more
      | real x =>
        obtain ⟨c, hc, -⟩ := List.any_eq_true.mp (fractional_render x).noWord
        exact List.ne_nil_of_mem hc
      | text | list | object => exact absurd hopening (Option.some_ne_none _)
    obtain ⟨c, more, hcs⟩ := List.exists_cons_of_ne_nil hempty
    have hc := htoken c (hcs ▸ List.mem_cons_self)
    refine ⟨c, more, hcs, ?_, ?_⟩
    · rintro rfl
      exact absurd hc (by decide)
    · rintro rfl
      exact absurd hc (by decide)

/-- A word or a number is told from what begins with a mark. -/
theorem token_ne_marked (ha : opening? a = none) (hb : opening? b = some c) (hr : Ends r) :
    (write a).toList ++ r ≠ (write b).toList ++ s := by
  intro h
  obtain ⟨more, hmore⟩ := toList_of_opening? hb
  have hnone : (c :: (more ++ s)).takeWhile isToken = [] := by
    rcases opening?_cases hb with rfl | rfl | rfl <;> rfl
  have hempty : (write a).toList = [] := by
    rw [← takeWhile_of_token (token_of_opening? ha) hr, h, hmore, List.cons_append, hnone]
  obtain ⟨c', more', hcs, -⟩ := begins_write a
  rw [hempty] at hcs
  exact nomatch hcs

/-- The first character of two values shows that both begin with one mark, or both with none. -/
theorem opening?_eq (hr : Ends r) (hs : Ends s)
    (h : (write a).toList ++ r = (write b).toList ++ s) : opening? a = opening? b := by
  cases ha : opening? a with
  | none =>
    cases hb : opening? b with
    | none => rfl
    | some c => exact absurd h (token_ne_marked ha hb hr)
  | some c =>
    cases hb : opening? b with
    | none => exact absurd h.symm (token_ne_marked hb ha hs)
    | some d =>
      obtain ⟨more, hmore⟩ := toList_of_opening? ha
      obtain ⟨more', hmore'⟩ := toList_of_opening? hb
      rw [hmore, hmore'] at h
      exact congrArg some (List.cons.inj h).1

/-- Null, a truth value or an integer: its text is a word or an integer, and is read as it. -/
structure Whole (a : Value) : Prop where
  chars : Made isLetter (write a) ∨ Made isWhole (write a)
  reads : Leaves [] a (readScalar ⟨(write a).toList ++ [], 0⟩)

theorem whole_or_real (h : opening? a = none) : Whole a ∨ ∃ x, a = .real x := by
  cases a with
  | null => exact .inl ⟨.inl rfl, readScalar_null 0⟩
  | bool b => exact .inl ⟨.inl (by cases b <;> rfl), readScalar_bool b 0⟩
  | int i => exact .inl ⟨.inr (made_isWhole i), readScalar_int i ends_nil 0⟩
  | real x => exact .inr ⟨x, rfl⟩
  | text | list | object => exact nomatch h

theorem Whole.ne_real (h : Whole a) (x : Float) : write a ≠ Layout.json.render x := by
  intro heq
  have hx := fractional_render x
  rw [← heq] at hx
  rcases h.chars with hletters | hwhole
  · exact not_made_of_shows hx.noWord hletters
  · exact not_made_of_shows hx.noInteger hwhole

theorem Whole.eq (ha : Whole a) (hb : Whole b) (h : write a = write b) : a = b := by
  obtain ⟨after, hread⟩ := ha.reads
  obtain ⟨after', hread'⟩ := hb.reads
  rw [h, hread'] at hread
  exact (Prod.mk.inj (Except.ok.inj hread)).1.symm

variable {S : Set Float}

/-- Words and numbers are told apart. -/
theorem apart_of_opening?_none (hS : Distinctive S) (ha : Proper S a) (hopening : opening? a = none)
    (b : Value) : Apart write a b := by
  intro r s hr hs h
  have hb : opening? b = none := by rw [← opening?_eq hr hs h, hopening]
  refine apart_of_tokens (token_of_opening? hopening) (token_of_opening? hb) ?_ r s hr hs h
  intro hwrite
  rcases whole_or_real hopening with hwhole | ⟨x, rfl⟩
  · rcases whole_or_real hb with hwhole' | ⟨y, rfl⟩
    · exact hwhole.eq hwhole' hwrite
    · exact absurd hwrite (hwhole.ne_real y)
  · rcases whole_or_real hb with hwhole' | ⟨y, rfl⟩
    · exact absurd hwrite.symm (hwhole'.ne_real x)
    · exact congrArg Value.real (hS x ha y hwrite)

theorem apart_text (t : String) (b : Value) : Apart write (.text t) b := by
  intro r s hr hs h
  have hb : some '\x22' = opening? b := opening?_eq hr hs h
  cases b with
  | null | bool | int | real => exact nomatch hb
  | list | object => exact absurd (Option.some.inj hb) (by decide)
  | text t' =>
    have hquoted (t : String) (r : List Char) : (write (.text t)).toList ++ r =
        doubleQuote :: (t.toList.flatMap escapeChar ++ doubleQuote :: r) := by
      rw [write, toList_writeText, List.cons_append, List.append_assoc]
      rfl
    rw [hquoted, hquoted] at h
    obtain ⟨rfl, hrest⟩ := quoted_injective (List.cons.inj h).2
    exact ⟨rfl, hrest⟩

theorem apart_list {items : List Value} (h : ∀ a ∈ items, ∀ b, Apart write a b) (b : Value) :
    Apart write (.list items) b := by
  intro r s hr hs heq
  have hb : some '[' = opening? b := opening?_eq hr hs heq
  cases b with
  | null | bool | int | real => exact nomatch hb
  | text | object => exact absurd (Option.some.inj hb) (by decide)
  | list others =>
    have hinner (items : List Value) (r : List Char) : (write (.list items)).toList ++ r =
        '[' :: (joined (items.map write) ++ ']' :: r) := by
      rw [toList_write_list, writeList_eq_map, List.cons_append, List.append_assoc]
      rfl
    rw [hinner, hinner] at heq
    obtain ⟨rfl, hrest⟩ := joined_injective (.inl rfl) h begins_write (List.cons.inj heq).2
    exact ⟨rfl, hrest⟩

theorem apart_field {field : String × Value} (h : ∀ b, Apart write field.2 b)
    (other : String × Value) : Apart writeField field other := by
  intro r s hr hs heq
  unfold writeField at heq
  rw [toList_field, toList_field] at heq
  obtain ⟨hname, hvalues⟩ := quoted_injective (List.cons.inj heq).2
  obtain ⟨hvalue, hrest⟩ := h other.2 r s hr hs (List.cons.inj (List.cons.inj hvalues).2).2
  exact ⟨Prod.ext hname hvalue, hrest⟩

theorem begins_writeField (field : String × Value) : Begins (writeField field) := by
  have htext := toList_field field.1 field.2 []
  rw [List.append_nil] at htext
  exact ⟨_, _, htext, by decide, by decide⟩

theorem apart_object {fields : List (String × Value)}
    (h : ∀ field ∈ fields, ∀ b, Apart write field.2 b) (b : Value) :
    Apart write (.object fields) b := by
  intro r s hr hs heq
  have hb : some '\x7b' = opening? b := opening?_eq hr hs heq
  cases b with
  | null | bool | int | real => exact nomatch hb
  | text | list => exact absurd (Option.some.inj hb) (by decide)
  | object others =>
    have hinner (fields : List (String × Value)) (r : List Char) :
        (write (.object fields)).toList ++ r =
          '\x7b' :: (joined (fields.map writeField) ++ '\x7d' :: r) := by
      rw [toList_write_object, writeFields_eq_map, List.cons_append, List.append_assoc]
      rfl
    rw [hinner, hinner] at heq
    obtain ⟨rfl, hrest⟩ := joined_injective (.inr rfl)
      (fun field hfield => apart_field (h field hfield)) begins_writeField (List.cons.inj heq).2
    exact ⟨rfl, hrest⟩

end Values

section Injective

variable {S : Set Float}

mutual

/-- One case for each shape of data. -/
theorem Proper.apart (hS : Distinctive S) :
    ∀ {a : Value}, Proper S a → ∀ b, Apart write a b
  | .null, h | .bool _, h | .int _, h | .real _, h => apart_of_opening?_none hS h rfl
  | .text t, _ => apart_text t
  | .list _, h => apart_list (apart_of_items hS h)
  | .object _, h => apart_object (apart_of_fields hS h.2)

theorem apart_of_items (hS : Distinctive S) : ∀ {items : List Value}, ProperItems S items →
    ∀ a ∈ items, ∀ b, Apart write a b
  | [], _ => fun _ ha => nomatch ha
  | _ :: _, h => List.forall_mem_cons.mpr ⟨h.1.apart hS, apart_of_items hS h.2⟩

theorem apart_of_fields (hS : Distinctive S) : ∀ {fields : List (String × Value)},
    ProperFields S fields → ∀ field ∈ fields, ∀ b, Apart write field.2 b
  | [], _ => fun _ hfield => nomatch hfield
  | (_, _) :: _, h => List.forall_mem_cons.mpr ⟨h.1.apart hS, apart_of_fields hS h.2⟩

end

/-- **A proper value is told from any other by what is written of it.** -/
theorem write_injective (hS : Distinctive S) {a b : Value} (ha : Proper S a)
    (h : write a = write b) : a = b :=
  (ha.apart hS b [] [] ends_nil ends_nil (congrArg (fun t => t.toList ++ []) h)).1

end Injective

end Parley.Document
