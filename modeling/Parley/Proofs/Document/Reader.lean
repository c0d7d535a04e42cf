import Mathlib.Tactic.SplitIfs
import Parley.Document.Reader
import Parley.Document.Writer

/-!
# Parley.Proofs.Document.Reader — what is written of a value is read as that value

`Legible v`: the objects in the value have no name twice, and the text of every real number in it is
read as that number.  `read_write`: the text of such a value is read as the value, with all its
fields in their order, when the value is within the limits on numbers and nesting.
`within_of_read`: no other values are read.

A reader leaves off at some position that is of no interest here: `Leaves rest a r` says that it has
read `a` and that `rest` is left.
-/

namespace Parley.Document

open Quoting

/-- The reader has read a thing, and so much text is left. -/
def Leaves {α : Type} (rest : List Char) (a : α) (r : Except Complaint (α × Cursor)) : Prop :=
  ∃ position, r = .ok (a, ⟨rest, position⟩)

theorem exists_fuel {fuel n : Nat} (h : n < fuel) : ∃ less, fuel = less + 1 ∧ n ≤ less :=
  ⟨fuel - 1, by omega, by omega⟩

/-! ### Text -/

section Text

theorem hexValue?_hexDigit : ∀ d < 16, hexValue? (hexDigit d) = some d := by decide

theorem hex_four (n : Nat) : hex 4 n = [hexDigit (n / 16 / 16 / 16 % 16), hexDigit (n / 16 / 16 % 16),
    hexDigit (n / 16 % 16), hexDigit (n % 16)] := rfl

theorem unit?_hex {n : Nat} (h : n < 65536) : unit? (hex 4 n) = some n := by
  have hdigit (m : Nat) : hexValue? (hexDigit (m % 16)) = some (m % 16) :=
    hexValue?_hexDigit _ (Nat.mod_lt m (by decide))
  rw [hex_four]
  simp only [unit?, hdigit, Option.bind_eq_bind, Option.bind_some, Option.some.injEq]
  omega

/-- The unit of an escape, when more text follows. -/
theorem take_hex (n : Nat) (rest : List Char) : (hex 4 n ++ rest).take 4 = hex 4 n := by
  rw [hex_four]
  rfl

theorem fromUnits_single {n : Nat} (h : n < 0xD800 ∨ 0xDFFF < n) (ahead : List Char) :
    fromUnits n ahead = (Char.ofNat n, 0) := by
  unfold fromUnits
  rcases h with h | h
  · rw [if_neg (by simp; omega), if_pos (by simp; omega)]
  · rw [if_neg (by simp; omega), if_pos (by simp; omega)]

theorem fromUnits_pair {first second : Nat} (hfirst : 0xD800 ≤ first ∧ first ≤ 0xDBFF)
    (hsecond : 0xDC00 ≤ second ∧ second ≤ 0xDFFF) {rest : List Char} (hrest : rest ≠ []) :
    fromUnits first (unitEscape second ++ rest) =
      (Char.ofNat (0x10000 + (first - 0xD800) * 0x400 + (second - 0xDC00)), 6) := by
  have hunit : unit? ((hex 4 second ++ rest).take 4) = some second := by
    rw [take_hex, unit?_hex (by omega)]
  have hlength : 4 < (hex 4 second ++ rest).length := by
    have hpos := List.length_pos_iff.mpr hrest
    rw [List.length_append, hex_four]
    simp only [List.length_cons, List.length_nil]
    omega
  have hahead : unitEscape second ++ rest = '\x5c' :: 'u' :: (hex 4 second ++ rest) := rfl
  unfold fromUnits
  rw [hahead]
  simp only [hunit, hlength, hfirst, hsecond, decide_true, Bool.and_self, if_true]

section Steps

variable (fuel opening : Nat) (done : List Char) {rest : List Char} (position : Nat)

theorem readText_mark : readText (fuel + 1) opening done ⟨doubleQuote :: rest, position⟩ =
    .ok (String.ofList done.reverse, ⟨rest, position + 1⟩) := rfl

theorem readText_plain {c : Char} (hmark : c ≠ doubleQuote) (hslash : c ≠ backslash)
    (hcontrol : ¬c.toNat < 32) : readText (fuel + 1) opening done ⟨c :: rest, position⟩ =
      readText fuel opening (c :: done) ⟨rest, position + 1⟩ := by
  rw [readText]
  dsimp only
  rw [if_neg hmark, if_neg hslash, if_neg hcontrol]
  rfl

theorem readText_simple {e c : Char} (h : simpleEscape? e = some c) :
    readText (fuel + 1) opening done ⟨backslash :: e :: rest, position⟩ =
      readText fuel opening (c :: done) ⟨rest, position + 2⟩ := by
  rw [readText]
  dsimp only
  rw [if_neg (by decide), if_pos rfl]
  split
  · rename_i heq
    exact nomatch heq
  · rename_i heq
    have hnone : simpleEscape? 'u' = none := by decide
    rw [(List.cons.inj heq).1, hnone] at h
    exact nomatch h
  · rename_i heq
    rw [← (List.cons.inj heq).1, h]
    rfl

theorem readText_unit {n : Nat} (hn : n < 65536) (hrest : rest ≠ []) :
    readText (fuel + 1) opening done ⟨unitEscape n ++ rest, position⟩ =
      readText fuel opening ((fromUnits n rest).1 :: done)
        ⟨rest.drop (fromUnits n rest).2, position + (6 + (fromUnits n rest).2)⟩ := by
  have hahead : unitEscape n ++ rest = backslash :: 'u' :: (hex 4 n ++ rest) := rfl
  have hlong : ¬(hex 4 n ++ rest).length ≤ 4 := by
    have hpos := List.length_pos_iff.mpr hrest
    rw [List.length_append, hex_four]
    simp only [List.length_cons, List.length_nil]
    omega
  rw [hahead, readText]
  dsimp only
  rw [if_neg (by decide), if_pos rfl]
  simp only [take_hex, unit?_hex hn]
  rw [if_neg hlong]
  have hbehind : (hex 4 n ++ rest).drop 4 = rest := rfl
  rw [hbehind]
  have hadvance (extra : Nat) : Cursor.advance ⟨backslash :: 'u' :: (hex 4 n ++ rest), position⟩
      (6 + extra) = ⟨rest.drop extra, position + (6 + extra)⟩ := by
    rw [Nat.add_comm 6 extra]
    rfl
  rw [hadvance]

end Steps

/-- One character of quoted text, when more text follows. -/
theorem readText_escapeChar (c : Char) {rest : List Char} (hrest : rest ≠ [])
    (fuel opening : Nat) (done : List Char) (position : Nat) :
    ∃ after, readText (fuel + 1) opening done ⟨escapeChar c ++ rest, position⟩ =
      readText fuel opening (c :: done) ⟨rest, after⟩ := by
  have hvalid : c.toNat < 0xD800 ∨ 0xDFFF < c.toNat ∧ c.toNat < 0x110000 := c.valid
  unfold escapeChar
  dsimp only
  -- by the ways to write a character: after a backslash, as itself, as one unit or as two
  split_ifs with hself hn hr ht hb hf hplain hlow
  · have hescape : simpleEscape? c = some c := by
      unfold simpleEscape?
      rw [if_pos (by rw [hself]; rfl)]
    exact ⟨_, readText_simple fuel opening done position hescape⟩
  · exact ⟨_, readText_simple fuel opening done position (hn ▸ rfl)⟩
  · exact ⟨_, readText_simple fuel opening done position (hr ▸ rfl)⟩
  · exact ⟨_, readText_simple fuel opening done position (ht ▸ rfl)⟩
  · have hc : c = Char.ofNat 8 := by rw [← hb, Char.ofNat_toNat]
    exact ⟨_, readText_simple fuel opening done position (hc ▸ rfl)⟩
  · have hc : c = Char.ofNat 12 := by rw [← hf, Char.ofNat_toNat]
    exact ⟨_, readText_simple fuel opening done position (hc ▸ rfl)⟩
  · simp only [Bool.or_eq_true, decide_eq_true_eq, not_or] at hself
    simp only [Bool.and_eq_true, decide_eq_true_eq] at hplain
    exact ⟨_, readText_plain fuel opening done position hself.1 hself.2 (by omega)⟩
  · have hread := readText_unit fuel opening done position hlow hrest
    rw [fromUnits_single (by omega), Char.ofNat_toNat] at hread
    exact ⟨_, hread⟩
  · have hfirst : 0xD800 ≤ 0xD800 + (c.toNat - 0x10000) / 0x400 ∧
        0xD800 + (c.toNat - 0x10000) / 0x400 ≤ 0xDBFF := by omega
    have hsecond : 0xDC00 ≤ 0xDC00 + (c.toNat - 0x10000) % 0x400 ∧
        0xDC00 + (c.toNat - 0x10000) % 0x400 ≤ 0xDFFF := by omega
    have hsum : 0x10000 + (0xD800 + (c.toNat - 0x10000) / 0x400 - 0xD800) * 0x400 +
        (0xDC00 + (c.toNat - 0x10000) % 0x400 - 0xDC00) = c.toNat := by omega
    have hmore : unitEscape (0xDC00 + (c.toNat - 0x10000) % 0x400) ++ rest ≠ [] := by simp [hrest]
    have hread := readText_unit fuel opening done position
      (n := 0xD800 + (c.toNat - 0x10000) / 0x400) (by omega) hmore
    rw [fromUnits_pair hfirst hsecond hrest, hsum, Char.ofNat_toNat] at hread
    rw [List.append_assoc]
    exact ⟨_, hread⟩

/-- Quoted text behind its opening mark. -/
theorem readText_chars (chars rest : List Char) (fuel opening : Nat)
    (hfuel : chars.length < fuel) (done : List Char) (position : Nat) :
    Leaves rest (String.ofList (done.reverse ++ chars))
      (readText fuel opening done ⟨chars.flatMap escapeChar ++ doubleQuote :: rest, position⟩) := by
  induction chars generalizing fuel done position with
  | nil =>
    obtain ⟨less, rfl, -⟩ := exists_fuel hfuel
    rw [List.append_nil]
    exact ⟨_, readText_mark less opening done position⟩
  | cons c chars ih =>
    obtain ⟨less, rfl, hless⟩ := exists_fuel hfuel
    have hmore : chars.flatMap escapeChar ++ doubleQuote :: rest ≠ [] := by simp
    obtain ⟨after, hread⟩ := readText_escapeChar c hmore less opening done position
    have hrest := ih less hless (c :: done) after
    rw [List.flatMap_cons, List.append_assoc, hread]
    rw [List.reverse_cons, List.append_assoc, List.singleton_append] at hrest
    exact hrest

theorem toList_writeText (s : String) :
    (writeText s).toList = doubleQuote :: (s.toList.flatMap escapeChar ++ [doubleQuote]) :=
  String.toList_ofList

theorem length_le_flatMap (chars : List Char) :
    chars.length ≤ (chars.flatMap escapeChar).length := by
  induction chars with
  | nil => exact Nat.le_refl 0
  | cons c chars ih =>
    have hpos : 0 < (escapeChar c).length := by
      unfold escapeChar
      dsimp only
      split_ifs <;> simp [unitEscape]
    rw [List.flatMap_cons, List.length_append, List.length_cons]
    omega

/-- The reader of text, with the fuel that it is given, behind an opening mark. -/
theorem readText_write (s : String) (rest : List Char) (opening position : Nat) :
    Leaves rest s (readText ((s.toList.flatMap escapeChar ++ doubleQuote :: rest).length + 1)
      opening [] ⟨s.toList.flatMap escapeChar ++ doubleQuote :: rest, position⟩) := by
  have hfuel : s.toList.length < (s.toList.flatMap escapeChar ++ doubleQuote :: rest).length + 1 := by
    have hlength := length_le_flatMap s.toList
    rw [List.length_append]
    omega
  have hread := readText_chars s.toList rest _ opening hfuel [] position
  rwa [List.reverse_nil, List.nil_append, String.ofList_toList] at hread

end Text

/-! ### Numbers -/

/-- What may follow a value. -/
def Ends (rest : List Char) : Prop := ∀ c ∈ rest.head?, c = ',' ∨ c = ']' ∨ c = '\x7d'

theorem ends_nil : Ends [] := fun _ h => nomatch h

theorem ends_comma (rest : List Char) : Ends (',' :: rest) :=
  fun _ h => .inl (Option.some.inj h).symm

theorem ends_bracket (rest : List Char) : Ends (']' :: rest) :=
  fun _ h => .inr (.inl (Option.some.inj h).symm)

theorem ends_brace (rest : List Char) : Ends ('\x7d' :: rest) :=
  fun _ h => .inr (.inr (Option.some.inj h).symm)

section Numbers

variable {n : Nat} {rest : List Char}

theorem isDigit_of_mem {c : Char} (h : c ∈ Nat.toDigits 10 n) : isDigit c = true :=
  Nat.isDigit_of_mem_toDigits (by decide) (by decide) h

theorem digitsValue_toDigits (n : Nat) : digitsValue (Nat.toDigits 10 n) = n := by
  induction n using Nat.strongRecOn with
  | ind n ih =>
    have hvalue {d : Nat} (h : d < 10) : (Nat.digitChar d).toNat - '0'.toNat = d :=
      Nat.toNat_digitChar_sub_48_of_lt_ten h
    rw [Nat.toDigits_eq_if (by decide)]
    split_ifs with hn
    · simpa [digitsValue] using hvalue hn
    · have hlead := ih (n / 10) (by omega)
      unfold digitsValue at hlead ⊢
      rw [List.foldl_append, hlead, List.foldl_cons, List.foldl_nil, hvalue (by omega)]
      omega

/-- Only zero is written with a leading zero. -/
theorem head?_toDigits (h : n ≠ 0) : (Nat.toDigits 10 n).head? ≠ some '0' := by
  induction n using Nat.strongRecOn with
  | ind n ih =>
    rw [Nat.toDigits_eq_if (by decide)]
    split_ifs with hn
    · simpa using h
    · have hlead := ih (n / 10) (by omega) (by omega)
      have hpos : Nat.toDigits 10 (n / 10) ≠ [] := Nat.toDigits_ne_nil
      cases hdigits : Nat.toDigits 10 (n / 10) with
      | nil => exact absurd hdigits hpos
      | cons d ds => rwa [hdigits] at hlead

theorem Ends.takeWhile (h : Ends rest) : rest.takeWhile isDigit = [] := by
  cases rest with
  | nil => rfl
  | cons c rest => rcases h c rfl with rfl | rfl | rfl <;> rfl

theorem Ends.fractionDigits (h : Ends rest) : fractionDigits rest = [] := by
  cases rest with
  | nil => rfl
  | cons c rest => rcases h c rfl with rfl | rfl | rfl <;> rfl

theorem Ends.exponentPart (h : Ends rest) : exponentPart rest = (0, 0) := by
  cases rest with
  | nil => rfl
  | cons c rest => rcases h c rfl with rfl | rfl | rfl <;> rfl

theorem wholeDigits_digits (n : Nat) (h : Ends rest) :
    wholeDigits (Nat.toDigits 10 n ++ rest) = Nat.toDigits 10 n := by
  by_cases hn : n = 0
  · rw [hn, Nat.toDigits_zero]
    rfl
  · have hlead := head?_toDigits hn
    have hall : (Nat.toDigits 10 n ++ rest).takeWhile isDigit = Nat.toDigits 10 n := by
      rw [List.takeWhile_append_of_pos fun c => isDigit_of_mem, h.takeWhile, List.append_nil]
    unfold wholeDigits
    split
    · rename_i heq
      cases hdigits : Nat.toDigits 10 n with
      | nil => exact absurd hdigits Nat.toDigits_ne_nil
      | cons d ds =>
        rw [hdigits] at hlead heq
        exact absurd (congrArg some (List.cons.inj heq).1) hlead
    · exact hall

theorem number?_digits (n : Nat) (h : Ends rest) :
    number? (Nat.toDigits 10 n ++ rest) = some (.int n, (Nat.toDigits 10 n).length) := by
  have hhead : (Nat.toDigits 10 n).head? ≠ some '-' := by
    intro heq
    have hminus : isDigit '-' = true := isDigit_of_mem (List.mem_of_head? heq)
    exact absurd hminus (by decide)
  unfold number?
  simp [hhead, wholeDigits_digits n h, h.fractionDigits, h.exponentPart, digitsValue_toDigits]

theorem number?_minus (n : Nat) (h : Ends rest) :
    number? ('-' :: (Nat.toDigits 10 n ++ rest)) =
      some (.int (-n), 1 + (Nat.toDigits 10 n).length) := by
  unfold number?
  simp [wholeDigits_digits n h, h.fractionDigits, h.exponentPart, digitsValue_toDigits]

/-- No word begins as a number does. -/
theorem words_of_digit {c : Char} (h : isDigit c = true) (rest : List Char) :
    (words.find? fun word => word.1.isPrefixOf (c :: rest)) = none := by
  have hne {mark : Char} (hmark : isDigit mark = false) : (mark == c) = false := by
    rw [beq_eq_false_iff_ne]
    rintro rfl
    rw [h] at hmark
    exact nomatch hmark
  rw [List.find?_eq_none]
  intro word hword hprefix
  unfold words at hword
  simp only [List.mem_cons, List.not_mem_nil, or_false] at hword
  rcases hword with rfl | rfl | rfl | rfl | rfl | rfl <;>
    exact nomatch (Bool.and_eq_true_iff.mp hprefix).1.symm.trans (hne rfl)

theorem words_of_minus {c : Char} (h : isDigit c = true) (rest : List Char) :
    (words.find? fun word => word.1.isPrefixOf ('-' :: c :: rest)) = none := by
  have hne : ('I' == c) = false := by
    rw [beq_eq_false_iff_ne]
    rintro rfl
    exact nomatch h
  rw [List.find?_eq_none]
  intro word hword hprefix
  unfold words at hword
  simp only [List.mem_cons, List.not_mem_nil, or_false] at hword
  rcases hword with rfl | rfl | rfl | rfl | rfl | rfl
  case inr.inr.inr.inr.inr =>
    have hsecond := (Bool.and_eq_true_iff.mp (Bool.and_eq_true_iff.mp hprefix).2).1
    exact nomatch hsecond.symm.trans hne
  all_goals exact nomatch hprefix

theorem toList_toString (i : Int) : (toString i).toList =
    if 0 ≤ i then Nat.toDigits 10 i.toNat else '-' :: Nat.toDigits 10 (-i).toNat := by
  rw [Int.toString_eq_repr, Int.repr_eq_if]
  split_ifs
  · exact Nat.toList_repr
  · rw [String.toList_append, Nat.toList_repr]
    rfl

theorem readScalar_null (position : Nat) :
    Leaves rest .null (readScalar ⟨"null".toList ++ rest, position⟩) := ⟨_, rfl⟩

theorem readScalar_bool (b : Bool) (position : Nat) :
    Leaves rest (.bool b) (readScalar ⟨(write (.bool b)).toList ++ rest, position⟩) := by
  cases b
  · exact ⟨_, rfl⟩
  · exact ⟨_, rfl⟩

theorem readScalar_number {lead : List Char} {value : Value}
    (hwords : (words.find? fun word => word.1.isPrefixOf (lead ++ rest)) = none)
    (hnumber : number? (lead ++ rest) = some (value, lead.length)) (position : Nat) :
    Leaves rest value (readScalar ⟨lead ++ rest, position⟩) := by
  unfold readScalar
  dsimp only
  rw [hwords]
  dsimp only
  rw [hnumber]
  refine ⟨position + lead.length, ?_⟩
  simp only [Cursor.advance, List.drop_left]

theorem exists_digit (n : Nat) : ∃ d ds, Nat.toDigits 10 n = d :: ds ∧ isDigit d = true := by
  cases hdigits : Nat.toDigits 10 n with
  | nil => exact absurd hdigits Nat.toDigits_ne_nil
  | cons d ds => exact ⟨d, ds, rfl, isDigit_of_mem (hdigits ▸ List.mem_cons_self)⟩

theorem readScalar_int (i : Int) (h : Ends rest) (position : Nat) :
    Leaves rest (.int i) (readScalar ⟨(toString i).toList ++ rest, position⟩) := by
  rw [toList_toString]
  split_ifs with hi
  · obtain ⟨d, ds, hdigits, hd⟩ := exists_digit i.toNat
    have hnumber := number?_digits i.toNat h
    have hwords := words_of_digit hd (ds ++ rest)
    rw [← List.cons_append, ← hdigits] at hwords
    rw [Int.toNat_of_nonneg hi] at hnumber
    exact readScalar_number hwords hnumber position
  · obtain ⟨d, ds, hdigits, hd⟩ := exists_digit (-i).toNat
    have hnumber := number?_minus (-i).toNat h
    have hwords := words_of_minus hd (ds ++ rest)
    rw [← List.cons_append, ← hdigits, ← List.cons_append] at hwords
    rw [Int.toNat_of_nonneg (by omega), Int.neg_neg, Nat.add_comm, ← List.cons_append] at hnumber
    exact readScalar_number hwords hnumber position

end Numbers

/-! ### Values -/

/-- The text of a real number is read as the number, whatever may follow it. -/
def RealReads (x : Float) : Prop :=
  ∀ rest, Ends rest → ∀ position,
    Leaves rest (.real x) (readScalar ⟨(Decimal.Layout.json.render x).toList ++ rest, position⟩)

mutual

/-- Objects have no name twice, and the texts of real numbers are read as the numbers. -/
def Legible : Value → Prop
  | .real x => RealReads x
  | .list items => LegibleItems items
  | .object fields => (Table.names fields).Nodup ∧ LegibleFields fields
  | _ => True

def LegibleItems : List Value → Prop
  | [] => True
  | a :: as => Legible a ∧ LegibleItems as

def LegibleFields : List (String × Value) → Prop
  | [] => True
  | (_, a) :: as => Legible a ∧ LegibleFields as

end

section Heads

variable {c : Char} {cs more rest : List Char} {position : Nat}

def byteOrderMark : Char := Char.ofNat 0xFEFF

/-- The blanks, and the marks that end or begin something else: no scalar begins with one of them. -/
def outsiders : List Char :=
  [byteOrderMark, ' ', '\t', '\n', '\r', ']', '\x7d', '\x22', '\x7b', '[']

theorem exists_head {r : Value × Cursor} (h : readScalar ⟨cs, position⟩ = .ok r) :
    ∃ c more, cs = c :: more ∧ c ∉ outsiders := by
  cases cs with
  | nil => exact nomatch h
  | cons c more =>
    refine ⟨c, more, rfl, fun hc => ?_⟩
    unfold outsiders at hc
    simp only [List.mem_cons, List.not_mem_nil, or_false] at hc
    rcases hc with rfl | rfl | rfl | rfl | rfl | rfl | rfl | rfl | rfl | rfl <;> exact nomatch h

/-- The text begins with a character that is skipped nowhere and closes nothing. -/
def Opens (cs : List Char) : Prop :=
  ∃ c more, cs = c :: more ∧ isSpace c = false ∧ c ≠ ']' ∧ c ≠ '\x7d' ∧ c ≠ byteOrderMark

theorem ne_of_not_outsider {mark : Char} (h : c ∉ outsiders) (hmark : mark ∈ outsiders) : c ≠ mark :=
  fun heq => h (heq ▸ hmark)

theorem opens_of_readScalar {r : Value × Cursor} (h : readScalar ⟨cs ++ [], position⟩ = .ok r) :
    Opens cs := by
  rw [List.append_nil] at h
  obtain ⟨c, more, rfl, hc⟩ := exists_head h
  have hspace : isSpace c = false := by
    have hblank : c ≠ ' ' := ne_of_not_outsider hc (by decide)
    have htab : c ≠ '\t' := ne_of_not_outsider hc (by decide)
    have hline : c ≠ '\n' := ne_of_not_outsider hc (by decide)
    have hreturn : c ≠ '\r' := ne_of_not_outsider hc (by decide)
    simp [isSpace, hblank, htab, hline, hreturn]
  exact ⟨c, more, rfl, hspace, ne_of_not_outsider hc (by decide), ne_of_not_outsider hc (by decide),
    ne_of_not_outsider hc (by decide)⟩

theorem Opens.append (h : Opens cs) (rest : List Char) : Opens (cs ++ rest) := by
  obtain ⟨c, more, rfl, hc⟩ := h
  exact ⟨c, more ++ rest, rfl, hc⟩

theorem readValue_of_readScalar {r : Value × Cursor} (h : readScalar ⟨cs, position⟩ = .ok r)
    (hlimit : limited r = .ok r) (fuel room : Nat) :
    readValue (fuel + 1) room ⟨cs, position⟩ = .ok r := by
  obtain ⟨c, more, rfl, hc⟩ := exists_head h
  unfold readValue
  split
  · rename_i heq
    exact absurd (List.cons.inj heq).1 (ne_of_not_outsider hc (by decide))
  · rename_i heq
    exact absurd (List.cons.inj heq).1 (ne_of_not_outsider hc (by decide))
  · rename_i heq
    exact absurd (List.cons.inj heq).1 (ne_of_not_outsider hc (by decide))
  · rw [h]
    exact hlimit

/-- A number within the limit is taken, and so is whatever is no number. -/
theorem limited_of_brief {v : Value} (h : v.brief = true) (c : Cursor) :
    limited (v, c) = .ok (v, c) := by
  cases v with
  | int i => exact if_pos (of_decide_eq_true h)
  | _ => rfl

theorem skip_of_not_space (h : isSpace c = false) (position : Nat) :
    Cursor.skip ⟨c :: more, position⟩ = ⟨c :: more, position⟩ := by
  unfold Cursor.skip
  simp [h]

/-- A single blank is skipped. -/
theorem skip_blank (h : Opens cs) (rest : List Char) (position : Nat) :
    Cursor.skip ⟨' ' :: (cs ++ rest), position⟩ = ⟨cs ++ rest, position + 1⟩ := by
  obtain ⟨c, more, rfl, hc, -⟩ := h
  have hblank : isSpace ' ' = true := rfl
  unfold Cursor.skip
  simp [hc, hblank]

theorem skip_opens (h : Opens cs) (rest : List Char) (position : Nat) :
    Cursor.skip ⟨cs ++ rest, position⟩ = ⟨cs ++ rest, position⟩ := by
  obtain ⟨c, more, rfl, hc, -⟩ := h
  exact skip_of_not_space hc position

theorem Opens.head?_ne (h : Opens cs) (rest : List Char) :
    (cs ++ rest).head? ≠ some ']' ∧ (cs ++ rest).head? ≠ some '\x7d' := by
  obtain ⟨c, more, rfl, -, hbracket, hbrace, -⟩ := h
  exact ⟨fun h => hbracket (Option.some.inj h), fun h => hbrace (Option.some.inj h)⟩

end Heads

/-! What the readers do at a mark. -/

section Marks

variable {fuel room : Nat} {c : Cursor} {item value : Value}
variable {more behind after : List Char} {name : String} {position next last : Nat}

theorem readValue_quote (fuel room : Nat) (more : List Char) (position : Nat) :
    readValue (fuel + 1) room ⟨'\x22' :: more, position⟩ =
      (readText (more.length + 1) position [] ⟨more, position + 1⟩).map
        fun r => (.text r.1, r.2) := by
  rw [readValue]
  simp only [Cursor.advance, List.drop_succ_cons, List.drop_zero]
  cases readText (more.length + 1) position [] ⟨more, position + 1⟩ <;> rfl

theorem readValue_bracket (fuel room : Nat) (more : List Char) (position : Nat) :
    readValue (fuel + 1) (room + 1) ⟨'[' :: more, position⟩ =
      if (Cursor.skip ⟨more, position + 1⟩).rest.head? = some ']' then
        .ok (.list [], (Cursor.skip ⟨more, position + 1⟩).advance 1)
      else readItems fuel room [] (Cursor.skip ⟨more, position + 1⟩) := by
  rw [readValue]
  simp only [inside, Cursor.advance, List.drop_succ_cons, List.drop_zero]

theorem readValue_brace (fuel room : Nat) (more : List Char) (position : Nat) :
    readValue (fuel + 1) (room + 1) ⟨'\x7b' :: more, position⟩ =
      if (Cursor.skip ⟨more, position + 1⟩).rest.head? = some '\x7d' then
        .ok (.object [], (Cursor.skip ⟨more, position + 1⟩).advance 1)
      else readFields fuel room [] (Cursor.skip ⟨more, position + 1⟩) := by
  rw [readValue]
  simp only [inside, Cursor.advance, List.drop_succ_cons, List.drop_zero]

theorem readItems_last (done : List Value)
    (hread : readValue fuel room c = .ok (item, ⟨']' :: more, next⟩)) :
    readItems (fuel + 1) room done c = .ok (.list (item :: done).reverse, ⟨more, next + 1⟩) := by
  have hbracket : isSpace ']' = false := rfl
  rw [readItems, hread]
  simp only [bind, Except.bind, skip_of_not_space hbracket]
  rfl

theorem readItems_comma (done : List Value)
    (hread : readValue fuel room c = .ok (item, ⟨',' :: more, next⟩)) :
    readItems (fuel + 1) room done c =
      readItems fuel room (item :: done) (Cursor.skip ⟨more, next + 1⟩) := by
  have hcomma : isSpace ',' = false := rfl
  rw [readItems, hread]
  simp only [bind, Except.bind, skip_of_not_space hcomma]
  rfl

theorem readFields_last (fields : Fields Value)
    (hname : readText (more.length + 1) position [] ⟨more, position + 1⟩ =
      .ok (name, ⟨':' :: behind, next⟩))
    (hvalue : readValue fuel room (Cursor.skip ⟨behind, next + 1⟩) =
      .ok (value, ⟨'\x7d' :: after, last⟩)) :
    readFields (fuel + 1) room fields ⟨'\x22' :: more, position⟩ =
      .ok (.object (fields.put name value), ⟨after, last + 1⟩) := by
  have hcolon : isSpace ':' = false := rfl
  have hbrace : isSpace '\x7d' = false := rfl
  rw [readFields]
  simp only [Cursor.advance, List.drop_succ_cons, List.drop_zero, hname, bind, Except.bind,
    skip_of_not_space hcolon, hvalue, skip_of_not_space hbrace]

theorem readFields_comma (fields : Fields Value)
    (hname : readText (more.length + 1) position [] ⟨more, position + 1⟩ =
      .ok (name, ⟨':' :: behind, next⟩))
    (hvalue : readValue fuel room (Cursor.skip ⟨behind, next + 1⟩) =
      .ok (value, ⟨',' :: after, last⟩)) :
    readFields (fuel + 1) room fields ⟨'\x22' :: more, position⟩ =
      readFields fuel room (fields.put name value) (Cursor.skip ⟨after, last + 1⟩) := by
  have hcolon : isSpace ':' = false := rfl
  have hcomma : isSpace ',' = false := rfl
  rw [readFields]
  simp only [Cursor.advance, List.drop_succ_cons, List.drop_zero, hname, bind, Except.bind,
    skip_of_not_space hcolon, hvalue, skip_of_not_space hcomma]

end Marks

section Joined

/-- The texts of the items of a list, or of the fields of an object, as they are written. -/
def joined (parts : List String) : List Char := [',', ' '].intercalate (parts.map String.toList)

theorem joined_single (part : String) : joined [part] = part.toList := List.intercalate_singleton

theorem joined_cons (part next : String) (parts : List String) :
    joined (part :: next :: parts) = part.toList ++ ',' :: ' ' :: joined (next :: parts) := by
  unfold joined
  rw [List.map_cons, List.map_cons, List.intercalate_cons_cons, List.append_assoc]
  rfl

theorem toList_write_list (items : List Value) :
    (write (.list items)).toList = '[' :: (joined (writeList items) ++ [']']) := by
  rw [write, String.toList_append, String.toList_append, String.toList_intercalate]
  rfl

theorem toList_write_object (fields : List (String × Value)) :
    (write (.object fields)).toList = '\x7b' :: (joined (writeFields fields) ++ ['\x7d']) := by
  rw [write, String.toList_append, String.toList_append, String.toList_intercalate]
  rfl

end Joined

/-- The text of the value begins as one, and is read as the value. -/
structure Returns (room : Nat) (v : Value) : Prop where
  opens : Opens (write v).toList
  reads : ∀ {fuel : Nat}, 2 * (write v).toList.length ≤ fuel → ∀ {rest : List Char}, Ends rest →
    ∀ position, Leaves rest v (readValue fuel room ⟨(write v).toList ++ rest, position⟩)

variable {room : Nat}

theorem Opens.length_pos {cs : List Char} (h : Opens cs) : 0 < cs.length := by
  obtain ⟨c, more, rfl, -⟩ := h
  exact Nat.succ_pos _

section Scalars

/-- A value that is read as a scalar. -/
theorem returns_of_readScalar {v : Value} (hbrief : v.brief = true)
    (h : ∀ rest, Ends rest → ∀ position,
      Leaves rest v (readScalar ⟨(write v).toList ++ rest, position⟩)) : Returns room v := by
  have hopens : Opens (write v).toList := by
    obtain ⟨_, hread⟩ := h [] ends_nil 0
    exact opens_of_readScalar hread
  refine ⟨hopens, fun {fuel} hfuel {rest} hrest position => ?_⟩
  have hpos := hopens.length_pos
  obtain ⟨less, rfl, -⟩ := exists_fuel (show 0 < fuel by omega)
  obtain ⟨after, hread⟩ := h rest hrest position
  exact ⟨after, readValue_of_readScalar hread (limited_of_brief hbrief _) less room⟩

theorem returns_text (s : String) : Returns room (.text s) := by
  have hchars (rest : List Char) : (write (.text s)).toList ++ rest =
      '\x22' :: (s.toList.flatMap escapeChar ++ doubleQuote :: rest) := by
    rw [write, toList_writeText]
    simp only [List.cons_append, List.append_assoc, List.nil_append]
    rfl
  have hopens : Opens (write (.text s)).toList := by
    rw [← List.append_nil (write (.text s)).toList, hchars]
    exact ⟨_, _, rfl, rfl, by decide, by decide, by decide⟩
  refine ⟨hopens, fun {fuel} hfuel {rest} _ position => ?_⟩
  have hpos := hopens.length_pos
  obtain ⟨less, rfl, -⟩ := exists_fuel (show 0 < fuel by omega)
  obtain ⟨after, hread⟩ := readText_write s rest position (position + 1)
  rw [hchars, readValue_quote, hread]
  exact ⟨after, rfl⟩

end Scalars

section Lists

theorem opens_items {a : Value} (h : Returns room a) (as : List Value) :
    Opens (joined (writeList (a :: as))) := by
  cases as with
  | nil =>
    rw [writeList, writeList, joined_single]
    exact h.opens
  | cons b bs =>
    rw [writeList, writeList, joined_cons]
    exact h.opens.append _

/-- The items of a list behind those that are done. -/
theorem readItems_write (a : Value) (as : List Value) (h : ∀ v ∈ a :: as, Returns room v)
    {fuel : Nat} (hfuel : 2 * (joined (writeList (a :: as))).length < fuel) (done : List Value)
    (rest : List Char) (position : Nat) : Leaves rest (.list (done.reverse ++ a :: as))
      (readItems fuel room done ⟨joined (writeList (a :: as)) ++ ']' :: rest, position⟩) := by
  induction as generalizing a fuel done position with
  | nil =>
    obtain ⟨less, rfl, hless⟩ := exists_fuel hfuel
    rw [writeList, writeList, joined_single] at hless ⊢
    obtain ⟨next, hread⟩ := (h a List.mem_cons_self).reads hless (ends_bracket rest) position
    have hitems := readItems_last done hread
    rw [List.reverse_cons] at hitems
    exact ⟨_, hitems⟩
  | cons b bs ih =>
    obtain ⟨less, rfl, hless⟩ := exists_fuel hfuel
    have hopens := opens_items (h b (by simp)) bs
    rw [writeList, writeList, joined_cons, ← writeList] at hless ⊢
    rw [List.length_append, List.length_cons, List.length_cons] at hless
    have hfirst : 2 * (write a).toList.length ≤ less := by omega
    have hothers : 2 * (joined (writeList (b :: bs))).length < less := by omega
    obtain ⟨next, hread⟩ := (h a List.mem_cons_self).reads hfirst
      (ends_comma (' ' :: (joined (writeList (b :: bs)) ++ ']' :: rest))) position
    obtain ⟨after, hitems⟩ :=
      ih b (fun v hv => h v (List.mem_cons_of_mem a hv)) hothers (a :: done) (next + 1 + 1)
    rw [List.reverse_cons, List.append_assoc, List.singleton_append] at hitems
    rw [List.append_assoc, List.cons_append, List.cons_append, readItems_comma done hread,
      skip_blank hopens]
    exact ⟨after, hitems⟩

theorem returns_list {items : List Value} (h : ∀ v ∈ items, Returns room v) :
    Returns (room + 1) (.list items) := by
  refine ⟨⟨_, _, toList_write_list items, rfl, by decide, by decide, by decide⟩,
    fun {fuel} hfuel {rest} _ position => ?_⟩
  rw [toList_write_list] at hfuel ⊢
  have hinner : 2 * (joined (writeList items)).length < fuel - 1 := by
    rw [List.length_cons, List.length_append, List.length_singleton] at hfuel
    omega
  obtain ⟨less, rfl, -⟩ := exists_fuel (show 0 < fuel by omega)
  rw [List.cons_append, List.append_assoc, List.singleton_append, readValue_bracket]
  cases items with
  | nil => exact ⟨_, rfl⟩
  | cons a as =>
    have hopens := opens_items (h a List.mem_cons_self) as
    rw [skip_opens hopens, if_neg (hopens.head?_ne _).1]
    exact readItems_write a as h hinner [] rest (position + 1)

end Lists

section Objects

/-- The text of one field. -/
theorem toList_field (name : String) (a : Value) (rest : List Char) :
    (writeText name ++ ": " ++ write a).toList ++ rest =
      '\x22' :: (name.toList.flatMap escapeChar ++
        doubleQuote :: ':' :: ' ' :: ((write a).toList ++ rest)) := by
  have hcolon : (": " : String).toList = [':', ' '] := rfl
  rw [String.toList_append, String.toList_append, toList_writeText, hcolon]
  simp only [List.cons_append, List.append_assoc, List.nil_append]
  rfl

theorem length_field (name : String) (a : Value) :
    (write a).toList.length < (writeText name ++ ": " ++ write a).toList.length := by
  rw [String.toList_append, String.toList_append, List.length_append, List.length_append,
    toList_writeText, List.length_cons]
  omega

theorem opens_fields (name : String) (a : Value) (as : List (String × Value)) :
    Opens (joined (writeFields ((name, a) :: as))) := by
  have hfield : Opens (writeText name ++ ": " ++ write a).toList := by
    rw [← List.append_nil (writeText name ++ ": " ++ write a).toList, toList_field]
    exact ⟨_, _, rfl, rfl, by decide, by decide, by decide⟩
  cases as with
  | nil =>
    rw [writeFields, writeFields, joined_single]
    exact hfield
  | cons b bs =>
    rw [writeFields, writeFields, joined_cons]
    exact hfield.append _

theorem put_new {done as : Fields Value} {name : String} (a : Value)
    (h : (done ++ (name, a) :: as).names.Nodup) : done.put name a = done ++ [(name, a)] := by
  unfold Table.names at h
  rw [List.map_append, List.map_cons] at h
  have hnew : name ∉ done.names := fun hmem =>
    (List.nodup_append.mp h).2.2 name hmem name List.mem_cons_self rfl
  exact Table.put_of_not_has a (Table.has_eq_false_iff.mpr hnew)

/-- The fields of an object behind those that are done. -/
theorem readFields_write (name : String) (a : Value) (as : Fields Value)
    (h : ∀ entry ∈ (name, a) :: as, Returns room entry.2) {fuel : Nat}
    (hfuel : 2 * (joined (writeFields ((name, a) :: as))).length < fuel) (done : Fields Value)
    (hnames : (done ++ (name, a) :: as).names.Nodup) (rest : List Char) (position : Nat) :
    Leaves rest (.object (done ++ (name, a) :: as)) (readFields fuel room done
      ⟨joined (writeFields ((name, a) :: as)) ++ '\x7d' :: rest, position⟩) := by
  induction as generalizing name a fuel done position with
  | nil =>
    obtain ⟨less, rfl, hless⟩ := exists_fuel hfuel
    have ha : Returns room a := h (name, a) List.mem_cons_self
    rw [writeFields, writeFields, joined_single] at hless ⊢
    have hlength := length_field name a
    have hfirst : 2 * (write a).toList.length ≤ less := by omega
    obtain ⟨next, hname⟩ := readText_write name
      (':' :: ' ' :: ((write a).toList ++ '\x7d' :: rest)) position (position + 1)
    obtain ⟨last, hvalue⟩ := ha.reads hfirst (ends_brace rest) (next + 1 + 1)
    rw [← skip_blank ha.opens] at hvalue
    have hfields := readFields_last done hname hvalue
    rw [put_new a hnames] at hfields
    rw [toList_field]
    exact ⟨_, hfields⟩
  | cons entry more ih =>
    obtain ⟨second, b⟩ := entry
    obtain ⟨less, rfl, hless⟩ := exists_fuel hfuel
    have ha : Returns room a := h (name, a) List.mem_cons_self
    have hopens := opens_fields second b more
    rw [writeFields, writeFields, joined_cons, ← writeFields] at hless ⊢
    rw [List.length_append, List.length_cons, List.length_cons] at hless
    have hlength := length_field name a
    have hfirst : 2 * (write a).toList.length ≤ less := by omega
    have hothers : 2 * (joined (writeFields ((second, b) :: more))).length < less := by omega
    obtain ⟨next, hname⟩ := readText_write name (':' :: ' ' :: ((write a).toList ++ ',' :: ' ' ::
      (joined (writeFields ((second, b) :: more)) ++ '\x7d' :: rest))) position (position + 1)
    obtain ⟨last, hvalue⟩ := ha.reads hfirst
      (ends_comma (' ' :: (joined (writeFields ((second, b) :: more)) ++ '\x7d' :: rest)))
      (next + 1 + 1)
    rw [← skip_blank ha.opens] at hvalue
    have hfields := readFields_comma done hname hvalue
    rw [put_new a hnames, skip_blank hopens] at hfields
    have happend : done ++ (name, a) :: (second, b) :: more =
        done ++ [(name, a)] ++ (second, b) :: more := by simp
    rw [happend] at hnames
    obtain ⟨after, hrest⟩ := ih second b (fun entry hentry => h entry (List.mem_cons_of_mem _ hentry))
      hothers (done ++ [(name, a)]) hnames (last + 1 + 1)
    rw [List.append_assoc, List.cons_append, List.cons_append, toList_field, happend]
    exact ⟨after, hfields.trans hrest⟩

theorem returns_object {fields : Fields Value} (h : ∀ entry ∈ fields, Returns room entry.2)
    (hnames : fields.names.Nodup) : Returns (room + 1) (.object fields) := by
  refine ⟨⟨_, _, toList_write_object fields, rfl, by decide, by decide, by decide⟩,
    fun {fuel} hfuel {rest} _ position => ?_⟩
  rw [toList_write_object] at hfuel ⊢
  have hinner : 2 * (joined (writeFields fields)).length < fuel - 1 := by
    rw [List.length_cons, List.length_append, List.length_singleton] at hfuel
    omega
  obtain ⟨less, rfl, -⟩ := exists_fuel (show 0 < fuel by omega)
  rw [List.cons_append, List.append_assoc, List.singleton_append, readValue_brace]
  cases fields with
  | nil => exact ⟨_, rfl⟩
  | cons entry more =>
    obtain ⟨name, a⟩ := entry
    have hopens := opens_fields name a more
    rw [skip_opens hopens, if_neg (hopens.head?_ne _).2]
    exact readFields_write name a more h hinner [] hnames rest (position + 1)

end Objects

mutual

/-- One case for each shape of data. -/
theorem Legible.returns : ∀ {v : Value} {room : Nat}, Legible v → v.brief = true →
    v.nesting ≤ room → Returns room v
  | .null, _, _, _, _ => returns_of_readScalar rfl fun _ _ position => readScalar_null position
  | .bool b, _, _, _, _ => returns_of_readScalar rfl fun _ _ position => readScalar_bool b position
  | .int i, _, _, hbrief, _ =>
    returns_of_readScalar hbrief fun _ h position => readScalar_int i h position
  | .real _, _, h, _, _ => returns_of_readScalar rfl h
  | .text s, _, _, _, _ => returns_text s
  | .list _, 0, _, _, hroom | .object _, 0, _, _, hroom => absurd hroom (Nat.not_succ_le_zero _)
  | .list _, _ + 1, h, hbrief, hroom =>
    returns_list (returns_of_items h hbrief (Nat.le_of_succ_le_succ hroom))
  | .object _, _ + 1, h, hbrief, hroom =>
    returns_object (returns_of_fields h.2 hbrief (Nat.le_of_succ_le_succ hroom)) h.1

theorem returns_of_items : ∀ {items : List Value} {room : Nat}, LegibleItems items →
    Value.briefList items = true → Value.nestingList items ≤ room → ∀ v ∈ items, Returns room v
  | [], _, _, _, _ => fun _ hv => nomatch hv
  | _ :: _, _, h, hbrief, hroom =>
    have hbrief := Bool.and_eq_true_iff.mp hbrief
    have hroom := Nat.max_le.mp hroom
    List.forall_mem_cons.mpr
      ⟨h.1.returns hbrief.1 hroom.1, returns_of_items h.2 hbrief.2 hroom.2⟩

theorem returns_of_fields : ∀ {fields : List (String × Value)} {room : Nat},
    LegibleFields fields → Value.briefFields fields = true → Value.nestingFields fields ≤ room →
    ∀ entry ∈ fields, Returns room entry.2
  | [], _, _, _, _ => fun _ hentry => nomatch hentry
  | (_, _) :: _, _, h, hbrief, hroom =>
    have hbrief := Bool.and_eq_true_iff.mp hbrief
    have hroom := Nat.max_le.mp hroom
    List.forall_mem_cons.mpr
      ⟨h.1.returns hbrief.1 hroom.1, returns_of_fields h.2 hbrief.2 hroom.2⟩

end

/-- **What is written of a legible value within the limits is read as that value.** -/
theorem read_write {v : Value} (h : Legible v)
    (hlimits : v.brief = true ∧ v.nesting ≤ Limits.room) : read (write v) = .ok v := by
  have hreturns := h.returns hlimits.1 hlimits.2
  have hopens := hreturns.opens
  have hmark : (write v).toList.head? ≠ some (Char.ofNat 0xFEFF) := by
    obtain ⟨c, more, hcs, -, -, -, hc⟩ := hopens
    rw [hcs]
    exact fun heq => hc (Option.some.inj heq)
  have hfuel : 2 * (write v).toList.length ≤ 2 * (write v).toList.length + 2 := by omega
  obtain ⟨after, hread⟩ := hreturns.reads hfuel ends_nil 0
  rw [← skip_opens hopens, List.append_nil] at hread
  have hend : Cursor.skip ⟨[], after⟩ = ⟨[], after⟩ := rfl
  have hall : readAll (write v).toList = .ok v := by
    unfold readAll
    rw [if_neg hmark]
    simp only [bind, Except.bind, hread, hend]
    rfl
  unfold read
  dsimp only
  rw [hall]

/-! ### Limits -/

/-- What a reader comes to: a value within the limits, a departure from the grammar, or a limit that
was met. -/
inductive Within (room : Nat) : Except Complaint (Value × Cursor) → Prop
  | value {v : Value} {next : Cursor} (brief : v.brief = true) (nested : v.nesting ≤ room) :
      Within room (.ok (v, next))
  | departure (wording : String) (position : Nat) :
      Within room (.error (.departure wording position))
  | limit {cause : Fault} (h : cause.isLimit = true) : Within room (.error (.limit cause))

section Within

variable {room fuel : Nat} {c : Cursor}

theorem Within.bind {room' : Nat} {x : Except Complaint (Value × Cursor)}
    {f : Value × Cursor → Except Complaint (Value × Cursor)} (h : Within room x)
    (hf : ∀ v next, v.brief = true → v.nesting ≤ room → Within room' (f (v, next))) :
    Within room' (x >>= f) := by
  cases h with
  | value hbrief hnested => exact hf _ _ hbrief hnested
  | departure wording position => exact .departure wording position
  | limit h => exact .limit h

/-- Text has no limits. -/
theorem departure_of_readText {fuel opening : Nat} {done : List Char} {complaint : Complaint}
    (h : readText fuel opening done c = .error complaint) :
    ∃ wording position, complaint = .departure wording position := by
  induction fuel generalizing done c with
  | zero => exact ⟨_, _, (Except.error.inj h).symm⟩
  | succ fuel ih =>
    unfold readText at h
    split at h
    · exact ⟨_, _, (Except.error.inj h).symm⟩
    · split_ifs at h
      · split at h
        · exact ⟨_, _, (Except.error.inj h).symm⟩
        · split at h
          · exact ⟨_, _, (Except.error.inj h).symm⟩
          · split_ifs at h
            · exact ⟨_, _, (Except.error.inj h).symm⟩
            · exact ih h
        · split at h
          · exact ih h
          · exact ⟨_, _, (Except.error.inj h).symm⟩
      · exact ⟨_, _, (Except.error.inj h).symm⟩
      · exact ih h

theorem within_of_brief {v : Value} (hbrief : v.brief = true) (hflat : v.nesting = 0)
    (next : Cursor) : Within room (limited (v, next)) := by
  rw [limited_of_brief hbrief]
  exact .value hbrief (hflat ▸ Nat.zero_le room)

theorem within_int (i : Int) (next : Cursor) : Within room (limited (.int i, next)) := by
  unfold limited
  dsimp only
  split_ifs with hdigits
  · exact .value (decide_eq_true hdigits) (Nat.zero_le room)
  · exact .limit rfl

/-- A number is whole or real. -/
theorem number_cases {cs : List Char} {v : Value} {width : Nat}
    (h : number? cs = some (v, width)) : (∃ i, v = .int i) ∨ ∃ x, v = .real x := by
  unfold number? at h
  dsimp only at h
  have hside {p : Prop} [Decidable p] {a b : Value × Nat}
      (hif : (if p then some a else some b) = some (v, width)) : a.1 = v ∨ b.1 = v := by
    split_ifs at hif
    · exact .inl (congrArg Prod.fst (Option.some.inj hif))
    · exact .inr (congrArg Prod.fst (Option.some.inj hif))
  rw [Option.ite_none_left_eq_some] at h
  exact (hside h.2).imp (fun hint => ⟨_, hint.symm⟩) fun hreal => ⟨_, hreal.symm⟩

/-- The words stand for scalars, and a number is one. -/
theorem within_scalar (c : Cursor) : Within room ((readScalar c).bind limited) := by
  unfold readScalar
  split
  · rename_i word value hword
    have hmem := List.mem_of_find?_eq_some hword
    have hwords : ∀ w ∈ words, w.2.brief = true ∧ w.2.nesting = 0 := by
      unfold words infinite
      simp only [List.forall_mem_cons, List.not_mem_nil, false_imp_iff, implies_true, and_true]
      exact ⟨⟨rfl, rfl⟩, ⟨rfl, rfl⟩, ⟨rfl, rfl⟩, ⟨rfl, rfl⟩, ⟨rfl, rfl⟩, rfl, rfl⟩
    exact within_of_brief (hwords _ hmem).1 (hwords _ hmem).2 _
  · split
    · rename_i value width hnumber
      rcases number_cases hnumber with ⟨i, rfl⟩ | ⟨x, rfl⟩
      · exact within_int i _
      · exact within_of_brief (v := .real x) rfl rfl _
    · exact .departure _ _

theorem within_inside {doing : String} {go : Nat → Except Complaint (Value × Cursor)}
    (h : ∀ less, room = less + 1 → Within room (go less)) : Within room (inside doing room go) := by
  cases room with
  | zero => exact .limit rfl
  | succ less => exact h less rfl

theorem brief_list {items : List Value} :
    (Value.list items).brief = true ↔ ∀ v ∈ items, v.brief = true := by
  show Value.briefList items = true ↔ _
  induction items with
  | nil => simp [Value.briefList]
  | cons a as ih => simp [Value.briefList, ih]

theorem nesting_list {items : List Value} :
    (Value.list items).nesting ≤ room + 1 ↔ ∀ v ∈ items, v.nesting ≤ room := by
  show Value.nestingList items + 1 ≤ room + 1 ↔ _
  rw [Nat.add_le_add_iff_right]
  induction items with
  | nil => simp [Value.nestingList]
  | cons a as ih => simp [Value.nestingList, Nat.max_le, ih]

theorem brief_object {fields : List (String × Value)} :
    (Value.object fields).brief = true ↔ ∀ entry ∈ fields, entry.2.brief = true := by
  show Value.briefFields fields = true ↔ _
  induction fields with
  | nil => simp [Value.briefFields]
  | cons a as ih => simp [Value.briefFields, ih]

theorem nesting_object {fields : List (String × Value)} :
    (Value.object fields).nesting ≤ room + 1 ↔ ∀ entry ∈ fields, entry.2.nesting ≤ room := by
  show Value.nestingFields fields + 1 ≤ room + 1 ↔ _
  rw [Nat.add_le_add_iff_right]
  induction fields with
  | nil => simp [Value.nestingFields]
  | cons a as ih =>
    obtain ⟨name, v⟩ := a
    rw [Value.nestingFields, Nat.max_le, ih, List.forall_mem_cons]

/-- The value of an entry is a new one or an old one. -/
theorem forall_put {P : Value → Prop} {fields : Fields Value} {name : String} {v : Value}
    (h : ∀ entry ∈ fields, P entry.2) (hv : P v) : ∀ entry ∈ fields.put name v, P entry.2 := by
  induction fields with
  | nil => simpa [Table.put] using hv
  | cons first rest ih =>
    obtain ⟨hfirst, hrest⟩ := List.forall_mem_cons.mp h
    unfold Table.put
    split_ifs
    · exact List.forall_mem_cons.mpr ⟨hv, hrest⟩
    · exact List.forall_mem_cons.mpr ⟨hfirst, ih hrest⟩

/-- What the readers come to, by how much fuel they have. -/
theorem within_readers : ∀ (fuel room : Nat) (c : Cursor), Within room (readValue fuel room c) ∧
    (∀ done : List Value, (∀ v ∈ done, v.brief = true ∧ v.nesting ≤ room) →
      Within (room + 1) (readItems fuel room done c)) ∧
    (∀ done : Fields Value, (∀ entry ∈ done, entry.2.brief = true ∧ entry.2.nesting ≤ room) →
      Within (room + 1) (readFields fuel room done c))
  | 0, _, _ => ⟨.departure _ _, fun _ _ => .departure _ _, fun _ _ => .departure _ _⟩
  | fuel + 1, room, c => by
    refine ⟨?_, fun done hdone => ?_, fun done hdone => ?_⟩
    · rw [readValue.eq_def]
      dsimp only
      split
      · cases hread : readText _ _ _ _ with
        | ok r => exact .value rfl (Nat.zero_le room)
        | error complaint =>
          obtain ⟨wording, position, rfl⟩ := departure_of_readText hread
          exact .departure wording position
      · refine within_inside fun less hless => ?_
        subst hless
        split_ifs
        · exact .value rfl (nesting_object.mpr fun _ h => nomatch h)
        · exact (within_readers fuel less _).2.2 [] fun _ h => nomatch h
      · refine within_inside fun less hless => ?_
        subst hless
        split_ifs
        · exact .value rfl (nesting_list.mpr fun _ h => nomatch h)
        · exact (within_readers fuel less _).2.1 [] fun _ h => nomatch h
      · exact within_scalar c
    · rw [readItems]
      refine (within_readers fuel room c).1.bind fun v next hbrief hnested => ?_
      have hall : ∀ a ∈ v :: done, a.brief = true ∧ a.nesting ≤ room :=
        List.forall_mem_cons.mpr ⟨⟨hbrief, hnested⟩, hdone⟩
      dsimp only
      split
      · have hitems : ∀ a ∈ (v :: done).reverse, a.brief = true ∧ a.nesting ≤ room :=
          fun a ha => hall a (List.mem_reverse.mp ha)
        exact .value (brief_list.mpr fun a ha => (hitems a ha).1)
          (nesting_list.mpr fun a ha => (hitems a ha).2)
      · exact (within_readers fuel room _).2.1 _ hall
      · exact .departure _ _
    · rw [readFields]
      split
      · cases hread : readText _ _ _ _ with
        | error complaint =>
          obtain ⟨wording, position, rfl⟩ := departure_of_readText hread
          exact .departure wording position
        | ok r =>
          obtain ⟨name, next⟩ := r
          dsimp only [bind, Except.bind]
          split
          · refine (within_readers fuel room _).1.bind fun v next hbrief hnested => ?_
            have hentry : v.brief = true ∧ v.nesting ≤ room := ⟨hbrief, hnested⟩
            have hall : ∀ entry ∈ Table.put done name v,
                entry.2.brief = true ∧ entry.2.nesting ≤ room :=
              forall_put (P := fun a => a.brief = true ∧ a.nesting ≤ room) hdone hentry
            dsimp only
            split
            · exact .value (brief_object.mpr fun entry hentry => (hall entry hentry).1)
                (nesting_object.mpr fun entry hentry => (hall entry hentry).2)
            · exact (within_readers fuel room _).2.2 _ hall
            · exact .departure _ _
          · exact .departure _ _
      · exact .departure _ _

end Within

/-- What is read of a whole text: a value within the limits, or nothing, for a departure or a limit. -/
theorem within_readAll (cs : List Char) :
    (∀ v, readAll cs = .ok v → v.brief = true ∧ v.nesting ≤ Limits.room) ∧
      ∀ cause, readAll cs = .error (.limit cause) → cause.isLimit = true := by
  have hvalue := (within_readers (2 * cs.length + 2) Limits.room (Cursor.mk cs 0).skip).1
  unfold readAll
  by_cases hmark : cs.head? = some (Char.ofNat 0xFEFF)
  · rw [if_pos hmark]
    exact ⟨fun _ h => (nomatch h), fun _ h => nomatch h⟩
  · rw [if_neg hmark]
    dsimp only [bind, Except.bind, pure, Except.pure]
    cases hread : readValue (2 * cs.length + 2) Limits.room (Cursor.mk cs 0).skip with
    | error complaint =>
      rw [hread] at hvalue
      refine ⟨fun _ h => (nomatch h), fun cause h => ?_⟩
      rw [Except.error.inj h] at hvalue
      cases hvalue with
      | limit h => exact h
    | ok r =>
      rw [hread] at hvalue
      cases hvalue with
      | value hbrief hnested =>
        dsimp only
        split_ifs
        · exact ⟨fun v h => Except.ok.inj h ▸ ⟨hbrief, hnested⟩, fun _ h => nomatch h⟩
        · exact ⟨fun _ h => (nomatch h), fun _ h => nomatch h⟩

/-- **What is read is within the limits.** -/
theorem within_of_read {s : String} {v : Value} (h : read s = .ok v) :
    v.brief = true ∧ v.nesting ≤ Limits.room := by
  unfold read at h
  dsimp only at h
  split at h
  · rename_i value hall
    exact Except.ok.inj h ▸ (within_readAll _).1 value hall
  · exact nomatch h
  · exact nomatch h

/-- A text that is not read departs from the grammar, or meets a limit. -/
theorem refused_of_read {s : String} {f : Fault} (h : read s = .error f) :
    (∃ wording line column position, f = .badDocument wording line column position) ∨
      f.isLimit = true := by
  unfold read at h
  dsimp only at h
  split at h
  · exact nomatch h
  · exact .inl ⟨_, _, _, _, (Except.error.inj h).symm⟩
  · rename_i cause hall
    exact .inr (Except.error.inj h ▸ (within_readAll _).2 cause hall)

end Parley.Document
