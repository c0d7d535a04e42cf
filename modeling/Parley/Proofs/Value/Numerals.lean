import Mathlib.Data.List.Chain
import Parley.Value.RealText
import Parley.Proofs.Unicode.Words

/-!
# Parley.Proofs.Value.Numerals — the texts that are real numbers

`Magnitude`: digits with a point among or beside them, and an exponent, over any notion of digit and
point.  `IsNumeral` is the form of numerals with digits of any script, a point or a comma, and
underscores between digits; `IsNamed` has the numbers that have names.  `isRealText_iff`: a text with
commas for points is a real number exactly if it is of one of these forms.
-/

namespace Parley.Numeral

open Unicode (isDecimal)

/-! ### Forms -/

/-- No sign, or one. -/
def IsSign (cs : List Char) : Prop := cs = [] ∨ cs = ['+'] ∨ cs = ['-']

section Grammar

variable (digit point : Char → Bool)

/-- Digits only, one at least. -/
def Digits (cs : List Char) : Prop := cs ≠ [] ∧ ∀ d ∈ cs, digit d = true

/-- No exponent, or one. -/
inductive Exponent : List Char → Prop
  | none : Exponent []
  | some {e : Char} {sign digits : List Char} : e = 'e' ∨ e = 'E' → IsSign sign →
    Digits digit digits → Exponent (e :: (sign ++ digits))

/-- Digits, with a point among or beside them or without one, and an exponent. -/
inductive Magnitude : List Char → Prop
  | whole {whole exponent : List Char} : Digits digit whole → Exponent digit exponent →
    Magnitude (whole ++ exponent)
  | pointed {p : Char} {whole part exponent : List Char} : point p = true →
    Digits digit (whole ++ part) → Exponent digit exponent →
    Magnitude (whole ++ p :: (part ++ exponent))

/-- Two characters that may follow each other: beside an underscore there is a digit. -/
def Beside (c d : Char) : Prop := (c = '_' → digit d = true) ∧ (d = '_' → digit c = true)

/-- Underscores stand between digits only. -/
structure Grouped (cs : List Char) : Prop where
  chain : cs.IsChain (Beside digit)
  first : cs.head? ≠ some '_'
  last : cs.getLast? ≠ some '_'

/-- A sign or none, and a magnitude, with underscores between digits. -/
structure Signed (cs : List Char) : Prop where
  grouped : Grouped digit cs
  parts : ∃ sign rest, cs.filter (· ≠ '_') = sign ++ rest ∧ IsSign sign ∧ Magnitude digit point rest

end Grammar

/-- A decimal point or a decimal comma. -/
def isPoint (c : Char) : Bool := c = '.' || c = ','

/-- A numeral in digits of any script, with a decimal point or a decimal comma. -/
abbrev IsNumeral (cs : List Char) : Prop := Signed isDecimal isPoint cs

/-- The name of a number that has no numeral, in small or capital letters. -/
def IsName (cs : List Char) : Prop := String.ofList (cs.map Char.toLower) ∈ specialNames

/-- A sign or none, and a name. -/
def IsNamed (cs : List Char) : Prop := ∃ sign name, cs = sign ++ name ∧ IsSign sign ∧ IsName name

/-! ### Plain text -/

section Plain

variable {digit point : Char → Bool} {cs ds whole rest : List Char} {c e : Char}

theorem IsSign.eq_or (h : IsSign cs) (hc : c ∈ cs) : c = '+' ∨ c = '-' := by
  rcases h with rfl | rfl | rfl
  · exact absurd hc List.not_mem_nil
  · exact .inl (List.mem_singleton.mp hc)
  · exact .inr (List.mem_singleton.mp hc)

/-- Without a sign at its beginning. -/
def unsigned : List Char → List Char
  | '+' :: rest | '-' :: rest => rest
  | rest => rest

theorem unsigned_of_head (h : ∀ c, cs.head? = some c → c ≠ '+' ∧ c ≠ '-') : unsigned cs = cs := by
  unfold unsigned
  split
  · exact absurd rfl (h '+' rfl).1
  · exact absurd rfl (h '-' rfl).2
  · rfl

/-- What is left without the sign has a form, if nothing of that form begins with a sign. -/
theorem unsigned_iff {P : List Char → Prop}
    (h : ∀ cs, P cs → ∀ c, cs.head? = some c → c ≠ '+' ∧ c ≠ '-') :
    P (unsigned cs) ↔ ∃ sign rest, cs = sign ++ rest ∧ IsSign sign ∧ P rest := by
  constructor
  · intro hp
    unfold unsigned at hp
    split at hp
    · exact ⟨['+'], _, rfl, .inr (.inl rfl), hp⟩
    · exact ⟨['-'], _, rfl, .inr (.inr rfl), hp⟩
    · exact ⟨[], _, rfl, .inl rfl, hp⟩
  · rintro ⟨sign, rest, rfl, rfl | rfl | rfl, hp⟩
    · rwa [List.nil_append, unsigned_of_head (h rest hp)]
    · exact hp
    · exact hp

theorem not_sign_of_isDigit (h : isDigit c = true) : c ≠ '+' ∧ c ≠ '-' := by
  constructor <;> (rintro rfl; exact absurd h (by decide))

theorem Digits.head (h : Digits isDigit cs) (hc : cs.head? = some c) : c ≠ '+' ∧ c ≠ '-' :=
  not_sign_of_isDigit (h.2 c (List.mem_of_head? hc))

theorem exponent_cons_iff : Exponent digit (e :: rest) ↔ (e = 'e' ∨ e = 'E') ∧
    ∃ sign digits, rest = sign ++ digits ∧ IsSign sign ∧ Digits digit digits := by
  constructor
  · rintro (_ | ⟨he, hsign, hdigits⟩)
    exact ⟨he, _, _, rfl, hsign, hdigits⟩
  · rintro ⟨he, sign, digits, rfl, hsign, hdigits⟩
    exact .some he hsign hdigits

theorem isExponent_iff : isExponent cs = true ↔ Exponent isDigit cs := by
  cases cs with
  | nil => exact ⟨fun _ => .none, fun _ => rfl⟩
  | cons e rest =>
    rw [exponent_cons_iff, ← unsigned_iff fun ds hds c => hds.head]
    show (_ && !(unsigned rest).isEmpty && (unsigned rest).all isDigit) = true ↔ _
    simp [Digits, and_assoc]

/-- An exponent does not begin with a digit. -/
theorem takeWhile_of_exponent (h : Exponent isDigit cs) : cs.takeWhile isDigit = [] := by
  cases h with
  | none => rfl
  | some he =>
    refine List.takeWhile_cons_of_neg ?_
    rcases he with rfl | rfl <;> decide

theorem takeWhile_append (hds : ∀ d ∈ ds, isDigit d = true) (h : rest.takeWhile isDigit = []) :
    (ds ++ rest).takeWhile isDigit = ds := by
  rw [List.takeWhile_append_of_pos hds, h, List.append_nil]

/-- The digits at the beginning, and the rest. -/
theorem exists_digits (cs : List Char) : ∃ whole rest, cs = whole ++ rest ∧
    cs.takeWhile isDigit = whole ∧ cs.drop whole.length = rest ∧ ∀ d ∈ whole, isDigit d = true := by
  have hcs := List.takeWhile_append_dropWhile (p := isDigit) (l := cs)
  have hdrop : (cs.takeWhile isDigit ++ cs.dropWhile isDigit).drop (cs.takeWhile isDigit).length =
      cs.dropWhile isDigit := List.drop_left
  rw [hcs] at hdrop
  exact ⟨_, _, hcs.symm, rfl, hdrop, fun d => List.mem_takeWhile_imp⟩

theorem magnitude_of_isDecimalText (h : isDecimalText cs = true) :
    Magnitude isDigit (· = '.') cs := by
  obtain ⟨whole, rest, hcs, htake, hdrop, hwhole⟩ := exists_digits cs
  unfold isDecimalText at h
  dsimp only at h
  rw [htake, hdrop] at h
  subst hcs
  split at h
  · rename_i rest
    obtain ⟨part, exponent, hrest, htake', hdrop', hpart⟩ := exists_digits rest
    rw [htake', hdrop', Bool.and_eq_true_iff, isExponent_iff] at h
    obtain ⟨hsome, hexponent⟩ := h
    rw [hrest]
    refine .pointed (decide_eq_true rfl) ⟨?_, fun d hd => ?_⟩ hexponent
    · simpa [or_iff_not_imp_left] using hsome
    · exact (List.mem_append.mp hd).elim (hwhole d) (hpart d)
  · obtain ⟨hsome, hexponent⟩ := Bool.and_eq_true_iff.mp h
    exact .whole ⟨by simpa using hsome, hwhole⟩ (isExponent_iff.mp hexponent)

theorem isDecimalText_of_magnitude (h : Magnitude isDigit (· = '.') cs) :
    isDecimalText cs = true := by
  unfold isDecimalText
  dsimp only
  cases h with
  | @whole whole exponent hwhole hexponent =>
    rw [takeWhile_append hwhole.2 (takeWhile_of_exponent hexponent), List.drop_left]
    split
    · exact nomatch (exponent_cons_iff.mp hexponent).1
    · rw [isExponent_iff.mpr hexponent, Bool.and_true, Bool.not_eq_true', List.isEmpty_eq_false_iff]
      exact hwhole.1
  | @pointed p whole part exponent hp hdigits hexponent =>
    obtain rfl : p = '.' := of_decide_eq_true hp
    have hwhole : ∀ d ∈ whole, isDigit d = true := fun d hd => hdigits.2 d (List.mem_append_left _ hd)
    have hpart : ∀ d ∈ part, isDigit d = true := fun d hd => hdigits.2 d (List.mem_append_right _ hd)
    rw [takeWhile_append hwhole (List.takeWhile_cons_of_neg (by decide)), List.drop_left]
    show ((!whole.isEmpty || !((part ++ exponent).takeWhile isDigit).isEmpty) &&
      isExponent ((part ++ exponent).drop ((part ++ exponent).takeWhile isDigit).length)) = true
    rw [takeWhile_append hpart (takeWhile_of_exponent hexponent), List.drop_left,
      isExponent_iff.mpr hexponent, Bool.and_true]
    have hsome := hdigits.1
    simp only [ne_eq, List.append_eq_nil_iff, not_and_or] at hsome
    simpa using hsome

theorem isDecimalText_iff : isDecimalText cs = true ↔ Magnitude isDigit (· = '.') cs :=
  ⟨magnitude_of_isDecimalText, isDecimalText_of_magnitude⟩

/-- A magnitude does not begin with a sign. -/
theorem Magnitude.head (h : Magnitude isDigit (· = '.') cs) (hc : cs.head? = some c) :
    c ≠ '+' ∧ c ≠ '-' := by
  cases h with
  | @whole whole exponent hwhole _ =>
    obtain ⟨d, whole, rfl⟩ := List.exists_cons_of_ne_nil hwhole.1
    exact hwhole.head hc
  | @pointed p whole part exponent hp hdigits _ =>
    cases whole with
    | nil =>
      rw [← Option.some.inj hc, of_decide_eq_true hp]
      decide
    | cons d whole => exact hdigits.head hc

/-! ### Underscores -/

/-- Behind a character, underscores are dropped if they stand between digits. -/
theorem dropUnderscores?_some_iff : dropUnderscores? (some c) cs = some ds ↔
    (c :: cs).IsChain (Beside isDigit) ∧ (c :: cs).getLast? ≠ some '_' ∧
      cs.filter (· ≠ '_') = ds := by
  induction cs generalizing c ds with
  | nil => simp [dropUnderscores?]
  | cons d cs ih =>
    unfold dropUnderscores?
    rw [List.isChain_cons_cons, List.getLast?_cons_cons, Beside]
    by_cases hd : d = '_'
    · subst hd
      rw [if_pos rfl, List.filter_cons_of_neg (by decide), Option.any_some]
      cases hc : isDigit c with
      | true =>
        have hne : c ≠ '_' := by
          rintro rfl
          exact absurd hc (by decide)
        rw [if_pos rfl, ih]
        simp [hne]
      | false => simp
    · rw [if_neg hd, List.filter_cons_of_pos (by simpa using hd)]
      by_cases hc : c = '_' ∧ isDigit d = false
      · rw [if_pos (by simpa using hc)]
        simp [hc]
      · have hbeside : (c = '_' → isDigit d = true) ∧ (d = '_' → isDigit c = true) :=
          ⟨fun h => by simpa [h] using hc, fun h => absurd h hd⟩
        rw [if_neg (by simpa using hc), and_iff_right hbeside]
        simp only [Option.map_eq_some_iff, ih, and_assoc, exists_and_left, exists_eq_left']

theorem dropUnderscores?_none_iff : dropUnderscores? none cs = some ds ↔
    Grouped isDigit cs ∧ cs.filter (· ≠ '_') = ds := by
  cases cs with
  | nil =>
    have hnil : Grouped isDigit [] := ⟨.nil, nofun, nofun⟩
    simp [dropUnderscores?, hnil]
  | cons c cs =>
    have hgrouped : Grouped isDigit (c :: cs) ↔ c ≠ '_' ∧ (c :: cs).IsChain (Beside isDigit) ∧
        (c :: cs).getLast? ≠ some '_' :=
      ⟨fun h => ⟨fun hc => h.first (congrArg some hc), h.chain, h.last⟩,
        fun ⟨hc, hchain, hlast⟩ => ⟨hchain, fun h => hc (Option.some.inj h), hlast⟩⟩
    unfold dropUnderscores?
    rw [hgrouped]
    by_cases hc : c = '_'
    · simp [hc]
    · rw [if_neg hc, List.filter_cons_of_pos (by simpa using hc)]
      simp only [reduceCtorEq, decide_false, Bool.false_and, Bool.false_eq_true, if_false, ne_eq, hc,
        not_false_eq_true, true_and, Option.map_eq_some_iff, dropUnderscores?_some_iff, and_assoc,
        exists_and_left, exists_eq_left']

/-- No underscore is without a digit beside it. -/
theorem Grouped.exists_digit (h : Grouped digit cs) (hc : '_' ∈ cs) : ∃ d ∈ cs, digit d = true := by
  obtain ⟨before, after, rfl⟩ := List.append_of_mem hc
  cases after with
  | nil => exact absurd (by simp) h.last
  | cons d after =>
    have hafter := (List.isChain_append.mp h.chain).2.1
    exact ⟨d, by simp, (List.isChain_cons_cons.mp hafter).1.1 rfl⟩

/-- A numeral has a digit. -/
theorem Signed.exists_digit (h : Signed digit point cs) : ∃ d ∈ cs, digit d = true := by
  obtain ⟨sign, rest, heq, -, hrest⟩ := h.parts
  have hsub {d : Char} (hd : d ∈ rest) : d ∈ cs :=
    List.mem_of_mem_filter (heq ▸ List.mem_append_right sign hd)
  cases hrest with
  | whole hwhole _ =>
    obtain ⟨d, hd⟩ := List.exists_mem_of_ne_nil _ hwhole.1
    exact ⟨d, hsub (List.mem_append_left _ hd), hwhole.2 d hd⟩
  | @pointed p whole part exponent _ hdigits _ =>
    obtain ⟨d, hd⟩ := List.exists_mem_of_ne_nil _ hdigits.1
    refine ⟨d, hsub ?_, hdigits.2 d hd⟩
    simp only [List.mem_append, List.mem_cons] at hd ⊢
    tauto

/-! ### Names -/

theorem isDecimal_of_isDigit (h : isDigit c = true) : isDecimal c = true := by
  have hdigits : ∀ n < 10, isDecimal (Char.ofNat (48 + n)) = true := by decide
  obtain ⟨hlow, hhigh⟩ := Bool.and_eq_true_iff.mp h
  have hlow : 48 ≤ c.toNat := UInt32.le_iff_toNat_le.mp (of_decide_eq_true hlow)
  have hhigh : c.toNat ≤ 57 := UInt32.le_iff_toNat_le.mp (of_decide_eq_true hhigh)
  have hcode : 48 + (c.toNat - 48) = c.toNat := by omega
  have hsome := hdigits (c.toNat - 48) (by omega)
  rwa [hcode, Char.ofNat_toNat] at hsome

/-- A character that is written in another way in ASCII, or for a point. -/
def isForeign (c : Char) : Bool := isDecimal c || isPoint c

/-- A digit, a point, a comma, an underscore or a sign. -/
def isMark (c : Char) : Bool := isForeign c || ['_', '+', '-'].contains c

theorem toLower_of_isMark (h : isMark c = true) : c.toLower = c := by
  have hletters : ∀ n < 26, isMark (Char.ofNat (65 + n)) = false := by decide
  unfold Char.toLower
  split
  · rename_i hc
    have hlow : 65 ≤ c.toNat := UInt32.le_iff_toNat_le.mp hc.1
    have hhigh : c.toNat ≤ 90 := UInt32.le_iff_toNat_le.mp hc.2
    have hcode : 65 + (c.toNat - 65) = c.toNat := by omega
    have hnone := hletters (c.toNat - 65) (by omega)
    rw [hcode, Char.ofNat_toNat, h] at hnone
    exact nomatch hnone
  · rfl

/-- The names are made of letters. -/
theorem IsName.not_isMark (h : IsName cs) (hc : c ∈ cs) : isMark c = false := by
  refine Bool.eq_false_iff.mpr fun hmark => ?_
  have hnames : specialNames.all (fun name => !name.toList.any isMark) = true := by decide
  have hmem : c ∈ cs.map Char.toLower := List.mem_map.mpr ⟨c, hc, toLower_of_isMark hmark⟩
  rw [← String.toList_ofList (l := cs.map Char.toLower)] at hmem
  have hnone := List.all_eq_true.mp hnames _ h
  rw [Bool.not_eq_true'] at hnone
  exact List.any_eq_false.mp hnone c hmem hmark

theorem IsName.head (h : IsName cs) (hc : cs.head? = some c) : c ≠ '+' ∧ c ≠ '-' := by
  have hmark := h.not_isMark (List.mem_of_head? hc)
  constructor <;> (rintro rfl; exact absurd hmark (by decide))

theorem IsSign.not_isDecimal (h : IsSign cs) (hc : c ∈ cs) : isDecimal c = false := by
  rcases h.eq_or hc with rfl | rfl <;> decide

/-- In a name there is nothing for an underscore to stand beside. -/
theorem eq_of_named {sign name : List Char} (hcs : Grouped isDigit cs)
    (h : cs.filter (· ≠ '_') = sign ++ name) (hsign : IsSign sign) (hname : IsName name) :
    cs = sign ++ name := by
  rw [← h, eq_comm, List.filter_eq_self]
  intro c hc
  refine decide_eq_true fun heq => ?_
  obtain ⟨d, hd, hdigit⟩ := hcs.exists_digit (heq ▸ hc)
  have hdecimal := isDecimal_of_isDigit hdigit
  have hmem : d ∈ sign ++ name := by
    rw [← h, List.mem_filter]
    refine ⟨hd, decide_eq_true ?_⟩
    rintro rfl
    exact absurd hdigit (by decide)
  rcases List.mem_append.mp hmem with hmem | hmem
  · rw [hsign.not_isDecimal hmem] at hdecimal
    exact nomatch hdecimal
  · have hmark := hname.not_isMark hmem
    unfold isMark isForeign at hmark
    rw [hdecimal] at hmark
    exact nomatch hmark

theorem grouped_of_notMem (h : '_' ∉ cs) : Grouped digit cs where
  chain := by
    refine List.isChain_iff_forall_rel_of_append_cons_cons.mpr fun c d before after hcs => ?_
    subst hcs
    refine ⟨fun hc => absurd ?_ h, fun hd => absurd ?_ h⟩
    · rw [← hc]
      simp
    · rw [← hd]
      simp
  first hc := h (List.mem_of_head? hc)
  last hc := h (List.mem_of_getLast? hc)

theorem IsNamed.notMem (h : IsNamed cs) : '_' ∉ cs := by
  obtain ⟨sign, name, rfl, hsign, hname⟩ := h
  intro hmem
  rcases List.mem_append.mp hmem with hmem | hmem
  · exact absurd (hsign.eq_or hmem) (by decide)
  · exact absurd (hname.not_isMark hmem) (by decide)

/-- A text in ASCII digits is a real number if it is a numeral or a name, with or without a sign. -/
theorem isRealText_iff {s : String} (hhead : ∀ c, s.toList.head? = some c → isMargin c = false)
    (hlast : ∀ c, s.toList.getLast? = some c → isMargin c = false) :
    isRealText s = true ↔ Signed isDigit (· = '.') (s.toList.map plainDigit) ∨
      IsNamed (s.toList.map plainDigit) := by
  unfold isRealText
  dsimp only
  rw [Unicode.stripIf_of_ends hhead hlast]
  generalize s.toList.map plainDigit = cs
  cases hdrop : dropUnderscores? none cs with
  | none =>
    refine ⟨nofun, ?_⟩
    have hnone {ds : List Char} (hcs : Grouped isDigit cs) (h : cs.filter (· ≠ '_') = ds) : False :=
      nomatch hdrop.symm.trans (dropUnderscores?_none_iff.mpr ⟨hcs, h⟩)
    rintro (h | h)
    · exact (hnone h.grouped rfl).elim
    · exact (hnone (grouped_of_notMem h.notMem) rfl).elim
  | some ds =>
    obtain ⟨hgrouped, hds⟩ := dropUnderscores?_none_iff.mp hdrop
    show (isDecimalText (unsigned ds) ||
      specialNames.contains (String.ofList ((unsigned ds).map Char.toLower))) = true ↔ _
    rw [Bool.or_eq_true, isDecimalText_iff, List.contains_iff_mem,
      unsigned_iff (P := Magnitude isDigit (· = '.')) fun _ h _ => h.head]
    have hnamed : IsName (unsigned ds) ↔ _ := unsigned_iff fun _ h _ => h.head
    unfold IsName at hnamed
    rw [hnamed, ← hds]
    constructor
    · rintro (h | ⟨sign, name, h, hsign, hname⟩)
      · exact .inl ⟨hgrouped, h⟩
      · exact .inr ⟨sign, name, eq_of_named hgrouped h hsign hname, hsign, hname⟩
    · rintro (h | h)
      · exact .inl h.parts
      · have hall : cs.filter (· ≠ '_') = cs := List.filter_eq_self.mpr fun c hc =>
          decide_eq_true fun heq => h.notMem (heq ▸ hc)
        rw [hall]
        exact .inr h

end Plain

/-! ### Digits of any script, and the comma -/

section Script

variable {cs out : List Char} {c x : Char}

/-- A character in ASCII: digits of any script, and a comma for a point. -/
def asciiForm (c : Char) : Char := plainDigit (if c = ',' then '.' else c)

theorem plainDigit_cases (c : Char) : isDecimal c = true ∧ isDigit (plainDigit c) = true ∨
    isDecimal c = false ∧ plainDigit c = c := by
  unfold plainDigit isDecimal
  cases hvalue : Unicode.digitValue? c with
  | none => exact .inr ⟨rfl, rfl⟩
  | some d =>
    have hdigits : ∀ d < 10, isDigit (Char.ofNat ('0'.toNat + d)) = true := by decide
    exact .inl ⟨rfl, hdigits d (Unicode.digitValue?_lt hvalue)⟩

theorem isDigit_plainDigit (c : Char) : isDigit (plainDigit c) = isDecimal c := by
  rcases plainDigit_cases c with ⟨hc, hdigit⟩ | ⟨hc, hsame⟩
  · rw [hc, hdigit]
  · rw [hsame, hc]
    exact Bool.eq_false_iff.mpr fun h => Bool.eq_false_iff.mp hc (isDecimal_of_isDigit h)

/-- Only digits are changed. -/
theorem plainDigit_eq_iff (hx : isDecimal x = false) : plainDigit c = x ↔ c = x := by
  rcases plainDigit_cases c with ⟨hc, hdigit⟩ | ⟨-, hsame⟩
  · constructor
    · rintro rfl
      exact absurd (isDecimal_of_isDigit hdigit) (Bool.eq_false_iff.mp hx)
    · rintro rfl
      exact absurd hc (Bool.eq_false_iff.mp hx)
  · rw [hsame]

theorem isDigit_asciiForm (c : Char) : isDigit (asciiForm c) = isDecimal c := by
  unfold asciiForm
  rw [isDigit_plainDigit]
  split_ifs with hc
  · rw [hc]
    decide
  · rfl

theorem asciiForm_point_iff : asciiForm c = '.' ↔ isPoint c = true := by
  unfold asciiForm isPoint
  rw [plainDigit_eq_iff (by decide)]
  split_ifs with hc <;> simp [hc]

/-- Characters of other kinds stay as they are. -/
theorem asciiForm_eq_iff (h : isForeign x = false) : asciiForm c = x ↔ c = x := by
  obtain ⟨hx, hpoint⟩ := Bool.or_eq_false_iff.mp h
  unfold asciiForm
  rw [plainDigit_eq_iff hx]
  split_ifs with hc
  · rw [hc]
    constructor <;> (rintro rfl; exact absurd hpoint (by decide))
  · rfl

theorem map_asciiForm_eq_iff (h : ∀ x ∈ out, isForeign x = false) :
    cs.map asciiForm = out ↔ cs = out := by
  induction out generalizing cs with
  | nil => exact List.map_eq_nil_iff
  | cons x out ih =>
    obtain ⟨hx, hout⟩ := List.forall_mem_cons.mp h
    cases cs with
    | nil => simp
    | cons c cs => rw [List.map_cons, List.cons.injEq, List.cons.injEq, asciiForm_eq_iff hx, ih hout]

theorem isSign_map_iff : IsSign (cs.map asciiForm) ↔ IsSign cs := by
  have hplus : ∀ x ∈ ['+'], isForeign x = false := List.forall_mem_singleton.mpr (by decide)
  have hminus : ∀ x ∈ ['-'], isForeign x = false := List.forall_mem_singleton.mpr (by decide)
  unfold IsSign
  rw [List.map_eq_nil_iff, map_asciiForm_eq_iff hplus, map_asciiForm_eq_iff hminus]

theorem digits_map_iff : Digits isDigit (cs.map asciiForm) ↔ Digits isDecimal cs := by
  simp [Digits, isDigit_asciiForm]

/-- A sign and what comes after it, in ASCII and as they are. -/
theorem exists_sign_map_iff {P Q : List Char → Prop}
    (h : ∀ rest, P (rest.map asciiForm) ↔ Q rest) (cs : List Char) :
    (∃ sign rest, cs.map asciiForm = sign ++ rest ∧ IsSign sign ∧ P rest) ↔
      ∃ sign rest, cs = sign ++ rest ∧ IsSign sign ∧ Q rest := by
  constructor
  · rintro ⟨_, _, heq, hsign, hrest⟩
    obtain ⟨sign, rest, rfl, rfl, rfl⟩ := List.map_eq_append_iff.mp heq
    exact ⟨sign, rest, rfl, isSign_map_iff.mp hsign, (h rest).mp hrest⟩
  · rintro ⟨sign, rest, rfl, hsign, hrest⟩
    exact ⟨_, _, List.map_append, isSign_map_iff.mpr hsign, (h rest).mpr hrest⟩

theorem exponent_map_iff : Exponent isDigit (cs.map asciiForm) ↔ Exponent isDecimal cs := by
  cases cs with
  | nil => exact ⟨fun _ => .none, fun _ => .none⟩
  | cons e rest =>
    rw [List.map_cons, exponent_cons_iff, exponent_cons_iff,
      exists_sign_map_iff fun _ => digits_map_iff, asciiForm_eq_iff (by decide),
      asciiForm_eq_iff (by decide)]

theorem magnitude_map_iff :
    Magnitude isDigit (· = '.') (cs.map asciiForm) ↔ Magnitude isDecimal isPoint cs := by
  constructor
  · intro h
    generalize hout : cs.map asciiForm = out at h
    cases h with
    | whole hwhole hexponent =>
      obtain ⟨whole, exponent, rfl, rfl, rfl⟩ := List.map_eq_append_iff.mp hout
      exact .whole (digits_map_iff.mp hwhole) (exponent_map_iff.mp hexponent)
    | pointed hp hdigits hexponent =>
      obtain ⟨whole, rest, rfl, rfl, hrest⟩ := List.map_eq_append_iff.mp hout
      obtain ⟨p, later, rfl, rfl, hlater⟩ := List.map_eq_cons_iff.mp hrest
      obtain ⟨part, exponent, rfl, rfl, rfl⟩ := List.map_eq_append_iff.mp hlater
      rw [← List.map_append] at hdigits
      exact .pointed (asciiForm_point_iff.mp (of_decide_eq_true hp)) (digits_map_iff.mp hdigits)
        (exponent_map_iff.mp hexponent)
  · rintro (⟨hwhole, hexponent⟩ | ⟨hp, hdigits, hexponent⟩)
    · rw [List.map_append]
      exact .whole (digits_map_iff.mpr hwhole) (exponent_map_iff.mpr hexponent)
    · rw [List.map_append, List.map_cons, List.map_append]
      refine .pointed (decide_eq_true (asciiForm_point_iff.mpr hp)) ?_
        (exponent_map_iff.mpr hexponent)
      rw [← List.map_append]
      exact digits_map_iff.mpr hdigits

theorem asciiForm_eq_underscore : asciiForm c = '_' ↔ c = '_' :=
  asciiForm_eq_iff (by decide)

theorem grouped_map_iff : Grouped isDigit (cs.map asciiForm) ↔ Grouped isDecimal cs := by
  have hbeside (c d : Char) : Beside isDigit (asciiForm c) (asciiForm d) ↔ Beside isDecimal c d := by
    unfold Beside
    rw [asciiForm_eq_underscore, asciiForm_eq_underscore, isDigit_asciiForm, isDigit_asciiForm]
  have hend (o : Option Char) : o.map asciiForm ≠ some '_' ↔ o ≠ some '_' := by
    cases o <;> simp [asciiForm_eq_underscore]
  constructor
  · rintro ⟨hchain, hfirst, hlast⟩
    rw [List.isChain_map] at hchain
    rw [List.head?_map, hend] at hfirst
    rw [List.getLast?_map, hend] at hlast
    exact ⟨hchain.imp fun c d => (hbeside c d).mp, hfirst, hlast⟩
  · rintro ⟨hchain, hfirst, hlast⟩
    refine ⟨?_, ?_, ?_⟩
    · rw [List.isChain_map]
      exact hchain.imp fun c d => (hbeside c d).mpr
    · rwa [List.head?_map, hend]
    · rwa [List.getLast?_map, hend]

theorem signed_map_iff : Signed isDigit (· = '.') (cs.map asciiForm) ↔ IsNumeral cs := by
  have hfilter : (cs.map asciiForm).filter (· ≠ '_') = (cs.filter (· ≠ '_')).map asciiForm := by
    rw [List.filter_map]
    refine congrArg _ (List.filter_congr fun c _ => ?_)
    exact decide_eq_decide.mpr (not_congr asciiForm_eq_underscore)
  have hparts := exists_sign_map_iff (fun _ => magnitude_map_iff) (cs.filter (· ≠ '_'))
  rw [← hfilter] at hparts
  exact ⟨fun h => ⟨grouped_map_iff.mp h.grouped, hparts.mp h.parts⟩,
    fun h => ⟨grouped_map_iff.mpr h.grouped, hparts.mpr h.parts⟩⟩

theorem isNamed_map_iff : IsNamed (cs.map asciiForm) ↔ IsNamed cs := by
  have hfixed {name : List Char} (h : IsName name) : ∀ x ∈ name, isForeign x = false :=
    fun x hx => (Bool.or_eq_false_iff.mp (h.not_isMark hx)).1
  refine exists_sign_map_iff (fun name => ⟨fun h => ?_, fun h => ?_⟩) cs
  · have hsame : name = name.map asciiForm := (map_asciiForm_eq_iff (hfixed h)).mp rfl
    rwa [hsame]
  · rwa [(map_asciiForm_eq_iff (hfixed h)).mpr rfl]

/-- **Numerals and names are what is taken for a number.** -/
theorem isRealText_replaceChar_iff {s : String}
    (hhead : ∀ c, s.toList.head? = some c → Unicode.isBlank c = false)
    (hlast : ∀ c, s.toList.getLast? = some c → Unicode.isBlank c = false) :
    isRealText (Unicode.replaceChar ',' '.' s) = true ↔ IsNumeral s.toList ∨ IsNamed s.toList := by
  have hmargin {o : Option Char} (h : ∀ c, o = some c → Unicode.isBlank c = false) :
      ∀ c, o.map (fun c => if c = ',' then '.' else c) = some c → isMargin c = false := by
    intro c hc
    obtain ⟨d, hd, rfl⟩ := Option.map_eq_some_iff.mp hc
    unfold isMargin
    split_ifs
    · decide
    · rw [h d hd, Bool.false_and]
  have hlist : (Unicode.replaceChar ',' '.' s).toList =
      s.toList.map fun c => if c = ',' then '.' else c := String.toList_ofList
  have hascii : (Unicode.replaceChar ',' '.' s).toList.map plainDigit = s.toList.map asciiForm := by
    rw [hlist, List.map_map]
    rfl
  rw [isRealText_iff, hascii, signed_map_iff, isNamed_map_iff]
  · rw [hlist, List.head?_map]
    exact hmargin hhead
  · rw [hlist, List.getLast?_map]
    exact hmargin hlast

end Script

end Parley.Numeral
