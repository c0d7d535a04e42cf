import Parley.Proofs.Unicode.Casing

/-!
# Parley.Proofs.Unicode.Margins — blanks around a text

The words of a text are the same with blanks around it (`splitBlanks_margins`), and so is its lower
case: blanks are not moved, and no letter next to them looks beyond them (`lowerChars_margins`).  So
it does not matter whether a text is stripped before its words are put into lower case
(`singleSpaced_lowercase_strip`).  Words with single spaces stay as they are
(`singleSpaced_of_spaced`), and stay words when more than spaces is stripped (`spaced_stripIf`).
-/

namespace Parley.Unicode

/-- Blanks only. -/
def Blank (cs : List Char) : Prop := ∀ c ∈ cs, isBlank c = true

section Strip

variable {p : Char → Bool} {s : String}

/-- What is stripped is of the class, and the rest does not begin or end with it. -/
theorem stripIf_spec (p : Char → Bool) (s : String) :
    (∃ before after, s.toList = before ++ (stripIf p s).toList ++ after ∧
      (∀ c ∈ before, p c = true) ∧ ∀ c ∈ after, p c = true) ∧
    (∀ c, (stripIf p s).toList.head? = some c → p c = false) ∧
      ∀ c, (stripIf p s).toList.getLast? = some c → p c = false := by
  let rest := s.toList.dropWhile p
  have hcore : (stripIf p s).toList = (rest.reverse.dropWhile p).reverse := String.toList_ofList ..
  have hrest : rest = (stripIf p s).toList ++ (rest.reverse.takeWhile p).reverse := by
    rw [hcore, ← List.reverse_append, List.takeWhile_append_dropWhile, List.reverse_reverse]
  refine ⟨⟨s.toList.takeWhile p, (rest.reverse.takeWhile p).reverse, ?_, ?_, ?_⟩, ?_, ?_⟩
  · rw [List.append_assoc, ← hrest, List.takeWhile_append_dropWhile]
  · exact fun c hc => List.mem_takeWhile_imp hc
  · exact fun c hc => List.mem_takeWhile_imp (List.mem_reverse.mp hc)
  · intro c hc
    have hhead : rest.head? = some c := by
      rw [hrest, List.head?_append, hc]
      rfl
    have hnot := List.head?_dropWhile_not p s.toList
    rw [show s.toList.dropWhile p = rest from rfl, hhead] at hnot
    exact hnot
  · intro c hc
    rw [hcore, List.getLast?_reverse] at hc
    have hnot := List.head?_dropWhile_not p rest.reverse
    rw [hc] at hnot
    exact hnot

end Strip

/-! ### Words between margins -/

section Words

variable {before cs after w : List Char} {words : List (List Char)} {p : Char → Bool}

theorem splitBlanks_before (h : Blank before) :
    splitBlanks [] (before ++ cs) = splitBlanks [] cs := by
  induction before with
  | nil => rfl
  | cons c before ih =>
    obtain ⟨hc, hbefore⟩ := List.forall_mem_cons.mp h
    rw [List.cons_append, splitBlanks, if_pos hc, ih hbefore]
    rfl

theorem splitBlanks_after (h : Blank after) (word : List Char) :
    splitBlanks word (cs ++ after) = splitBlanks word cs := by
  have hnone {after : List Char} (h : Blank after) : splitBlanks [] after = [] := by
    rw [← List.append_nil after, splitBlanks_before h]
    rfl
  induction cs generalizing word with
  | nil =>
    cases after with
    | nil => rfl
    | cons c after =>
      obtain ⟨hc, hafter⟩ := List.forall_mem_cons.mp h
      rw [List.nil_append, splitBlanks.eq_2, if_pos hc, hnone hafter, List.append_nil]
      rfl
  | cons c cs ih =>
    rw [List.cons_append, splitBlanks, splitBlanks, ih, ih]

/-- The words are the same with blanks around them. -/
theorem splitBlanks_margins (hbefore : Blank before) (hafter : Blank after) :
    splitBlanks [] (before ++ cs ++ after) = splitBlanks [] cs := by
  rw [splitBlanks_after hafter, splitBlanks_before hbefore]

theorem splitBlanks_unblank (h : ∀ c ∈ w, isBlank c = false) (word : List Char) :
    splitBlanks word (w ++ cs) = splitBlanks (w.reverse ++ word) cs := by
  induction w generalizing word with
  | nil => rfl
  | cons c w ih =>
    obtain ⟨hc, hw⟩ := List.forall_mem_cons.mp h
    rw [List.cons_append, splitBlanks, if_neg (Bool.eq_false_iff.mp hc), ih hw, List.reverse_cons,
      List.append_assoc]
    rfl

/-- Words with single spaces are split into these words. -/
theorem splitBlanks_intercalate (h : ∀ w ∈ words, Unbroken w) :
    splitBlanks [] ([' '].intercalate words) = words := by
  induction words with
  | nil => rfl
  | cons w words ih =>
    obtain ⟨hw, hwords⟩ := List.forall_mem_cons.mp h
    have hfilled : (w.reverse ++ []).isEmpty = false := by
      simpa [List.isEmpty_eq_false_iff] using hw.filled
    rw [intercalate_cons, splitBlanks_unblank hw.unblank]
    split_ifs with hnone
    · rw [splitBlanks, hfilled, hnone]
      simp
    · rw [splitBlanks, if_pos (by decide), hfilled, ih hwords]
      simp

theorem singleSpaced_of_spaced {s : String} (h : Spaced s.toList) : singleSpaced s = s := by
  obtain ⟨words, hwords, hs⟩ := h
  refine String.toList_injective ?_
  unfold singleSpaced
  rw [String.toList_intercalate, hs, splitBlanks_intercalate hwords, List.map_map]
  simp

/-! ### Words that are stripped -/

theorem intercalate_concat (words : List (List Char)) (w : List Char) :
    [' '].intercalate (words ++ [w]) =
      (if words = [] then [] else [' '].intercalate words ++ [' ']) ++ w := by
  induction words with
  | nil => simp
  | cons v words ih =>
    rw [List.cons_append, intercalate_cons, if_neg (by simp), ih, if_neg (List.cons_ne_nil _ _),
      intercalate_cons]
    split_ifs <;> simp

/-- Words read backwards are words. -/
theorem Spaced.reverse (h : Spaced cs) : Spaced cs.reverse := by
  obtain ⟨words, hwords, rfl⟩ := h
  refine ⟨(words.map List.reverse).reverse, fun w hw => ?_, ?_⟩
  · obtain ⟨v, hv, rfl⟩ := List.mem_map.mp (List.mem_reverse.mp hw)
    obtain ⟨hfilled, hunblank⟩ := hwords v hv
    exact ⟨fun hnil => hfilled (List.reverse_eq_nil_iff.mp hnil),
      fun c hc => hunblank c (List.mem_reverse.mp hc)⟩
  · clear hwords
    induction words with
    | nil => rfl
    | cons w words ih =>
      rw [intercalate_cons, List.map_cons, List.reverse_cons, intercalate_concat, ← ih]
      split_ifs with hnone <;> simp_all

/-- With the spaces, more may be dropped at the front. -/
theorem Spaced.dropWhile (h : Spaced cs) (hp : p ' ' = true) : Spaced (cs.dropWhile p) := by
  obtain ⟨words, hwords, rfl⟩ := h
  induction words with
  | nil => exact ⟨[], fun w hw => absurd hw List.not_mem_nil, rfl⟩
  | cons w words ih =>
    obtain ⟨hw, hwords⟩ := List.forall_mem_cons.mp hwords
    rw [intercalate_cons, List.dropWhile_append]
    split_ifs with hall hnone hnone
    · exact ⟨[], fun w hw => absurd hw List.not_mem_nil, rfl⟩
    · rw [List.dropWhile_cons_of_pos hp]
      exact ih hwords
    · refine ⟨[w.dropWhile p], fun v hv => ?_, by simp⟩
      rw [List.mem_singleton.mp hv]
      exact ⟨by simpa using hall,
        fun c hc => hw.unblank c ((List.dropWhile_sublist p).subset hc)⟩
    · refine ⟨w.dropWhile p :: words, List.forall_mem_cons.mpr ⟨⟨by simpa using hall,
        fun c hc => hw.unblank c ((List.dropWhile_sublist p).subset hc)⟩, hwords⟩, ?_⟩
      rw [intercalate_cons, if_neg hnone]

theorem spaced_stripIf {s : String} (h : Spaced s.toList) (hp : p ' ' = true) :
    Spaced (stripIf p s).toList := by
  unfold stripIf
  rw [String.toList_ofList]
  exact ((h.dropWhile hp).reverse.dropWhile hp).reverse

end Words

/-! ### Lower case between margins -/

section Lower

variable {before cs after : List Char} {c : Char}

/-- No range meets one of the others. -/
def apart (ranges others : List (Nat × Nat)) : Bool :=
  ranges.all fun r => others.all fun t => Nat.blt r.2 t.1 || Nat.blt t.2 r.1

theorem notInRanges_of_apart {ranges others : List (Nat × Nat)} {n : Nat}
    (h : apart ranges others = true) (hn : inRanges ranges n = true) : inRanges others n = false := by
  obtain ⟨r, hr, hbounds⟩ := exists_range_of_inRanges hn
  refine Bool.eq_false_iff.mpr fun hother => ?_
  obtain ⟨t, ht, hbounds'⟩ := exists_range_of_inRanges hother
  have hapart := List.all_eq_true.mp (List.all_eq_true.mp h r hr) t ht
  simp only [Bool.or_eq_true, Nat.blt_eq] at hapart
  omega

/-- Blanks are not moved. -/
theorem lowerCode_of_blank (h : isBlank c = true) : lowerCode c.toNat = c.toNat := by
  have hapart : (blankRanges.all fun r => lowerShifts.all fun s =>
      Nat.blt r.2 s.low || Nat.blt s.high r.1) = true := by decide
  obtain ⟨r, hr, hbounds⟩ := exists_range_of_inRanges h
  refine shifted_of_unmoved fun s hs => Bool.eq_false_iff.mpr fun hmoved => ?_
  obtain ⟨hlow, hhigh, -⟩ := Shift.holds_iff.mp hmoved
  have hout := List.all_eq_true.mp (List.all_eq_true.mp hapart r hr) s hs
  simp only [Bool.or_eq_true, Nat.blt_eq] at hout
  omega

/-- Nothing is seen beyond a blank. -/
theorem casedAhead_append (h : Blank after) : casedAhead (cs ++ after) = casedAhead cs := by
  have hnone : casedAhead after = false := by
    cases after with
    | nil => rfl
    | cons c after =>
      have hc := h c List.mem_cons_self
      have hapart : (apart blankRanges ignorableRanges && apart blankRanges casedRanges) = true := by
        decide +kernel
      obtain ⟨hignored, hcased⟩ := Bool.and_eq_true_iff.mp hapart
      have hignorable : isCaseIgnorable c = false := notInRanges_of_apart hignored hc
      unfold casedAhead
      rw [List.dropWhile_cons_of_neg (Bool.eq_false_iff.mp hignorable)]
      exact notInRanges_of_apart hcased hc
  unfold casedAhead at hnone ⊢
  rw [List.dropWhile_append]
  split_ifs with hall
  · rw [hnone, List.isEmpty_iff.mp hall]
  · obtain ⟨c, rest, hrest⟩ := List.exists_cons_of_ne_nil fun hnil => hall (List.isEmpty_iff.mpr hnil)
    rw [hrest]
    rfl

theorem lowerForm_margins (hbefore : Blank before) (hafter : Blank after) (near ahead : List Char) :
    lowerForm (near ++ before) c (ahead ++ after) = lowerForm near c ahead := by
  unfold lowerForm
  rw [casedAhead_append hbefore, casedAhead_append hafter]

theorem lowerChars_blank_append (hbefore : Blank before) (near : List Char) :
    lowerChars near (before ++ cs) = before ++ lowerChars (before.reverse ++ near) cs := by
  induction before generalizing near with
  | nil => rfl
  | cons c before ih =>
    obtain ⟨hc, hbefore⟩ := List.forall_mem_cons.mp hbefore
    rw [List.cons_append, lowerChars, lowerForm_of_low (lowerCode_of_blank hc), ih hbefore,
      List.reverse_cons, List.append_assoc]
    rfl

theorem lowerChars_append_blank (hbefore : Blank before) (hafter : Blank after)
    (near : List Char) :
    lowerChars (near ++ before) (cs ++ after) = lowerChars near cs ++ after := by
  induction cs generalizing near with
  | nil =>
    rw [List.nil_append, lowerChars_of_low fun d hd => lowerCode_of_blank (hafter d hd)]
    rfl
  | cons c cs ih =>
    rw [List.cons_append, lowerChars, lowerForm_margins hbefore hafter, ← List.cons_append, ih,
      lowerChars, List.append_assoc]

/-- Blanks around a text leave its lower case alone. -/
theorem lowerChars_margins (hbefore : Blank before) (hafter : Blank after) :
    lowerChars [] (before ++ cs ++ after) = before ++ lowerChars [] cs ++ after := by
  have hreverse : Blank before.reverse := fun c hc => hbefore c (List.mem_reverse.mp hc)
  rw [List.append_assoc, lowerChars_blank_append hbefore, List.append_nil,
    ← List.nil_append before.reverse, lowerChars_append_blank hreverse hafter, List.append_assoc]

theorem singleSpaced_lowercase_strip (s : String) :
    singleSpaced (lowercase (strip s)) = singleSpaced (lowercase s) := by
  obtain ⟨⟨before, after, hs, hbefore, hafter⟩, -⟩ := stripIf_spec isBlank s
  unfold singleSpaced
  rw [lowercase_eq, lowercase_eq, String.toList_ofList, String.toList_ofList, hs,
    lowerChars_margins hbefore hafter, splitBlanks_margins hbefore hafter]
  rfl

end Lower

end Parley.Unicode
