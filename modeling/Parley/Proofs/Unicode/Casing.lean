import Parley.Proofs.Unicode.Words

/-!
# Parley.Proofs.Unicode.Casing — text in lower case and in title case

The tables of forms are checked once, a shift as a whole: where it leads lies outside the blanks,
and outside what any shift moves.  So text in lower case stays as it is in lower case
(`lowercase_lowercase`), and both ways to change the case leave words as words (`spaced_lowercase`,
`spaced_titlecase`).
-/

namespace Parley.Unicode

/-! ### Tables -/

/-- Code points that no form of a character has: the blanks, and those that are no characters. -/
def barredRanges : List (Nat × Nat) := (0xD800, 0xDFFF) :: blankRanges

/-- A shift leads from characters to characters that are no blanks. -/
def Shift.lands (s : Shift) : Bool :=
  Nat.ble (s.apply s.high) 0x10FFFF &&
    barredRanges.all fun r => Nat.blt (s.apply s.high) r.1 || Nat.blt r.2 (s.apply s.low)

/-- The code points that a shift moves. -/
def Shift.codes (s : Shift) : List Nat :=
  List.range' s.low ((s.high - s.low) / s.step + 1) s.step

/-- Numbers as the bits of one number: whether two sets meet is a matter of one comparison. -/
def maskOf : List Nat → Nat
  | [] => 0
  | n :: ns => 1 <<< n ||| maskOf ns

section Shifts

variable {s t : Shift} {shifts : List Shift} {n : Nat}

theorem Shift.holds_iff : s.holds n = true ↔ s.low ≤ n ∧ n ≤ s.high ∧ (n - s.low) % s.step = 0 := by
  unfold Shift.holds
  simp [and_assoc]

theorem Shift.apply_mono (hn : n ≤ s.high) (hlow : s.low ≤ n) :
    s.apply s.low ≤ s.apply n ∧ s.apply n ≤ s.apply s.high := by
  unfold Shift.apply
  omega

theorem Shift.apply_of_lands (h : s.lands = true) (hn : s.holds n = true) :
    (s.apply n).isValidChar ∧ inRanges blankRanges (s.apply n) = false := by
  unfold Shift.lands at h
  simp only [Bool.and_eq_true, Nat.ble_eq, List.all_eq_true, Bool.or_eq_true, Nat.blt_eq] at h
  obtain ⟨hhigh, hbarred⟩ := h
  obtain ⟨hl, hh, -⟩ := Shift.holds_iff.mp hn
  obtain ⟨hlow, hup⟩ := Shift.apply_mono hh hl
  have hout {r : Nat × Nat} (hr : r ∈ barredRanges) : ¬ (r.1 ≤ s.apply n ∧ s.apply n ≤ r.2) := by
    have := hbarred r hr
    omega
  refine ⟨?_, Bool.eq_false_iff.mpr fun hblank => ?_⟩
  · have hsurrogate := hout (r := (0xD800, 0xDFFF)) List.mem_cons_self
    unfold Nat.isValidChar
    omega
  · obtain ⟨r, hr, hbounds⟩ := exists_range_of_inRanges hblank
    exact hout (List.mem_cons_of_mem _ hr) hbounds

theorem Shift.mem_codes (hn : s.holds n = true) : n ∈ s.codes := by
  obtain ⟨hl, hh, hstep⟩ := Shift.holds_iff.mp hn
  refine List.mem_range'.mpr ⟨(n - s.low) / s.step, ?_, ?_⟩
  · exact Nat.lt_succ_of_le (Nat.div_le_div_right (by omega))
  · have hdiv := Nat.div_add_mod (n - s.low) s.step
    omega

theorem testBit_maskOf {ns : List Nat} (h : n ∈ ns) : (maskOf ns).testBit n = true := by
  induction ns with
  | nil => exact absurd h List.not_mem_nil
  | cons m ns ih =>
    rw [maskOf, Nat.testBit_or, Bool.or_eq_true]
    rcases List.mem_cons.mp h with rfl | h
    · left
      simp
    · exact .inr (ih h)

theorem notMem_of_masks {ms ns : List Nat} (h : maskOf ms &&& maskOf ns = 0) (hm : n ∈ ms) :
    n ∉ ns := by
  intro hn
  have hbit := Nat.testBit_and (maskOf ms) (maskOf ns) n
  rw [h, testBit_maskOf hm, testBit_maskOf hn, Nat.zero_testBit] at hbit
  exact nomatch hbit

theorem shifted_cases (shifts : List Shift) (n : Nat) :
    (∀ s ∈ shifts, s.holds n = false) ∧ shifted shifts n = n ∨
      ∃ s ∈ shifts, s.holds n = true ∧ shifted shifts n = s.apply n := by
  unfold shifted
  cases hfind : shifts.find? (·.holds n) with
  | none =>
    exact .inl ⟨fun s hs => Bool.eq_false_iff.mpr (List.find?_eq_none.mp hfind s hs), rfl⟩
  | some s =>
    have hholds : s.holds n = true := by simpa using List.find?_some hfind
    exact .inr ⟨s, List.mem_of_find?_eq_some hfind, hholds, rfl⟩

theorem shifted_of_unmoved (h : ∀ s ∈ shifts, s.holds n = false) : shifted shifts n = n := by
  rcases shifted_cases shifts n with ⟨-, hn⟩ | ⟨s, hs, hholds, -⟩
  · exact hn
  · rw [h s hs] at hholds
    exact nomatch hholds

end Shifts

theorem lands_of_mem_lowerShifts : ∀ s ∈ lowerShifts, s.lands = true :=
  List.all_eq_true.mp (by decide : lowerShifts.all Shift.lands = true)

theorem lands_of_mem_titleShifts : ∀ s ∈ titleShifts, s.lands = true :=
  List.all_eq_true.mp (by decide : titleShifts.all Shift.lands = true)

/-- What a shift leads to is not moved by any. -/
theorem unmoved_of_moved {s t : Shift} {n : Nat} (hs : s ∈ lowerShifts) (hn : s.holds n = true)
    (ht : t ∈ lowerShifts) : t.holds (s.apply n) = false := by
  have hmasks : maskOf (lowerShifts.flatMap fun s => s.codes.map s.apply) &&&
      maskOf (lowerShifts.flatMap Shift.codes) = 0 := by
    decide +kernel
  have himage : s.apply n ∈ lowerShifts.flatMap fun s => s.codes.map s.apply :=
    List.mem_flatMap.mpr ⟨s, hs, List.mem_map_of_mem (Shift.mem_codes hn)⟩
  refine Bool.eq_false_iff.mpr fun hmoved => notMem_of_masks hmasks himage ?_
  exact List.mem_flatMap.mpr ⟨t, ht, Shift.mem_codes hmoved⟩

theorem lowerCode_lowerCode (n : Nat) : lowerCode (lowerCode n) = lowerCode n := by
  rcases shifted_cases lowerShifts n with ⟨-, hn⟩ | ⟨s, hs, hholds, hn⟩
  · exact congrArg lowerCode hn
  · refine shifted_of_unmoved fun t ht => ?_
    rw [lowerCode, hn]
    exact unmoved_of_moved hs hholds ht

/-- Among the plain characters, the capital letters are moved, and no others. -/
theorem lowerCode_of_plain {n : Nat} (h : n < 128) :
    lowerCode n = if 65 ≤ n ∧ n ≤ 90 then n + 32 else n := by
  have hlist : lowerShifts = ⟨65, 90, 1, 32⟩ :: lowerShifts.tail := rfl
  have hrest : lowerShifts.tail.all (fun s => Nat.blt 127 s.low) = true := by decide
  have hholds : (⟨65, 90, 1, 32⟩ : Shift).holds n = true ↔ 65 ≤ n ∧ n ≤ 90 := by
    simp [Shift.holds_iff, Nat.mod_one]
  rcases shifted_cases lowerShifts n with ⟨hnone, hn⟩ | ⟨s, hs, hmoved, hn⟩
  · have hfirst := hnone _ (hlist ▸ List.mem_cons_self)
    rw [lowerCode, hn, if_neg fun hcap => Bool.eq_false_iff.mp hfirst (hholds.mpr hcap)]
  · rw [hlist] at hs
    rcases List.mem_cons.mp hs with rfl | hs
    · rw [lowerCode, hn, if_pos (hholds.mp hmoved)]
      rfl
    · have hlow := Nat.blt_eq.mp (List.all_eq_true.mp hrest s hs)
      have hle := (Shift.holds_iff.mp hmoved).1
      omega

/-! ### Forms of a character -/

section Forms

variable {shifts : List Shift} {c d : Char} {before after : List Char}

theorem toNat_ofNat {n : Nat} (h : n.isValidChar) : (Char.ofNat n).toNat = n := by
  rw [Char.ofNat, dif_pos h]
  rfl

theorem toNat_shifted (h : ∀ s ∈ shifts, s.lands = true) (c : Char) :
    (Char.ofNat (shifted shifts c.toNat)).toNat = shifted shifts c.toNat := by
  refine toNat_ofNat ?_
  rcases shifted_cases shifts c.toNat with ⟨-, hn⟩ | ⟨s, hs, hholds, hn⟩
  · rw [hn]
    exact c.valid
  · rw [hn]
    exact (Shift.apply_of_lands (h s hs) hholds).1

theorem formOf_shifted (h : ∀ s ∈ shifts, s.lands = true) (hspace : shifted shifts 32 = 32)
    (c : Char) : FormOf c [Char.ofNat (shifted shifts c.toNat)] where
  filled := List.cons_ne_nil _ _
  blank := by
    intro d hd hblank
    rw [List.mem_singleton.mp hd] at hblank ⊢
    unfold isBlank at hblank
    rw [toNat_shifted h] at hblank
    rcases shifted_cases shifts c.toNat with ⟨-, hn⟩ | ⟨s, hs, hholds, hn⟩
    · rw [hn, Char.ofNat_toNat]
    · rw [hn, (Shift.apply_of_lands (h s hs) hholds).2] at hblank
      exact nomatch hblank
  space := by
    rintro rfl
    rw [show (' ' : Char).toNat = 32 from rfl, hspace]

theorem formOf_of_unblank {form : List Char} (hne : form ≠ []) (hc : c ≠ ' ')
    (h : form.any isBlank = false) : FormOf c form where
  filled := hne
  blank d hd hblank := absurd hblank (List.any_eq_false.mp h d hd)
  space heq := absurd heq hc

theorem formOf_lowerForm (before : List Char) (c : Char) (after : List Char) :
    FormOf c (lowerForm before c after) := by
  unfold lowerForm
  split_ifs with hsigma hword hdot
  · exact formOf_of_unblank (List.cons_ne_nil _ _) (by rw [hsigma]; decide) (by decide)
  · exact formOf_of_unblank (List.cons_ne_nil _ _) (by rw [hsigma]; decide) (by decide)
  · refine formOf_of_unblank (List.cons_ne_nil _ _) ?_ (by decide)
    rintro rfl
    exact absurd hdot (by decide)
  · exact formOf_shifted lands_of_mem_lowerShifts (by decide) c

theorem longTitles_unblank : ∀ entry ∈ longTitles, entry.1 ≠ 32 ∧ entry.2 ≠ [] ∧
    ∀ code ∈ entry.2, isBlank (Char.ofNat code) = false := by
  have h : (longTitles.all fun entry => entry.1 != 32 && !entry.2.isEmpty &&
    entry.2.all fun code => !isBlank (Char.ofNat code)) = true := by decide
  simpa only [List.all_eq_true, Bool.and_eq_true, bne_iff_ne, Bool.not_eq_true', and_assoc,
    List.isEmpty_eq_false_iff] using h

theorem formOf_titleForm (c : Char) : FormOf c (titleForm c) := by
  unfold titleForm
  split
  · rename_i code codes hfind
    obtain ⟨hspace, hne, hunblank⟩ := longTitles_unblank _ (List.mem_of_find?_eq_some hfind)
    have hcode : code = c.toNat := by simpa using List.find?_some hfind
    refine formOf_of_unblank (by simpa using hne) ?_ (List.any_eq_false.mpr fun d hd => ?_)
    · rintro rfl
      exact hspace hcode
    · obtain ⟨code, hmem, rfl⟩ := List.mem_map.mp hd
      exact Bool.eq_false_iff.mp (hunblank code hmem)
  · exact formOf_shifted lands_of_mem_titleShifts (by decide) c

/-- What has a lower-case form of its own stays as it is. -/
theorem lowerForm_of_low (h : lowerCode c.toNat = c.toNat) : lowerForm before c after = [c] := by
  unfold lowerForm
  split_ifs with hsigma hword hdot
  · rw [hsigma] at h
    exact absurd h (by decide)
  · rw [hsigma] at h
    exact absurd h (by decide)
  · rw [hdot] at h
    exact absurd h (by decide)
  · rw [h, Char.ofNat_toNat]

theorem low_of_mem_lowerForm (h : d ∈ lowerForm before c after) : lowerCode d.toNat = d.toNat := by
  unfold lowerForm at h
  split_ifs at h with hsigma hword hdot
  · rw [List.mem_singleton.mp h]
    decide
  · rw [List.mem_singleton.mp h]
    decide
  · rw [List.mem_cons, List.mem_singleton] at h
    rcases h with rfl | rfl <;> decide
  · have hcode : (Char.ofNat (lowerCode c.toNat)).toNat = lowerCode c.toNat :=
      toNat_shifted lands_of_mem_lowerShifts c
    rw [List.mem_singleton.mp h, hcode, lowerCode_lowerCode]

end Forms

/-! ### Texts -/

section Texts

variable {cs before : List Char} {d : Char}

theorem lowerChars_of_low (h : ∀ d ∈ cs, lowerCode d.toNat = d.toNat) : lowerChars before cs = cs := by
  induction cs generalizing before with
  | nil => rfl
  | cons c cs ih =>
    obtain ⟨hc, hcs⟩ := List.forall_mem_cons.mp h
    rw [lowerChars, lowerForm_of_low hc, ih hcs]
    rfl

theorem low_of_mem_lowerChars (h : d ∈ lowerChars before cs) : lowerCode d.toNat = d.toNat := by
  induction cs generalizing before with
  | nil => exact absurd h List.not_mem_nil
  | cons c cs ih =>
    rcases List.mem_append.mp h with h | h
    · exact low_of_mem_lowerForm h
    · exact ih h

theorem toLower_of_plain (hd : d.toNat < 128) : d.toLower = Char.ofNat (lowerCode d.toNat) := by
  have hplain : ∀ n < 128, (Char.ofNat n).toLower =
      Char.ofNat (if 65 ≤ n ∧ n ≤ 90 then n + 32 else n) := by
    decide
  rw [lowerCode_of_plain hd, ← hplain d.toNat hd, Char.ofNat_toNat]

/-- Text in plain characters is no exception. -/
theorem lowercase_eq (s : String) : lowercase s = String.ofList (lowerChars [] s.toList) := by
  have hplain (cs : List Char) {before : List Char} (h : ∀ c ∈ cs, c.toNat < 128) :
      cs.map Char.toLower = lowerChars before cs := by
    induction cs generalizing before with
    | nil => rfl
    | cons c cs ih =>
      obtain ⟨hc, hcs⟩ := List.forall_mem_cons.mp h
      have hform : lowerForm before c cs = [c.toLower] := by
        unfold lowerForm
        rw [if_neg, if_neg (by omega), toLower_of_plain hc]
        rintro rfl
        exact absurd hc (by decide)
      rw [lowerChars, hform, ← ih hcs]
      rfl
  unfold lowercase
  split_ifs with hall
  · rw [← hplain s.toList fun c hc => of_decide_eq_true (List.all_eq_true.mp hall c hc)]
    exact String.toList_injective (by rw [String.toList_map, String.toList_ofList])
  · rfl

/-- **Text in lower case stays as it is.** -/
theorem lowercase_lowercase (s : String) : lowercase (lowercase s) = lowercase s := by
  rw [lowercase_eq (lowercase s), lowercase_eq s, String.toList_ofList,
    lowerChars_of_low fun d => low_of_mem_lowerChars]

theorem reshaped_lowerChars (cs before : List Char) : Reshaped cs (lowerChars before cs) := by
  induction cs generalizing before with
  | nil => exact .nil
  | cons c cs ih => exact .cons (formOf_lowerForm before c cs) (ih (c :: before))

theorem reshaped_titleChars (cs before : List Char) : Reshaped cs (titleChars before cs) := by
  induction cs generalizing before with
  | nil => exact .nil
  | cons c cs ih =>
    refine .cons ?_ (ih (c :: before))
    split
    · exact formOf_titleForm c
    · split_ifs
      · exact formOf_lowerForm _ c cs
      · exact formOf_titleForm c

theorem spaced_lowercase {s : String} (h : Spaced s.toList) : Spaced (lowercase s).toList := by
  rw [lowercase_eq, String.toList_ofList]
  exact h.reshaped (reshaped_lowerChars s.toList [])

theorem spaced_titlecase {s : String} (h : Spaced s.toList) : Spaced (titlecase s).toList := by
  rw [titlecase, String.toList_ofList]
  exact h.reshaped (reshaped_titleChars s.toList [])

end Texts

end Parley.Unicode
