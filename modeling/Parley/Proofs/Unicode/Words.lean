import Mathlib.Data.List.TakeWhile
import Parley.Unicode.Words

/-!
# Parley.Proofs.Unicode.Words — parts of a text

Parts that occur, cuts at a character, and words.  `Spaced`: words without blanks and one space
between each two; this is the form of every text after its blanks were brought into order
(`spaced_singleSpaced`).
-/

namespace Parley.Unicode

/-- To search for a part is to ask whether the text has it as an infix. -/
theorem occursIn_iff {part whole : List Char} : occursIn part whole = true ↔ part <:+: whole := by
  induction whole with
  | nil => simp [occursIn]
  | cons c rest ih =>
    rw [occursIn, Bool.or_eq_true, List.isPrefixOf_iff_prefix, ih, List.infix_cons_iff]

section Cut

variable {c : Char} {s : String} {before after : List Char}

theorem cutAt_of_eq (h : s.toList = before ++ c :: after) (hc : c ∉ before) :
    cutAt c s = (String.ofList before, some (String.ofList after)) := by
  have hbefore : s.toList.takeWhile (· ≠ c) = before := by
    have hall : ∀ d ∈ before, decide (d ≠ c) = true := by
      intro d hd
      exact decide_eq_true fun he => hc (he ▸ hd)
    rw [h, List.takeWhile_append_of_pos hall]
    simp
  unfold cutAt
  rw [hbefore, h]
  simp

theorem cutAt_of_notMem (h : c ∉ s.toList) : cutAt c s = (s, none) := by
  have hall : ∀ d ∈ s.toList, decide (d ≠ c) = true := by
    intro d hd
    exact decide_eq_true fun he => h (he ▸ hd)
  unfold cutAt
  rw [List.takeWhile_eq_self_iff.mpr hall]
  simp

/-- A text is cut at the first occurrence of the character, or not at all. -/
theorem cutAt_cases (c : Char) (s : String) :
    (c ∉ s.toList ∧ cutAt c s = (s, none)) ∨
    ∃ before after, s.toList = before ++ c :: after ∧ c ∉ before ∧
      cutAt c s = (String.ofList before, some (String.ofList after)) := by
  by_cases h : c ∈ s.toList
  · obtain ⟨before, after, hs, hc⟩ := List.eq_append_cons_of_mem h
    exact .inr ⟨before, after, hs, hc, cutAt_of_eq hs hc⟩
  · exact .inl ⟨h, cutAt_of_notMem h⟩

end Cut

/-! ### Words -/

/-- Characters that are no blanks, one at least. -/
structure Unbroken (w : List Char) : Prop where
  filled : w ≠ []
  unblank : ∀ c ∈ w, isBlank c = false

/-- Words with one space between each two. -/
def Spaced (cs : List Char) : Prop :=
  ∃ words : List (List Char), (∀ w ∈ words, Unbroken w) ∧ cs = [' '].intercalate words

section Spacing

variable {cs w : List Char} {words : List (List Char)} {c : Char} {p : Char → Bool}

theorem unbroken_of_mem_splitBlanks {word : List Char} (hword : ∀ c ∈ word, isBlank c = false)
    (h : w ∈ splitBlanks word cs) : Unbroken w := by
  have hdone {word : List Char} (hword : ∀ c ∈ word, isBlank c = false)
      (h : w ∈ if word.isEmpty then [] else [word.reverse]) : Unbroken w := by
    split_ifs at h with hempty
    · exact absurd h List.not_mem_nil
    · rw [List.mem_singleton.mp h]
      exact ⟨fun hnil => hempty (List.isEmpty_iff.mpr (List.reverse_eq_nil_iff.mp hnil)),
        fun c hc => hword c (List.mem_reverse.mp hc)⟩
  induction cs generalizing word with
  | nil => exact hdone hword h
  | cons c cs ih =>
    unfold splitBlanks at h
    cases hc : isBlank c with
    | true =>
      rw [if_pos hc] at h
      rcases List.mem_append.mp h with h | h
      · exact hdone hword h
      · exact ih (fun c hc => absurd hc List.not_mem_nil) h
    | false =>
      rw [if_neg (Bool.eq_false_iff.mp hc)] at h
      exact ih (List.forall_mem_cons.mpr ⟨hc, hword⟩) h

/-- The words of a text, however they were apart. -/
theorem spaced_singleSpaced (s : String) : Spaced (singleSpaced s).toList := by
  refine ⟨splitBlanks [] s.toList, fun w hw =>
    unbroken_of_mem_splitBlanks (fun c hc => absurd hc List.not_mem_nil) hw, ?_⟩
  unfold singleSpaced
  rw [String.toList_intercalate]
  simp

theorem intercalate_cons (w : List Char) (words : List (List Char)) :
    [' '].intercalate (w :: words) =
      w ++ if words = [] then [] else ' ' :: [' '].intercalate words := by
  cases words with
  | nil => simp
  | cons w' words => simp [List.intercalate_cons_cons]

theorem mem_intercalate (h : c ∈ [' '].intercalate words) : c = ' ' ∨ ∃ w ∈ words, c ∈ w := by
  induction words with
  | nil => exact absurd h List.not_mem_nil
  | cons w words ih =>
    rw [intercalate_cons] at h
    rcases List.mem_append.mp h with h | h
    · exact .inr ⟨w, List.mem_cons_self, h⟩
    · split_ifs at h
      · exact absurd h List.not_mem_nil
      · rcases List.mem_cons.mp h with rfl | h
        · exact .inl rfl
        · refine (ih h).imp_right fun ⟨w, hw, hc⟩ => ⟨w, List.mem_cons_of_mem _ hw, hc⟩

theorem mem_intercalate_of_mem (hw : w ∈ words) (hc : c ∈ w) : c ∈ [' '].intercalate words := by
  induction words with
  | nil => exact absurd hw List.not_mem_nil
  | cons w' words ih =>
    rw [intercalate_cons]
    rcases List.mem_cons.mp hw with rfl | hw
    · exact List.mem_append_left _ hc
    · rw [if_neg (List.ne_nil_of_mem hw)]
      exact List.mem_append_right _ (List.mem_cons_of_mem _ (ih hw))

/-- The only blank in it is the space. -/
theorem Spaced.eq_space (h : Spaced cs) (hc : c ∈ cs) (hblank : isBlank c = true) : c = ' ' := by
  obtain ⟨words, hwords, rfl⟩ := h
  refine (mem_intercalate hc).resolve_right fun ⟨w, hw, hmem⟩ => ?_
  rw [(hwords w hw).unblank c hmem] at hblank
  exact nomatch hblank

/-- It begins and ends with no blank. -/
theorem Spaced.ends (h : Spaced cs) :
    (∀ c, cs.head? = some c → isBlank c = false) ∧ ∀ c, cs.getLast? = some c → isBlank c = false := by
  obtain ⟨words, hwords, rfl⟩ := h
  induction words with
  | nil => exact ⟨nofun, nofun⟩
  | cons w words ih =>
    obtain ⟨hfilled, hunblank⟩ := hwords w List.mem_cons_self
    have hwords' : ∀ w ∈ words, Unbroken w := fun w hw => hwords w (List.mem_cons_of_mem _ hw)
    rw [intercalate_cons]
    refine ⟨fun c hc => ?_, fun c hc => ?_⟩
    · obtain ⟨d, w, rfl⟩ := List.exists_cons_of_ne_nil hfilled
      rw [← Option.some.inj hc]
      exact hunblank d List.mem_cons_self
    · split_ifs at hc with hwords''
      · rw [List.append_nil] at hc
        exact hunblank c (List.mem_of_getLast? hc)
      · obtain ⟨w', words, rfl⟩ := List.exists_cons_of_ne_nil hwords''
        have hne : [' '].intercalate (w' :: words) ≠ [] := by
          rw [intercalate_cons]
          exact List.append_ne_nil_of_left_ne_nil (hwords' w' List.mem_cons_self).filled _
        rw [List.getLast?_append, List.getLast?_cons_of_ne_nil hne, List.getLast?_eq_some_getLast hne,
          Option.some_or, ← List.getLast?_eq_some_getLast hne] at hc
        exact (ih hwords').2 c hc

/-- There is nothing to strip from a text that begins and ends outside the class. -/
theorem stripIf_of_ends {s : String} (hhead : ∀ c, s.toList.head? = some c → p c = false)
    (hlast : ∀ c, s.toList.getLast? = some c → p c = false) : stripIf p s = s := by
  have hdrop {cs : List Char} (h : ∀ c, cs.head? = some c → p c = false) : cs.dropWhile p = cs := by
    cases cs with
    | nil => rfl
    | cons c cs => rw [List.dropWhile_cons_of_neg (Bool.eq_false_iff.mp (h c rfl))]
  unfold stripIf
  rw [hdrop hhead, hdrop fun c hc => hlast c (by rwa [List.head?_reverse] at hc), List.reverse_reverse,
    String.ofList_toList]

/-! ### Words in another form -/

/-- What a character may be changed to: one character or more, and none of them a blank that was not
there before. -/
structure FormOf (c : Char) (form : List Char) : Prop where
  filled : form ≠ []
  blank : ∀ d ∈ form, isBlank d = true → d = c
  space : c = ' ' → form = [' ']

/-- Each character in a form of its own. -/
inductive Reshaped : List Char → List Char → Prop
  | nil : Reshaped [] []
  | cons {c : Char} {form cs cs' : List Char} : FormOf c form → Reshaped cs cs' →
    Reshaped (c :: cs) (form ++ cs')

theorem split_of_reshaped {a b out : List Char} (h : Reshaped (a ++ b) out) :
    ∃ a' b', out = a' ++ b' ∧ Reshaped a a' ∧ Reshaped b b' := by
  induction a generalizing out with
  | nil => exact ⟨[], out, rfl, .nil, h⟩
  | cons c a ih =>
    cases h with
    | cons hform h =>
      obtain ⟨a', b', rfl, ha, hb⟩ := ih h
      exact ⟨_, b', (List.append_assoc ..).symm, .cons hform ha, hb⟩

theorem Reshaped.mem {out : List Char} (h : Reshaped cs out) {d : Char} (hd : d ∈ out)
    (hblank : isBlank d = true) : d ∈ cs := by
  induction h with
  | nil => exact hd
  | cons hform _ ih =>
    rcases List.mem_append.mp hd with hd | hd
    · rw [hform.blank d hd hblank]
      exact List.mem_cons_self
    · exact List.mem_cons_of_mem _ (ih hd)

theorem Unbroken.reshaped {out : List Char} (hw : Unbroken w) (h : Reshaped w out) :
    Unbroken out := by
  refine ⟨?_, fun d hd => Bool.eq_false_iff.mpr fun hblank => ?_⟩
  · cases h with
    | nil => exact absurd rfl hw.filled
    | cons hform _ => exact List.append_ne_nil_of_left_ne_nil hform.filled _
  · exact Bool.eq_false_iff.mp (hw.unblank d (h.mem hd hblank)) hblank

theorem reshaped_words {out : List Char} (hwords : ∀ w ∈ words, Unbroken w)
    (h : Reshaped ([' '].intercalate words) out) :
    ∃ words', words'.length = words.length ∧ (∀ w ∈ words', Unbroken w) ∧
      out = [' '].intercalate words' := by
  induction words generalizing out with
  | nil =>
    cases h with
    | nil => exact ⟨[], rfl, fun w hw => absurd hw List.not_mem_nil, rfl⟩
  | cons w words ih =>
    rw [intercalate_cons] at h
    obtain ⟨w', rest, rfl, hw, hrest⟩ := split_of_reshaped h
    have hw' := (hwords w List.mem_cons_self).reshaped hw
    split_ifs at hrest with hnone
    · cases hrest with
      | nil =>
        exact ⟨[w'], by rw [hnone]; rfl, fun v hv => (List.mem_singleton.mp hv) ▸ hw', by simp⟩
    · cases hrest with
      | @cons _ form _ later hform hlater =>
        obtain ⟨words', hlength, hunbroken, rfl⟩ :=
          ih (fun w hw => hwords w (List.mem_cons_of_mem _ hw)) hlater
        have hsome : words' ≠ [] := fun hnil =>
          hnone (List.length_eq_zero_iff.mp (by rw [← hlength, hnil]; rfl))
        refine ⟨w' :: words', by rw [List.length_cons, List.length_cons, hlength],
          List.forall_mem_cons.mpr ⟨hw', hunbroken⟩, ?_⟩
        rw [intercalate_cons, hform.space rfl, if_neg hsome]
        rfl

/-- Words in another form are words. -/
theorem Spaced.reshaped {out : List Char} (hs : Spaced cs) (h : Reshaped cs out) : Spaced out := by
  obtain ⟨words, hwords, rfl⟩ := hs
  obtain ⟨words', -, hunbroken, hout⟩ := reshaped_words hwords h
  exact ⟨words', hunbroken, hout⟩

end Spacing

end Parley.Unicode
