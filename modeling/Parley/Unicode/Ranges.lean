/-!
# Parley.Unicode.Ranges — sets of characters as sorted ranges

A property of characters is a list of ranges of code points in increasing order; the search stops
at the first range that ends behind the code point.  Twenty-nine characters count as blank when text
is split, stripped or matched.
-/

namespace Parley.Unicode

/-- Membership in sorted ranges, ends included. -/
def inRanges : List (Nat × Nat) → Nat → Bool
  | [], _ => false
  | (low, high) :: rest, n => if n < low then false else if n ≤ high then true else inRanges rest n

theorem exists_range_of_inRanges {ranges : List (Nat × Nat)} {n : Nat}
    (h : inRanges ranges n = true) : ∃ r ∈ ranges, r.1 ≤ n ∧ n ≤ r.2 := by
  induction ranges with
  | nil => simp [inRanges] at h
  | cons r rest ih =>
    unfold inRanges at h
    split at h
    · simp at h
    · split at h
      · exact ⟨r, List.mem_cons_self, by omega, by omega⟩
      · obtain ⟨s, hs, hb⟩ := ih h
        exact ⟨s, List.mem_cons_of_mem _ hs, hb⟩

/-! ### Blanks -/

/-- Code points of blanks: the separators and the control characters that end a line or a field. -/
def blankRanges : List (Nat × Nat) :=
  [(9, 13), (28, 32), (133, 133), (160, 160), (5760, 5760), (8192, 8202), (8232, 8233),
   (8239, 8239), (8287, 8287), (12288, 12288)]

/-- A character that separates words. -/
def isBlank (c : Char) : Bool := inRanges blankRanges c.toNat

theorem isBlank_of_isWhitespace {c : Char} (h : c.isWhitespace = true) : isBlank c = true := by
  simp only [Char.isWhitespace, Bool.or_eq_true, decide_eq_true_eq] at h
  rcases h with ((h | h) | h) | h <;> subst h <;> decide

end Parley.Unicode
