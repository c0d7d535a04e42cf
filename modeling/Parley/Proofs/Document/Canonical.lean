import Mathlib.Data.List.Nodup
import Mathlib.Data.List.Perm.Subperm
import Parley.Proofs.Document.Unambiguous

/-!
# Parley.Proofs.Document.Canonical — one text for all orders of fields

`Alike a b`: the values are the same but for the order in which the fields of objects stand.
`writeSorted_eq_iff`: just such values have one sorted text, if the doubles of one of them are told by
their texts.

Fields have one order by name exactly when they are the same fields (`inOrder_eq_iff`), and to sort
a value changes no more than orders (`sorted_eq_iff`); the rest is that nothing else is written alike.
`composeSorted_eq_ok`: a value has its sorted text within the limits that it has any text in.
-/

namespace Parley.Document

open Decimal

mutual

/-- The same value, whatever the order of fields. -/
def Alike : Value → Value → Prop
  | .list as, .list bs => AlikeItems as bs
  | .object as, .object bs => as.length = bs.length ∧ AlikeFields as bs
  | a, b => a = b

def AlikeItems : List Value → List Value → Prop
  | [], [] => True
  | a :: as, b :: bs => Alike a b ∧ AlikeItems as bs
  | _, _ => False

/-- Each field has one of its name and like it among the others. -/
def AlikeFields : List (String × Value) → List (String × Value) → Prop
  | [], _ => True
  | (name, a) :: as, bs => (∃ b, Table.get? bs name = some b ∧ Alike a b) ∧ AlikeFields as bs

end

theorem alikeFields_iff {as bs : List (String × Value)} :
    AlikeFields as bs ↔ ∀ entry ∈ as, ∃ b, Table.get? bs entry.1 = some b ∧ Alike entry.2 b := by
  induction as with
  | nil => exact ⟨fun _ _ hentry => absurd hentry List.not_mem_nil, fun _ => trivial⟩
  | cons entry as ih =>
    rw [AlikeFields, ih, List.forall_mem_cons]

theorem alikeFields_cons {name : String} {a b : Value} {as bs : List (String × Value)}
    (h : Table.get? bs name = some b) :
    AlikeFields ((name, a) :: as) bs ↔ Alike a b ∧ AlikeFields as bs := by
  rw [AlikeFields, h]
  simp only [Option.some.injEq, exists_eq_left']

/-! ### Fields in the order of their names -/

section InOrder

variable {α : Type} {xs ys : List (String × α)}

theorem inOrder_perm (xs : List (String × α)) : (inOrder xs).Perm xs := List.mergeSort_perm xs _

theorem pairwise_inOrder (xs : List (String × α)) :
    (inOrder xs).Pairwise fun a b => a.1 ≤ b.1 := by
  have hle {a b : String × α} : (!decide (b.1 < a.1)) = true ↔ a.1 ≤ b.1 := by
    rw [Bool.not_eq_true', decide_eq_false_iff_not, String.not_lt]
  have hsorted : (inOrder xs).Pairwise fun a b => (!decide (b.1 < a.1)) = true := by
    refine List.pairwise_mergeSort (fun a b c hab hbc => ?_) (fun a b => ?_) xs
    · exact hle.mpr (String.le_trans (hle.mp hab) (hle.mp hbc))
    · rcases String.le_total a.1 b.1 with h | h
      · exact Bool.or_eq_true_iff.mpr (.inl (hle.mpr h))
      · exact Bool.or_eq_true_iff.mpr (.inr (hle.mpr h))
  exact hsorted.imp hle.mp

/-- **Fields have one order by name when they are the same fields.** -/
theorem inOrder_eq_iff (hnames : (Table.names xs).Nodup) :
    inOrder xs = inOrder ys ↔ xs.Perm ys := by
  constructor
  · intro h
    exact (inOrder_perm xs).symm.trans (h ▸ inOrder_perm ys)
  · intro h
    have hperm : (inOrder xs).Perm (inOrder ys) :=
      (inOrder_perm xs).trans (h.trans (inOrder_perm ys).symm)
    refine hperm.eq_of_pairwise (fun a b ha hb hab hba => ?_) (pairwise_inOrder xs)
      (pairwise_inOrder ys)
    have ha' : a ∈ xs := (inOrder_perm xs).mem_iff.mp ha
    have hb' : b ∈ xs := (inOrder_perm xs).mem_iff.mp (hperm.mem_iff.mpr hb)
    exact List.inj_on_of_nodup_map hnames ha' hb' (String.le_antisymm hab hba)

/-- Fields are the same in another order when they are as many, and each is one of the others. -/
theorem perm_iff_subset (hnames : (Table.names xs).Nodup) :
    xs.Perm ys ↔ xs.length = ys.length ∧ ∀ entry ∈ xs, entry ∈ ys := by
  constructor
  · intro h
    exact ⟨h.length_eq, fun entry => h.mem_iff.mp⟩
  · rintro ⟨hlength, hsubset⟩
    exact (List.subperm_of_subset hnames.of_map hsubset).perm_of_length_le (Nat.le_of_eq hlength.symm)

end InOrder

/-! ### Limits -/

section Limits

variable {fields fields' : List (String × Value)}

theorem briefFields_perm (h : fields.Perm fields') :
    Value.briefFields fields = Value.briefFields fields' := by
  induction h with
  | nil => rfl
  | cons entry _ ih => exact congrArg (entry.2.brief && ·) ih
  | swap a b rest => exact Bool.and_left_comm b.2.brief a.2.brief (Value.briefFields rest)
  | trans _ _ ih ih' => exact ih.trans ih'

theorem nestingFields_perm (h : fields.Perm fields') :
    Value.nestingFields fields = Value.nestingFields fields' := by
  induction h with
  | nil => rfl
  | cons entry _ ih => exact congrArg (max entry.2.nesting) ih
  | swap a b rest => exact Nat.max_left_comm b.2.nesting a.2.nesting (Value.nestingFields rest)
  | trans _ _ ih ih' => exact ih.trans ih'

mutual

theorem brief_sorted : ∀ a : Value, (sorted a).brief = a.brief
  | .null | .bool _ | .int _ | .real _ | .text _ => rfl
  | .list items => briefList_sorted items
  | .object fields =>
    (briefFields_perm (inOrder_perm (sortedFields fields))).trans (briefFields_sorted fields)

theorem briefList_sorted : ∀ items : List Value,
    Value.briefList (sortedList items) = Value.briefList items
  | [] => rfl
  | a :: as => congrArg₂ and (brief_sorted a) (briefList_sorted as)

theorem briefFields_sorted : ∀ fields : List (String × Value),
    Value.briefFields (sortedFields fields) = Value.briefFields fields
  | [] => rfl
  | (_, a) :: as => congrArg₂ and (brief_sorted a) (briefFields_sorted as)

end

mutual

theorem nesting_sorted : ∀ a : Value, (sorted a).nesting = a.nesting
  | .null | .bool _ | .int _ | .real _ | .text _ => rfl
  | .list items => congrArg (· + 1) (nestingList_sorted items)
  | .object fields => congrArg (· + 1)
    ((nestingFields_perm (inOrder_perm (sortedFields fields))).trans (nestingFields_sorted fields))

theorem nestingList_sorted : ∀ items : List Value,
    Value.nestingList (sortedList items) = Value.nestingList items
  | [] => rfl
  | a :: as => congrArg₂ max (nesting_sorted a) (nestingList_sorted as)

theorem nestingFields_sorted : ∀ fields : List (String × Value),
    Value.nestingFields (sortedFields fields) = Value.nestingFields fields
  | [] => rfl
  | (_, a) :: as => congrArg₂ max (nesting_sorted a) (nestingFields_sorted as)

end

/-- **A value has its sorted text within the limits**, which know no order. -/
theorem composeSorted_eq_ok {v : Value} {s : String} : composeSorted v = .ok s ↔
    (v.brief = true ∧ v.nesting ≤ Parley.Limits.room) ∧ s = writeSorted v := by
  rw [← brief_sorted v, ← nesting_sorted v]
  exact compose_eq_ok

end Limits

/-! ### Sorted values -/

section Sorted

variable {S T : Set Float} {as bs : List (String × Value)}

theorem sortedFields_eq_map (fields : List (String × Value)) :
    sortedFields fields = fields.map fun entry => (entry.1, sorted entry.2) := by
  induction fields with
  | nil => rfl
  | cons entry rest ih => rw [sortedFields, ih, List.map_cons]

theorem names_sortedFields (fields : List (String × Value)) :
    Table.names (sortedFields fields) = Table.names fields := by
  unfold Table.names
  rw [sortedFields_eq_map, List.map_map]
  rfl

theorem properFields_iff {fields : List (String × Value)} :
    ProperFields S fields ↔ ∀ entry ∈ fields, Proper S entry.2 := by
  induction fields with
  | nil => exact ⟨fun _ _ hentry => absurd hentry List.not_mem_nil, fun _ => trivial⟩
  | cons entry rest ih => rw [ProperFields, ih, List.forall_mem_cons]

mutual

/-- To sort a value takes no names and no doubles into it. -/
theorem Proper.sorted : ∀ {a : Value}, Proper S a → Proper S (sorted a)
  | .null, h | .bool _, h | .int _, h | .real _, h | .text _, h => h
  | .list _, h => properItems_sorted h
  | .object fields, h => by
    have hperm := inOrder_perm (sortedFields fields)
    refine ⟨?_, properFields_iff.mpr fun entry hentry =>
      properFields_iff.mp (properFields_sorted h.2) entry (hperm.mem_iff.mp hentry)⟩
    have hnames : (Table.names (sortedFields fields)).Nodup := by
      rw [names_sortedFields]
      exact h.1
    exact (hperm.map Prod.fst).nodup_iff.mpr hnames

theorem properItems_sorted : ∀ {items : List Value}, ProperItems S items →
    ProperItems S (sortedList items)
  | [], h => h
  | _ :: _, h => ⟨h.1.sorted, properItems_sorted h.2⟩

theorem properFields_sorted : ∀ {fields : List (String × Value)}, ProperFields S fields →
    ProperFields S (sortedFields fields)
  | [], h => h
  | (_, _) :: _, h => ⟨h.1.sorted, properFields_sorted h.2⟩

end

/-- Sorted fields are in the same order when each field has one of its name that is sorted like it. -/
theorem inOrder_sortedFields_iff (has : (Table.names as).Nodup) (hbs : (Table.names bs).Nodup) :
    inOrder (sortedFields as) = inOrder (sortedFields bs) ↔ as.length = bs.length ∧
      ∀ entry ∈ as, ∃ b, Table.get? bs entry.1 = some b ∧ sorted entry.2 = sorted b := by
  have hnames : (Table.names (sortedFields as)).Nodup := by
    rw [names_sortedFields]
    exact has
  rw [inOrder_eq_iff hnames, perm_iff_subset hnames, sortedFields_eq_map, sortedFields_eq_map,
    List.length_map, List.length_map, List.forall_mem_map]
  refine and_congr_right fun _ => forall₂_congr fun entry _ => ?_
  constructor
  · intro h
    obtain ⟨⟨name, b⟩, hb, heq⟩ := List.mem_map.mp h
    obtain ⟨hname, hvalue⟩ := Prod.mk.inj heq
    rw [← hname]
    exact ⟨b, Table.get?_of_mem hbs hb, hvalue.symm⟩
  · rintro ⟨b, hb, hvalue⟩
    rw [hvalue]
    exact List.mem_map.mpr ⟨_, Table.mem_of_get? hb, rfl⟩

mutual

/-- **Values that are the same when sorted are the same but for the order of fields.**  One case for
each shape of the first value. -/
theorem sorted_eq_iff : ∀ {a : Value}, Proper S a → ∀ {b : Value}, Proper T b →
    (sorted a = sorted b ↔ Alike a b)
  | .null, _, b, _ | .bool _, _, b, _ | .int _, _, b, _ | .real _, _, b, _ | .text _, _, b, _ => by
    cases b <;> simp [sorted, Alike]
  | .list as, ha, .list bs, hb => by
    rw [sorted, sorted, Alike, Value.list.injEq]
    exact sortedList_eq_iff ha hb
  | .object as, ha, .object bs, hb => by
    rw [sorted, sorted, Alike, Value.object.injEq, inOrder_sortedFields_iff ha.1 hb.1,
      alikeFields_iff]
    refine and_congr_right fun _ => forall₂_congr fun entry hentry => exists_congr fun b =>
      and_congr_right fun hget => ?_
    exact sorted_eq_of_field ha.2 entry hentry
      (properFields_iff.mp hb.2 _ (Table.mem_of_get? hget))
  | .list _, _, .null, _ | .list _, _, .bool _, _ | .list _, _, .int _, _ | .list _, _, .real _, _
  | .list _, _, .text _, _ | .list _, _, .object _, _ | .object _, _, .null, _
  | .object _, _, .bool _, _ | .object _, _, .int _, _ | .object _, _, .real _, _
  | .object _, _, .text _, _ | .object _, _, .list _, _ => by simp [sorted, Alike]

theorem sortedList_eq_iff : ∀ {as : List Value}, ProperItems S as → ∀ {bs : List Value},
    ProperItems T bs → (sortedList as = sortedList bs ↔ AlikeItems as bs)
  | [], _, [], _ | [], _, _ :: _, _ | _ :: _, _, [], _ => by simp [sortedList, AlikeItems]
  | a :: as, ha, b :: bs, hb => by
    rw [sortedList, sortedList, AlikeItems, List.cons.injEq]
    exact and_congr (sorted_eq_iff ha.1 hb.1) (sortedList_eq_iff ha.2 hb.2)

theorem sorted_eq_of_field : ∀ {fields : List (String × Value)}, ProperFields S fields →
    ∀ entry ∈ fields, ∀ {b : Value}, Proper T b → (sorted entry.2 = sorted b ↔ Alike entry.2 b)
  | [], _ => fun _ hentry => nomatch hentry
  | (_, _) :: _, h => List.forall_mem_cons.mpr
    ⟨fun hb => sorted_eq_iff h.1 hb, fun entry hentry => sorted_eq_of_field h.2 entry hentry⟩

end

/-- **Values have one sorted text when they are the same but for the order of fields.** -/
theorem writeSorted_eq_iff (hS : Distinctive S) {a b : Value} (ha : Proper S a) (hb : Proper T b) :
    writeSorted a = writeSorted b ↔ Alike a b := by
  rw [← sorted_eq_iff ha hb]
  constructor
  · exact write_injective hS ha.sorted
  · exact congrArg write

end Sorted

end Parley.Document
