import Parley.Proofs.Stages.Claims

/-!
# Parley.Proofs.Stages.Protection — how long a visit stays claimed

A claim is granted or refused, and `l.log keys` are the answers to a series of claims in the ledger
`l`.  A visit is protected (`Protects`) from the time its claim is granted until as many further claims
are granted as the ledger has room for.

`entries_after`: the ledger holds the visits of the latest granted claims.  `refused_iff_protects`: so
it never grows beyond its room, a claim is refused if and only if its visit is protected, and who is
refused changes nothing for anybody else.
-/

namespace Parley.Stages

/-- A claim that was made, and its answer. -/
structure Claim where
  key : VisitKey
  granted : Bool
  deriving DecidableEq

/-- The visits whose claims were granted, oldest first. -/
def grantedKeys (log : List Claim) : List VisitKey := (log.filter Claim.granted).map Claim.key

/-- The visit was claimed successfully, and since the last time fewer claims were granted than there
is room for. -/
def Protects (room : Nat) (log : List Claim) (k : VisitKey) : Prop :=
  ∃ earlier later, log = earlier ++ ⟨k, true⟩ :: later ∧ ⟨k, true⟩ ∉ later ∧
    later.countP Claim.granted < room

/-! ### Protection -/

section Protection

variable {room : Nat} {log : List Claim} {c : Claim} {j k : VisitKey}

theorem not_protects_nil : ¬ Protects room [] k := by
  rintro ⟨earlier, later, hlog, -, -⟩
  exact absurd hlog.symm (List.append_ne_nil_of_right_ne_nil _ (List.cons_ne_nil _ _))

/-- One more claim of anything else counts against the room if it is granted. -/
theorem protects_concat_of_ne (hne : c ≠ ⟨k, true⟩) :
    Protects room (log ++ [c]) k ↔
      ∃ earlier later, log = earlier ++ ⟨k, true⟩ :: later ∧ ⟨k, true⟩ ∉ later ∧
        later.countP Claim.granted + [c].countP Claim.granted < room := by
  constructor
  · rintro ⟨earlier, later, hlog, hlast, hroom⟩
    rcases List.eq_nil_or_concat' later with rfl | ⟨later, d, rfl⟩
    · -- the claim itself would be the last one of the log
      obtain ⟨-, hc⟩ := List.append_inj' hlog rfl
      exact absurd (List.cons.inj hc).1 hne
    · rw [← List.cons_append, ← List.append_assoc] at hlog
      obtain ⟨hbefore, hd⟩ := List.append_inj' hlog rfl
      obtain rfl : c = d := (List.cons.inj hd).1
      rw [List.countP_append] at hroom
      exact ⟨earlier, later, hbefore, fun h => hlast (List.mem_append_left _ h), hroom⟩
  · rintro ⟨earlier, later, rfl, hlast, hroom⟩
    refine ⟨earlier, later ++ [c], by rw [List.append_assoc, List.cons_append], fun h => ?_, ?_⟩
    · rcases List.mem_append.mp h with h | h
      · exact hlast h
      · exact hne (List.mem_singleton.mp h).symm
    · rw [List.countP_append]
      exact hroom

/-- **A refused claim neither prolongs nor shortens a protection.** -/
theorem protects_refused : Protects room (log ++ [⟨j, false⟩]) k ↔ Protects room log k := by
  have hne : (⟨j, false⟩ : Claim) ≠ ⟨k, true⟩ := fun h => Bool.false_ne_true (congrArg Claim.granted h)
  rw [protects_concat_of_ne hne]
  rfl

/-- A granted claim protects its visit, unless there is no room at all. -/
theorem protects_granted_self : Protects room (log ++ [⟨k, true⟩]) k ↔ 0 < room := by
  constructor
  · rintro ⟨_, _, -, -, hroom⟩
    omega
  · intro hroom
    exact ⟨log, [], rfl, List.not_mem_nil, hroom⟩

/-- A granted claim takes some of the protection of the others. -/
theorem protects_granted_of_ne (hne : j ≠ k) :
    Protects (room + 1) (log ++ [⟨j, true⟩]) k ↔ Protects room log k := by
  have hclaim : (⟨j, true⟩ : Claim) ≠ ⟨k, true⟩ := fun h => hne (congrArg Claim.key h)
  have hcount : [(⟨j, true⟩ : Claim)].countP Claim.granted = 1 := rfl
  rw [protects_concat_of_ne hclaim]
  simp only [hcount, Nat.add_lt_add_iff_right]
  rfl

theorem grantedKeys_refused : grantedKeys (log ++ [⟨j, false⟩]) = grantedKeys log := by
  simp [grantedKeys]

theorem grantedKeys_granted : grantedKeys (log ++ [⟨j, true⟩]) = grantedKeys log ++ [j] := by
  simp [grantedKeys]

/-- A visit is protected if it is among the latest granted ones. -/
theorem mem_rtake_grantedKeys : k ∈ (grantedKeys log).rtake room ↔ Protects room log k := by
  induction log using List.reverseRecOn generalizing room with
  | nil =>
    have hnone : (grantedKeys []).rtake room = [] := List.rtake_nil _
    rw [hnone]
    exact ⟨fun h => absurd h List.not_mem_nil, fun h => absurd h not_protects_nil⟩
  | append_singleton log c ih =>
    obtain ⟨j, granted⟩ := c
    cases granted with
    | false => rw [grantedKeys_refused, ih, protects_refused]
    | true =>
      rw [grantedKeys_granted]
      cases room with
      | zero =>
        rw [List.rtake_zero]
        refine ⟨fun h => absurd h List.not_mem_nil, ?_⟩
        rintro ⟨_, _, -, -, hroom⟩
        exact absurd hroom (Nat.not_lt_zero _)
      | succ room =>
        rw [List.rtake_concat_succ, List.mem_append, List.mem_singleton]
        by_cases hk : k = j
        · subst hk
          rw [protects_granted_self]
          exact ⟨fun _ => Nat.succ_pos room, fun _ => .inr rfl⟩
        · rw [protects_granted_of_ne (Ne.symm hk), ← ih]
          exact or_iff_left hk

end Protection

/-! ### Series of claims -/

namespace Ledger

/-- The ledger after claims of all visits, one by one. -/
def after (l : Ledger) (keys : List VisitKey) : Ledger := keys.foldl (fun l k => (l.claim k).2) l

/-- The claims of all visits, one by one, with their answers. -/
def log (l : Ledger) : List VisitKey → List Claim
  | [] => []
  | k :: more => ⟨k, (l.claim k).1⟩ :: log (l.claim k).2 more

variable {l : Ledger} {k : VisitKey}

theorem after_concat (l : Ledger) (keys : List VisitKey) (k : VisitKey) :
    l.after (keys ++ [k]) = ((l.after keys).claim k).2 := by
  simp [after, List.foldl_append]

theorem log_append (l : Ledger) (keys more : List VisitKey) :
    l.log (keys ++ more) = l.log keys ++ (l.after keys).log more := by
  induction keys generalizing l with
  | nil => rfl
  | cons k keys ih =>
    rw [List.cons_append, log, log, ih, List.cons_append]
    rfl

theorem log_concat (l : Ledger) (keys : List VisitKey) (k : VisitKey) :
    l.log (keys ++ [k]) = l.log keys ++ [⟨k, ((l.after keys).claim k).1⟩] := log_append l keys [k]

theorem maxEntries_after (l : Ledger) (keys : List VisitKey) :
    (l.after keys).maxEntries = l.maxEntries := by
  induction keys using List.reverseRecOn with
  | nil => rfl
  | append_singleton keys k ih => rw [after_concat, maxEntries_claim, ih]

/-- A claim is refused if and only if the visit is an entry. -/
theorem claim_refused_iff : (l.claim k).1 = false ↔ k ∈ l.entries := by
  rw [← List.contains_iff_mem]
  cases hclaimed : l.isClaimed k with
  | true =>
    rw [claim_of_claimed hclaimed]
    exact iff_of_true rfl hclaimed
  | false =>
    rw [claim_of_unclaimed hclaimed]
    have hnot : ¬ l.isClaimed k = true := fun h => Bool.false_ne_true (hclaimed.symm.trans h)
    exact iff_of_false (fun h => Bool.false_ne_true h.symm) hnot

theorem claim_of_refused (h : (l.claim k).1 = false) : l.claim k = (false, l) :=
  claim_of_claimed (List.contains_iff_mem.mpr (claim_refused_iff.mp h))

/-- **A ledger that was empty holds the visits of the latest granted claims**, as many as it has room
for. -/
theorem entries_after (room : Nat) (keys : List VisitKey) :
    ((new room).after keys).entries = (grantedKeys ((new room).log keys)).rtake room := by
  induction keys using List.reverseRecOn with
  | nil => exact (List.rtake_nil room).symm
  | append_singleton keys k ih =>
    have hroom : ((new room).after keys).maxEntries = room := maxEntries_after _ _
    rw [after_concat, log_concat]
    cases hclaimed : ((new room).after keys).isClaimed k with
    | true => rw [claim_of_claimed hclaimed, grantedKeys_refused, ih]
    | false =>
      have hgranted : (((new room).after keys).claim k).1 = true := by
        rw [claim_of_unclaimed hclaimed]
      rw [entries_claim_of_unclaimed hclaimed, hgranted, hroom, ih, rtake_append_rtake,
        grantedKeys_granted]

theorem size_after_le (room : Nat) (keys : List VisitKey) : ((new room).after keys).size ≤ room := by
  unfold size
  rw [entries_after]
  unfold List.rtake
  rw [List.length_drop]
  omega

/-- **A claim is refused as long as its visit is protected, and then no more.**  After any series of
claims in a new ledger, a claim leaves no more entries than there is room for; it is refused if and only
if its visit was claimed successfully before and fewer claims than there is room for were granted since;
and if it is refused, all others that follow are answered as they would be without it. -/
theorem refused_iff_protects (room : Nat) (keys : List VisitKey) (k : VisitKey) :
    ((new room).after (keys ++ [k])).size ≤ room ∧
      ((((new room).after keys).claim k).1 = false ↔ Protects room ((new room).log keys) k) ∧
      (Protects room ((new room).log keys) k → ∀ more, ∃ answers,
        (new room).log (keys ++ more) = (new room).log keys ++ answers ∧
          (new room).log (keys ++ k :: more) = (new room).log keys ++ ⟨k, false⟩ :: answers) := by
  have hiff : (((new room).after keys).claim k).1 = false ↔
      Protects room ((new room).log keys) k := by
    rw [claim_refused_iff, entries_after, mem_rtake_grantedKeys]
  refine ⟨size_after_le room _, hiff, fun hprotects more => ?_⟩
  have hsame := claim_of_refused (hiff.mpr hprotects)
  refine ⟨((new room).after keys).log more, log_append _ keys more, ?_⟩
  rw [log_append, log, hsame]

end Ledger

end Parley.Stages
