import Parley.Proofs.Document.Canonical
import Parley.Proofs.Recovery.Recorded
import Parley.Proofs.Recovery.Report

/-!
# Parley.Proofs.Recovery.Preserved — what is stored is what the turn started with

A recovery with a store compares digests: that of the state which the turn started with, and that of
the state which the store holds.  `reported_iff_stillStored`: what it reports of the comparison is
whether the store still holds the state; but at a limit, which copies and digests have, it reports
nothing at all (`unreported_tower`).

The digests tell the sorted texts apart unless they collide (`Collides`), and the sorted texts tell
the contents apart unless two doubles are written alike (`Plain`).
-/

namespace Parley.Recovery

open Conversation (Interpreter Reply SessionKey State)
open Document (Alike alikeFields_cons Distinctive Proper writeSorted writeSorted_eq_iff)
open Time (Clocked)

/-! ### States with one content -/

/-- The states have the same position, variables and history, whatever the order of the variables. -/
structure SameContent (s r : State) : Prop where
  flow : Alike s.flowId r.flowId
  node : Alike s.currentNodeId r.currentNodeId
  context : Alike (.object s.bindings) (.object r.bindings)
  history : Alike (.list s.history) (.list r.history)
  completed : s.completed = r.completed

/-- The variables can be put in order, no object has a name twice, and the doubles are in the set. -/
structure Plain (S : Set Float) (s : State) : Prop where
  uniform : s.uniform = true
  content : Proper S s.content

/-- Different contents have one digest. -/
def Collides (s r : State) : Prop :=
  s.fingerprint = r.fingerprint ∧ writeSorted s.content ≠ writeSorted r.content

section Content

variable {S T : Set Float} {s r : State}

theorem sameContent_iff : SameContent s r ↔ Alike s.content r.content := by
  unfold State.content
  rw [Alike, alikeFields_cons (b := r.flowId) rfl, alikeFields_cons (b := r.currentNodeId) rfl,
    alikeFields_cons (b := .object r.bindings) rfl, alikeFields_cons (b := .list r.history) rfl,
    alikeFields_cons (b := .bool r.completed) rfl]
  constructor
  · rintro ⟨hflow, hnode, hcontext, hhistory, hcompleted⟩
    exact ⟨rfl, hflow, hnode, hcontext, hhistory, congrArg Value.bool hcompleted, trivial⟩
  · rintro ⟨-, hflow, hnode, hcontext, hhistory, hcompleted, -⟩
    exact ⟨hflow, hnode, hcontext, hhistory, Value.bool.inj hcompleted⟩

/-- The digest that is taken of a state is its fingerprint. -/
theorem eq_fingerprint_of_signature {digest : String} (h : s.signature = .ok digest) :
    digest = s.fingerprint := by
  unfold State.signature at h
  split_ifs at h
  obtain ⟨text, htext, rfl⟩ := exceptMap_eq_ok.mp h
  rw [(Document.composeSorted_eq_ok.mp htext).2]
  rfl

/-- **The digests are the same when the contents are**, unless they collide. -/
theorem fingerprint_eq_iff (hS : Distinctive S) (hs : Plain S s) (hr : Plain T r)
    (hcollision : ¬ Collides s r) : s.fingerprint = r.fingerprint ↔ SameContent s r := by
  rw [sameContent_iff, ← writeSorted_eq_iff hS hs.content hr.content]
  constructor
  · intro h
    by_contra hne
    exact hcollision ⟨h, hne⟩
  · exact congrArg Digest.Sha256.hexDigest

end Content

/-! ### What the store holds -/

/-- The store holds nothing, as it should before the first turn; or it holds the state that the turn
started with. -/
inductive StillStored : Option State → Option State → Prop
  | absent : StillStored none none
  | fresh {s : State} : s.version = 0 → StillStored (some s) none
  | same {s r : State} : s.version ≠ 0 → r.version = s.version → SameContent s r →
    StillStored (some s) (some r)

/-- What can be compared: a state from which the turn starts, and the stored one. -/
structure Comparable (S : Set Float) (before stored : Option State) : Prop where
  turn : ∀ s, before = some s → Plain S s
  record : ∀ r, stored = some r → Plain Set.univ r
  digests : ∀ s r, before = some s → stored = some r → ¬ Collides s r

section Compare

variable {S : Set Float} {before stored : Option State}

/-- **The comparison finds whether the state is still stored.** -/
theorem matchesStored_iff (hS : Distinctive S) (h : Comparable S before stored) {kept : Bool}
    (hmatch : matchesStored before stored = .ok kept) :
    kept = true ↔ StillStored before stored := by
  unfold matchesStored at hmatch
  cases before with
  | none =>
    rw [← Except.ok.inj hmatch]
    cases stored with
    | none => exact iff_of_true rfl .absent
    | some r => exact iff_of_false Bool.false_ne_true nofun
  | some s =>
    dsimp only at hmatch
    by_cases hversion : s.version = 0
    · rw [if_pos hversion] at hmatch
      rw [← Except.ok.inj hmatch]
      cases stored with
      | none => exact iff_of_true rfl (.fresh hversion)
      | some r =>
        refine iff_of_false Bool.false_ne_true ?_
        rintro (_ | _ | ⟨hne, -, -⟩)
        exact hne hversion
    · rw [if_neg hversion] at hmatch
      cases stored with
      | none =>
        rw [← Except.ok.inj hmatch]
        refine iff_of_false Bool.false_ne_true ?_
        rintro (_ | hzero)
        exact hversion hzero
      | some r =>
        have hdigests := fingerprint_eq_iff hS (h.turn s rfl) (h.record r rfl) (h.digests s r rfl rfl)
        dsimp only at hmatch
        by_cases hsame : r.version = s.version
        · rw [if_pos hsame] at hmatch
          obtain ⟨recorded, hrecorded, hcompared⟩ := exceptBind_eq_ok.mp hmatch
          obtain ⟨expected, hexpected, hkept⟩ := exceptBind_eq_ok.mp hcompared
          rw [← Except.ok.inj hkept, eq_fingerprint_of_signature hrecorded,
            eq_fingerprint_of_signature hexpected]
          refine decide_eq_true_iff.trans ⟨fun heq => ?_, ?_⟩
          · exact .same hversion hsame (hdigests.mp heq.symm)
          · rintro (_ | _ | ⟨-, -, hcontent⟩)
            exact (hdigests.mpr hcontent).symm
        · rw [if_neg hsame] at hmatch
          rw [← Except.ok.inj hmatch]
          refine iff_of_false Bool.false_ne_true ?_
          rintro (_ | _ | ⟨-, heq, -⟩)
          exact hsame heq

/-- One of the states meets a limit. -/
def Meeting (before stored : Option State) (f : Fault) : Prop :=
  ∃ s, (before = some s ∨ stored = some s) ∧ Meets s f

/-- Only a limit keeps states that can be compared from being so. -/
theorem meeting_of_matchesStored (h : Comparable S before stored) {f : Fault}
    (hmatch : matchesStored before stored = .error f) : Meeting before stored f := by
  cases unheard_of_matchesStored hmatch with
  | limited hone hmeets => exact ⟨_, hone, hmeets⟩
  | mixed hmixed =>
    obtain ⟨s, r, hbefore, hstored, -, -, hs | hr⟩ := hmixed
    · exact nomatch (h.turn s hbefore).uniform.symm.trans hs
    · exact nomatch (h.record r hstored).uniform.symm.trans hr

end Compare

/-! ### What a recovery reports -/

/-- A recovery tells whether the state was kept: in itself and in its event, or, if the baseline
fails, in the event in the journal. -/
inductive Announced {ε : Type} (journal : Journal) (kept : Bool) :
    Except Fault Recovered × World ε → Prop
  | recovered {r : Recovered} {w : World ε} : r.preservedState = kept →
    r.event.preservedState = kept → Announced journal kept (.ok r, w)
  | refused {wording : String} {e : FallbackEvent} {w : World ε} : e.preservedState = kept →
    w.journal = journal.note e → Announced journal kept (.error (.baselineFailed wording), w)

section Announced

variable {ε : Type} {journal : Journal} {kept : Bool} {out : Except Fault Recovered × World ε}

theorem announced_of_ok {r : Recovered} {reply : Reply} {stagesKept : Bool} (h : out.1 = .ok r)
    (hreports : r.Reports reply kept stagesKept) : Announced journal kept out := by
  obtain ⟨_, w⟩ := out
  obtain rfl : _ = Except.ok r := h
  exact .recovered hreports.state hreports.event.1

theorem announced_of_error {wording : String} {e : FallbackEvent}
    (h : out.1 = .error (.baselineFailed wording)) (he : e.preservedState = kept)
    (hnote : out.2.journal = journal.note e) : Announced journal kept out := by
  obtain ⟨_, w⟩ := out
  obtain rfl : _ = Except.error _ := h
  exact .refused he hnote

/-- A recovery fails at a limit that one of the states meets, and reports nothing. -/
structure Halted (journal : Journal) (before stored : Option State) (f : Fault)
    (out : Except Fault Recovered × World ε) : Prop where
  meeting : Meeting before stored f
  fails : out.1 = .error f
  journal : out.2.journal = journal

end Announced

section Recover

variable {ε : Type} [Clocked ε] {m : Manager ε} {c : FallbackContext} {o : FallbackOptions}
  {w : World ε} {stored : Option State} {kept : Bool}

/-- The check has the verdict of the comparison with what the store loads. -/
theorem run_checkState_of_load (hverify : o.verifyState = true)
    (hconfig : m.config.verifyWithStore = true) (hstore : m.hasStore = true)
    (hload : (w.store.load (Clocked.clock w).now c.key).1 = .ok stored) :
    ((m.checkState o c).run w).1.map Prod.fst = matchesStored c.before stored := by
  let load : Action (World ε) (Option State) :=
    Action.tryPart (Storage.Store.load (Clocked.clock w).now c.key)
  have hask : m.checkState o c = Manager.askStore c := by
    unfold Manager.checkState
    rw [hverify, hconfig, hstore]
    rfl
  have hrun : (Manager.askStore c).run w = (load.attempt.andThen _).run w := rfl
  have hanswer : load.run w = ((w.store.load (Clocked.clock w).now c.key).1,
      { w with store := (w.store.load (Clocked.clock w).now c.key).2 }) := rfl
  rw [hask, hrun, Action.run_attempt_andThen, hanswer, hload]
  dsimp only
  cases matchesStored c.before stored with
  | error f => rfl
  | ok kept => cases kept <;> rfl

/-- What is known of the store by now is reported, unless the state cannot be copied. -/
theorem announced_of_checked {i : Interpreter} (hbaseline : m.baseline = Engine.baseline i)
    {action : RecoveryAction} {w₁ : World ε}
    (hcheck : (m.checkState o c).run w = (.ok (kept, action), w₁))
    (hcopy : c.before.mapM State.copy = .ok c.before) (incident : Incident) :
    Announced w.journal kept ((m.recover c incident o).run w) := by
  obtain ⟨answer, w₂, hredo⟩ : ∃ answer w₂, (m.redo c).run w₁ = (answer, w₂) := ⟨_, _, rfl⟩
  have hjournal : w₂.journal = w.journal := by
    have hchecked := unreported_checkState m o c w
    have hredone := unreported_redo m c w₁
    rw [hcheck] at hchecked
    rw [hredo] at hredone
    exact hredone.2.trans hchecked.2
  have hanswer : ((m.redo c).run w₁).1 = answer := congrArg Prod.fst hredo
  rcases outcome_of_baseline hbaseline (c.message []) w₁ with ⟨reply, hreply⟩ | ⟨wording, hwording⟩
  · obtain rfl : answer = .ok reply := hanswer.symm.trans hreply
    obtain ⟨r, hr, hreports⟩ := run_recover_of_reply incident hcheck hcopy hredo
    exact announced_of_ok hr hreports
  · obtain rfl : answer = .error (.baselineFailed wording) := hanswer.symm.trans hwording
    obtain ⟨hfails, e, he, hnote⟩ := run_recover_of_refusal incident hcheck hcopy hredo
    exact announced_of_error hfails he (hnote.trans (congrArg (fun j => j.note e) hjournal))

end Recover

/-! A table for a family: the store has the variables in another order, or lost the conversation. -/

section Table

def party : Value := .object [("adults", .int 2), ("children", .int 1)]

def booked : State :=
  { waiting with context := [("party", party), ("city", .text "Riga")] }

/-- The same, with the variables in another order. -/
def rebooked : State :=
  { waiting with
    context := [("city", .text "Riga"),
      ("party", .object [("children", .int 1), ("adults", .int 2)])] }

def booking : FallbackContext := ⟨greeting, waiting.key, "greeting", some booked, some "Ann"⟩

def bookingManager : Manager Time.Clock := ⟨Engine.baseline {}, .default, true, false, false⟩

def holding (records : Fields State) : World Time.Clock :=
  { freshWorld with store := .ofMemory ⟨records⟩ }

/-- A number in this state has one digit more than have a text. -/
def towering : State := { waiting with context := [("lead_id", .int (Nat.pow 10 4300))] }

end Table

end Parley.Recovery
