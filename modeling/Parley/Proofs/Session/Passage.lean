import Parley.Proofs.Action.Pact
import Parley.Session.Locks

/-!
# Parley.Proofs.Session.Passage — what is done while a lock is held

Whoever does something under a lock enters, asks for the lock, finds that it is held, and leaves in
the end.  A pact is a `Passage` if it allows these steps to a note that is at the right stand, and
lets the rest of the note be; it is an `Asking` if it allows those between entering and leaving.
`leads_whileHolding`: then what is done under the lock may take any steps that the pact allows
inside, and whatever comes of it, the note has left in the end.
-/

namespace Parley.Session

open Pact (Ending)
open Time (Clocked Seconds)

/-- How far someone has come with a lock. -/
inductive Stand
  | outside
  | entered (t : Ticket)
  | inLine (t : Ticket)
  | inside (t : Ticket)
  | left (t : Ticket)

def Stand.ticket? : Stand → Option Ticket
  | outside => none
  | entered t | inLine t | inside t | left t => some t

/-- One who has entered with the ticket, and not left. -/
def Stand.Present (t : Ticket) (s : Stand) : Prop := s = entered t ∨ s = inLine t ∨ s = inside t

variable {σ γ ρ α : Type}

/-- Notes at one stand may take a step to another stand, and the rest of them stays. -/
def Allows (P : Pact σ γ) (stands : Stand → γ → Prop) (rest : γ → ρ) (s : Stand) (w : σ)
    (s' : Stand) (w' : σ) : Prop :=
  ∀ n, stands s n → P.sees n w → ∃ n', P.moves n w n' w' ∧ stands s' n' ∧ rest n' = rest n

variable [Holds σ Locks]

/-- The pact lets one ask for a lock, and wait for it. -/
structure Asking (P : Pact σ γ) (stands : Stand → γ → Prop) (rest : γ → ρ) : Prop where
  look : ∀ {n w}, P.sees n w → P.moves n w n w
  ask : ∀ w t, Allows P stands rest (.entered t) w (.inLine t)
    (Holds.replace w ((Holds.part w : Locks).ask t))
  grasp : ∀ w t, (Holds.part w : Locks).holds t = true →
    Allows P stands rest (.inLine t) w (.inside t) w

/-- The pact lets one pass through the lock of that name. -/
structure Passage (P : Pact σ γ) (name : String) (stands : Stand → γ → Prop) (rest : γ → ρ) :
    Prop extends Asking P stands rest where
  enter : ∀ w, Allows P stands rest .outside w (.entered ((Holds.part w : Locks).enter name).1)
    (Holds.replace w ((Holds.part w : Locks).enter name).2)
  leave : ∀ w s t, s.Present t → Allows P stands rest s w (.left t)
    (Holds.replace w (((Holds.part w : Locks).giveUp t).leave t))

variable [Clocked σ] {P : Pact σ γ} {name : String} {stands : Stand → γ → Prop} {rest : γ → ρ}
  {t : Ticket} {J E : ρ → Prop}

omit [Holds σ Locks] [Clocked σ] in
/-- A step that the pact allows, as an action. -/
theorem leads_step {f : σ → α × σ} {s : Stand} {s' : α → Stand}
    (hf : ∀ w, Allows P stands rest s w (s' (f w).1) (f w).2) :
    P.Leads (fun n => stands s n ∧ J (rest n)) (Action.ofState f)
      (Ending (fun _ => False) fun n a => stands (s' a) n ∧ J (rest n)) := by
  refine Pact.leads_ofState fun n w hn hw => ?_
  obtain ⟨n', hmove, hstands, hrest⟩ := hf w n hn.1 hw
  exact ⟨n', hmove, hstands, hrest ▸ hn.2⟩

namespace Asking

variable (h : Asking P stands rest)
include h

omit [Clocked σ] in
/-- Whoever finds that the lock is held, is inside. -/
theorem leads_view :
    P.Leads (fun n => stands (.inLine t) n ∧ J (rest n)) (Action.view Locks)
      (Ending (fun _ => False) fun n locks =>
        stands (if locks.holds t then .inside t else .inLine t) n ∧ J (rest n)) := by
  refine Pact.leads_look fun n w hn hw => ?_
  by_cases hholds : (Holds.part w : Locks).holds t = true
  · obtain ⟨n', hmove, hstands, hrest⟩ := h.grasp w t hholds n hn.1 hw
    refine ⟨n', hmove, ?_, hrest ▸ hn.2⟩
    rwa [if_pos hholds]
  · refine ⟨n, h.look hw, ?_, hn.2⟩
    rw [if_neg hholds]
    exact hn.1

omit [Clocked σ] in
/-- A pause keeps the note. -/
theorem leads_pause {I : γ → Prop} (wake : Wake σ) :
    P.Leads I (Action.pause wake (Action.result ())) (Ending (fun _ => False) fun n _ => I n) :=
  fun n hn _ hw => ⟨n, h.look hw, hn⟩

omit [Clocked σ] in
theorem leads_waitInLine (limit : Option Seconds) :
    P.Leads (fun n => stands (.inLine t) n ∧ J (rest n)) (waitInLine t limit)
      (Ending (fun _ => False) fun n held =>
        stands (if held then .inside t else .inLine t) n ∧ J (rest n)) := by
  refine h.leads_view.bind (fun locks => ?_) fun _ hn => hn
  cases hholds : locks.holds t with
  | true => exact Pact.leads_finished fun _ hn => hn
  | false =>
    refine (h.leads_pause _).bind (fun _ => ?_) fun _ hn => hn
    refine Pact.Leads.weaken (I := fun n => stands (.inLine t) n ∧ J (rest n)) ?_ fun _ hn => hn
    refine h.leads_view.bind (fun locks => ?_) fun _ hn => hn
    exact Pact.leads_finished fun _ hn => hn

theorem leads_acquire (span : Option Number) :
    P.Leads (fun n => stands (.entered t) n ∧ J (rest n)) (acquire t span)
      (Ending (fun _ => False) fun n held =>
        if held then stands (.inside t) n ∧ J (rest n)
        else ∃ s, s.Present t ∧ stands s n ∧ J (rest n)) := by
  have hask : P.Leads (fun n => stands (.entered t) n ∧ J (rest n))
      (Action.update fun s : Locks => s.ask t)
      (Ending (fun _ => False) fun n _ => stands (.inLine t) n ∧ J (rest n)) :=
    leads_step fun w => h.ask w t
  have hended (n : γ) (held : Bool)
      (hn : stands (if held then .inside t else .inLine t) n ∧ J (rest n)) :
      if held then stands (.inside t) n ∧ J (rest n)
      else ∃ s, s.Present t ∧ stands s n ∧ J (rest n) := by
    cases held with
    | true => exact hn
    | false => exact ⟨.inLine t, .inr (.inl rfl), hn⟩
  cases span with
  | none =>
    refine hask.bind (fun _ => (h.leads_waitInLine none).mono fun n o hn => ?_) fun _ hn => hn
    cases o with
    | ok held => exact hended n held hn
    | error f => exact hn
  | some span =>
    have hreading : P.Leads (fun n => stands (.entered t) n ∧ J (rest n)) Action.reading
        (Ending (fun _ => False) fun n _ => stands (.entered t) n ∧ J (rest n)) :=
      Pact.leads_look fun n w hn hw => ⟨n, h.look hw, hn⟩
    refine hreading.bind (fun now => ?_) fun _ hn => hn
    refine (h.leads_pause _).bind (fun _ => ?_) fun _ hn => hn
    split_ifs
    · exact Pact.leads_finished fun n hn => ⟨.entered t, .inl rfl, hn⟩
    · refine hask.bind (fun _ => ?_) fun _ hn => hn
      refine (h.leads_waitInLine _).bind (fun held => ?_) fun _ hn => hn
      refine (h.leads_pause _).bind (fun _ => ?_) fun _ hn => hn
      refine (h.leads_pause _).bind (fun _ => ?_) fun _ hn => hn
      exact Pact.leads_finished fun n hn => hended n held hn

end Asking

/-- **What is done while the lock is held is done between entering and leaving.** -/
theorem Passage.leads_whileHolding (h : Passage P name stands rest) {x : Action σ α}
    {K : ρ → α → Prop} (span : Option Number)
    (hx : ∀ t, P.Leads (fun n => stands (.inside t) n ∧ J (rest n)) x
      (Ending (fun n => stands (.inside t) n ∧ E (rest n))
        fun n a => stands (.inside t) n ∧ K (rest n) a))
    (hE : ∀ r, J r → E r) :
    P.Leads (fun n => stands .outside n ∧ J (rest n)) (whileHolding name span x)
      (Ending (fun n => (∃ t, stands (.left t) n) ∧ E (rest n))
        fun n a => (∃ t, stands (.left t) n) ∧ K (rest n) a) := by
  have henter : P.Leads (fun n => stands .outside n ∧ J (rest n))
      (Action.onPart fun s : Locks => s.enter name)
      (Ending (fun _ => False) fun n t => stands (.entered t) n ∧ J (rest n)) :=
    leads_step h.enter
  refine henter.bind (fun t => ?_) fun _ hn => hn.elim
  -- the body ends with the lock held or not, and then leaves either way
  have hbody : P.Leads (fun n => stands (.entered t) n ∧ J (rest n))
      ((acquire t span).andThen fun held => if held then x else Action.fail (busy name))
      (Ending (fun n => ∃ s, s.Present t ∧ stands s n ∧ E (rest n))
        fun n a => stands (.inside t) n ∧ K (rest n) a) := by
    refine (h.toAsking.leads_acquire span).bind (fun held => ?_) fun _ hn => hn.elim
    cases held with
    | true =>
      refine (hx t).mono fun n o hn => ?_
      cases o with
      | ok a => exact hn
      | error f => exact ⟨.inside t, .inr (.inr rfl), hn⟩
    | false =>
      refine Pact.leads_finished fun n hn => ?_
      obtain ⟨s, hs, hn⟩ := hn
      exact ⟨s, hs, hn.1, hE _ hn.2⟩
  refine Pact.Leads.ensuring hbody fun o => Pact.leads_ofState fun n w hn hw => ?_
  cases o with
  | ok a =>
    obtain ⟨n', hmove, hstands, hrest⟩ := h.leave w _ t (.inr (.inr rfl)) n hn.1 hw
    exact ⟨n', hmove, rfl, ⟨t, hstands⟩, hrest ▸ hn.2⟩
  | error f =>
    obtain ⟨s, hs, hn⟩ := hn
    obtain ⟨n', hmove, hstands, hrest⟩ := h.leave w s t hs n hn.1 hw
    exact ⟨n', hmove, rfl, ⟨t, hstands⟩, hrest ▸ hn.2⟩

end Parley.Session
