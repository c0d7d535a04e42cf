import Mathlib.Tactic.Common
import Parley.Proofs.Session.Census

/-!
# Parley.Proofs.Session.Hall — errands under locks

Any number of guests do errands, each under the lock of some name, and take turns in any order.  A
`Visit` says how far a guest has come with the lock and with the errand.  `Advance` says what one
step of a guest may be: entering, a `Stride` on the way to the errand and back, or leaving.
`At.step`: every step of what a guest does is one of these, and a guest is over when it has left.
-/

namespace Parley.Session

open Pact (Ending)
open Time (Clocked)

/-! ### The hall -/

/-- Where guests do errands: the locks, who is inside under one of them, and what the errands are
about. -/
structure Hall (ε : Type) where
  locks : Locks
  inside : List Nat
  surroundings : ε

namespace Hall

variable {ε : Type}

instance : Holds (Hall ε) Locks := ⟨locks, fun w locks => { w with locks }⟩

instance [Clocked ε] : Clocked (Hall ε) where
  clock w := Clocked.clock w.surroundings
  setClock w c := { w with surroundings := Clocked.setClock w.surroundings c }

/-- The hall with other surroundings. -/
def around (w : Hall ε) (surroundings : ε) : Hall ε := { w with surroundings }

/-- Nothing happens to the locks, and nobody begins an errand or ends one. -/
def Still (w w' : Hall ε) : Prop := w'.locks = w.locks ∧ w'.inside = w.inside

theorem Still.refl (w : Hall ε) : Still w w := ⟨rfl, rfl⟩

theorem Still.trans {u v w : Hall ε} (h : Still u v) (h' : Still v w) : Still u w :=
  ⟨h'.1.trans h.1, h'.2.trans h.2⟩

end Hall

/-- Someone with an errand, who waits some seconds for the lock at most. -/
structure Guest (ε α : Type) where
  name : String
  span : Option Number
  errand : Action ε α

namespace Guest

variable {ε α : Type}

/-- Does the errand, and is inside from its beginning to its end. -/
def atErrand (g : Guest ε α) (i : Nat) : Action (Hall ε) α :=
  (Action.change fun w => { w with inside := i :: w.inside }).andThen fun _ =>
    (g.errand.through Hall.surroundings Hall.around).ensuring
      (Action.change fun w => { w with inside := w.inside.erase i })

/-- What a guest does. -/
def task [Clocked ε] (g : Guest ε α) (i : Nat) : Action (Hall ε) α :=
  whileHolding g.name g.span (g.atErrand i)

end Guest

/-! ### Visits -/

/-- How far someone has come with an errand. -/
inductive Progress
  | before
  | during
  | after

/-- How far a guest has come. -/
structure Visit where
  stand : Stand
  progress : Progress

/-- Nothing has happened yet. -/
def Visit.fresh : Visit := ⟨.outside, .before⟩

/-- How the errand of a guest may end, from how far it came: one that did not begin fails because
the lock was busy. -/
def Guest.Concluded {ε α : Type} (g : Guest ε α) (o : Except Fault α) : Progress → Prop
  | .before => o = .error (busy g.name)
  | .during => False
  | .after => g.errand.MayEnd o

section Strides

variable {ε α : Type} {name : String} {i : Nat}

/-- A step of a guest who has entered and not left. -/
inductive Stride (i : Nat) : Visit → Hall ε → Visit → Hall ε → Prop
  | still {v : Visit} {w w' : Hall ε} : Hall.Still w w' → Stride i v w v w'
  | ask {v : Visit} {w : Hall ε} {t : Ticket} : v.stand = .entered t →
    Stride i v w { v with stand := .inLine t } { w with locks := w.locks.ask t }
  | grasp {v : Visit} {w : Hall ε} {t : Ticket} : v.stand = .inLine t →
    w.locks.holds t = true → Stride i v w { v with stand := .inside t } w
  | begin {v : Visit} {w : Hall ε} {t : Ticket} : v.stand = .inside t → v.progress = .before →
    Stride i v w { v with progress := .during } { w with inside := i :: w.inside }
  | finish {v : Visit} {w : Hall ε} {t : Ticket} : v.stand = .inside t → v.progress = .during →
    Stride i v w { v with progress := .after } { w with inside := w.inside.erase i }

/-- Guests on their way to an errand and back. -/
def stroll (ε : Type) (i : Nat) : Pact (Hall ε) Visit :=
  ⟨fun _ _ => True, Stride i⟩

theorem ignores_stroll : (stroll ε i).Ignores Hall.Still :=
  ⟨Hall.Still.refl, Hall.Still.trans, fun _ h => .still h⟩

theorem asking_stroll :
    Asking (stroll ε i) (fun s v => v.stand = s) Visit.progress where
  look _ := .still (.refl _)
  ask _ _ _ hv _ := ⟨_, .ask hv, rfl, rfl⟩
  grasp _ _ hholds _ hv _ := ⟨_, .grasp hv hholds, rfl, rfl⟩

/-- A stride keeps the ticket. -/
theorem Stride.present {v v' : Visit} {w w' : Hall ε} {t : Ticket}
    (h : Stride i v w v' w') (hpresent : v.stand.Present t) : v'.stand.Present t := by
  have hticket := hpresent.ticket
  cases h with
  | still _ => exact hpresent
  | ask hstand =>
    rw [hstand] at hticket
    exact .inr (.inl (congrArg _ (Option.some.inj hticket)))
  | grasp hstand _ =>
    rw [hstand] at hticket
    exact .inr (.inr (congrArg _ (Option.some.inj hticket)))
  | begin _ _ => exact hpresent
  | finish _ _ => exact hpresent

variable {g : Guest ε α} {t : Ticket}

/-- One who is inside, and how far the errand is. -/
def Visit.IsInside (t : Ticket) (progress : Progress) (v : Visit) : Prop :=
  v.stand = .inside t ∧ v.progress = progress

theorem leads_atErrand :
    (stroll ε i).Leads (Visit.IsInside t .before) (g.atErrand i)
      fun v o => Visit.IsInside t .after v ∧ g.errand.MayEnd o := by
  have hbegin : (stroll ε i).Leads (Visit.IsInside t .before)
      (Action.change fun w => { w with inside := i :: w.inside })
      (Ending (fun _ => False) fun v _ => Visit.IsInside t .during v) :=
    Pact.leads_ofState fun v w hv _ => ⟨_, .begin hv.1 hv.2, hv.1, rfl⟩
  refine hbegin.andThen (fun _ => ?_) fun v e hv => hv.elim
  -- the errand itself leaves the locks alone
  have herrand : (stroll ε i).Leads (Visit.IsInside t .during)
      (g.errand.through Hall.surroundings Hall.around)
      fun v o => Visit.IsInside t .during v ∧ g.errand.MayEnd o := by
    have hidle : (g.errand.through Hall.surroundings Hall.around).Idle Hall.Still :=
      Action.idle_through fun _ _ => ⟨rfl, rfl⟩
    exact (Pact.leads_of_idle ignores_stroll hidle).mono fun v o hv =>
      ⟨hv.1, Action.mayEnd_of_through hv.2⟩
  refine herrand.ensuring fun o => Pact.leads_ofState fun v w hv _ => ?_
  exact ⟨_, .finish hv.1.1 hv.1.2, rfl, ⟨hv.1.1, rfl⟩, hv.2⟩

variable [Clocked ε]

/-- What a guest does between entering and leaving. -/
def Guest.stay (g : Guest ε α) (i : Nat) (t : Ticket) : Action (Hall ε) α :=
  (acquire t g.span).andThen fun held =>
    if held then g.atErrand i else Action.fail (busy g.name)

/-- The end of a stay: the errand is over, or the lock was busy. -/
def Stayed (g : Guest ε α) (t : Ticket) (v : Visit) (o : Except Fault α) : Prop :=
  v.stand.Present t ∧ g.Concluded o v.progress

theorem leads_stay :
    (stroll ε i).Leads (fun v => v.stand = .entered t ∧ v.progress = .before)
      (g.stay i t) (Stayed g t) := by
  refine ((asking_stroll (ε := ε) (i := i)).leads_acquire (J := fun p => p = .before) g.span).andThen
    (fun held => ?_) fun v e hv => hv.elim
  cases held with
  | true =>
    refine leads_atErrand.mono fun v o hv => ?_
    obtain ⟨⟨hstand, hprogress⟩, hended⟩ := hv
    refine ⟨.inr (.inr hstand), ?_⟩
    rw [hprogress]
    exact hended
  | false =>
    refine Pact.leads_finished fun v hv => ?_
    obtain ⟨s, hs, hstand, hprogress⟩ := hv
    refine ⟨hstand ▸ hs, ?_⟩
    rw [show v.progress = .before from hprogress]
    rfl

end Strides

/-! ### Steps of a guest -/

section Steps

variable {ε α : Type} {σ β : Type} {g : Guest ε α} {i : Nat} {name : String} {t : Ticket}
  {v : Visit} {x : Action (Hall ε) α}

theorem settle_attempt_andThen {f : Except Fault α → Action σ β}
    (hf : ∀ o w, (f o).settle w = (f o, w)) (x : Action σ α) (w : σ) :
    (x.attempt.andThen f).settle w = ((x.settle w).1.attempt.andThen f, (x.settle w).2) := by
  induction x generalizing w with
  | finished o => exact hf o w
  | look next => rfl
  | put v next ih => exact ih v
  | pause wake next => rfl

/-- Before something that is done after all, a step is a step of what comes first. -/
theorem step_attempt_andThen {f : Except Fault α → Action σ β}
    (hf : ∀ o w, (f o).settle w = (f o, w)) {x : Action σ α} (hx : x.isOver = false) (w : σ) :
    (x.attempt.andThen f).step w = ((x.step w).1.attempt.andThen f, (x.step w).2) := by
  cases x with
  | finished o => exact nomatch hx
  | look next => exact settle_attempt_andThen hf (next w) w
  | put v next => rfl
  | pause wake next => exact settle_attempt_andThen hf next w

/-- Between two steps there is nothing left to be changed. -/
theorem settle_of_ready {γ : Type} {P : Pact σ γ} {K : γ → Except Fault α → Prop} {n : γ}
    {x : Action σ α} (h : P.Ready K n x) (w : σ) : x.settle w = (x, w) := by
  cases x with
  | put v next => exact h.elim
  | finished o | look next | pause wake next => rfl

/-- Leaves with an outcome. -/
def leaving (t : Ticket) (o : Except Fault α) : Action (Hall ε) α :=
  (Action.update fun s : Locks => (s.giveUp t).leave t).andThen fun _ => .finished o

/-- One step of a guest. -/
inductive Advance (name : String) (i : Nat) : Visit → Hall ε → Visit → Hall ε → Prop
  | enter {v : Visit} {w : Hall ε} : v.stand = .outside →
    Advance name i v w { v with stand := .entered (w.locks.enter name).1 }
      { w with locks := (w.locks.enter name).2 }
  | stride {v v' : Visit} {w w' : Hall ε} {t : Ticket} : v.stand.Present t →
    Stride i v w v' w' → Advance name i v w v' w'
  | leave {v : Visit} {w : Hall ε} {t : Ticket} : v.stand.Present t → v.progress ≠ .during →
    Advance name i v w { v with stand := .left t }
      { w with locks := (w.locks.giveUp t).leave t }

variable [Clocked ε]

/-- What a guest has still to do. -/
inductive At (g : Guest ε α) (i : Nat) : Visit → Action (Hall ε) α → Prop
  | outside : At g i .fresh (g.task i)
  | staying {v : Visit} {t : Ticket} {x : Action (Hall ε) α} : v.stand.Present t →
    (stroll ε i).Ready (Stayed g t) v x → At g i v (x.attempt.andThen (leaving t))
  | left {v : Visit} {t : Ticket} {o : Except Fault α} : v.stand = .left t →
    g.Concluded o v.progress → At g i v (.finished o)

/-- Those who have a ticket and are not over, are those who have entered and not left. -/
theorem At.here_iff (h : At g i v x) :
    (v.stand.ticket?.isSome && !x.isOver) = v.stand.hold.ticket?.isSome := by
  cases h with
  | outside => rfl
  | @staying v t x hpresent hready =>
    rw [hpresent.ticket, hpresent.hold]
    cases x with
    | finished o => rfl
    | look next => rfl
    | put w next => rfl
    | pause wake next => rfl
  | left hstand _ =>
    rw [hstand]
    rfl

theorem At.concluded {o : Except Fault α} (h : At g i v (.finished o)) :
    g.Concluded o v.progress := by
  generalize hx : Action.finished o = x at h
  cases h with
  | outside => exact nomatch hx
  | @staying v t x _ _ => cases x <;> exact nomatch hx
  | left _ hconcluded =>
    cases hx
    exact hconcluded

/-- **Each step of a guest is an advance**, and then the guest does the rest. -/
theorem At.step (h : At g i v x) (hover : x.isOver = false) (w : Hall ε) :
    ∃ v', Advance g.name i v w v' (x.step w).2 ∧ At g i v' (x.step w).1 := by
  cases h with
  | outside =>
    let t := (w.locks.enter g.name).1
    have hready : (stroll ε i).Ready (Stayed g t) ⟨.entered t, .before⟩ (g.stay i t) :=
      leads_stay _ ⟨rfl, rfl⟩
    have hstep : (g.task i).step w = ((g.stay i t).attempt.andThen (leaving t),
        { w with locks := (w.locks.enter g.name).2 }) := by
      refine (settle_attempt_andThen (fun _ _ => rfl) (g.stay i t) _).trans ?_
      rw [settle_of_ready hready]
      rfl
    rw [hstep]
    exact ⟨_, .enter rfl, .staying (.inl rfl) hready⟩
  | @staying v t x hpresent hready =>
    cases hx : x.isOver with
    | false =>
      obtain ⟨v', hstride, hnext⟩ := hready.step (w := w) trivial hx
      rw [step_attempt_andThen (fun _ _ => rfl) hx]
      exact ⟨v', .stride hpresent hstride, .staying (hstride.present hpresent) hnext⟩
    | true =>
      cases x with
      | finished o =>
        obtain ⟨-, hconcluded⟩ := hready
        refine ⟨_, .leave hpresent fun hduring => ?_, .left rfl hconcluded⟩
        rw [hduring] at hconcluded
        exact hconcluded
      | look next | put w next | pause wake next => exact nomatch hx
  | left _ _ => exact nomatch hover

end Steps

end Parley.Session
