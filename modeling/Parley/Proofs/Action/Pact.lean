import Parley.Proofs.Action.Endings

/-!
# Parley.Proofs.Action.Pact — actions among others

Several actions share a world.  An action looks at it and changes it on the spot; between two looks
the others have their turn.  A pact says what an action may rely on when it looks, and which changes
it may make; the action carries a note of its own, which proofs write and nobody else sees.

`Pact.Leads P I x K`: with a note in `I`, the action `x` keeps the pact `P`, and when it ends, its
note and its outcome are in `K`.  The rules follow the ways in which actions are put together;
`leads_of_idle` covers all actions that change nothing that matters.  `Crew.Run` lets the actions
take turns in any order, and `Crew.keeps` says that together they keep an invariant if what their
pacts allow preserves it.

Nobody else may have a turn.  Then `Action.run` follows the ways in which actions are put together,
and an idle action leads to a world that is the same (`same_of_run`).
-/

namespace Parley

variable {σ ρ γ α β τ : Type}

namespace Action

/-! ### Steps -/

/-- Makes the changes that come before the next look. -/
def settle : Action σ α → σ → Action σ α × σ
  | put v next, _ => next.settle v
  | x, w => (x, w)

/-- One step: a look at the world, or the end of a pause, and the changes that follow. -/
def step : Action σ α → σ → Action σ α × σ
  | look next, w => (next w).settle w
  | pause _ next, w => next.settle w
  | x, w => (x, w)

/-- The action has ended. -/
def isOver : Action σ α → Bool
  | finished _ => true
  | _ => false

/-- The answer of an action that has ended with one. -/
def answer? : Action σ α → Option α
  | finished (.ok a) => some a
  | _ => none

/-- The failure of an action that has ended with one. -/
def fault? : Action σ α → Option Fault
  | finished (.error f) => some f
  | _ => none

theorem eq_of_answer? {x : Action σ α} {a : α} (h : x.answer? = some a) : x = finished (.ok a) := by
  unfold answer? at h
  split at h
  · rw [Option.some.inj h]
  · cases h

theorem eq_of_fault? {x : Action σ α} {f : Fault} (h : x.fault? = some f) :
    x = finished (.error f) := by
  unfold fault? at h
  split at h
  · rw [Option.some.inj h]
  · cases h

/-! ### Idle actions -/

/-- From the world `w` on, the action changes nothing that matters to `same`. -/
def IdleFrom (same : σ → σ → Prop) : Action σ α → σ → Prop
  | finished _, _ => True
  | look next, _ => ∀ v, IdleFrom same (next v) v
  | put v next, w => same w v ∧ IdleFrom same next v
  | pause _ next, _ => ∀ v, IdleFrom same next v

/-- The action looks before it changes something, and changes nothing that matters to `same`. -/
def Idle (same : σ → σ → Prop) : Action σ α → Prop
  | put _ _ => False
  | x => ∀ w, x.IdleFrom same w

section Idle

variable {same : σ → σ → Prop} {x : Action σ α}

theorem idle_finished (o : Except Fault α) : (finished o : Action σ α).Idle same := fun _ => trivial

theorem idle_result (a : α) : (result a : Action σ α).Idle same := idle_finished _

theorem idle_fail (f : Fault) : (fail f : Action σ α).Idle same := idle_finished _

theorem idle_ofExcept (o : Except Fault α) : (ofExcept o : Action σ α).Idle same := idle_finished _

theorem Idle.idleFrom (h : x.Idle same) (w : σ) : x.IdleFrom same w := by
  cases x with
  | put v next => exact h.elim
  | finished o => trivial
  | look next => exact h w
  | pause wake next => exact h w

theorem idle_look {next : σ → Action σ α} (h : ∀ v, (next v).IdleFrom same v) :
    (look next).Idle same := fun _ => h

theorem idle_ofState {f : σ → α × σ} (h : ∀ w, same w (f w).2) : (ofState f).Idle same :=
  idle_look fun v => ⟨h v, trivial⟩

theorem idle_view [Holds σ β] : (view β : Action σ β).Idle same := idle_look fun _ => trivial

theorem idle_onPart {ρ : Type} [Holds σ ρ] {f : ρ → α × ρ}
    (h : ∀ w, same w (Holds.replace w (f (Holds.part w)).2)) :
    (onPart f : Action σ α).Idle same := idle_ofState h

theorem idle_update {ρ : Type} [Holds σ ρ] {f : ρ → ρ}
    (h : ∀ w, same w (Holds.replace w (f (Holds.part w)))) :
    (update f : Action σ Unit).Idle same := idle_onPart h

theorem idle_giveWay : (giveWay : Action σ Unit).Idle same := fun _ _ => trivial

theorem idle_pause {wake : Wake σ} {a : α} : (pause wake (result a)).Idle same := fun _ _ => trivial

theorem IdleFrom.andThen {f : α → Action σ β} {w : σ} (h : x.IdleFrom same w)
    (hf : ∀ a, (f a).Idle same) : (x.andThen f).IdleFrom same w := by
  induction x generalizing w with
  | finished o =>
    cases o with
    | ok a => exact (hf a).idleFrom w
    | error e => trivial
  | look next ih => exact fun v => ih v (h v)
  | put v next ih => exact ⟨h.1, ih h.2⟩
  | pause wake next ih => exact fun v => ih (h v)

theorem Idle.andThen {f : α → Action σ β} (h : x.Idle same) (hf : ∀ a, (f a).Idle same) :
    (x.andThen f).Idle same := by
  cases x with
  | finished o =>
    cases o with
    | ok a => exact hf a
    | error e => exact idle_finished _
  | look next => exact fun w v => (h w v).andThen hf
  | put v next => exact h.elim
  | pause wake next => exact fun w v => (h w v).andThen hf

theorem IdleFrom.attempt {w : σ} (h : x.IdleFrom same w) : x.attempt.IdleFrom same w := by
  induction x generalizing w with
  | finished o => trivial
  | look next ih => exact fun v => ih v (h v)
  | put v next ih => exact ⟨h.1, ih h.2⟩
  | pause wake next ih => exact fun v => ih (h v)

theorem Idle.attempt (h : x.Idle same) : x.attempt.Idle same := by
  cases x with
  | finished o => exact idle_finished _
  | look next => exact fun w v => (h w v).attempt
  | put v next => exact h.elim
  | pause wake next => exact fun w v => (h w v).attempt

/-- An action on a part that does not matter. -/
theorem idle_through {x : Action ρ α} {get : σ → ρ} {set : σ → ρ → σ}
    (h : ∀ w part, same w (set w part)) : (x.through get set).Idle same := by
  have hfrom (w : σ) : (x.through get set).IdleFrom same w := by
    induction x generalizing w with
    | finished o => trivial
    | look next ih => exact fun v => ih _ v
    | put part next ih => exact fun v => ⟨h v part, ih _⟩
    | pause wake next ih => exact fun v => ih v
  cases x with
  | finished o => exact idle_finished o
  | look next => exact fun w v => hfrom w v
  | put part next => exact fun w v => hfrom w v
  | pause wake next => exact fun w v => hfrom w v

theorem IdleFrom.withOwn {x : Action (σ × ρ) α} {own : ρ} {w : σ}
    (h : x.IdleFrom (fun v w => same v.1 w.1) (w, own)) : (x.withOwn own).IdleFrom same w := by
  induction x generalizing own w with
  | finished o => trivial
  | look next ih => exact fun v => ih _ (h (v, own))
  | put v next ih => exact ⟨h.1, ih h.2⟩
  | pause wake next ih => exact fun v => ih (h (v, own))

theorem Idle.withOwn {x : Action (σ × ρ) α} (h : x.Idle fun v w => same v.1 w.1) (own : ρ) :
    (x.withOwn own).Idle same := by
  cases x with
  | finished o => exact idle_finished _
  | look next => exact fun w v => (h (w, own) (v, own)).withOwn
  | put v next => exact h.elim
  | pause wake next => exact fun w v => (h (w, own) (v, own)).withOwn

section Limit

variable [Time.Clocked σ] {start limit : Time.Seconds}

theorem IdleFrom.upTo {w : σ} (h : x.IdleFrom same w) : (x.upTo start limit).IdleFrom same w := by
  induction x generalizing w with
  | finished o => trivial
  | look next ih => exact fun v => ih v (h v)
  | put v next ih => exact ⟨h.1, ih h.2⟩
  | pause wake next ih =>
    unfold Action.upTo
    split_ifs
    · exact fun v => ih (h v)
    · refine fun _ v => ?_
      dsimp only
      split_ifs
      · exact ih (h v)
      · trivial

theorem Idle.upTo (h : x.Idle same) : (x.upTo start limit).Idle same := by
  cases x with
  | finished o => exact idle_finished _
  | look next => exact fun w v => (h w v).upTo
  | put v next => exact h.elim
  | pause wake next =>
    have hfrom (w : σ) : ((pause wake next).upTo start limit).IdleFrom same w :=
      IdleFrom.upTo (Idle.idleFrom h w)
    unfold Action.upTo at hfrom ⊢
    split_ifs at hfrom ⊢ <;> exact hfrom

theorem Idle.within (h : x.Idle same) (span : Time.Seconds) : (within span x).Idle same := by
  refine idle_look fun v => ?_
  refine (idle_giveWay.andThen fun _ => Idle.andThen ?_ fun _ => idle_giveWay.andThen fun _ =>
    idle_giveWay.andThen fun _ => idle_result _).idleFrom v
  split_ifs
  · exact idle_result _
  · exact h.upTo

end Limit

end Idle

end Action

/-! ### Pacts -/

/-- What an action with a note may find when it looks, and how a step may change world and note. -/
structure Pact (σ γ : Type) where
  sees : γ → σ → Prop
  moves : γ → σ → γ → σ → Prop

namespace Pact

open Parley.Action (finished look put pause)

/-- In the middle of a step that began in the world `w₀` and has come to `w`, the action keeps the
pact from here on, and ends with `K`. -/
def Meets (P : Pact σ γ) (K : γ → Except Fault α → Prop) : Action σ α → γ → σ → σ → Prop
  | finished o, g, w₀, w => ∃ g', P.moves g w₀ g' w ∧ K g' o
  | look next, g, w₀, w => ∃ g', P.moves g w₀ g' w ∧ ∀ v, P.sees g' v → Meets P K (next v) g' v v
  | put v next, g, w₀, _ => Meets P K next g w₀ v
  | pause _ next, g, w₀, w => ∃ g', P.moves g w₀ g' w ∧ ∀ v, P.sees g' v → Meets P K next g' v v

/-- Between two steps, the action keeps the pact from here on, and ends with `K`. -/
def Ready (P : Pact σ γ) (K : γ → Except Fault α → Prop) (g : γ) : Action σ α → Prop
  | finished o => K g o
  | look next => ∀ v, P.sees g v → P.Meets K (next v) g v v
  | put _ _ => False
  | pause _ next => ∀ v, P.sees g v → P.Meets K next g v v

/-- With a note in `I`, the action keeps the pact, and ends with `K`. -/
def Leads (P : Pact σ γ) (I : γ → Prop) (x : Action σ α) (K : γ → Except Fault α → Prop) : Prop :=
  ∀ g, I g → P.Ready K g x

variable {P : Pact σ γ} {I J : γ → Prop} {x : Action σ α} {K L : γ → Except Fault α → Prop}
  {g g' : γ} {w₀ w : σ}

theorem meets_of_ready (hm : P.moves g w₀ g' w) (h : P.Ready K g' x) : P.Meets K x g w₀ w := by
  cases x with
  | finished o => exact ⟨g', hm, h⟩
  | look next => exact ⟨g', hm, h⟩
  | put v next => exact h.elim
  | pause wake next => exact ⟨g', hm, h⟩

theorem Meets.mono (h : P.Meets K x g w₀ w) (hK : ∀ g o, K g o → L g o) :
    P.Meets L x g w₀ w := by
  induction x generalizing g w₀ w with
  | finished o =>
    obtain ⟨g', hm, hk⟩ := h
    exact ⟨g', hm, hK g' o hk⟩
  | look next ih =>
    obtain ⟨g', hm, hn⟩ := h
    exact ⟨g', hm, fun v hv => ih v (hn v hv)⟩
  | put v next ih => exact ih h
  | pause wake next ih =>
    obtain ⟨g', hm, hn⟩ := h
    exact ⟨g', hm, fun v hv => ih (hn v hv)⟩

theorem Ready.mono (h : P.Ready K g x) (hK : ∀ g o, K g o → L g o) : P.Ready L g x := by
  cases x with
  | finished o => exact hK g o h
  | look next => exact fun v hv => (h v hv).mono hK
  | put v next => exact h.elim
  | pause wake next => exact fun v hv => (h v hv).mono hK

theorem Leads.mono (h : P.Leads I x K) (hK : ∀ g o, K g o → L g o) : P.Leads I x L :=
  fun g hg => (h g hg).mono hK

theorem Leads.weaken (h : P.Leads I x K) (hJ : ∀ g, J g → I g) : P.Leads J x K :=
  fun g hg => h g (hJ g hg)

/-! ### Rules -/

/-- An action ends with a note in `E` when it fails, and in `K` when it has a result. -/
def Ending (E : γ → Prop) (K : γ → α → Prop) (g : γ) : Except Fault α → Prop
  | .ok a => K g a
  | .error _ => E g

/-- What does not depend on the note. -/
theorem leads_of_fact {fact : Prop} (h : fact → P.Leads I x K) :
    P.Leads (fun g => I g ∧ fact) x K := fun g hg => h hg.2 g hg.1

theorem leads_finished {o : Except Fault α} (h : ∀ g, I g → K g o) : P.Leads I (finished o) K := h

theorem Meets.andThen {f : α → Action σ β} {K : γ → Except Fault α → Prop}
    {L : γ → Except Fault β → Prop} (h : P.Meets K x g w₀ w)
    (hf : ∀ a, P.Leads (fun g => K g (.ok a)) (f a) L)
    (he : ∀ g e, K g (.error e) → L g (.error e)) : P.Meets L (x.andThen f) g w₀ w := by
  induction x generalizing g w₀ w with
  | finished o =>
    obtain ⟨g', hm, hk⟩ := h
    cases o with
    | ok a => exact meets_of_ready hm (hf a g' hk)
    | error e => exact ⟨g', hm, he g' e hk⟩
  | look next ih =>
    obtain ⟨g', hm, hn⟩ := h
    exact ⟨g', hm, fun v hv => ih v (hn v hv)⟩
  | put v next ih => exact ih h
  | pause wake next ih =>
    obtain ⟨g', hm, hn⟩ := h
    exact ⟨g', hm, fun v hv => ih (hn v hv)⟩

/-- One action after the other. -/
theorem Leads.andThen {f : α → Action σ β} {K : γ → Except Fault α → Prop}
    {L : γ → Except Fault β → Prop} (h : P.Leads I x K)
    (hf : ∀ a, P.Leads (fun g => K g (.ok a)) (f a) L)
    (he : ∀ g e, K g (.error e) → L g (.error e)) : P.Leads I (x.andThen f) L := by
  intro g hg
  have hx := h g hg
  cases x with
  | finished o =>
    cases o with
    | ok a => exact hf a g hx
    | error e => exact he g e hx
  | look next => exact fun v hv => (hx v hv).andThen hf he
  | put v next => exact hx.elim
  | pause wake next => exact fun v hv => (hx v hv).andThen hf he

/-- One action after the other, as far as the first one has a result. -/
theorem Leads.bind {f : α → Action σ β} {E F : γ → Prop} {K : γ → α → Prop} {L : γ → β → Prop}
    (h : P.Leads I x (Ending E K)) (hf : ∀ a, P.Leads (fun g => K g a) (f a) (Ending F L))
    (he : ∀ g, E g → F g) : P.Leads I (x.andThen f) (Ending F L) :=
  h.andThen hf fun g _ hg => he g hg

theorem Meets.attempt (h : P.Meets K x g w₀ w) :
    P.Meets (fun g o => ∃ o', K g o' ∧ o = .ok o') x.attempt g w₀ w := by
  induction x generalizing g w₀ w with
  | finished o =>
    obtain ⟨g', hm, hk⟩ := h
    exact ⟨g', hm, o, hk, rfl⟩
  | look next ih =>
    obtain ⟨g', hm, hn⟩ := h
    exact ⟨g', hm, fun v hv => ih v (hn v hv)⟩
  | put v next ih => exact ih h
  | pause wake next ih =>
    obtain ⟨g', hm, hn⟩ := h
    exact ⟨g', hm, fun v hv => ih (hn v hv)⟩

/-- The outcome of an action as a value. -/
theorem Leads.attempt (h : P.Leads I x K) :
    P.Leads I x.attempt (fun g o => ∃ o', K g o' ∧ o = .ok o') := by
  intro g hg
  have hx := h g hg
  cases x with
  | finished o => exact ⟨o, hx, rfl⟩
  | look next => exact fun v hv => (hx v hv).attempt
  | put v next => exact hx.elim
  | pause wake next => exact fun v hv => (hx v hv).attempt

/-- An action, and whatever its outcome another one, which does not fail. -/
theorem Leads.ensuring {close : Action σ Unit} (h : P.Leads I x K)
    (hc : ∀ o, P.Leads (fun g => K g o) close fun g o' => o' = .ok () ∧ L g o) :
    P.Leads I (x.ensuring close) L := by
  refine h.attempt.andThen (fun o => ?_) fun g e he => ?_
  · refine Leads.weaken (Leads.andThen (hc o) (fun _ => leads_finished fun g hg => hg.2) ?_) ?_
    · exact fun g e he => nomatch he.1
    · rintro g ⟨o', hk, ho⟩
      rw [Except.ok.inj ho]
      exact hk
  · obtain ⟨o', -, ho⟩ := he
    exact nomatch ho

/-- A look at the world, and what depends on it. -/
theorem leads_look {next : σ → Action σ α}
    (h : ∀ g v, I g → P.sees g v → P.Meets K (next v) g v v) : P.Leads I (look next) K :=
  fun g hg v hv => h g v hg hv

/-- A computation on the world, as one step. -/
theorem leads_ofState {f : σ → α × σ}
    (h : ∀ g v, I g → P.sees g v → ∃ g', P.moves g v g' (f v).2 ∧ K g' (.ok (f v).1)) :
    P.Leads I (Action.ofState f) K := fun g hg v hv => h g v hg hv

/-- A computation on a part of the world, which may fail, as one step. -/
theorem leads_tryPart [Holds σ ρ] {f : ρ → Except Fault α × ρ}
    (h : ∀ g v, I g → P.sees g v →
      ∃ g', P.moves g v g' (Holds.replace v (f (Holds.part v)).2) ∧ K g' (f (Holds.part v)).1) :
    P.Leads I (Action.tryPart f) K := by
  refine fun g hg v hv => ?_
  obtain ⟨g', hm, hk⟩ := h g v hg hv
  exact ⟨g', hm, hk⟩

/-! ### Idle actions -/

/-- Steps that change nothing that matters to `same` are always allowed. -/
structure Ignores (P : Pact σ γ) (same : σ → σ → Prop) : Prop where
  refl : ∀ w, same w w
  trans : ∀ {u v w}, same u v → same v w → same u w
  allows : ∀ {g w w'}, P.sees g w → same w w' → P.moves g w g w'

section Idle

variable {same : σ → σ → Prop} (hP : P.Ignores same)
include hP

theorem meets_of_idleFrom (hi : x.IdleFrom same w) (hg : I g) (hs : P.sees g w₀)
    (hw : same w₀ w) : P.Meets (fun g o => I g ∧ x.MayEnd o) x g w₀ w := by
  induction x generalizing w₀ w with
  | finished o => exact ⟨g, hP.allows hs hw, hg, .finished o⟩
  | look next ih =>
    refine ⟨g, hP.allows hs hw, fun v hv => ?_⟩
    exact (ih v (hi v) hv (hP.refl v)).mono fun g o h => ⟨h.1, .look v h.2⟩
  | put v next ih =>
    exact (ih hi.2 hs (hP.trans hw hi.1)).mono fun g o h => ⟨h.1, .put h.2⟩
  | pause wake next ih =>
    refine ⟨g, hP.allows hs hw, fun v hv => ?_⟩
    exact (ih (hi v) hv (hP.refl v)).mono fun g o h => ⟨h.1, .pause h.2⟩

/-- **An action that changes nothing that matters keeps its note**, and ends as it may. -/
theorem leads_of_idle (hi : x.Idle same) : P.Leads I x fun g o => I g ∧ x.MayEnd o := by
  intro g hg
  cases x with
  | finished o => exact ⟨hg, .finished o⟩
  | look next =>
    refine fun v hv => ?_
    exact (meets_of_idleFrom hP (hi v v) hg hv (hP.refl v)).mono fun g o h => ⟨h.1, .look v h.2⟩
  | put v next => exact hi.elim
  | pause wake next =>
    refine fun v hv => ?_
    exact (meets_of_idleFrom hP (hi v v) hg hv (hP.refl v)).mono fun g o h => ⟨h.1, .pause h.2⟩

/-- An action that changes nothing that matters, and then another one.  It may fail as it does. -/
theorem leads_idle_bind {f : α → Action σ β} {L : γ → Except Fault β → Prop} (hi : x.Idle same)
    (hf : ∀ a, x.MayEnd (.ok a) → P.Leads I (f a) L)
    (he : ∀ g e, I g → x.MayEnd (.error e) → L g (.error e)) : P.Leads I (x.andThen f) L := by
  refine (leads_of_idle hP hi).andThen (fun a g hg => ?_) fun g e hg => he g e hg.1 hg.2
  exact hf a hg.2 g hg.1

/-- An action that changes nothing that matters, and then another one. -/
theorem leads_idle_andThen {f : α → Action σ β} {L : γ → Except Fault β → Prop} (hi : x.Idle same)
    (hf : ∀ a, x.MayEnd (.ok a) → P.Leads I (f a) L) (he : ∀ g e, I g → L g (.error e)) :
    P.Leads I (x.andThen f) L :=
  leads_idle_bind hP hi hf fun g e hg _ => he g e hg

end Idle

/-! ### Steps -/

theorem Meets.settle (h : P.Meets K x g w₀ w) :
    ∃ g', P.moves g w₀ g' (x.settle w).2 ∧ P.Ready K g' (x.settle w).1 := by
  induction x generalizing w with
  | finished o => exact h
  | look next => exact h
  | put v next ih => exact ih h
  | pause wake next => exact h

/-- One step of an action keeps the pact. -/
theorem Ready.step (h : P.Ready K g x) (hs : P.sees g w) (hx : x.isOver = false) :
    ∃ g', P.moves g w g' (x.step w).2 ∧ P.Ready K g' (x.step w).1 := by
  cases x with
  | finished o => exact nomatch hx
  | look next => exact (h w hs).settle
  | put v next => exact h.elim
  | pause wake next => exact (h w hs).settle

end Pact

/-! ### Crews -/

/-- Where actions work: what each of them sees of a larger world, and what it changes there. -/
structure Places (ω σ : Type) where
  view : Nat → ω → σ
  update : Nat → ω → σ → ω

/-- All actions see the whole world. -/
def Places.whole : Places σ σ := ⟨fun _ w => w, fun _ _ w => w⟩

/-- Actions that take turns in a world. -/
structure Crew (ω σ α : Type) where
  world : ω
  tasks : List (Action σ α)

namespace Crew

variable {ω : Type}

/-- The world and the actions after one step of an action. -/
def turn (places : Places ω σ) (c : Crew ω σ α) (i : Nat) (x : Action σ α) : Crew ω σ α :=
  ⟨places.update i c.world (x.step (places.view i c.world)).2,
    c.tasks.set i (x.step (places.view i c.world)).1⟩

/-- Steps of the actions in any order, and of others in between.  The steps leave a trace: what is
`seen` of each of them. -/
inductive Run (places : Places ω σ) (others : ω → ω → Prop) (seen : Nat → ω → ω → List τ)
    (start : Crew ω σ α) : List τ → Crew ω σ α → Prop
  | start : Run places others seen start [] start
  | turn {trace : List τ} {c : Crew ω σ α} {i : Nat} {x : Action σ α} :
    Run places others seen start trace c → c.tasks[i]? = some x → x.isOver = false →
    Run places others seen start (trace ++ seen i c.world (c.turn places i x).world)
      (c.turn places i x)
  | others {trace : List τ} {c : Crew ω σ α} {w : ω} :
    Run places others seen start trace c → others c.world w →
    Run places others seen start trace ⟨w, c.tasks⟩

variable {places : Places ω σ} {others : ω → ω → Prop} {seen : Nat → ω → ω → List τ}
  {pacts : Nat → Pact σ γ} {K : Nat → γ → Except Fault α → Prop}
  {inv : List γ → List τ → ω → Prop} {start c : Crew ω σ α} {trace : List τ}

/-- All actions are ready to go on, each with its pact and its note. -/
def Aligned (pacts : Nat → Pact σ γ) (K : Nat → γ → Except Fault α → Prop) (notes : List γ)
    (tasks : List (Action σ α)) : Prop :=
  ∀ i x, tasks[i]? = some x → ∃ g, notes[i]? = some g ∧ (pacts i).Ready (K i) g x

theorem Aligned.set {notes : List γ} {tasks : List (Action σ α)} {i : Nat} {g : γ}
    {x : Action σ α} (h : Aligned pacts K notes tasks) (hx : (pacts i).Ready (K i) g x) :
    Aligned pacts K (notes.set i g) (tasks.set i x) := by
  intro j y hy
  by_cases hj : i = j
  · subst hj
    have hi : i < tasks.length := by
      have := (List.getElem?_eq_some_iff.mp hy).1
      rwa [List.length_set] at this
    obtain ⟨g', hg', -⟩ := h i _ (List.getElem?_eq_getElem hi)
    rw [List.getElem?_set_self hi] at hy
    refine ⟨g, List.getElem?_set_self (List.getElem?_eq_some_iff.mp hg').1, ?_⟩
    rw [← Option.some.inj hy]
    exact hx
  · rw [List.getElem?_set_ne hj] at hy
    obtain ⟨g', hg', hready⟩ := h j y hy
    exact ⟨g', by rwa [List.getElem?_set_ne hj], hready⟩

/-- The pact of each entry of a list; nobody is anywhere else. -/
def pactsOf (l : List β) (pact : β → Pact σ γ) (i : Nat) : Pact σ γ :=
  (l[i]?).elim ⟨fun _ _ => True, fun _ _ _ _ => False⟩ pact

/-- How each entry of a list ends. -/
def endsOf (l : List β) (ends : β → γ → Except Fault α → Prop) (i : Nat) (g : γ)
    (o : Except Fault α) : Prop :=
  ∀ b, l[i]? = some b → ends b g o

section Entries

variable {l : List β} {pact : β → Pact σ γ} {ends : β → γ → Except Fault α → Prop}
  {begin : β → Action σ α} {i : Nat} {b : β} {g : γ}

theorem pactsOf_eq (h : l[i]? = some b) : pactsOf l pact i = pact b := by
  unfold pactsOf
  rw [h]
  rfl

/-- Where there is a note, there is an entry that it belongs to. -/
theorem entry_of_note {notes : List γ} (hlength : notes.length = l.length)
    (hg : notes[i]? = some g) : ∃ b, l[i]? = some b := by
  have hi := (List.getElem?_eq_some_iff.mp hg).1
  rw [hlength] at hi
  exact ⟨l[i], List.getElem?_eq_getElem hi⟩

/-- The actions of all entries are ready to begin, each with the same note. -/
theorem aligned_map (h : ∀ b ∈ l, (pact b).Ready (ends b) g (begin b)) :
    Aligned (pactsOf l pact) (endsOf l ends) (l.map fun _ => g) (l.map begin) := by
  intro i x hx
  obtain ⟨b, hb, rfl⟩ := Option.map_eq_some_iff.mp ((List.getElem?_map ..).symm.trans hx)
  refine ⟨g, by rw [List.getElem?_map, hb]; rfl, ?_⟩
  rw [pactsOf_eq hb]
  refine (h b (List.mem_of_getElem? hb)).mono fun g' o ho b' hb' => ?_
  rw [hb] at hb'
  rwa [← Option.some.inj hb']

end Entries

/-- **Actions that keep their pacts keep what their pacts keep**, as long as the trace is one that is
allowed.  An invariant of notes, trace and world under which every action finds what it may rely on,
and which the changes allowed by the pacts preserve, holds in whatever order the actions take their
turns. -/
theorem keeps_while (allowed : List τ → Prop)
    (hshorter : ∀ {trace more}, allowed (trace ++ more) → allowed trace) {notes : List γ}
    (hinv : inv notes [] start.world) (hready : Aligned pacts K notes start.tasks)
    (hsees : ∀ {notes trace w i g}, inv notes trace w → notes[i]? = some g →
      (pacts i).sees g (places.view i w))
    (hmoves : ∀ {notes trace w i g g' v}, allowed trace → inv notes trace w → notes[i]? = some g →
      (pacts i).moves g (places.view i w) g' v →
      inv (notes.set i g') (trace ++ seen i w (places.update i w v)) (places.update i w v))
    (hothers : ∀ {notes trace w w'}, inv notes trace w → others w w' → inv notes trace w')
    (hrun : Run places others seen start trace c) (hallowed : allowed trace) :
    ∃ notes, inv notes trace c.world ∧ Aligned pacts K notes c.tasks := by
  induction hrun with
  | start => exact ⟨notes, hinv, hready⟩
  | others _ hw ih =>
    obtain ⟨notes, hi, hr⟩ := ih hallowed
    exact ⟨notes, hothers hi hw, hr⟩
  | @turn trace c i x _ hx hover ih =>
    obtain ⟨notes, hi, hr⟩ := ih (hshorter hallowed)
    obtain ⟨g, hg, hx'⟩ := hr i x hx
    obtain ⟨g', hm, hnext⟩ := hx'.step (hsees hi hg) hover
    exact ⟨notes.set i g', hmoves (hshorter hallowed) hi hg hm, hr.set hnext⟩

/-- Actions that keep their pacts keep what their pacts keep. -/
theorem keeps {notes : List γ} (hinv : inv notes [] start.world)
    (hready : Aligned pacts K notes start.tasks)
    (hsees : ∀ {notes trace w i g}, inv notes trace w → notes[i]? = some g →
      (pacts i).sees g (places.view i w))
    (hmoves : ∀ {notes trace w i g g' v}, inv notes trace w → notes[i]? = some g →
      (pacts i).moves g (places.view i w) g' v →
      inv (notes.set i g') (trace ++ seen i w (places.update i w v)) (places.update i w v))
    (hothers : ∀ {notes trace w w'}, inv notes trace w → others w w' → inv notes trace w')
    (hrun : Run places others seen start trace c) :
    ∃ notes, inv notes trace c.world ∧ Aligned pacts K notes c.tasks :=
  keeps_while (fun _ => True) (fun _ => trivial) hinv hready hsees (fun _ => hmoves) hothers hrun
    trivial

/-- Actions that are over stay in their places. -/
theorem Run.length_tasks (h : Run places others seen start trace c) :
    c.tasks.length = start.tasks.length := by
  induction h with
  | start => rfl
  | turn _ _ _ ih => exact (List.length_set ..).trans ih
  | others _ _ ih => exact ih

/-! ### Orders of turns -/

/-- Gives turns in an order, and to nobody else; whoever is over is passed by. -/
def drive (places : Places ω σ) (seen : Nat → ω → ω → List τ) :
    List Nat → Crew ω σ α → List τ × Crew ω σ α
  | [], c => ([], c)
  | i :: more, c =>
    match c.tasks[i]? with
    | none => drive places seen more c
    | some x =>
      if x.isOver then drive places seen more c
      else
        let next := c.turn places i x
        let (trace, last) := drive places seen more next
        (seen i c.world next.world ++ trace, last)

theorem Run.drive (h : Run places others seen start trace c) (order : List Nat) :
    Run places others seen start (trace ++ (Crew.drive places seen order c).1)
      (Crew.drive places seen order c).2 := by
  induction order generalizing trace c with
  | nil => rwa [Crew.drive, List.append_nil]
  | cons i more ih =>
    unfold Crew.drive
    cases hx : c.tasks[i]? with
    | none => exact ih h
    | some x =>
      dsimp only
      cases hover : x.isOver with
      | true => exact ih h
      | false =>
        have hnext := ih (h.turn hx hover)
        rwa [List.append_assoc] at hnext

theorem run_drive (order : List Nat) :
    Run places others seen c (drive places seen order c).1 (drive places seen order c).2 := by
  have h : Run places others seen c [] c := .start
  have hdrive := h.drive order
  rwa [List.nil_append] at hdrive

/-! ### Moves -/

/-- A step of a run: whose it is, and the world before and after. -/
structure Move (ω : Type) where
  job : Nat
  before : ω
  after : ω

/-- The trace that keeps all steps. -/
def record (i : Nat) (w w' : ω) : List (Move ω) := [⟨i, w, w'⟩]

end Crew

/-! ### Alone -/

namespace Action

section Alone

open Time (Clocked)

variable {σ α β : Type} [Clocked σ] (x : Action σ α) (f : α → Action σ β) (w : σ)

theorem run_andThen_of_ok {a : α} (h : (x.run w).1 = .ok a) :
    (x.andThen f).run w = (f a).run (x.run w).2 := by
  induction x generalizing w with
  | finished outcome =>
    obtain rfl : outcome = .ok a := h
    rfl
  | look next ih => exact ih w w h
  | put v next ih => exact ih v h
  | pause wake next ih => exact ih (wake.awaited w) h

theorem run_andThen_of_error {e : Fault} (h : (x.run w).1 = .error e) :
    (x.andThen f).run w = (.error e, (x.run w).2) := by
  induction x generalizing w with
  | finished outcome =>
    obtain rfl : outcome = .error e := h
    rfl
  | look next ih => exact ih w w h
  | put v next ih => exact ih v h
  | pause wake next ih => exact ih (wake.awaited w) h

theorem run_attempt : x.attempt.run w = (.ok (x.run w).1, (x.run w).2) := by
  induction x generalizing w with
  | finished outcome => rfl
  | look next ih => exact ih w w
  | put v next ih => exact ih v
  | pause wake next ih => exact ih (wake.awaited w)

/-- An attempt always comes to something, and what follows goes on with it. -/
theorem run_attempt_andThen (g : Except Fault α → Action σ β) :
    (x.attempt.andThen g).run w = (g (x.run w).1).run (x.run w).2 := by
  have hrun := run_attempt x w
  rw [run_andThen_of_ok x.attempt g w (congrArg Prod.fst hrun), hrun]

theorem run_andThen_result (g : α → β) :
    (x.andThen fun a => result (g a)).run w = ((x.run w).1.map g, (x.run w).2) := by
  cases h : (x.run w).1 with
  | ok a => rw [run_andThen_of_ok x _ w h]; rfl
  | error e => rw [run_andThen_of_error x _ w h]; rfl

section Idle

variable {same : σ → σ → Prop} (hrefl : ∀ w, same w w)
  (htrans : ∀ {u v w}, same u v → same v w → same u w)
  (hclock : ∀ (w : σ) (c : Time.Clock), same w (Clocked.setClock w c))
include hrefl htrans hclock

omit htrans in
theorem same_awaited (wake : Wake σ) : same w (wake.awaited w) := by
  unfold Wake.awaited
  split_ifs
  · exact hrefl w
  · split
    · exact hclock w _
    · exact hrefl w

variable {x}

theorem same_of_idleFrom (h : x.IdleFrom same w) : same w (x.run w).2 := by
  induction x generalizing w with
  | finished outcome => exact hrefl w
  | look next ih => exact ih w w (h w)
  | put v next ih => exact htrans h.1 (ih v h.2)
  | pause wake next ih =>
    exact htrans (same_awaited w hrefl hclock wake) (ih (wake.awaited w) (h (wake.awaited w)))

/-- **Alone, an action that changes nothing that matters leads to a world that is the same.** -/
theorem same_of_run (h : x.Idle same) : same w (x.run w).2 :=
  same_of_idleFrom w hrefl htrans hclock (h.idleFrom w)

end Idle

end Alone

end Action

end Parley
