import Parley.Proofs.Action.Pact

/-!
# Parley.Proofs.Action.Lawful — how an action may fail while an invariant holds

`Lawful inv x F K`: wherever the action `x` finds the invariant `inv`, it leaves it, and when it ends,
it has failed with a fault in `F` or has a result in `K`.  What others do in between does not matter as
long as they leave the invariant.  The rules follow the ways in which actions are put together.
`lawful_of_run`: at any time of any run of lawful actions, each of them comes to such an end if it is
left alone from then on.
-/

namespace Parley

open Time (Clocked)

variable {σ ρ α β τ : Type}

/-- A step from one world to the other leaves the invariant. -/
def Leaves (inv : σ → Prop) (w w' : σ) : Prop := inv w → inv w'

namespace Pact

/-- Whoever keeps this pact finds an invariant and leaves it. -/
def keeping (inv : σ → Prop) : Pact σ Unit := ⟨fun _ w => inv w, fun _ _ _ w => inv w⟩

theorem ignores_keeping (inv : σ → Prop) : (keeping inv).Ignores (Leaves inv) :=
  ⟨fun _ h => h, fun h h' hu => h' (h hu), fun hw h => h hw⟩

section Ended

variable {γ : Type} {P : Pact σ γ} {I : γ → Prop} {x : Action σ α}
  {K : γ → Except Fault α → Prop} {g : γ} {w₀ w : σ}

theorem Meets.mayEnd (h : P.Meets K x g w₀ w) :
    P.Meets (fun g o => K g o ∧ x.MayEnd o) x g w₀ w := by
  induction x generalizing g w₀ w with
  | finished o =>
    obtain ⟨g', hm, hk⟩ := h
    exact ⟨g', hm, hk, .finished o⟩
  | look next ih =>
    obtain ⟨g', hm, hn⟩ := h
    exact ⟨g', hm, fun v hv => (ih v (hn v hv)).mono fun _ _ ho => ⟨ho.1, .look v ho.2⟩⟩
  | put v next ih => exact (ih h).mono fun _ _ ho => ⟨ho.1, .put ho.2⟩
  | pause wake next ih =>
    obtain ⟨g', hm, hn⟩ := h
    exact ⟨g', hm, fun v hv => (ih (hn v hv)).mono fun _ _ ho => ⟨ho.1, .pause ho.2⟩⟩

/-- Whatever an action leads to, it ends in one of its possible ways. -/
theorem Leads.mayEnd (h : P.Leads I x K) : P.Leads I x fun g o => K g o ∧ x.MayEnd o := by
  intro g hg
  have hx := h g hg
  cases x with
  | finished o => exact ⟨hx, .finished o⟩
  | look next =>
    exact fun v hv => (hx v hv).mayEnd.mono fun _ _ ho => ⟨ho.1, .look v ho.2⟩
  | put v next => exact hx.elim
  | pause wake next =>
    exact fun v hv => (hx v hv).mayEnd.mono fun _ _ ho => ⟨ho.1, .pause ho.2⟩

end Ended

end Pact

namespace Action

/-- A failure with a fault in `F`, or a result in `K`. -/
def Comes (F : Fault → Prop) (K : α → Prop) : Except Fault α → Prop
  | .ok a => K a
  | .error f => F f

/-- The action finds and leaves an invariant, and fails with a fault in `F` or has a result in `K`. -/
def Lawful (inv : σ → Prop) (x : Action σ α) (F : Fault → Prop) (K : α → Prop) : Prop :=
  (Pact.keeping inv).Leads (fun _ => True) x fun _ o => Comes F K o

/-- The action never fails. -/
def Sure (x : Action σ α) : Prop := ∀ e, ¬ x.MayEnd (.error e)

section Sure

variable {x : Action σ α}

theorem sure_result (a : α) : Sure (result a : Action σ α) := fun _ h => nomatch mayEnd_result.mp h

/-- A look at the world, such as at a part of it or at its clock. -/
theorem sure_look (f : σ → α) : Sure (look fun w => result (f w)) := by
  intro e h
  obtain ⟨w, h⟩ := mayEnd_look.mp h
  exact sure_result _ e h

/-- A change of the world, such as of a part of it. -/
theorem sure_ofState (f : σ → α × σ) : Sure (ofState f) := by
  intro e h
  obtain ⟨w, h⟩ := mayEnd_look.mp h
  exact sure_result _ e (mayEnd_put.mp h)

theorem sure_pause (wake : Wake σ) (a : α) : Sure (pause wake (result a)) :=
  fun e h => sure_result a e (mayEnd_pause.mp h)

theorem Sure.andThen {f : α → Action σ β} (h : Sure x) (hf : ∀ a, Sure (f a)) :
    Sure (x.andThen f) := by
  intro e he
  rcases mayEnd_andThen.mp he with ⟨a, -, ha⟩ | ⟨e', hx, -⟩
  · exact hf a e ha
  · exact h e' hx

end Sure

section Rules

variable {inv : σ → Prop} {x : Action σ α} {F G : Fault → Prop} {K L : α → Prop}

theorem Comes.mono {o : Except Fault α} (h : Comes F K o) (hF : ∀ f, F f → G f)
    (hK : ∀ a, K a → L a) : Comes G L o := by
  cases o with
  | ok a => exact hK a h
  | error f => exact hF f h

theorem Lawful.mono (h : Lawful inv x F K) (hF : ∀ f, F f → G f) (hK : ∀ a, K a → L a) :
    Lawful inv x G L := Pact.Leads.mono h fun _ _ ho => ho.mono hF hK

theorem lawful_finished {o : Except Fault α} (h : Comes F K o) : Lawful inv (finished o) F K :=
  fun _ _ => h

theorem lawful_result {a : α} (h : K a) : Lawful inv (result a) F K := lawful_finished h

theorem lawful_fail {f : Fault} (h : F f) : Lawful inv (fail f : Action σ α) F K := lawful_finished h

theorem lawful_ofExcept {o : Except Fault α} (h : Comes F K o) : Lawful inv (ofExcept o) F K :=
  lawful_finished h

/-- What does not touch the invariant ends as it may. -/
theorem lawful_of_idle (hi : x.Idle (Leaves inv))
    (h : ∀ o, x.MayEnd o → Comes F K o) : Lawful inv x F K :=
  (Pact.leads_of_idle (Pact.ignores_keeping inv) hi).mono fun _ o ho => h o ho.2

/-- One action after the other. -/
theorem Lawful.andThen {f : α → Action σ β} {L : β → Prop} (h : Lawful inv x F K)
    (hf : ∀ a, K a → Lawful inv (f a) F L) : Lawful inv (x.andThen f) F L :=
  Pact.Leads.andThen h (fun a _ ha => hf a ha () trivial) fun _ _ he => he

/-- An action that does not touch the invariant, and another one after it. -/
theorem lawful_idle_andThen {f : α → Action σ β} {L : β → Prop}
    (hi : x.Idle (Leaves inv)) (he : Sure x)
    (hf : ∀ a, x.MayEnd (.ok a) → Lawful inv (f a) F L) : Lawful inv (x.andThen f) F L := by
  refine Lawful.andThen (K := fun a => x.MayEnd (.ok a)) (lawful_of_idle hi fun o ho => ?_) hf
  cases o with
  | ok a => exact ho
  | error e => exact absurd ho (he e)

/-- The outcome of an action as a value. -/
theorem Lawful.attempt (h : Lawful inv x F K) : Lawful inv x.attempt G (Comes F K) := by
  refine Pact.Leads.mono (Pact.Leads.attempt h) fun _ o ho => ?_
  obtain ⟨o', hcomes, rfl⟩ := ho
  exact hcomes

/-- A handler that takes all faults of an action. -/
theorem Lawful.recover {handler : Fault → Action σ α} (h : Lawful inv x F K)
    (hh : ∀ f, F f → Lawful inv (handler f) G K) : Lawful inv (x.recover handler) G K := by
  refine h.attempt.andThen fun o ho => ?_
  cases o with
  | ok a => exact lawful_result ho
  | error f => exact hh f ho

/-- An action, and one after it that never fails. -/
theorem Lawful.ensuring {close : Action σ Unit} (h : Lawful inv x F K)
    (hc : close.Idle (Leaves inv)) (he : Sure close) :
    Lawful inv (x.ensuring close) F K :=
  h.attempt.andThen fun _ ho => lawful_idle_andThen hc he fun _ _ => lawful_finished ho

/-- An action ends in one of its possible ways. -/
theorem Lawful.mayEnd (h : Lawful inv x F K) :
    Lawful inv x F fun a => K a ∧ x.MayEnd (.ok a) := by
  refine Pact.Leads.mono (Pact.Leads.mayEnd h) fun _ o ho => ?_
  cases o with
  | ok a => exact ho
  | error f => exact ho.1

/-- A look at a part of the world. -/
theorem lawful_view [Holds σ ρ] {K : ρ → Prop} (h : ∀ w, inv w → K (Holds.part w)) :
    Lawful inv (view ρ) F K :=
  Pact.leads_look fun _ w _ hw => ⟨(), hw, h w hw⟩

/-- A computation on a part of the world, which may fail, as one step. -/
theorem lawful_tryPart [Holds σ ρ] {f : ρ → Except Fault α × ρ}
    (h : ∀ w, inv w → inv (Holds.replace w (f (Holds.part w)).2) ∧
      Comes F K (f (Holds.part w)).1) : Lawful inv (tryPart f) F K :=
  Pact.leads_tryPart fun _ w _ hw => ⟨(), h w hw⟩

end Rules

/-! ### Runs -/

section Runs

variable [Clocked σ] {inv : σ → Prop} {x : Action σ α}
  (hclock : ∀ (w : σ) (c : Time.Clock), Leaves inv w (Clocked.setClock w c))
include hclock

theorem run_of_meets {K : Unit → Except Fault α → Prop} {w₀ w : σ}
    (h : (Pact.keeping inv).Meets K x () w₀ w) : inv (x.run w).2 ∧ K () (x.run w).1 := by
  induction x generalizing w₀ w with
  | finished o =>
    obtain ⟨_, hw, hk⟩ := h
    exact ⟨hw, hk⟩
  | look next ih =>
    obtain ⟨_, hw, hn⟩ := h
    exact ih w (hn w hw)
  | put v next ih => exact ih h
  | pause wake next ih =>
    obtain ⟨_, hw, hn⟩ := h
    have hsame : Leaves inv w (wake.awaited w) :=
      same_awaited w (fun _ h => h) hclock wake
    exact ih (hn _ (hsame hw))

/-- An action that is ready to go on comes to its end, if it is left alone. -/
theorem run_of_ready {K : Unit → Except Fault α → Prop} {w : σ}
    (h : (Pact.keeping inv).Ready K () x) (hw : inv w) : inv (x.run w).2 ∧ K () (x.run w).1 := by
  have hmeets : (Pact.keeping inv).Meets K x () w w := Pact.meets_of_ready hw h
  exact run_of_meets hclock hmeets

/-- There is a note for each entry, and the invariant holds. -/
def Noted (inv : σ → Prop) (entries : List β) (notes : List Unit) (_ : List τ) (w : σ) : Prop :=
  notes.length = entries.length ∧ inv w

variable {F : β → Fault → Prop} {K : β → α → Prop} {entries : List β} {begin : β → Action σ α}
  {seen : Nat → σ → σ → List τ} {start : σ} {trace : List τ} {c : Crew σ σ α}

/-- **Lawful actions stay lawful among themselves.**  In any order of turns, and among others who leave
the invariant, each of them is at any time on its way to one of its ends: left alone, it gets there. -/
theorem lawful_of_run (hlawful : ∀ b ∈ entries, Lawful inv (begin b) (F b) (K b))
    (hstart : inv start)
    (hrun : Crew.Run Places.whole (Leaves inv) seen
      ⟨start, entries.map begin⟩ trace c) :
    inv c.world ∧ ∀ (i : Nat) (b : β) (x : Action σ α), entries[i]? = some b →
      c.tasks[i]? = some x → ∀ w, inv w → inv (x.run w).2 ∧ Comes (F b) (K b) (x.run w).1 := by
  have hready : Crew.Aligned (Crew.pactsOf entries fun _ => Pact.keeping inv)
      (Crew.endsOf entries fun b _ o => Comes (F b) (K b) o) (entries.map fun _ => ())
      (entries.map begin) :=
    Crew.aligned_map fun b hb => hlawful b hb () trivial
  have hnoted : Noted inv entries (entries.map fun _ => ()) ([] : List τ) start :=
    ⟨List.length_map .., hstart⟩
  have hkept : ∃ notes, Noted inv entries notes trace c.world ∧
      Crew.Aligned (Crew.pactsOf entries fun _ => Pact.keeping inv)
        (Crew.endsOf entries fun b _ o => Comes (F b) (K b) o) notes c.tasks := by
    refine Crew.keeps hnoted hready (fun h hn => ?_) (fun h hn hmove => ?_)
      (fun h hothers => ⟨h.1, hothers h.2⟩) hrun
    · obtain ⟨b, hb⟩ := Crew.entry_of_note h.1 hn
      rw [Crew.pactsOf_eq hb]
      exact h.2
    · obtain ⟨b, hb⟩ := Crew.entry_of_note h.1 hn
      rw [Crew.pactsOf_eq hb] at hmove
      exact ⟨(List.length_set ..).trans h.1, hmove⟩
  obtain ⟨notes, ⟨-, hworld⟩, haligned⟩ := hkept
  refine ⟨hworld, fun i b x hb hx w hw => ?_⟩
  obtain ⟨g, -, hx⟩ := haligned i x hx
  rw [Crew.pactsOf_eq hb] at hx
  obtain ⟨hleft, hends⟩ := run_of_ready hclock hx hw
  exact ⟨hleft, hends b hb⟩

end Runs

-- Opened, the statement starts to evaluate its action, and a whole service is one.
attribute [irreducible] Lawful

end Action

end Parley
