import Parley.Proofs.Action.Pact
import Parley.Proofs.Action.Endings

/-!
# Parley.Proofs.Action.Prompt — actions that ask for nothing but the time

An action is `Prompt` if it never pauses, so that a limit never cuts it off.  It `Tells` a function
of the time if it always comes to the value at some moment, and alone to the value at the present
one, in a world that stays as it is.  `Tells.within`: with some time to do it, a prompt action tells
under a limit what it tells without one.
-/

namespace Parley.Action

open Time (Clocked Moment Seconds)

variable {σ α β : Type}

/-- The action never pauses. -/
inductive Prompt : Action σ α → Prop
  | finished (o : Except Fault α) : Prompt (finished o)
  | look {next : σ → Action σ α} : (∀ w, Prompt (next w)) → Prompt (look next)
  | put {w : σ} {next : Action σ α} : Prompt next → Prompt (put w next)

theorem Prompt.andThen {x : Action σ α} {f : α → Action σ β} (hx : x.Prompt)
    (hf : ∀ a, (f a).Prompt) : (x.andThen f).Prompt := by
  induction hx with
  | finished o =>
    cases o with
    | ok a => exact hf a
    | error e => exact .finished _
  | look _ ih => exact .look ih
  | put _ ih => exact .put ih

variable [Clocked σ]

/-- The action comes to what a function makes of the time, whatever others do meanwhile.  Alone it
comes to that at once, and leaves the world as it is. -/
structure Tells (x : Action σ α) (value : Moment → Except Fault α) : Prop where
  ends : ∀ o, x.MayEnd o → ∃ now, o = value now
  alone : ∀ w, x.run w = (value (Clocked.clock w).now, w)

variable {x : Action σ α} {f : α → Action σ β} {value : Moment → Except Fault α}

theorem tells_finished (o : Except Fault α) : (finished o : Action σ α).Tells fun _ => o :=
  ⟨fun _ h => ⟨default, mayEnd_finished.mp h⟩, fun _ => rfl⟩

theorem prompt_now : (now : Action σ Moment).Prompt := .look fun _ => .finished _

theorem tells_now : (now : Action σ Moment).Tells .ok := by
  refine ⟨fun o h => ?_, fun _ => rfl⟩
  obtain ⟨w, h⟩ := mayEnd_look.mp h
  exact ⟨(Clocked.clock w).now, mayEnd_result.mp h⟩

theorem tells_giveWay : (giveWay : Action σ Unit).Tells fun _ => .ok () :=
  ⟨fun _ h => ⟨default, mayEnd_result.mp (mayEnd_pause.mp h)⟩, fun _ => rfl⟩

/-- What follows depends on the time only by way of what is told. -/
theorem Tells.andThen {v : Moment → Except Fault β} (hx : x.Tells value)
    (hf : ∀ now a, value now = .ok a → (f a).Tells fun _ => v now)
    (he : ∀ now e, value now = .error e → v now = .error e) : (x.andThen f).Tells v := by
  constructor
  · intro o h
    rcases mayEnd_andThen.mp h with ⟨a, ha, h⟩ | ⟨e, hfault, rfl⟩
    · obtain ⟨now, hvalue⟩ := hx.ends _ ha
      obtain ⟨-, ho⟩ := (hf now a hvalue.symm).ends o h
      exact ⟨now, ho⟩
    · obtain ⟨now, hvalue⟩ := hx.ends _ hfault
      exact ⟨now, (he now e hvalue.symm).symm⟩
  · intro w
    have hrun := hx.alone w
    cases hvalue : value (Clocked.clock w).now with
    | ok a =>
      rw [hvalue] at hrun
      rw [run_andThen_of_ok x f w (congrArg Prod.fst hrun), hrun]
      exact (hf _ a hvalue).alone w
    | error e =>
      rw [hvalue] at hrun
      rw [run_andThen_of_error x f w (congrArg Prod.fst hrun), hrun, he _ e hvalue]

/-- After what is told at any time, the time is still to be asked for. -/
theorem Tells.next {a : α} {v : Moment → Except Fault β} (hx : x.Tells fun _ => .ok a)
    (hf : (f a).Tells v) : (x.andThen f).Tells v := by
  constructor
  · intro o h
    rcases mayEnd_andThen.mp h with ⟨b, hb, h⟩ | ⟨e, he, rfl⟩
    · obtain ⟨-, hb⟩ := hx.ends _ hb
      rw [Except.ok.inj hb] at h
      exact hf.ends o h
    · obtain ⟨-, he⟩ := hx.ends _ he
      exact nomatch he
  · intro w
    have hrun := hx.alone w
    rw [run_andThen_of_ok x f w (congrArg Prod.fst hrun), hrun]
    exact hf.alone w

theorem Tells.map (hx : x.Tells value) (g : α → β) :
    (x.andThen fun a => finished (.ok (g a))).Tells fun now => (value now).map g := by
  refine hx.andThen (fun now a ha => ?_) fun now e he => ?_
  · rw [ha]
    exact tells_finished _
  · rw [he]
    rfl

/-! ### Faults -/

/-- At every moment there is a value. -/
def Returns (value : Moment → Except Fault α) : Prop := ∀ now, ∃ a, value now = .ok a

theorem Returns.mapError (h : Returns value) (g : Fault → Fault) :
    (fun now => (value now).mapError g) = value := by
  funext now
  obtain ⟨a, ha⟩ := h now
  rw [ha]
  rfl

theorem Tells.attempt (hx : x.Tells value) : x.attempt.Tells fun now => .ok (value now) := by
  constructor
  · intro o h
    obtain ⟨o', ho', ho⟩ := mayEnd_attempt.mp h
    obtain ⟨now, hvalue⟩ := hx.ends o' ho'
    exact ⟨now, by rw [ho, hvalue]⟩
  · intro w
    rw [run_attempt, hx.alone w]

theorem Tells.mapFault (hx : x.Tells value) (g : Fault → Fault) :
    (x.mapFault g).Tells fun now => (value now).mapError g := by
  unfold Action.mapFault recover
  refine hx.attempt.andThen (fun now o ho => ?_) fun now e he => nomatch he
  rw [Except.ok.inj ho]
  cases o with
  | ok a => exact tells_finished _
  | error e => exact tells_finished _

/-! ### Limits -/

theorem mayEnd_upTo_of_prompt (hx : x.Prompt) {start limit : Seconds}
    {o : Except Fault (Timed α)} (h : (x.upTo start limit).MayEnd o) :
    ∃ o', x.MayEnd o' ∧ o = .ok (.ofOutcome o') := by
  induction hx with
  | finished o' => exact ⟨o', .finished o', mayEnd_finished.mp h⟩
  | look _ ih =>
    obtain ⟨w, h⟩ := mayEnd_look.mp h
    obtain ⟨o', ho', ho⟩ := ih w h
    exact ⟨o', .look w ho', ho⟩
  | put _ ih =>
    obtain ⟨o', ho', ho⟩ := ih (mayEnd_put.mp h)
    exact ⟨o', .put ho', ho⟩

theorem run_upTo_of_prompt (hx : x.Prompt) (start limit : Seconds) (w : σ) :
    (x.upTo start limit).run w = (.ok (.ofOutcome (x.run w).1), (x.run w).2) := by
  induction hx generalizing w with
  | finished o => rfl
  | look _ ih => exact ih w w
  | put _ ih => exact ih _

/-- A prompt action is done before any limit. -/
theorem Tells.upTo (hx : x.Tells value) (hprompt : x.Prompt) (start limit : Seconds) :
    (x.upTo start limit).Tells fun now => .ok (.ofOutcome (value now)) := by
  constructor
  · intro o h
    obtain ⟨o', ho', ho⟩ := mayEnd_upTo_of_prompt hprompt h
    obtain ⟨now, hvalue⟩ := hx.ends o' ho'
    exact ⟨now, by rw [ho, hvalue]⟩
  · intro w
    rw [run_upTo_of_prompt hprompt, hx.alone w]

/-- Nothing is told by the turns that others have after an action with a limit. -/
theorem Tells.twoTurns (hx : x.Tells value) :
    (x.andThen fun a => giveWay.andThen fun _ => giveWay.andThen fun _ => result a).Tells value := by
  have hturns (a : α) : (giveWay.andThen fun _ => giveWay.andThen fun _ =>
      (result a : Action σ α)).Tells fun _ => .ok a :=
    tells_giveWay.next (tells_giveWay.next (tells_finished (.ok a)))
  refine hx.andThen (fun now a ha => ?_) fun now e he => he
  rw [ha]
  exact hturns a

/-- **With some time to do it, a prompt action tells under a limit what it tells without one.** -/
theorem Tells.within (hx : x.Tells value) (hprompt : x.Prompt) {span : Seconds} (hspan : 0 < span) :
    (x.within span).Tells fun now => .ok (.ofOutcome (value now)) := by
  have htime : ¬ span ≤ 0 := fun h => absurd (Seconds.lt_iff.mp hspan) (Int.not_lt.mpr h)
  have hbody (start : Seconds) := (tells_giveWay (σ := σ)).next
    (f := fun _ => (x.upTo start (start + span)).andThen fun outcome =>
      giveWay.andThen fun _ => giveWay.andThen fun _ => result outcome)
    (hx.upTo hprompt start (start + span)).twoTurns
  unfold Action.within
  simp only [if_neg htime]
  constructor
  · intro o h
    obtain ⟨w, h⟩ := mayEnd_look.mp h
    exact (hbody (Clocked.clock w).reading).ends o h
  · intro w
    exact (hbody (Clocked.clock w).reading).alone w

end Parley.Action
