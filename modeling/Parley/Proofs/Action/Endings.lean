import Mathlib.Tactic.SplitIfs
import Parley.Action

/-!
# Parley.Proofs.Action.Endings — how an action may end

`x.MayEnd o`: some answers of the world lead the action `x` to the outcome `o`.  Nothing is assumed
about the answers, so that others may do anything to the world between two looks at it, and what
holds of every possible ending holds under all circumstances.  `x.MayLeave own o own'` says the same
of an action with something of its own, which nobody else touches: it starts as `own` and ends as
`own'`.
-/

namespace Parley.Action

variable {σ τ ρ α β : Type}

/-- Some answers of the world lead to the outcome. -/
inductive MayEnd : Action σ α → Except Fault α → Prop
  | finished (o : Except Fault α) : MayEnd (finished o) o
  | look {next : σ → Action σ α} {o : Except Fault α} (w : σ) :
    MayEnd (next w) o → MayEnd (look next) o
  | put {w : σ} {next : Action σ α} {o : Except Fault α} : MayEnd next o → MayEnd (put w next) o
  | pause {wake : Wake σ} {next : Action σ α} {o : Except Fault α} :
    MayEnd next o → MayEnd (pause wake next) o

/-- Some answers of the world lead to the outcome, and what was `own` becomes `own'`. -/
inductive MayLeave : Action (σ × ρ) α → ρ → Except Fault α → ρ → Prop
  | finished (o : Except Fault α) (own : ρ) : MayLeave (finished o) own o own
  | look {next : σ × ρ → Action (σ × ρ) α} {own own' : ρ} {o : Except Fault α} (w : σ) :
    MayLeave (next (w, own)) own o own' → MayLeave (look next) own o own'
  | put {w : σ × ρ} {next : Action (σ × ρ) α} {own own' : ρ} {o : Except Fault α} :
    MayLeave next w.2 o own' → MayLeave (put w next) own o own'
  | pause {wake : Wake (σ × ρ)} {next : Action (σ × ρ) α} {own own' : ρ} {o : Except Fault α} :
    MayLeave next own o own' → MayLeave (pause wake next) own o own'

/-! ### Endings -/

section MayEnd

variable {x : Action σ α} {f : α → Action σ β} {o : Except Fault α}

@[simp] theorem mayEnd_finished {o' : Except Fault α} :
    (finished o : Action σ α).MayEnd o' ↔ o' = o := by
  refine ⟨fun h => ?_, fun h => h ▸ .finished o⟩
  cases h
  rfl

@[simp] theorem mayEnd_look {next : σ → Action σ α} :
    (Action.look next).MayEnd o ↔ ∃ w, (next w).MayEnd o := by
  refine ⟨fun h => ?_, fun ⟨w, h⟩ => .look w h⟩
  cases h with
  | look w h => exact ⟨w, h⟩

@[simp] theorem mayEnd_put {w : σ} : (Action.put w x).MayEnd o ↔ x.MayEnd o := by
  refine ⟨fun h => ?_, .put⟩
  cases h with
  | put h => exact h

@[simp] theorem mayEnd_pause {wake : Wake σ} : (Action.pause wake x).MayEnd o ↔ x.MayEnd o := by
  refine ⟨fun h => ?_, .pause⟩
  cases h with
  | pause h => exact h

@[simp] theorem mayEnd_result {a : α} : (result a : Action σ α).MayEnd o ↔ o = .ok a :=
  mayEnd_finished

@[simp] theorem mayEnd_fail {e : Fault} : (fail e : Action σ α).MayEnd o ↔ o = .error e :=
  mayEnd_finished

@[simp] theorem mayEnd_ofExcept {o' : Except Fault α} :
    (ofExcept o : Action σ α).MayEnd o' ↔ o' = o := mayEnd_finished

theorem mayEnd_andThen {o : Except Fault β} :
    (x.andThen f).MayEnd o ↔
      (∃ a, x.MayEnd (.ok a) ∧ (f a).MayEnd o) ∨ ∃ e, x.MayEnd (.error e) ∧ o = .error e := by
  induction x with
  | finished outcome => cases outcome <;> simp [andThen]
  | look next ih =>
    simp only [andThen, mayEnd_look, ih]
    constructor
    · rintro ⟨w, ⟨a, ha, hf⟩ | ⟨e, he, ho⟩⟩
      · exact .inl ⟨a, ⟨w, ha⟩, hf⟩
      · exact .inr ⟨e, ⟨w, he⟩, ho⟩
    · rintro (⟨a, ⟨w, ha⟩, hf⟩ | ⟨e, ⟨w, he⟩, ho⟩)
      · exact ⟨w, .inl ⟨a, ha, hf⟩⟩
      · exact ⟨w, .inr ⟨e, he, ho⟩⟩
  | put w next ih => simpa only [andThen, mayEnd_put] using ih
  | pause wake next ih => simpa only [andThen, mayEnd_pause] using ih

/-- Two actions one after the other end well only by way of a result of the first. -/
theorem mayEnd_andThen_ok {b : β} :
    (x.andThen f).MayEnd (.ok b) ↔ ∃ a, x.MayEnd (.ok a) ∧ (f a).MayEnd (.ok b) := by
  simp [mayEnd_andThen]

@[simp] theorem mayEnd_attempt {o : Except Fault (Except Fault α)} :
    x.attempt.MayEnd o ↔ ∃ o', x.MayEnd o' ∧ o = .ok o' := by
  induction x with
  | finished outcome => simp [attempt]
  | look next ih =>
    simp only [attempt, mayEnd_look, ih]
    exact ⟨fun ⟨w, o', h, ho⟩ => ⟨o', ⟨w, h⟩, ho⟩, fun ⟨o', ⟨w, h⟩, ho⟩ => ⟨w, o', h, ho⟩⟩
  | put w next ih => simpa only [attempt, mayEnd_put] using ih
  | pause wake next ih => simpa only [attempt, mayEnd_pause] using ih

theorem mayEnd_mapFault_ok {g : Fault → Fault} {a : α} :
    (x.mapFault g).MayEnd (.ok a) ↔ x.MayEnd (.ok a) := by
  unfold mapFault recover
  rw [mayEnd_andThen_ok]
  constructor
  · rintro ⟨outcome, hx, h⟩
    obtain ⟨o', hx, ho⟩ := mayEnd_attempt.mp hx
    rw [Except.ok.inj ho] at h
    cases o' with
    | ok b =>
      rw [mayEnd_result.mp h]
      exact hx
    | error e => exact nomatch mayEnd_fail.mp h
  · intro h
    exact ⟨.ok a, mayEnd_attempt.mpr ⟨_, h, rfl⟩, mayEnd_result.mpr rfl⟩

theorem mayEnd_update [Holds σ ρ] {f : ρ → ρ} {o : Except Fault Unit}
    (h : (update f : Action σ Unit).MayEnd o) : o = .ok () := by
  obtain ⟨w, h⟩ := mayEnd_look.mp h
  exact mayEnd_result.mp (mayEnd_put.mp h)

theorem mayEnd_of_through {x : Action σ α} {get : τ → σ} {set : τ → σ → τ}
    (h : (x.through get set).MayEnd o) : x.MayEnd o := by
  induction x with
  | finished outcome => exact mayEnd_finished.mpr (mayEnd_finished.mp h)
  | look next ih =>
    obtain ⟨w, h⟩ := mayEnd_look.mp h
    exact .look (get w) (ih (get w) h)
  | put part next ih =>
    obtain ⟨w, h⟩ := mayEnd_look.mp h
    exact .put (ih (mayEnd_put.mp h))
  | pause wake next ih => exact .pause (ih (mayEnd_pause.mp h))

theorem mayEnd_of_inside [Holds τ σ] (h : (x.inside : Action τ α).MayEnd o) : x.MayEnd o :=
  mayEnd_of_through h

theorem Timed.ofOutcome_inj {o o' : Except Fault α} (h : Timed.ofOutcome o = .ofOutcome o') :
    o = o' := by
  cases o <;> cases o' <;> simp_all [Timed.ofOutcome]

section Limit

variable [Time.Clocked σ]

/-- What ends within a limit ends as it may without one. -/
theorem mayEnd_of_upTo {start limit : Time.Seconds} (h : (x.upTo start limit).MayEnd
    (.ok (.ofOutcome o))) : x.MayEnd o := by
  induction x with
  | finished outcome =>
    rw [Timed.ofOutcome_inj (Except.ok.inj (mayEnd_finished.mp h))]
    exact .finished outcome
  | look next ih =>
    obtain ⟨w, h⟩ := mayEnd_look.mp h
    exact .look w (ih w h)
  | put w next ih => exact .put (ih (mayEnd_put.mp h))
  | pause wake next ih =>
    unfold upTo at h
    split_ifs at h
    · exact .pause (ih (mayEnd_pause.mp h))
    · obtain ⟨w, h⟩ := mayEnd_look.mp (mayEnd_pause.mp h)
      split_ifs at h
      · exact .pause (ih h)
      · have hlate := Except.ok.inj (mayEnd_finished.mp h)
        cases o <;> exact nomatch hlate

theorem mayEnd_of_within {span : Time.Seconds}
    (h : (within span x).MayEnd (.ok (.ofOutcome o))) : x.MayEnd o := by
  obtain ⟨w, h⟩ := mayEnd_look.mp h
  obtain ⟨-, -, h⟩ := mayEnd_andThen_ok.mp h
  obtain ⟨t, hbody, h⟩ := mayEnd_andThen_ok.mp h
  obtain ⟨-, -, h⟩ := mayEnd_andThen_ok.mp h
  obtain ⟨-, -, h⟩ := mayEnd_andThen_ok.mp h
  rw [← Except.ok.inj (mayEnd_result.mp h)] at hbody
  split_ifs at hbody
  · have hlate := Except.ok.inj (mayEnd_result.mp hbody)
    cases o <;> exact nomatch hlate
  · exact mayEnd_of_upTo hbody

/-- What has a limit never fails: that too is an outcome of it. -/
theorem mayEnd_upTo {start limit : Time.Seconds} {o : Except Fault (Timed α)}
    (h : (x.upTo start limit).MayEnd o) : ∃ t, o = .ok t := by
  induction x with
  | finished outcome => exact ⟨_, mayEnd_finished.mp h⟩
  | look next ih =>
    obtain ⟨w, h⟩ := mayEnd_look.mp h
    exact ih w h
  | put w next ih => exact ih (mayEnd_put.mp h)
  | pause wake next ih =>
    unfold upTo at h
    split_ifs at h
    · exact ih (mayEnd_pause.mp h)
    · obtain ⟨w, h⟩ := mayEnd_look.mp (mayEnd_pause.mp h)
      split_ifs at h
      · exact ih h
      · exact ⟨_, mayEnd_finished.mp h⟩

theorem mayEnd_within {span : Time.Seconds} {o : Except Fault (Timed α)}
    (h : (within span x).MayEnd o) : ∃ t, o = .ok t := by
  have hturn {β : Type} {y : Action σ β} {o : Except Fault β}
      (h : (giveWay.andThen fun _ => y).MayEnd o) : y.MayEnd o := mayEnd_pause.mp h
  obtain ⟨w, h⟩ := mayEnd_look.mp h
  rcases mayEnd_andThen.mp (hturn h) with ⟨t, -, h⟩ | ⟨e, hbody, -⟩
  · exact ⟨t, mayEnd_result.mp (hturn (hturn h))⟩
  · split_ifs at hbody
    · exact nomatch mayEnd_result.mp hbody
    · obtain ⟨t, ht⟩ := mayEnd_upTo hbody
      exact nomatch ht

/-- Done alone, an action ends in one of the possible ways. -/
theorem mayEnd_run (x : Action σ α) (w : σ) : x.MayEnd (x.run w).1 := by
  induction x generalizing w with
  | finished outcome => exact .finished outcome
  | look next ih => exact .look w (ih w w)
  | put v next ih => exact .put (ih v)
  | pause wake next ih => exact .pause (ih (wake.awaited w))

end Limit

/-- A moment that is asked for is one that text can hold. -/
theorem proper_of_now [Time.Clocked σ] {moment : Time.Moment}
    (h : (now : Action σ Time.Moment).MayEnd (.ok moment)) : moment.Proper := by
  obtain ⟨w, h⟩ := mayEnd_look.mp h
  rw [Except.ok.inj (mayEnd_result.mp h)]
  exact Time.Clock.proper_now _

end MayEnd

/-! ### Endings that leave something -/

section MayLeave

variable {x : Action (σ × ρ) α} {f : α → Action (σ × ρ) β} {own own' : ρ}

/-- Whatever else becomes of the world, an action leaves its own thing as it may. -/
theorem mayEnd_withOwn {a : α} :
    (x.withOwn own).MayEnd (.ok (a, own')) ↔ x.MayLeave own (.ok a) own' := by
  induction x generalizing own with
  | finished outcome =>
    constructor
    · intro h
      have h := mayEnd_finished.mp h
      cases outcome with
      | ok b =>
        obtain ⟨rfl, rfl⟩ := Prod.mk.inj (Except.ok.inj h)
        exact .finished _ _
      | error e => exact nomatch h
    · intro h
      cases h
      exact .finished _
  | look next ih =>
    constructor
    · intro h
      obtain ⟨w, h⟩ := mayEnd_look.mp h
      exact .look w ((ih (w, own)).mp h)
    · intro h
      cases h with
      | look w h => exact .look w ((ih (w, own)).mpr h)
  | put w next ih =>
    constructor
    · intro h
      exact .put (ih.mp (mayEnd_put.mp h))
    · intro h
      cases h with
      | put h => exact .put (ih.mpr h)
  | pause wake next ih =>
    constructor
    · intro h
      exact .pause (ih.mp (mayEnd_pause.mp h))
    · intro h
      cases h with
      | pause h => exact .pause (ih.mpr h)

theorem mayEnd_of_withOwn_error {e : Fault} (h : (x.withOwn own).MayEnd (.error e)) :
    x.MayEnd (.error e) := by
  induction x generalizing own with
  | finished outcome =>
    cases outcome with
    | ok a => exact nomatch mayEnd_finished.mp h
    | error f =>
      have hfault := Except.error.inj (mayEnd_finished.mp h)
      exact mayEnd_finished.mpr (congrArg Except.error hfault)
  | look next ih =>
    obtain ⟨w, h⟩ := mayEnd_look.mp h
    exact .look (w, own) (ih (w, own) h)
  | put w next ih => exact .put (ih (mayEnd_put.mp h))
  | pause wake next ih => exact .pause (ih (mayEnd_pause.mp h))

theorem mayLeave_finished {o o' : Except Fault α}
    (h : (finished o : Action (σ × ρ) α).MayLeave own o' own') : o' = o ∧ own' = own := by
  cases h
  exact ⟨rfl, rfl⟩

theorem mayLeave_look {next : σ × ρ → Action (σ × ρ) α} {o : Except Fault α}
    (h : (Action.look next).MayLeave own o own') : ∃ w, (next (w, own)).MayLeave own o own' := by
  cases h with
  | look w h => exact ⟨w, h⟩

theorem mayLeave_put {w : σ × ρ} {o : Except Fault α} (h : (Action.put w x).MayLeave own o own') :
    x.MayLeave w.2 o own' := by
  cases h with
  | put h => exact h

theorem mayLeave_pause {wake : Wake (σ × ρ)} {o : Except Fault α}
    (h : (Action.pause wake x).MayLeave own o own') : x.MayLeave own o own' := by
  cases h with
  | pause h => exact h

theorem mayLeave_andThen {b : β} (h : (x.andThen f).MayLeave own (.ok b) own') :
    ∃ a mid, x.MayLeave own (.ok a) mid ∧ (f a).MayLeave mid (.ok b) own' := by
  induction x generalizing own with
  | finished outcome =>
    cases outcome with
    | ok a => exact ⟨a, own, .finished _ _, h⟩
    | error e => exact nomatch (mayLeave_finished h).1
  | look next ih =>
    obtain ⟨w, h⟩ := mayLeave_look h
    obtain ⟨a, mid, hx, hf⟩ := ih (w, own) h
    exact ⟨a, mid, .look w hx, hf⟩
  | put w next ih =>
    obtain ⟨a, mid, hx, hf⟩ := ih (mayLeave_put h)
    exact ⟨a, mid, .put hx, hf⟩
  | pause wake next ih =>
    obtain ⟨a, mid, hx, hf⟩ := ih (mayLeave_pause h)
    exact ⟨a, mid, .pause hx, hf⟩

/-- What works on the rest of the world leaves the own thing alone. -/
theorem mayLeave_inside {x : Action σ α} {o : Except Fault α}
    (h : (x.inside : Action (σ × ρ) α).MayLeave own o own') : own' = own ∧ x.MayEnd o := by
  induction x with
  | finished outcome =>
    obtain ⟨ho, hown⟩ := mayLeave_finished h
    exact ⟨hown, mayEnd_finished.mpr ho⟩
  | look next ih =>
    obtain ⟨w, h⟩ := mayLeave_look h
    obtain ⟨hown, h⟩ := ih w h
    exact ⟨hown, .look w h⟩
  | put part next ih =>
    obtain ⟨w, h⟩ := mayLeave_look h
    obtain ⟨hown, h⟩ := ih (mayLeave_put h)
    exact ⟨hown, .put h⟩
  | pause wake next ih =>
    obtain ⟨hown, h⟩ := ih (mayLeave_pause h)
    exact ⟨hown, .pause h⟩

theorem mayLeave_giveWay {o : Except Fault Unit}
    (h : (giveWay : Action (σ × ρ) Unit).MayLeave own o own') : own' = own :=
  (mayLeave_finished (mayLeave_pause h)).2

/-- An action with a limit is not started, or leaves what it leaves when it is cut off. -/
theorem mayLeave_within [Time.Clocked σ] {span : Time.Seconds} {t : Timed α}
    (h : (within span x).MayLeave own (.ok t) own') :
    (own' = own ∧ ∃ elapsed, t = .late elapsed) ∨
      ∃ start limit, (x.upTo start limit).MayLeave own (.ok t) own' := by
  obtain ⟨w, h⟩ := mayLeave_look h
  obtain ⟨_, first, hstart, h⟩ := mayLeave_andThen h
  obtain ⟨t', second, hbody, h⟩ := mayLeave_andThen h
  obtain ⟨_, third, hturn, h⟩ := mayLeave_andThen h
  obtain ⟨_, fourth, hend, h⟩ := mayLeave_andThen h
  obtain ⟨ht, hown⟩ := mayLeave_finished h
  rw [mayLeave_giveWay hend, mayLeave_giveWay hturn] at hown
  rw [mayLeave_giveWay hstart] at hbody
  rw [Except.ok.inj ht, hown]
  split_ifs at hbody
  · obtain ⟨hlate, hsame⟩ := mayLeave_finished hbody
    exact .inl ⟨hsame, 0, Except.ok.inj hlate⟩
  · exact .inr ⟨_, _, hbody⟩

end MayLeave

end Parley.Action
