import Parley.Proofs.Storage.Faces

/-!
# Parley.Proofs.Storage.Texts — a store that keeps texts compares and swaps

A store on a server holds the states that its texts stand for.  `swapping_remote`: it compares and
swaps, as the store of the process does, for states that are read back as they were written
(`Faithful`), whatever commands are planned to fail.  A state that cannot be written for its long
numbers or its depth is not stored.
-/

namespace Parley.Storage

open Conversation (State SessionKey)
open Time (Moment)

namespace Remote

variable {r r' : Remote} {name : String} {state : State} {expected : Int}

theorem found_of_entries (hstart : r'.keyStart = r.keyStart)
    (hentries : r'.server.entries = r.server.entries) : r'.found = r.found := by
  funext name
  unfold found Server.text?
  rw [hstart, hentries]

theorem keyStart_load (now : Moment) (key : SessionKey) (r : Remote) :
    (r.load now key).2.keyStart = r.keyStart := by
  unfold load
  split
  · rfl
  · dsimp only
    split <;> rfl

theorem keyStart_save (state : State) (expected : Int) (r : Remote) :
    (r.save state expected).2.keyStart = r.keyStart := by
  have hsame : SameAt "" r (r.begin state expected).2 := sameAt_begin state expected
  have hbegin := hsame.keyStart
  unfold save
  split
  · rename_i heq
    rwa [heq] at hbegin
  · rename_i heq
    rwa [heq] at hbegin
  · rename_i heq
    rw [heq] at hbegin
    unfold commit
    split <;> exact hbegin

theorem found_load (now : Moment) (key : SessionKey) (r : Remote) :
    (r.load now key).2.found = r.found :=
  found_of_entries (keyStart_load now key r) (entries_load now key)

/-- A write that was offered is made, if the command is not planned to fail. -/
theorem commit_cases {p : Pending} (hkey : p.key = r.keyStart ++ name)
    (hseen : p.seen = r.server.changeCount p.key) (expected : Int) :
    (∀ saved, (r.commit p expected).1 = .ok saved → saved.ok = false) ∨
      (r.commit p expected).1 = .ok (.stored p.version) ∧
        (r.commit p expected).2.found name = some p.entry.text ∧
        ∀ other, other ≠ name → (r.commit p expected).2.found other = r.found other := by
  unfold commit Server.execute Server.command
  cases r.server.errors.get? .execute with
  | some error =>
    refine .inl fun saved h => ?_
    cases error with
    | failed wording => exact nomatch h
    | raced wording => exact Except.ok.inj h ▸ rfl
  | none =>
    dsimp only
    rw [if_pos hseen.symm, hkey]
    exact .inr ⟨rfl, r.found_put name p.entry⟩

/-- A save of a faithful state either leaves everything as it was, and says so, or stores the text of
the state. -/
theorem save_cases (hstate : Faithful state) (hname : state.key.join = .ok name)
    {held : Option State} (hfound : r.found name = held.map shown)
    (hheld : ∀ s, held = some s → Readable s) (expected : Int) :
    ((r.save state expected).2.found = r.found ∧
        ∀ saved, (r.save state expected).1 = .ok saved → saved.ok = false) ∨
      heldVersion held = expected ∧ Readable { state with version := expected + 1 } ∧
        (r.save state expected).1 = .ok (.stored (.int (expected + 1))) ∧
        (r.save state expected).2.found name =
          some (shown { state with version := expected + 1 }) ∧
        ∀ other, other ≠ name → (r.save state expected).2.found other = r.found other := by
  by_cases hrefused : ∀ saved, (r.save state expected).1 = .ok saved → saved.ok = false
  · exact .inl ⟨found_of_entries (keyStart_save state expected r) (entries_save hrefused), hrefused⟩
  · refine .inr ?_
    by_cases hcalm : r.server.errors.get? .watch = none ∧ r.server.errors.get? .watchedGet = none
    · have hversion : storedVersion (r.server.text? (r.keyStart ++ name)) =
          .ok (.int (heldVersion held)) := by
        rw [show r.server.text? (r.keyStart ++ name) = held.map shown from hfound]
        exact storedVersion_shown hheld
      have hbegin := begin_of_unplanned hname expected hcalm.1 hcalm.2
      unfold save at hrefused ⊢
      rw [hbegin] at hrefused ⊢
      obtain ⟨f, hoffer⟩ | ⟨-, hoffer⟩ | ⟨hexpected, hreadable, hoffer⟩ :=
        r.offer_cases hversion (r.keyStart ++ name) (r.server.changeCount (r.keyStart ++ name)) hstate
          expected
      · rw [hoffer] at hrefused
        exact absurd (fun _ h => nomatch h) hrefused
      · rw [hoffer] at hrefused
        exact absurd (fun saved h => Except.ok.inj h ▸ rfl) hrefused
      · rw [hoffer] at hrefused ⊢
        dsimp only at hrefused ⊢
        have hkey : r.keyStart ++ name = r.keyStart ++ name := rfl
        obtain hno | hstored := commit_cases (r := r)
          (p := ⟨r.keyStart ++ name, r.server.changeCount (r.keyStart ++ name),
            ⟨shown { state with version := expected + 1 }, r.keptFor⟩, .int (expected + 1)⟩)
          hkey rfl expected
        · exact absurd hno hrefused
        · exact ⟨hexpected, hreadable, hstored⟩
    · obtain ⟨error, r', hbegin⟩ := begin_of_planned hname expected (not_and_or.mp hcalm)
      unfold save at hrefused
      rw [hbegin] at hrefused
      cases error with
      | failed wording => exact absurd (fun _ h => nomatch h) hrefused
      | raced wording => exact absurd (fun saved h => Except.ok.inj h ▸ rfl) hrefused

/-- A delete leaves all texts alone, or drops the one under the name. -/
theorem delete_cases {key : SessionKey} (hname : key.join = .ok name) (r : Remote) :
    (r.delete key).2.found = r.found ∨ (r.delete key).2.found name = none ∧
      ∀ other, other ≠ name → (r.delete key).2.found other = r.found other := by
  unfold delete
  rw [serverKey_eq hname]
  unfold Server.delete Server.command
  cases r.server.errors.get? .delete with
  | some error => exact .inl rfl
  | none =>
    dsimp only
    by_cases hthere : r.server.entries.has (r.keyStart ++ name) = true
    · rw [if_pos hthere]
      exact .inr (r.found_remove name)
    · rw [if_neg hthere]
      exact .inl rfl

end Remote

/-! ### The laws -/

/-- A store on a server whose texts are those of states. -/
def IsRemote (s : Store) : Prop :=
  ∃ r, s.backing = .remote r ∧
    ∀ name text, r.found name = some text → ∃ state, Readable state ∧ text = shown state

/-- A store on a server, whose saves store nothing when they fail. -/
def OnRemote (s : Store) : Prop := IsRemote s ∧ s.outage.lostAnswer = 0

/-- The state that the text in a store on a server stands for. -/
def onRemote (s : Store) (name : String) : Option State :=
  match s.backing with
  | .memory _ => none
  | .remote r => (r.found name).bind fun text => (Remote.decode ⟨0, none⟩ name text).toOption

section Laws

variable {s : Store} {r r' : Remote} {name : String} {state : State}

theorem onRemote_eq (h : s.backing = .remote r) (name : String) :
    onRemote s name = (r.found name).bind fun text =>
      (Remote.decode ⟨0, none⟩ name text).toOption := by
  unfold onRemote
  rw [h]

theorem onRemote_of_found (h : s.backing = .remote r) {held : Option State}
    (hfound : r.found name = held.map shown) (hheld : ∀ s, held = some s → Readable s) :
    onRemote s name = held := by
  rw [onRemote_eq h, hfound]
  cases held with
  | none => rfl
  | some state => simp [Remote.decode_shown (hheld state rfl), Except.toOption]

/-- What is found under a name is the text of the state that is held. -/
theorem IsRemote.found (hs : IsRemote s) (h : s.backing = .remote r) (name : String) :
    r.found name = (onRemote s name).map shown ∧ ∀ state, onRemote s name = some state →
      Readable state := by
  obtain ⟨r', hr', htexts⟩ := hs
  obtain rfl : r = r' := Backing.remote.inj (h.symm.trans hr')
  cases hfound : r.found name with
  | none =>
    have hnone : onRemote s name = none := onRemote_of_found h
      (show r.found name = Option.map shown none from hfound) fun _ h => nomatch h
    rw [hnone]
    exact ⟨rfl, fun _ h => nomatch h⟩
  | some text =>
    obtain ⟨state, hstate, rfl⟩ := htexts name text hfound
    have hsome : onRemote s name = some state :=
      onRemote_of_found h
        (show r.found name = Option.map shown (some state) from hfound)
        fun _ h => Option.some.inj h ▸ hstate
    rw [hsome]
    exact ⟨rfl, fun _ h => Option.some.inj h ▸ hstate⟩

/-- Stores with the same texts hold the same states. -/
theorem isRemote_of_found {u : Store} (hs : IsRemote s) (h : s.backing = .remote r)
    (h' : u.backing = .remote r') (hfound : r'.found = r.found) :
    IsRemote u ∧ onRemote u = onRemote s := by
  refine ⟨⟨r', h', fun name text htext => ?_⟩, funext fun name => ?_⟩
  · obtain ⟨r₀, hr₀, htexts⟩ := hs
    obtain rfl : r = r₀ := Backing.remote.inj (h.symm.trans hr₀)
    exact htexts name text (hfound ▸ htext)
  · rw [onRemote_eq h', onRemote_eq h, hfound]

/-- So do those that differ under one name, all others. -/
theorem isRemote_of_change {u : Store} (hs : IsRemote s) (h : s.backing = .remote r)
    (h' : u.backing = .remote r') {held : Option State} (hnew : r'.found name = held.map shown)
    (hheld : ∀ s, held = some s → Readable s)
    (hothers : ∀ other, other ≠ name → r'.found other = r.found other) :
    IsRemote u ∧ Replaces (onRemote s) (onRemote u) name held := by
  refine ⟨⟨r', h', fun other text htext => ?_⟩, onRemote_of_found h' hnew hheld, fun other ho => ?_⟩
  · by_cases ho : other = name
    · rw [ho, hnew] at htext
      obtain ⟨state, hstate, rfl⟩ := Option.map_eq_some_iff.mp htext
      exact ⟨state, hheld state hstate, rfl⟩
    · obtain ⟨r₀, hr₀, htexts⟩ := hs
      obtain rfl : r = r₀ := Backing.remote.inj (h.symm.trans hr₀)
      exact htexts other text (hothers other ho ▸ htext)
  · rw [onRemote_eq h', onRemote_eq h, hothers other ho]

theorem load_isRemote (hs : IsRemote s) (now : Moment) (key : SessionKey) :
    IsRemote (s.load now key).2 ∧ onRemote (s.load now key).2 = onRemote s ∧
      ∀ state name, key.join = .ok name → (s.load now key).1 = .ok state →
        state = onRemote s name := by
  obtain ⟨r, h, -⟩ := id hs
  unfold Store.load
  split_ifs with hout
  · exact ⟨hs, rfl, fun _ _ _ h => nomatch h⟩
  · rw [h]
    dsimp only [Backing.load]
    obtain ⟨hremote, hsame⟩ := isRemote_of_found (u := ⟨.remote (r.load now key).2, s.outage⟩) hs h rfl
      (Remote.found_load now key r)
    refine ⟨hremote, hsame, fun state name hname hload => ?_⟩
    obtain ⟨hfound, hreadable⟩ := hs.found h name
    unfold Remote.load at hload
    rw [Remote.serverKey_eq hname] at hload
    unfold Server.get Server.command at hload
    cases hplan : r.server.errors.get? .get with
    | some error =>
      rw [hplan] at hload
      exact nomatch hload
    | none =>
      rw [hplan] at hload
      dsimp only at hload
      rw [show r.server.text? (r.keyStart ++ name) = r.found name from rfl, hfound] at hload
      cases hheld : onRemote s name with
      | none =>
        rw [hheld] at hload
        exact (Except.ok.inj hload).symm
      | some held =>
        rw [hheld, Option.map_some] at hload
        dsimp only at hload
        rw [Remote.decode_shown (hreadable held hheld)] at hload
        exact (Except.ok.inj hload).symm

theorem delete_isRemote (hs : IsRemote s) (key : SessionKey) :
    IsRemote (s.delete key).2 ∧
      (onRemote (s.delete key).2 = onRemote s ∨
        ∃ name, key.join = .ok name ∧ Replaces (onRemote s) (onRemote (s.delete key).2) name none) := by
  obtain ⟨r, h, -⟩ := id hs
  unfold Store.delete
  split_ifs with hout
  · exact ⟨hs, .inl rfl⟩
  · rw [h]
    dsimp only [Backing.delete]
    cases hname : key.join with
    | error f =>
      have hsame : r.delete key = (.error f, r) := by
        unfold Remote.delete
        rw [Remote.serverKey_eq_error hname]
      rw [hsame]
      obtain ⟨hremote, heq⟩ := isRemote_of_found (u := ⟨.remote r, s.outage⟩) hs h rfl rfl
      exact ⟨hremote, .inl heq⟩
    | ok name =>
      rcases Remote.delete_cases hname r with hsame | ⟨hnone, hothers⟩
      · obtain ⟨hremote, heq⟩ :=
          isRemote_of_found (u := ⟨.remote (r.delete key).2, s.outage⟩) hs h rfl hsame
        exact ⟨hremote, .inl heq⟩
      · obtain ⟨hremote, hreplaces⟩ := isRemote_of_change
          (u := ⟨.remote (r.delete key).2, s.outage⟩) hs h rfl
          (show (r.delete key).2.found name = Option.map shown none from hnone)
          (fun _ h => nomatch h) hothers
        exact ⟨hremote, .inr ⟨name, rfl, hreplaces⟩⟩

/-- A save among the texts. -/
theorem backing_isRemote (hs : IsRemote s) (h : s.backing = .remote r) (hstate : Faithful state)
    (expected : Int) (outage : Outage) : IsRemote ⟨.remote (r.save state expected).2, outage⟩ ∧
      ((onRemote ⟨.remote (r.save state expected).2, outage⟩ = onRemote s ∧
          ∀ saved, (r.save state expected).1 = .ok saved → saved.ok = false) ∨
        ∃ name, state.key.join = .ok name ∧ heldVersion (onRemote s name) = expected ∧
          (r.save state expected).1 = .ok (.stored (.int (expected + 1))) ∧
          Replaces (onRemote s) (onRemote ⟨.remote (r.save state expected).2, outage⟩) name
            (some { state with version := expected + 1 })) := by
  cases hname : state.key.join with
  | error f =>
    have hsame : r.save state expected = (.error f, r) := by
      unfold Remote.save Remote.begin
      rw [Remote.serverKey_eq_error hname]
    rw [hsame]
    obtain ⟨hremote, heq⟩ := isRemote_of_found (u := ⟨.remote r, outage⟩) hs h rfl rfl
    exact ⟨hremote, .inl ⟨heq, fun _ h => nomatch h⟩⟩
  | ok name =>
    obtain ⟨hfound, hreadable⟩ := hs.found h name
    obtain ⟨hsame, hno⟩ | ⟨hversion, hnew, hstored, hput, hothers⟩ :=
      Remote.save_cases hstate hname hfound hreadable expected
    · obtain ⟨hremote, heq⟩ :=
        isRemote_of_found (u := ⟨.remote (r.save state expected).2, outage⟩) hs h rfl hsame
      exact ⟨hremote, .inl ⟨heq, hno⟩⟩
    · obtain ⟨hremote, hreplaces⟩ := isRemote_of_change
        (u := ⟨.remote (r.save state expected).2, outage⟩) hs h rfl
        (show (r.save state expected).2.found name =
          Option.map shown (some { state with version := expected + 1 }) from hput)
        (fun _ h => Option.some.inj h ▸ hnew) hothers
      exact ⟨hremote, .inr ⟨name, rfl, hversion, hstored, hreplaces⟩⟩

theorem save_isRemote (hs : IsRemote s) (hstate : Faithful state) (expected : Int) :
    IsRemote (s.save state expected).2 ∧
      ((onRemote (s.save state expected).2 = onRemote s ∧
          ∀ saved, (s.save state expected).1 = .ok saved → saved.ok = false) ∨
        ∃ name, state.key.join = .ok name ∧ heldVersion (onRemote s name) = expected ∧
          Replaces (onRemote s) (onRemote (s.save state expected).2) name
            (some { state with version := expected + 1 }) ∧
          (lostAnswer s (s.save state expected).2 = false ∧
              (s.save state expected).1 = .ok (.stored (.int (expected + 1))) ∨
            lostAnswer s (s.save state expected).2 = true ∧
              ∃ f, (s.save state expected).1 = .error f)) := by
  obtain ⟨r, h, -⟩ := id hs
  unfold Store.save
  split_ifs with hout hconflict hlost
  · exact ⟨hs, .inl ⟨rfl, fun _ h => nomatch h⟩⟩
  · exact ⟨hs, .inl ⟨rfl, fun saved h => Except.ok.inj h ▸ rfl⟩⟩
  · rw [h]
    dsimp only [Backing.save]
    obtain ⟨hremote, ⟨hheld, -⟩ | ⟨name, hname, hversion, -, hreplaces⟩⟩ :=
      backing_isRemote hs h hstate expected
        { s.outage with lostAnswer := s.outage.lostAnswer - 1 }
    · exact ⟨hremote, .inl ⟨hheld, fun _ h => nomatch h⟩⟩
    · have hfewer : s.outage.lostAnswer - 1 ≠ s.outage.lostAnswer := by omega
      exact ⟨hremote, .inr ⟨name, hname, hversion, hreplaces,
        .inr ⟨decide_eq_true hfewer, _, rfl⟩⟩⟩
  · rw [h]
    dsimp only [Backing.save]
    obtain ⟨hremote, hrefused | ⟨name, hname, hversion, hstored, hreplaces⟩⟩ :=
      backing_isRemote hs h hstate expected s.outage
    · exact ⟨hremote, .inl hrefused⟩
    · exact ⟨hremote, .inr ⟨name, hname, hversion, hreplaces,
        .inl ⟨decide_eq_false fun hne => hne rfl, hstored⟩⟩⟩

end Laws

/-- A store on a server holds states that are read back as they were written. -/
theorem losing_remote : Losing Faithful IsRemote onRemote lostAnswer where
  holds := fun {s name state} hs hheld => by
    obtain ⟨r, h, -⟩ := id hs
    exact ((hs.found h name).2 state hheld).toFaithful
  load := fun now key hs => load_isRemote hs now key
  delete := fun key hs => delete_isRemote hs key
  save := fun expected hs hstate => save_isRemote hs hstate expected

/-- **A store on a server compares and swaps.** -/
theorem swapping_remote : Swapping Faithful OnRemote onRemote := losing_remote.answering

end Parley.Storage
