import Mathlib.Tactic.SplitIfs
import Parley.Storage.Store

/-!
# Parley.Proofs.Storage.Isolation — what is stored under one name is of no concern to another

`Store.SameAt name s s'`: whoever loads under the name cannot tell the stores apart.  Saves and
deletes under another name lead from a store to one that is the same at this name, whichever kind of
store it is and whatever goes wrong on the way (`load_of_writes`).
-/

namespace Parley.Storage

open Conversation (State SessionKey)
open Time (Moment)

/-! ### The server -/

namespace Server

/-- Whoever gets the text under the key cannot tell the servers apart. -/
structure SameAt (key : String) (s s' : Server) : Prop where
  text : s'.text? key = s.text? key
  error : s'.errors.get? .get = s.errors.get? .get

variable {key other : String} {s s' s'' : Server}

theorem SameAt.refl (s : Server) : SameAt key s s := ⟨rfl, rfl⟩

theorem SameAt.trans (h : SameAt key s s') (h' : SameAt key s' s'') : SameAt key s s'' :=
  ⟨h'.text.trans h.text, h'.error.trans h.error⟩

/-- A planned error leaves all texts alone. -/
theorem sameAt_command {α : Type} {c : Command} {f : Server → Except ServerError α × Server}
    (hc : c ≠ .get) (hf : SameAt key s (f s).2) : SameAt key s (command c f s).2 := by
  unfold command
  cases hplan : s.errors.get? c with
  | none => exact hf
  | some error => exact ⟨rfl, Table.get?_erase_of_ne _ (Ne.symm hc)⟩

theorem sameAt_watch (other : String) : SameAt key s (s.watch other).2 :=
  sameAt_command (by simp) (.refl s)

theorem sameAt_watchedGet (other : String) : SameAt key s (s.watchedGet other).2 :=
  sameAt_command (by simp) (.refl s)

theorem sameAt_execute (h : key ≠ other) (seen : Nat) (entry : Entry) :
    SameAt key s (s.execute other seen entry).2 := by
  refine sameAt_command (by simp) ?_
  split_ifs
  · refine ⟨?_, rfl⟩
    exact congrArg (·.map Entry.text) (Table.get?_put_of_ne s.entries entry h)
  · exact .refl s

theorem sameAt_delete (h : key ≠ other) : SameAt key s (s.delete other).2 := by
  refine sameAt_command (by simp) ?_
  split_ifs
  · refine ⟨?_, rfl⟩
    exact congrArg (·.map Entry.text) (Table.get?_erase_of_ne s.entries h)
  · exact .refl s

end Server

/-! ### States on a server -/

namespace Remote

/-- Whoever loads under the name cannot tell the stores apart. -/
structure SameAt (name : String) (r r' : Remote) : Prop where
  keyStart : r'.keyStart = r.keyStart
  server : Server.SameAt (r.keyStart ++ name) r.server r'.server

variable {name : String} {r r' r'' : Remote} {key : SessionKey} {state : State}

theorem SameAt.refl (r : Remote) : SameAt name r r := ⟨rfl, .refl _⟩

theorem SameAt.trans (h : SameAt name r r') (h' : SameAt name r' r'') : SameAt name r r'' := by
  obtain ⟨hstart, hserver⟩ := h'
  rw [h.keyStart] at hserver
  exact ⟨hstart.trans h.keyStart, h.server.trans hserver⟩

theorem serverKey_eq (h : key.join = .ok name) (r : Remote) :
    r.serverKey key = .ok (r.keyStart ++ name) := by
  unfold serverKey
  rw [h]
  rfl

theorem serverKey_eq_error {f : Fault} (h : key.join = .error f) (r : Remote) :
    r.serverKey key = .error f := by
  unfold serverKey
  rw [h]
  rfl

theorem keyStart_append_ne {other : String} (h : name ≠ other) (start : String) :
    start ++ name ≠ start ++ other := by simpa using h

theorem SameAt.load (h : SameAt name r r') (hname : key.join = .ok name) (now : Moment) :
    (r'.load now key).1 = (r.load now key).1 := by
  have hget : (r'.server.get (r.keyStart ++ name)).1 = (r.server.get (r.keyStart ++ name)).1 := by
    unfold Server.get Server.command
    rw [h.server.error]
    cases r.server.errors.get? .get with
    | none => exact congrArg Except.ok h.server.text
    | some error => rfl
  unfold Remote.load
  rw [serverKey_eq hname, serverKey_eq hname, h.keyStart]
  dsimp only
  rw [hget]
  cases (r.server.get (r.keyStart ++ name)).1 with
  | error e => rfl
  | ok text? => cases text? <;> rfl

/-- Where there is a text, something is loaded, or the text cannot be read. -/
theorem load_ne_none (hname : key.join = .ok name) (hplan : r.server.errors.get? .get = none)
    (htext : (r.server.text? (r.keyStart ++ name)).isSome = true) (now : Moment) :
    (r.load now key).1 ≠ .ok none := by
  obtain ⟨text, htext⟩ := Option.isSome_iff_exists.mp htext
  have hget : r.server.get (r.keyStart ++ name) = (.ok (some text), r.server) := by
    unfold Server.get Server.command
    rw [hplan, ← htext]
  unfold Remote.load
  rw [serverKey_eq hname]
  dsimp only
  rw [hget]
  dsimp only
  cases decode now (r.keyStart ++ name) text with
  | ok state => exact fun h => nomatch Except.ok.inj h
  | error f => exact fun h => nomatch h

/-- A write begins without a change. -/
theorem sameAt_begin (state : State) (expected : Int) :
    SameAt name r (r.begin state expected).2 := by
  unfold Remote.begin
  cases hkey : r.serverKey state.key with
  | error f => exact .refl r
  | ok own =>
    have hwatch : Server.SameAt (r.keyStart ++ name) r.server (r.server.watch own).2 :=
      Server.sameAt_watch own
    dsimp only
    cases hseen : r.server.watch own with
    | mk seen server =>
      rw [hseen] at hwatch
      cases seen with
      | error e => exact ⟨rfl, hwatch⟩
      | ok seen =>
        have hget := hwatch.trans (Server.sameAt_watchedGet own)
        dsimp only at hget ⊢
        cases htext : server.watchedGet own with
        | mk text server' =>
          rw [htext] at hget
          cases text with
          | error e => exact ⟨rfl, hget⟩
          | ok text => exact ⟨rfl, hget⟩

/-- A write that begins is one under the name of the state. -/
theorem key_of_begin {expected : Int} {p : Pending}
    (h : (r.begin state expected).1 = .ok (.ok p)) (hname : state.key.join = .ok name) :
    p.key = r.keyStart ++ name := by
  unfold Remote.begin at h
  rw [serverKey_eq hname] at h
  dsimp only at h
  cases hseen : r.server.watch (r.keyStart ++ name) with
  | mk seen server =>
    rw [hseen] at h
    cases seen with
    | error e => cases e <;> exact nomatch h
    | ok seen =>
      dsimp only at h
      cases htext : server.watchedGet (r.keyStart ++ name) with
      | mk text server' =>
        rw [htext] at h
        cases text with
        | error e => cases e <;> exact nomatch h
        | ok text =>
          obtain ⟨version, -, h⟩ := exceptBind_eq_ok.mp h
          split_ifs at h
          · obtain ⟨next, -, h⟩ := exceptBind_eq_ok.mp h
            obtain ⟨text, -, h⟩ := exceptBind_eq_ok.mp h
            have hp : Except.ok _ = Except.ok p := Except.ok.inj h
            rw [← Except.ok.inj hp]
          · have hp : Except.error _ = Except.ok p := Except.ok.inj h
            exact nomatch hp

/-- A write that is made changes nothing under another key. -/
theorem sameAt_commit {p : Pending} (h : r.keyStart ++ name ≠ p.key) (expected : Int) :
    SameAt name r (r.commit p expected).2 := by
  have hserver : Server.SameAt (r.keyStart ++ name) r.server
      (r.server.execute p.key p.seen p.entry).2 := Server.sameAt_execute h p.seen p.entry
  unfold Remote.commit
  cases hout : r.server.execute p.key p.seen p.entry with
  | mk outcome server =>
    rw [hout] at hserver
    cases outcome with
    | ok u => exact ⟨rfl, hserver⟩
    | error e => cases e <;> exact ⟨rfl, hserver⟩

theorem sameAt_save (h : state.key.join ≠ .ok name) (expected : Int) :
    SameAt name r (r.save state expected).2 := by
  have hbegin : SameAt name r (r.begin state expected).2 := sameAt_begin state expected
  unfold Remote.save
  cases hstart : r.begin state expected with
  | mk outcome r' =>
    rw [hstart] at hbegin
    cases outcome with
    | error f => exact hbegin
    | ok outcome =>
      cases outcome with
      | error saved => exact hbegin
      | ok p =>
        refine hbegin.trans (sameAt_commit ?_ expected)
        cases hjoin : state.key.join with
        | error f =>
          unfold Remote.begin at hstart
          rw [serverKey_eq_error hjoin] at hstart
          exact nomatch (Prod.mk.inj hstart).1
        | ok own =>
          have hkey : p.key = r.keyStart ++ own := key_of_begin (by rw [hstart]) hjoin
          rw [hkey, hbegin.keyStart]
          exact keyStart_append_ne (fun heq => h (by rw [hjoin, heq])) _

theorem sameAt_delete (h : key.join ≠ .ok name) : SameAt name r (r.delete key).2 := by
  unfold Remote.delete
  cases hjoin : key.join with
  | error f =>
    rw [serverKey_eq_error hjoin]
    exact .refl r
  | ok own =>
    have hserver : Server.SameAt (r.keyStart ++ name) r.server
        (r.server.delete (r.keyStart ++ own)).2 :=
      Server.sameAt_delete (keyStart_append_ne (fun heq => h (by rw [hjoin, heq])) _)
    rw [serverKey_eq hjoin]
    dsimp only
    cases hout : r.server.delete (r.keyStart ++ own) with
    | mk outcome server =>
      rw [hout] at hserver
      cases outcome <;> exact ⟨rfl, hserver⟩

end Remote

/-! ### Stores of both kinds -/

namespace Store

/-- Whoever loads under the name cannot tell the stores apart. -/
inductive SameBacking (name : String) : Backing → Backing → Prop
  | memory {m m' : Memory} : m'.records.get? name = m.records.get? name →
    SameBacking name (.memory m) (.memory m')
  | remote {r r' : Remote} : Remote.SameAt name r r' → SameBacking name (.remote r) (.remote r')

structure SameAt (name : String) (s s' : Store) : Prop where
  backing : SameBacking name s.backing s'.backing
  outage : s'.outage.load = s.outage.load

variable {name : String} {s s' s'' : Store} {b b' b'' : Backing} {key : SessionKey} {state : State}

theorem SameBacking.refl (b : Backing) : SameBacking name b b := by
  cases b with
  | memory m => exact .memory rfl
  | remote r => exact .remote (.refl r)

theorem SameBacking.trans (h : SameBacking name b b') (h' : SameBacking name b' b'') :
    SameBacking name b b'' := by
  cases h with
  | memory h => cases h' with
    | memory h' => exact .memory (h'.trans h)
  | remote h => cases h' with
    | remote h' => exact .remote (h.trans h')

theorem SameAt.refl (s : Store) : SameAt name s s := ⟨.refl _, rfl⟩

theorem SameAt.trans (h : SameAt name s s') (h' : SameAt name s' s'') : SameAt name s s'' :=
  ⟨h.backing.trans h'.backing, h'.outage.trans h.outage⟩

theorem SameBacking.load (h : SameBacking name b b') (hname : key.join = .ok name) (now : Moment) :
    (b'.load now key).1 = (b.load now key).1 := by
  cases h with
  | memory h =>
    show Memory.load _ key = Memory.load _ key
    rw [Memory.load_eq hname, Memory.load_eq hname, h]
  | remote h => exact h.load hname now

/-- Stores that are the same at a name have the same answer under it. -/
theorem SameAt.load (h : SameAt name s s') (hname : key.join = .ok name) (now : Moment) :
    (s'.load now key).1 = (s.load now key).1 := by
  unfold Store.load
  rw [h.outage]
  split_ifs
  · rfl
  · exact h.backing.load hname now

theorem sameBacking_save (h : state.key.join ≠ .ok name) (expected : Int) (b : Backing) :
    SameBacking name b (b.save state expected).2 := by
  cases b with
  | remote r => exact .remote (Remote.sameAt_save h expected)
  | memory m =>
    refine .memory ?_
    show (m.save state expected).2.records.get? name = m.records.get? name
    obtain ⟨hsame, -⟩ | ⟨own, hjoin, -, hsave⟩ := m.save_cases state expected
    · rw [hsame]
    · have hne : name ≠ own := fun heq => h (by rw [hjoin, heq])
      rw [hsave]
      exact Table.get?_put_of_ne _ _ hne

theorem sameBacking_delete (h : key.join ≠ .ok name) (b : Backing) :
    SameBacking name b (b.delete key).2 := by
  cases b with
  | remote r => exact .remote (Remote.sameAt_delete h)
  | memory m =>
    refine .memory ?_
    cases hjoin : key.join with
    | error f => rfl
    | ok own => exact Table.get?_erase_of_ne _ fun heq => h (by rw [hjoin, heq])

theorem sameAt_save (h : state.key.join ≠ .ok name) (expected : Int) :
    SameAt name s (s.save state expected).2 := by
  have hbacking := sameBacking_save h expected s.backing
  unfold Store.save
  split_ifs
  · exact ⟨.refl _, rfl⟩
  · exact ⟨.refl _, rfl⟩
  · exact ⟨hbacking, rfl⟩
  · exact ⟨hbacking, rfl⟩

theorem sameAt_delete (h : key.join ≠ .ok name) : SameAt name s (s.delete key).2 := by
  have hbacking := sameBacking_delete h s.backing
  unfold Store.delete
  split_ifs
  · exact ⟨.refl _, rfl⟩
  · exact ⟨hbacking, rfl⟩

/-- Nothing can be loaded under a key without a name. -/
theorem load_of_join_error {f : Fault} (h : key.join = .error f) (now : Moment) (s : Store) :
    (s.load now key).1 = .error f := by
  unfold Store.load
  split_ifs
  · unfold outageFault
    rw [h]
  · cases s.backing with
    | memory m =>
      show Memory.load m key = _
      unfold Memory.load
      rw [h]
      rfl
    | remote r =>
      show (r.load now key).1 = _
      unfold Remote.load
      rw [Remote.serverKey_eq_error h]

end Store

/-- A change of what is stored for a session. -/
inductive Write
  | save (state : State) (expected : Int)
  | delete (key : SessionKey)

namespace Write

def key : Write → SessionKey
  | save state _ => state.key
  | delete key => key

/-- The store after the change, whether it was made or not. -/
def apply (s : Store) : Write → Store
  | save state expected => (s.save state expected).2
  | delete key => (s.delete key).2

theorem sameAt_apply {name : String} {w : Write} (h : w.key.join ≠ .ok name) (s : Store) :
    Store.SameAt name s (w.apply s) := by
  cases w with
  | save state expected => exact Store.sameAt_save h expected
  | delete key => exact Store.sameAt_delete h

theorem sameAt_foldl {name : String} {writes : List Write}
    (h : ∀ w ∈ writes, w.key.join ≠ .ok name) (s : Store) :
    Store.SameAt name s (writes.foldl apply s) := by
  induction writes generalizing s with
  | nil => exact .refl s
  | cons w more ih =>
    have hfirst := sameAt_apply (h w List.mem_cons_self) s
    exact hfirst.trans (ih (fun w' hw' => h w' (List.mem_cons_of_mem _ hw')) (w.apply s))

/-- **Changes under other names do not show.** -/
theorem load_of_writes {key : SessionKey} {writes : List Write}
    (h : ∀ w ∈ writes, w.key.join ≠ key.join) (s : Store) (now : Moment) :
    ((writes.foldl apply s).load now key).1 = (s.load now key).1 := by
  cases hname : key.join with
  | error f => rw [Store.load_of_join_error hname, Store.load_of_join_error hname]
  | ok name =>
    rw [hname] at h
    exact (sameAt_foldl h s).load hname now

end Write

end Parley.Storage
