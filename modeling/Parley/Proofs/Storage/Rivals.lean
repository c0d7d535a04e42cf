import Mathlib.Logic.Function.Basic
import Parley.Proofs.Storage.Shelf

/-!
# Parley.Proofs.Storage.Rivals — clients that save what they have loaded

Any number of clients load, save and delete the state of one session.  A client saves on condition
that the stored version is the one of its own last load.  In the store of the process a save is one
step; on a server it is three, between which others may act.

`saves_earned`: when a save succeeds, nobody has changed the record since that load, or the record was
dropped since and has come to the same version again.  `not_guarded_rebirth`: the second does
happen, so that a save can overwrite what another client has saved since the load.
-/

namespace Parley.Storage

open Conversation (State SessionKey)
open Time (Moment)

/-! ### What happens to a record -/

/-- What a client did to the record. -/
inductive Event
  | loaded (client : Nat) (version : Int)
  | saved (client : Nat) (expected : Int)
  | deleted (client : Nat) (found : Bool)
  deriving DecidableEq

namespace Event

def client : Event → Nat
  | loaded client _ | saved client _ | deleted client _ => client

def isSave : Event → Bool
  | saved _ _ => true
  | _ => false

/-- The record was stored or dropped. -/
def changes : Event → Bool
  | loaded _ _ => false
  | saved _ _ => true
  | deleted _ found => found

end Event

/-- The version of the record after these events, the last one first; zero if there is no record. -/
def recordVersion : List Event → Int
  | [] => 0
  | .loaded _ _ :: log => recordVersion log
  | .saved _ expected :: _ => expected + 1
  | .deleted _ true :: _ => 0
  | .deleted _ false :: log => recordVersion log

/-- The version that the client has found in its last load. -/
def lastFound (client : Nat) : List Event → Option Int
  | [] => none
  | .loaded c version :: log => if c = client then some version else lastFound client log
  | _ :: log => lastFound client log

/-- Loads find the version of the record, and a save that succeeded expected it, as did the client. -/
def Coherent : List Event → Prop
  | [] => True
  | .loaded _ version :: log => version = recordVersion log ∧ Coherent log
  | .saved client expected :: log =>
    expected = recordVersion log ∧ lastFound client log = some expected ∧ Coherent log
  | .deleted _ _ :: log => Coherent log

/-- The record was dropped and has been saved exactly so many times since it was dropped last. -/
def Reborn (version : Int) (since : List Event) : Prop :=
  ∃ newer client older, since = newer ++ .deleted client true :: older ∧
    (∀ c, Event.deleted c true ∉ newer) ∧ (newer.countP Event.isSave : Int) = version

/-- Every save that succeeded: since the last load of the client nobody has changed the record, or it
has come to the same version again. -/
def Earned (log : List Event) : Prop :=
  ∀ later client expected earlier, log = later ++ .saved client expected :: earlier →
    ∃ since before, earlier = since ++ .loaded client expected :: before ∧
      (∀ version, Event.loaded client version ∉ since) ∧
      ((∀ event ∈ since, event.changes = false) ∨ Reborn expected since)

/-- Every save that succeeded: since the last load of the client no other client has changed the
record. -/
def Guarded (log : List Event) : Prop :=
  ∀ later client expected since before,
    log = later ++ .saved client expected :: (since ++ .loaded client expected :: before) →
    (∀ version, Event.loaded client version ∉ since) →
    ∀ event ∈ since, event.changes = true → event.client = client

section Logs

variable {log since rest : List Event} {client : Nat} {version : Int}

theorem Coherent.of_append (h : Coherent (since ++ rest)) : Coherent rest := by
  induction since with
  | nil => exact h
  | cons event since ih =>
    cases event with
    | loaded _ _ => exact ih h.2
    | saved _ _ => exact ih h.2.2
    | deleted _ _ => exact ih h

/-- While the record is not dropped, saves count up its version. -/
theorem Coherent.recordVersion_append (h : Coherent (since ++ rest))
    (hkept : ∀ c, Event.deleted c true ∉ since) :
    recordVersion (since ++ rest) = recordVersion rest + since.countP Event.isSave := by
  induction since with
  | nil => simp
  | cons event since ih =>
    have hkept' : ∀ c, Event.deleted c true ∉ since := fun c hc =>
      hkept c (List.mem_cons_of_mem _ hc)
    cases event with
    | loaded c found =>
      have hrest := ih h.2 hkept'
      simpa [recordVersion, Event.isSave] using hrest
    | saved c expected =>
      have hrest := ih h.2.2 hkept'
      have hexpected : expected = recordVersion (since ++ rest) := h.1
      simp only [List.cons_append, recordVersion, List.countP_cons, Event.isSave, if_true]
      omega
    | deleted c found =>
      cases found with
      | true => exact absurd List.mem_cons_self (hkept c)
      | false =>
        have hrest := ih h hkept'
        simpa [recordVersion, Event.isSave] using hrest

theorem exists_of_lastFound (h : lastFound client log = some version) :
    ∃ since before, log = since ++ .loaded client version :: before ∧
      ∀ v, Event.loaded client v ∉ since := by
  induction log with
  | nil => exact nomatch h
  | cons event log ih =>
    have hother (hevent : ∀ v, event ≠ .loaded client v)
        (hlog : lastFound client log = some version) :
        ∃ since before, event :: log = since ++ .loaded client version :: before ∧
          ∀ v, Event.loaded client v ∉ since := by
      obtain ⟨since, before, rfl, hsince⟩ := ih hlog
      refine ⟨event :: since, before, rfl, fun v hv => ?_⟩
      rcases List.mem_cons.mp hv with heq | hv
      · exact hevent v heq.symm
      · exact hsince v hv
    cases event with
    | loaded c found =>
      unfold lastFound at h
      split_ifs at h with hc
      · rw [hc, Option.some.inj h]
        exact ⟨[], log, rfl, fun _ hv => nomatch hv⟩
      · exact hother (fun v heq => hc (Event.loaded.inj heq).1) h
    | saved _ _ => exact hother (fun _ heq => nomatch heq) h
    | deleted _ _ => exact hother (fun _ heq => nomatch heq) h

/-- The record was never dropped, or it was dropped at some time for the last time. -/
theorem kept_or_dropped (since : List Event) : (∀ c, Event.deleted c true ∉ since) ∨
    ∃ newer client older, since = newer ++ .deleted client true :: older ∧
      ∀ c, Event.deleted c true ∉ newer := by
  induction since with
  | nil => exact .inl fun _ h => nomatch h
  | cons event since ih =>
    by_cases hevent : ∃ c, event = .deleted c true
    · obtain ⟨c, rfl⟩ := hevent
      exact .inr ⟨[], c, since, rfl, fun _ h => nomatch h⟩
    · have hmem {l : List Event} (hl : ∀ c, Event.deleted c true ∉ l) (c : Nat) :
          Event.deleted c true ∉ event :: l := by
        intro hc
        rcases List.mem_cons.mp hc with heq | hc
        · exact hevent ⟨c, heq.symm⟩
        · exact hl c hc
      rcases ih with hkept | ⟨newer, client, older, rfl, hnewer⟩
      · exact .inl (hmem hkept)
      · exact .inr ⟨event :: newer, client, older, rfl, hmem hnewer⟩

theorem changes_eq_false (hkept : ∀ c, Event.deleted c true ∉ since)
    (hsaves : since.countP Event.isSave = 0) : ∀ event ∈ since, event.changes = false := by
  intro event hevent
  have hsave := List.countP_eq_zero.mp hsaves event hevent
  cases event with
  | loaded _ _ => rfl
  | saved _ _ => exact absurd rfl hsave
  | deleted c found =>
    cases found with
    | true => exact absurd hevent (hkept c)
    | false => rfl

/-- The token is a count that starts again when the record is dropped. -/
theorem Coherent.earned (h : Coherent log) : Earned log := by
  rintro later client expected earlier rfl
  obtain ⟨hexpected, hfound, hearlier⟩ := h.of_append
  obtain ⟨since, before, rfl, hsince⟩ := exists_of_lastFound hfound
  refine ⟨since, before, rfl, hsince, ?_⟩
  rcases kept_or_dropped since with hkept | ⟨newer, c, older, rfl, hnewer⟩
  · have hversion := hearlier.recordVersion_append hkept
    have hload : expected = recordVersion before := hearlier.of_append.1
    rw [recordVersion] at hversion
    exact .inl (changes_eq_false hkept (by omega))
  · rw [List.append_assoc] at hexpected hearlier
    have hversion := hearlier.recordVersion_append hnewer
    have hdropped :
        recordVersion (.deleted c true :: older ++ .loaded client expected :: before) = 0 := rfl
    rw [hdropped] at hversion
    exact .inr ⟨newer, c, older, rfl, hnewer, by omega⟩

end Logs

/-! ### Saves in steps -/

/-- What a kind of store does for its clients.  A step of a save leads to what is left of it or to its
outcome. -/
structure Protocol (σ ε : Type) where
  load : Moment → SessionKey → σ → Except Fault (Option State) × σ
  delete : SessionKey → σ → Except Fault Bool × σ
  start : State → Int → σ → Except Fault (Except Saved ε) × σ
  proceed : ε → Int → σ → Except Fault (Except Saved ε) × σ

/-- The store of the process: a save is one step. -/
def Memory.protocol : Protocol Memory Empty where
  load _ key m := (m.load key, m)
  delete key m := m.delete key
  start state expected m := ((m.save state expected).1.map .error, (m.save state expected).2)
  proceed errand := nomatch errand

namespace Remote

/-- The key is watched. -/
def watchKey (state : State) (expected : Int) (r : Remote) :
    Except Fault (Except Saved (String × Nat)) × Remote :=
  match r.serverKey state.key with
  | .error f => (.error f, r)
  | .ok name =>
    match r.server.watch name with
    | (.error e, server) => (saveError name expected e, { r with server := server })
    | (.ok seen, server) => (.ok (.ok (name, seen)), { r with server := server })

/-- The versions are compared. -/
def compare (name : String) (seen : Nat) (state : State) (expected : Int) (r : Remote) :
    Except Fault (Except Saved Pending) × Remote :=
  match r.server.watchedGet name with
  | (.error e, server) => (saveError name expected e, { r with server := server })
  | (.ok text, server) => (r.offer name seen state expected text, { r with server := server })

/-- A save is these steps and the write. -/
theorem begin_eq_compare (r : Remote) (state : State) (expected : Int) : r.begin state expected =
    match r.watchKey state expected with
    | (.ok (.ok (name, seen)), r) => r.compare name seen state expected
    | (.ok (.error saved), r) => (.ok (.error saved), r)
    | (.error f, r) => (.error f, r) := by
  unfold begin watchKey
  cases r.serverKey state.key with
  | error f => rfl
  | ok name =>
    dsimp only
    rcases r.server.watch name with ⟨answer, server⟩
    cases answer with
    | ok seen => rfl
    | error e => cases e <;> rfl

/-- What is left of a save after a step. -/
inductive Errand
  | compare (name : String) (seen : Nat) (state : State)
  | write (pending : Pending)

def protocol : Protocol Remote Errand where
  load := Remote.load
  delete := Remote.delete
  start state expected r :=
    let (outcome, r) := r.watchKey state expected
    (outcome.map (Except.map fun (name, seen) => .compare name seen state), r)
  proceed errand expected r :=
    match errand with
    | .compare name seen state =>
      let (outcome, r) := r.compare name seen state expected
      (outcome.map (Except.map .write), r)
    | .write pending => ((r.commit pending expected).1.map .error, (r.commit pending expected).2)

end Remote

/-! ### Clients -/

/-- The version that the client has found last, and what is left of its save. -/
structure Client (ε : Type) where
  found : Option Int
  errand : Option (ε × Int)

/-- A store, its clients by number, and what happened to the record, the last event first. -/
structure Rivals (σ ε : Type) where
  store : σ
  clients : Nat → Client ε
  log : List Event

/-- The next thing that a client does.  Whoever is in the middle of a save goes on with it first. -/
inductive Move
  | load (client : Nat) (now : Moment)
  | save (client : Nat) (state : State)
  | proceed (client : Nat)
  | delete (client : Nat)

namespace Rivals

variable {σ ε : Type}

def opening (store : σ) : Rivals σ ε := ⟨store, fun _ => ⟨none, none⟩, []⟩

/-- The clients, with this left of the save of one of them. -/
def leave (w : Rivals σ ε) (client : Nat) (errand : Option (ε × Int)) : Nat → Client ε :=
  Function.update w.clients client { w.clients client with errand := errand }

/-- After a step of a save. -/
def settle (w : Rivals σ ε) (client : Nat) (expected : Int) :
    Except Fault (Except Saved ε) × σ → Rivals σ ε
  | (.ok (.ok errand), store) => ⟨store, w.leave client (some (errand, expected)), w.log⟩
  | (.ok (.error saved), store) =>
    ⟨store, w.leave client none, if saved.ok then .saved client expected :: w.log else w.log⟩
  | (.error _, store) => ⟨store, w.leave client none, w.log⟩

/-- One step of one client.  A save expects the version that the client has found last. -/
def step (protocol : Protocol σ ε) (key : SessionKey) (w : Rivals σ ε) : Move → Rivals σ ε
  | .load client now =>
    match (w.clients client).errand, protocol.load now key w.store with
    | none, (.ok state, store) =>
      { store := store
        clients := Function.update w.clients client ⟨some (heldVersion state), none⟩
        log := .loaded client (heldVersion state) :: w.log }
    | none, (.error _, store) => { w with store := store }
    | some _, _ => w
  | .save client state =>
    match w.clients client with
    | ⟨some expected, none⟩ => w.settle client expected (protocol.start state expected w.store)
    | _ => w
  | .proceed client =>
    match (w.clients client).errand with
    | some (errand, expected) =>
      w.settle client expected (protocol.proceed errand expected w.store)
    | none => w
  | .delete client =>
    match (w.clients client).errand, protocol.delete key w.store with
    | none, (.ok found, store) =>
      { w with
        store := store
        log := .deleted client found :: w.log }
    | none, (.error _, store) => { w with store := store }
    | some _, _ => w

def run (protocol : Protocol σ ε) (key : SessionKey) (w : Rivals σ ε) (moves : List Move) :
    Rivals σ ε := moves.foldl (step protocol key) w

end Rivals

/-! ### What a store has to do for its clients -/

section Protocols

variable {σ ε : Type}

/-- What becomes of a save by one of its steps: something is left to do, or it is refused, or it fails
because the state cannot be copied or written, or the state is stored under the version after the
expected one.  `ready` says of what is left of a save that it may go on, and no step takes that from the
saves of others. -/
inductive Advance (holds : Option State → σ → Prop) (ready : ε → Int → Option State → σ → Prop)
    (expected : Int) (record : Option State) (s : σ) : Except Fault (Except Saved ε) × σ → Prop
  | waits {errand : ε} {s' : σ} (held : holds record s') (left : ready errand expected record s')
      (others : ∀ e version, ready e version record s → ready e version record s') :
      Advance holds ready expected record s (.ok (.ok errand), s')
  | refused {saved : Saved} {s' : σ} (answer : saved.ok = false) (held : holds record s')
      (others : ∀ e version, ready e version record s → ready e version record s') :
      Advance holds ready expected record s (.ok (.error saved), s')
  | fails {f : Fault} {s' : σ} (held : holds record s')
      (others : ∀ e version, ready e version record s → ready e version record s') :
      Advance holds ready expected record s (.error f, s')
  | stores {saved : Saved} {state : State} {s' : σ} (answer : saved.ok = true)
      (unchanged : heldVersion record = expected) (version : state.version = expected + 1)
      (held : holds (some state) s')
      (others : ∀ e version, ready e version record s → ready e version (some state) s') :
      Advance holds ready expected record s (.ok (.error saved), s')

/-- A store that serves the clients of one session. -/
structure Serves (protocol : Protocol σ ε) (key : SessionKey) (holds : Option State → σ → Prop)
    (ready : ε → Int → Option State → σ → Prop) : Prop where
  load : ∀ {record s} (now : Moment), holds record s → protocol.load now key s = (.ok record, s)
  delete : ∀ {record s}, holds record s → ∃ s', protocol.delete key s = (.ok record.isSome, s') ∧
    holds none s' ∧ ∀ e version, ready e version record s → ready e version none s'
  start : ∀ {record s state} (expected : Int), holds record s → state.key = key → Faithful state →
    Advance holds ready expected record s (protocol.start state expected s)
  proceed : ∀ {record s errand expected}, holds record s → ready errand expected record s →
    Advance holds ready expected record s (protocol.proceed errand expected s)

end Protocols

section Memory

variable {key : SessionKey} {name : String}

def Memory.Holds (name : String) (record : Option State) (m : Memory) : Prop :=
  m.records.get? name = record

theorem serves_memory (hname : key.join = .ok name) :
    Serves Memory.protocol key (Memory.Holds name) (fun _ _ _ _ => True) where
  load := by
    rintro record m now rfl
    exact congrArg (·, m) (Memory.load_eq hname)
  delete := by
    rintro record m rfl
    have hdelete : m.delete key = (.ok (m.records.has name), ⟨m.records.erase name⟩) := by
      unfold Memory.delete
      rw [hname]
    exact ⟨_, hdelete, Table.get?_erase_self _ _, fun _ _ h => h⟩
  start := by
    rintro record m state expected rfl rfl -
    have hstart : Memory.protocol.start state expected m =
        ((m.save state expected).1.map .error, (m.save state expected).2) := rfl
    rw [hstart]
    obtain ⟨hsame, hno⟩ | ⟨own, hown, hversion, hsave⟩ := m.save_cases state expected
    · rw [hsame]
      cases hanswer : (m.save state expected).1 with
      | error f => exact .fails rfl fun _ _ h => h
      | ok saved => exact .refused (hno saved hanswer) rfl fun _ _ h => h
    · obtain rfl : own = name := Except.ok.inj (hown.symm.trans hname)
      rw [hsave]
      exact .stores rfl hversion rfl (Table.get?_put_self _ _ _) fun _ _ h => h
  proceed := by
    rintro record m errand
    exact nomatch errand

end Memory

section Remote

variable {key : SessionKey} {name : String}

/-- The server holds the document text of the state, and no command fails. -/
structure Remote.Holds (name : String) (record : Option State) (r : Remote) : Prop where
  calm : r.server.Calm
  found : r.found name = record.map shown
  sound : ∀ state, record = some state → Readable state

/-- What is left of a save watches the right key.  If the key has not changed since, a version that
was compared is still the expected one. -/
def Remote.Ready (key : SessionKey) (name : String) (errand : Remote.Errand) (expected : Int)
    (record : Option State) (r : Remote) : Prop :=
  match errand with
  | .compare full seen state => full = r.keyStart ++ name ∧ seen ≤ r.server.changeCount full ∧
    state.key = key ∧ Faithful state
  | .write p => p.key = r.keyStart ++ name ∧ p.seen ≤ r.server.changeCount p.key ∧
    (r.server.changeCount p.key = p.seen → heldVersion record = expected) ∧
    ∃ state : State, Readable { state with version := expected + 1 } ∧
      p.entry.text = shown { state with version := expected + 1 }

theorem Server.changeCount_put_self (s : Server) (name : String) (entry : Entry) :
    (s.put name entry).changeCount name = s.changeCount name + 1 := by
  unfold Server.put Server.touched Server.changeCount
  rw [Table.get?_put_self]
  rfl

theorem Server.changeCount_remove_self (s : Server) (name : String) :
    (s.remove name).changeCount name = s.changeCount name + 1 := by
  unfold Server.remove Server.touched Server.changeCount
  rw [Table.get?_put_self]
  rfl

/-- A change of the key spoils what was compared before, whatever the record is then. -/
theorem Remote.Ready.touched {errand : Remote.Errand} {expected : Int} {record record' : Option State}
    {r : Remote} {server : Server} (h : Remote.Ready key name errand expected record r)
    (hcount : server.changeCount (r.keyStart ++ name) =
      r.server.changeCount (r.keyStart ++ name) + 1) :
    Remote.Ready key name errand expected record' { r with server := server } := by
  cases errand with
  | compare full seen state =>
    obtain ⟨rfl, hseen, hstate⟩ := h
    exact ⟨rfl, by rw [hcount]; omega, hstate⟩
  | write p =>
    obtain ⟨hkey, hseen, -, hentry⟩ := h
    rw [← hkey] at hcount
    refine ⟨hkey, ?_, ?_, hentry⟩
    · show p.seen ≤ server.changeCount p.key
      omega
    · intro heq
      have heq' : server.changeCount p.key = p.seen := heq
      omega

/-- The version is looked up, and the write is offered if it is the one expected. -/
theorem advance_compare {record : Option State} {r : Remote} {full : String} {seen : Nat}
    {state : State} {expected : Int} (h : Remote.Holds name record r)
    (hready : Remote.Ready key name (.compare full seen state) expected record r) :
    Advance (Remote.Holds name) (Remote.Ready key name) expected record r
      (Remote.protocol.proceed (.compare full seen state) expected r) := by
  obtain ⟨rfl, hseen, hkey, hsound⟩ := hready
  have hversion : Remote.storedVersion (r.server.text? (r.keyStart ++ name)) =
      .ok (.int (heldVersion record)) := by
    have hfound : r.server.text? (r.keyStart ++ name) = record.map shown := h.found
    rw [hfound]
    exact storedVersion_shown h.sound
  have hcompare : r.compare (r.keyStart ++ name) seen state expected =
      (r.offer (r.keyStart ++ name) seen state expected (r.server.text? (r.keyStart ++ name)),
        r) := by
    unfold Remote.compare
    rw [Server.watchedGet_of_calm h.calm]
  have hproceed : Remote.protocol.proceed (.compare (r.keyStart ++ name) seen state) expected r =
      ((r.compare (r.keyStart ++ name) seen state expected).1.map (Except.map .write),
        (r.compare (r.keyStart ++ name) seen state expected).2) := rfl
  rw [hproceed, hcompare]
  obtain ⟨f, hoffer⟩ | ⟨-, hoffer⟩ | ⟨hexpected, hreadable, hoffer⟩ :=
    r.offer_cases hversion (r.keyStart ++ name) seen hsound expected
  · rw [hoffer]
    exact .fails h fun _ _ hready => hready
  · rw [hoffer]
    exact .refused rfl h fun _ _ hready => hready
  · rw [hoffer]
    exact .waits h ⟨rfl, hseen, fun _ => hexpected, state, hreadable, rfl⟩
      fun _ _ hready => hready

/-- The write is made if nobody has changed the key since the client watches it. -/
theorem advance_write {record : Option State} {r : Remote} {p : Pending} {expected : Int}
    (h : Remote.Holds name record r)
    (hready : Remote.Ready key name (.write p) expected record r) :
    Advance (Remote.Holds name) (Remote.Ready key name) expected record r
      (Remote.protocol.proceed (.write p) expected r) := by
  obtain ⟨hkey, hseen, hcompared, state, hsound, hentry⟩ := hready
  have hproceed : Remote.protocol.proceed (.write p) expected r =
      ((r.commit p expected).1.map .error, (r.commit p expected).2) := rfl
  rw [hproceed, Remote.commit_of_calm h.calm]
  by_cases hcount : r.server.changeCount p.key = p.seen
  · rw [if_pos hcount, hkey]
    have hfound := (r.found_put name p.entry).1
    rw [hentry] at hfound
    have hheld : Remote.Holds name (some { state with version := expected + 1 })
        { r with server := r.server.put (r.keyStart ++ name) p.entry } :=
      ⟨h.calm, hfound, fun _ hs => Option.some.inj hs ▸ hsound⟩
    exact .stores rfl (hcompared hcount) rfl hheld fun _ _ hready =>
      hready.touched (Server.changeCount_put_self _ _ _)
  · rw [if_neg hcount]
    exact .refused rfl h fun _ _ hready => hready

theorem serves_remote (hname : key.join = .ok name) :
    Serves Remote.protocol key (Remote.Holds name) (Remote.Ready key name) where
  load := by
    intro record r now h
    exact Remote.load_of_calm h.calm hname h.found h.sound now
  delete := by
    intro record r h
    have hdelete := Remote.delete_of_calm h.calm hname
    rw [h.found, Option.isSome_map] at hdelete
    cases record with
    | none => exact ⟨r, hdelete, h, fun _ _ hready => hready⟩
    | some state =>
      have hheld : Remote.Holds name none { r with server := r.server.remove (r.keyStart ++ name) } :=
        ⟨h.calm, (r.found_remove name).1, fun _ hs => nomatch hs⟩
      exact ⟨_, hdelete, hheld, fun _ _ hready => hready.touched (Server.changeCount_remove_self _ _)⟩
  start := by
    intro record r state expected h hkey hsound
    have hwatch : r.watchKey state expected =
        (.ok (.ok (r.keyStart ++ name, r.server.changeCount (r.keyStart ++ name))), r) := by
      unfold Remote.watchKey
      rw [hkey, Remote.serverKey_eq hname]
      dsimp only
      rw [Server.watch_of_calm h.calm]
    have hstart : Remote.protocol.start state expected r =
        (.ok (.ok (.compare (r.keyStart ++ name) (r.server.changeCount (r.keyStart ++ name)) state)),
          r) := by
      show ((r.watchKey state expected).1.map _, (r.watchKey state expected).2) = _
      rw [hwatch]
      rfl
    rw [hstart]
    exact .waits h ⟨rfl, Nat.le_refl _, hkey, hsound⟩ fun _ _ hready => hready
  proceed := by
    intro record r errand expected h hready
    cases errand with
    | compare full seen state => exact advance_compare h hready
    | write p => exact advance_write h hready

end Remote

/-! ### Runs -/

namespace Rivals

section Runs

variable {σ ε : Type} {protocol : Protocol σ ε} {key : SessionKey} {holds : Option State → σ → Prop}
variable {ready : ε → Int → Option State → σ → Prop} {w : Rivals σ ε}

/-- A client knows what it has found last.  What is left of its save expects that and may go on. -/
structure Follows (ready : ε → Int → Option State → σ → Prop) (log : List Event)
    (record : Option State) (store : σ) (client : Nat) (c : Client ε) : Prop where
  found : c.found = lastFound client log
  ready : ∀ errand expected, c.errand = some (errand, expected) →
    c.found = some expected ∧ ready errand expected record store

/-- What is true between any two moves, of the record that the store holds then. -/
structure Orderly (holds : Option State → σ → Prop) (ready : ε → Int → Option State → σ → Prop)
    (record : Option State) (w : Rivals σ ε) : Prop where
  coherent : Coherent w.log
  held : holds record w.store
  version : heldVersion record = recordVersion w.log
  clients : ∀ client, Follows ready w.log record w.store client (w.clients client)

section Clients

variable {record record' : Option State} {store store' : σ} {log log' : List Event} {client : Nat}
variable {clients : Nat → Client ε} {next : Client ε}

theorem follows_update (hself : Follows ready log record store client next)
    (hothers : ∀ other, other ≠ client → Follows ready log record store other (clients other)) :
    ∀ other, Follows ready log record store other (Function.update clients client next other) := by
  intro other
  by_cases hother : other = client
  · subst hother
    rwa [Function.update_self]
  · rw [Function.update_of_ne hother]
    exact hothers other hother

/-- Others do not see a step of a client in their way. -/
theorem Follows.other {c : Client ε} (h : Follows ready log record store client c)
    (hlog : lastFound client log' = lastFound client log)
    (hready : ∀ e version, ready e version record store → ready e version record' store') :
    Follows ready log' record' store' client c where
  found := h.found.trans hlog.symm
  ready := fun errand expected heq =>
    ⟨(h.ready errand expected heq).1, hready _ _ (h.ready errand expected heq).2⟩

theorem follows_idle {found : Option Int} (hfound : found = lastFound client log) :
    Follows ready log record store client ⟨found, none⟩ :=
  ⟨hfound, fun _ _ heq => nomatch heq⟩

end Clients

variable {record : Option State}

/-- A step of a save of a client who has found the version that the save expects. -/
theorem Orderly.after_settle (h : w.Orderly holds ready record) {client : Nat} {expected : Int}
    (hfound : (w.clients client).found = some expected)
    {outcome : Except Fault (Except Saved ε) × σ}
    (hadvance : Advance holds ready expected record w.store outcome) :
    ∃ record, (w.settle client expected outcome).Orderly holds ready record := by
  have hlast := (h.clients client).found
  cases hadvance with
  | @waits errand store held left others =>
    have hself : Follows ready w.log record store client
        { w.clients client with errand := some (errand, expected) } := by
      refine ⟨hlast, fun _ _ heq => ?_⟩
      obtain ⟨rfl, rfl⟩ := Prod.mk.inj (Option.some.inj heq)
      exact ⟨hfound, left⟩
    exact ⟨record, h.coherent, held, h.version,
      follows_update hself fun other _ => (h.clients other).other rfl others⟩
  | @refused saved store answer held others =>
    have hsettle : w.settle client expected (.ok (.error saved), store) =
        ⟨store, w.leave client none, w.log⟩ := by
      simp [settle, answer]
    rw [hsettle]
    exact ⟨record, h.coherent, held, h.version,
      follows_update (follows_idle hlast) fun other _ => (h.clients other).other rfl others⟩
  | fails held others =>
    exact ⟨record, h.coherent, held, h.version,
      follows_update (follows_idle hlast) fun other _ => (h.clients other).other rfl others⟩
  | @stores saved state store answer unchanged version held others =>
    have hsettle : w.settle client expected (.ok (.error saved), store) =
        ⟨store, w.leave client none, .saved client expected :: w.log⟩ := by
      simp [settle, answer]
    have hcoherent : Coherent (.saved client expected :: w.log) :=
      ⟨unchanged.symm.trans h.version, hlast.symm.trans hfound, h.coherent⟩
    rw [hsettle]
    exact ⟨some state, hcoherent, held, version,
      follows_update (follows_idle hlast) fun other _ => (h.clients other).other rfl others⟩

/-- What one move keeps, if it passes no state of another session and none that would not be read as it
was written. -/
theorem Orderly.after_step (h : w.Orderly holds ready record)
    (hserves : Serves protocol key holds ready) {move : Move}
    (hfits : ∀ client state, move = .save client state → state.key = key ∧ Faithful state) :
    ∃ record, (w.step protocol key move).Orderly holds ready record := by
  cases move with
  | load client now =>
    have hload := hserves.load now h.held
    cases herrand : (w.clients client).errand with
    | some left =>
      have hstep : w.step protocol key (.load client now) = w := by simp [step, herrand]
      rw [hstep]
      exact ⟨record, h⟩
    | none =>
      have hstep : w.step protocol key (.load client now) =
          ⟨w.store, Function.update w.clients client ⟨some (heldVersion record), none⟩,
            .loaded client (heldVersion record) :: w.log⟩ := by
        simp [step, herrand, hload]
      have hself : some (heldVersion record) =
          lastFound client (.loaded client (heldVersion record) :: w.log) := by simp [lastFound]
      have hothers : ∀ other, other ≠ client →
          lastFound other (.loaded client (heldVersion record) :: w.log) = lastFound other w.log := by
        intro other hother
        simp [lastFound, Ne.symm hother]
      rw [hstep]
      exact ⟨record, ⟨h.version, h.coherent⟩, h.held, h.version,
        follows_update (follows_idle hself) fun other hother =>
          (h.clients other).other (hothers other hother) fun _ _ hready => hready⟩
  | save client state =>
    obtain ⟨hkey, hsound⟩ := hfits client state rfl
    -- only a client with nothing left to do and a version to expect begins to save
    rcases hclient : w.clients client with ⟨_ | expected, _ | left⟩
    · have hstep : w.step protocol key (.save client state) = w := by simp [step, hclient]
      rw [hstep]
      exact ⟨record, h⟩
    · have hstep : w.step protocol key (.save client state) = w := by simp [step, hclient]
      rw [hstep]
      exact ⟨record, h⟩
    · have hstep : w.step protocol key (.save client state) =
          w.settle client expected (protocol.start state expected w.store) := by
        simp [step, hclient]
      rw [hstep]
      exact h.after_settle (by rw [hclient]) (hserves.start expected h.held hkey hsound)
    · have hstep : w.step protocol key (.save client state) = w := by simp [step, hclient]
      rw [hstep]
      exact ⟨record, h⟩
  | proceed client =>
    cases herrand : (w.clients client).errand with
    | none =>
      have hstep : w.step protocol key (.proceed client) = w := by simp [step, herrand]
      rw [hstep]
      exact ⟨record, h⟩
    | some left =>
      obtain ⟨errand, expected⟩ := left
      have hstep : w.step protocol key (.proceed client) =
          w.settle client expected (protocol.proceed errand expected w.store) := by
        simp [step, herrand]
      obtain ⟨hfound, hready⟩ := (h.clients client).ready errand expected herrand
      rw [hstep]
      exact h.after_settle hfound (hserves.proceed h.held hready)
  | delete client =>
    obtain ⟨store, hdelete, hheld, hothers⟩ := hserves.delete h.held
    cases herrand : (w.clients client).errand with
    | some left =>
      have hstep : w.step protocol key (.delete client) = w := by simp [step, herrand]
      rw [hstep]
      exact ⟨record, h⟩
    | none =>
      have hstep : w.step protocol key (.delete client) =
          ⟨store, w.clients, .deleted client record.isSome :: w.log⟩ := by
        simp [step, herrand, hdelete]
      have hversion : heldVersion none = recordVersion (.deleted client record.isSome :: w.log) := by
        cases record with
        | none => exact h.version
        | some state => rfl
      rw [hstep]
      exact ⟨none, h.coherent, hheld, hversion,
        fun other => (h.clients other).other rfl hothers⟩

/-- What any moves keep. -/
theorem Orderly.after_run (h : w.Orderly holds ready record)
    (hserves : Serves protocol key holds ready) {moves : List Move}
    (hfits : ∀ client state, .save client state ∈ moves → state.key = key ∧ Faithful state) :
    ∃ record, (w.run protocol key moves).Orderly holds ready record := by
  induction moves generalizing w record with
  | nil => exact ⟨record, h⟩
  | cons move moves ih =>
    obtain ⟨record', h'⟩ := h.after_step hserves fun client state heq =>
      hfits client state (heq ▸ List.mem_cons_self)
    exact ih h' fun client state hmem => hfits client state (List.mem_cons_of_mem _ hmem)

/-- Before the first move. -/
theorem orderly_opening {store : σ} (h : holds none store) :
    (opening store : Rivals σ ε).Orderly holds ready none :=
  ⟨trivial, h, rfl, fun _ => follows_idle rfl⟩

end Runs

end Rivals

/-- **A save that succeeds is earned**, in the store of the process and on a server, whatever the
clients do in whatever order: since the last load of the client nobody has changed the record, or the
record was dropped since and has been saved exactly as often as the client expects. -/
theorem saves_earned {key : SessionKey} {name : String} (hname : key.join = .ok name)
    {moves : List Move}
    (hfits : ∀ client state, .save client state ∈ moves → state.key = key ∧ Faithful state)
    (keyStart : String) (keptFor : Option Int) :
    Earned ((Rivals.opening Memory.empty).run Memory.protocol key moves).log ∧
      Earned ((Rivals.opening (Remote.new keyStart keptFor)).run Remote.protocol key moves).log := by
  constructor
  · have hholds : Memory.Holds name none Memory.empty := rfl
    obtain ⟨_, horderly⟩ := (Rivals.orderly_opening hholds).after_run (serves_memory hname) hfits
    exact horderly.coherent.earned
  · have hholds : Remote.Holds name none (Remote.new keyStart keptFor) :=
      ⟨rfl, rfl, fun _ h => nomatch h⟩
    obtain ⟨_, horderly⟩ := (Rivals.orderly_opening hholds).after_run (serves_remote hname) hfits
    exact horderly.coherent.earned

/-- While the first client holds what it has loaded, the second one drops the record and saves
another.  Then the first one saves. -/
def rebirth : List Move :=
  [.load 0 visit.startedAt, .save 0 visit, .proceed 0, .proceed 0, .load 0 visit.startedAt, .delete 1,
    .load 1 visit.startedAt, .save 1 visit, .proceed 1, .proceed 1, .save 0 visit, .proceed 0,
    .proceed 0]

theorem fits_rebirth : ∀ client state, .save client state ∈ rebirth →
    state.key = visit.key ∧ Faithful state := by
  intro client state hmem
  have hsaves : client = 0 ∧ state = visit ∨ client = 1 ∧ state = visit ∨
      client = 0 ∧ state = visit := by
    simpa [rebirth] using hmem
  rcases hsaves with ⟨-, rfl⟩ | ⟨-, rfl⟩ | ⟨-, rfl⟩ <;> exact ⟨rfl, faithful_visit⟩

theorem log_rebirth : ((Rivals.opening Memory.empty).run Memory.protocol visit.key rebirth).log =
    [.saved 0 1, .saved 1 0, .loaded 1 0, .deleted 1 true, .loaded 0 1, .saved 0 0, .loaded 0 0] :=
  rfl

theorem saves_earned_rebirth :
    visit.key.join = .ok "acme:ann:1" ∧
      (∀ client state, .save client state ∈ rebirth → state.key = visit.key ∧ Faithful state) ∧
      Earned ((Rivals.opening Memory.empty).run Memory.protocol visit.key rebirth).log ∧
      Earned ((Rivals.opening (Remote.new "parley:" none)).run
        Remote.protocol visit.key rebirth).log := by
  have hname : visit.key.join = .ok "acme:ann:1" := by decide
  exact ⟨hname, fits_rebirth, saves_earned hname fits_rebirth "parley:" none⟩

/-- The last save overwrites what the other client has saved since the load. -/
theorem not_guarded_rebirth :
    ¬Guarded ((Rivals.opening Memory.empty).run Memory.protocol visit.key rebirth).log := by
  intro hguarded
  have hclient := hguarded [] 0 1 [.saved 1 0, .loaded 1 0, .deleted 1 true] [.saved 0 0, .loaded 0 0]
    log_rebirth (by simp) (.saved 1 0) List.mem_cons_self rfl
  exact nomatch hclient

end Parley.Storage
