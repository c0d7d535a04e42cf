import Parley.Proofs.Conversation.Documents
import Parley.Proofs.Document.Reader
import Parley.Proofs.Storage.Isolation
import Parley.Proofs.Storage.Swapping
import Parley.Storage.Archive

/-!
# Parley.Proofs.Storage.Shelf — every kind of store is a map with compare and swap

A `Shelf` holds a state for each session that has one.  `Shelf.save` stores a state under the next
version if the stored version is the one expected, and `answers ops calls s` are the answers to a
list of calls, where a save is answered with the state as it is known afterwards.

`answers_eq_shelf`: whatever is called in whatever order, the store of the process, the archive of
documents and the store on a server give the answers of the shelf, for sessions without colons in
their ids and states that can be copied and whose documents can be written and read.
`not_shelf_of_piled` is a state that cannot be copied.
-/

namespace Parley.Storage

open Conversation (State SessionKey)
open Time (Moment)

/-! ### Calls and answers -/

/-- What is asked of a store.  A save that expects no version expects the one of its state. -/
inductive Call
  | load (now : Moment) (key : SessionKey)
  | save (state : State) (expected : Option Int)
  | delete (key : SessionKey)

/-- What comes back; of a save also the state that was passed, as it is afterwards. -/
inductive Answer
  | loaded (state : Except Fault (Option State))
  | saved (outcome : Except Fault Saved) (state : State)
  | deleted (found : Except Fault Bool)

/-- The operations of a kind of store. -/
structure Operations (σ : Type) where
  load : Moment → SessionKey → σ → Except Fault (Option State) × σ
  save : State → Int → σ → Except Fault Saved × σ
  delete : SessionKey → σ → Except Fault Bool × σ

/-- The state that was passed to a save, as it is afterwards. -/
def passed (outcome : Except Fault Saved) (state : State) : State :=
  match outcome with
  | .ok saved => saved.adopt state
  | .error _ => state

namespace Operations

variable {σ : Type}

/-- The answer to a call, and the store after it. -/
def answer (ops : Operations σ) (s : σ) : Call → Answer × σ
  | .load now key => let (state, s) := ops.load now key s; (.loaded state, s)
  | .save state expected =>
    let (outcome, s) := ops.save state (expected.getD state.version) s
    (.saved outcome (passed outcome state), s)
  | .delete key => let (found, s) := ops.delete key s; (.deleted found, s)

/-- The answers to one call after the other. -/
def answers (ops : Operations σ) : σ → List Call → List Answer
  | _, [] => []
  | s, call :: more => (ops.answer s call).1 :: ops.answers (ops.answer s call).2 more

end Operations

/-- A store of the process or on a server. -/
def Backing.operations : Operations Backing := ⟨Backing.load, Backing.save, Backing.delete⟩

/-- A store of documents in the process. -/
def Archive.operations : Operations Archive :=
  ⟨fun now key a => (a.load now key, a), Archive.save, Archive.delete⟩

/-! ### The shelf -/

/-- The state of each session, if it has one. -/
structure Shelf where
  states : SessionKey → Option State

namespace Shelf

def empty : Shelf := ⟨fun _ => none⟩

/-- The stored version; zero if nothing is stored. -/
def version (shelf : Shelf) (key : SessionKey) : Int := heldVersion (shelf.states key)

def put (shelf : Shelf) (key : SessionKey) (state : Option State) : Shelf :=
  ⟨fun other => if other = key then state else shelf.states other⟩

/-- Stores a state under the next version if the stored version is the one expected; a conflict tells
the stored version and changes nothing. -/
def save (shelf : Shelf) (state : State) (expected : Int) : Saved × Shelf :=
  if shelf.version state.key = expected then
    (.stored (.int (expected + 1)),
      shelf.put state.key (some { state with version := expected + 1 }))
  else (.conflict (.int (shelf.version state.key)), shelf)

/-- The answer to a call, and the shelf after it. -/
def answer (shelf : Shelf) : Call → Answer × Shelf
  | .load _ key => (.loaded (.ok (shelf.states key)), shelf)
  | .save state expected =>
    let version := expected.getD state.version
    let (saved, after) := shelf.save state version
    (.saved (.ok saved) (if saved.ok then { state with version := version + 1 } else state), after)
  | .delete key => (.deleted (.ok (shelf.states key).isSome), shelf.put key none)

/-- The answers to one call after the other. -/
def answers : Shelf → List Call → List Answer
  | _, [] => []
  | shelf, call :: more => (shelf.answer call).1 :: (shelf.answer call).2.answers more

end Shelf

/-! ### Stores that hold what is on the shelf -/

/-- A state that is read back as it was written: its document is legible, with texts for the names of
all variables, and its times are moments that text can hold, as are those of every state that was
read (`State.timely_of_ofFields`). -/
structure Faithful (state : State) : Prop where
  timely : state.Timely
  named : state.slots = []
  legible : Document.Legible (.object state.document)

/-- And it can be written: its numbers are not too long, and its data not too deep. -/
structure Readable (state : State) : Prop extends Faithful state where
  brief : (Value.object state.document).brief = true
  nested : (Value.object state.document).nesting ≤ Limits.room

/-- And it can be copied. -/
structure Sound (state : State) : Prop extends Faithful state where
  brief : (Value.object state.document).brief = true
  shallow : state.copyCalls ≤ Limits.calls

namespace Faithful

variable {state : State}

theorem restores (h : Faithful state) (now : Moment) :
    State.ofFields now state.document = .ok state :=
  State.ofFields_document h.timely h.named now

/-- The version is a number, and that can always be read. -/
theorem at_version (h : Faithful state) (version : Int) :
    Faithful { state with version := version } where
  timely := ⟨h.timely.started, h.timely.updated⟩
  named := h.named
  legible := h.legible

end Faithful

namespace Readable

variable {state : State}

theorem rereads (h : Readable state) :
    Document.read (Document.write (.object state.document)) = .ok (.object state.document) :=
  Document.read_write h.legible ⟨h.brief, h.nested⟩

theorem restores_document (h : Readable state) (now : Moment) :
    State.ofDocument now (.object state.document) = .ok state :=
  State.ofDocument_document h.timely h.named now

end Readable

namespace Sound

variable {state : State}

/-- What can be copied can be written. -/
theorem readable (h : Sound state) : Readable state where
  toFaithful := h.toFaithful
  brief := h.brief
  nested := by
    have hshallow := h.shallow
    unfold State.copyCalls Limits.calls at hshallow
    unfold Limits.room Limits.calls
    omega

/-- The copy is made before the version is set. -/
theorem copies {version : Int} (h : Sound { state with version := version }) :
    state.copy = .ok state := State.copy_eq_ok.mpr ⟨h.shallow, rfl⟩

end Sound

/-- What is found under the names of sessions is what stands for their states on the shelf. -/
def HeldAs {α : Type} (form : State → α) (shelf : Shelf) (found : String → Option α) : Prop :=
  ∀ key name, key.Plain → key.join = .ok name → found name = (shelf.states key).map form

/-- What a kind of store has to do to be a shelf. -/
structure Keeps {σ : Type} (ops : Operations σ) (holds : Shelf → σ → Prop) : Prop where
  load : ∀ {shelf s key} (now : Moment), holds shelf s → key.Plain →
    (∀ state, shelf.states key = some state → Sound state) →
    (ops.load now key s).1 = .ok (shelf.states key) ∧ holds shelf (ops.load now key s).2
  save : ∀ {shelf s state} {expected : Int}, holds shelf s → state.key.Plain →
    (∀ old, shelf.states state.key = some old → Sound old) →
    Sound { state with version := expected + 1 } →
    (ops.save state expected s).1 = .ok (shelf.save state expected).1 ∧
      holds (shelf.save state expected).2 (ops.save state expected s).2
  delete : ∀ {shelf s key}, holds shelf s → key.Plain →
    (ops.delete key s).1 = .ok (shelf.states key).isSome ∧
      holds (shelf.put key none) (ops.delete key s).2

section Names

variable {α : Type} {form : State → α} {shelf : Shelf} {found found' : String → Option α}
variable {key : SessionKey} {name : String} {state : Option State}

theorem exists_join (h : key.Plain) : ∃ name, key.join = .ok name := by
  obtain ⟨tenant, user, session, rfl, -, -, -⟩ := h
  exact ⟨_, rfl⟩

/-- A change under one name, and of one session. -/
theorem HeldAs.put (h : HeldAs form shelf found) (hkey : key.Plain) (hname : key.join = .ok name)
    (hself : found' name = state.map form)
    (hothers : ∀ other, other ≠ name → found' other = found other) :
    HeldAs form (shelf.put key state) found' := by
  intro key' name' hkey' hname'
  by_cases hsame : key' = key
  · subst hsame
    obtain rfl : name = name' := Except.ok.inj (hname.symm.trans hname')
    simp [hself, Shelf.put]
  · have hne : name' ≠ name := by
      rintro rfl
      exact hsame (hkey.eq_of_join (hname'.trans hname.symm))
    simp [hothers name' hne, h key' name' hkey' hname', Shelf.put, hsame]

end Names

/-! ### The store of the process -/

section Memory

/-- The store of the process holds the states themselves. -/
def InProcess (shelf : Shelf) (b : Backing) : Prop :=
  ∃ m, b = .memory m ∧ HeldAs (fun state => state) shelf m.records.get?

theorem keeps_memory : Keeps Backing.operations InProcess where
  load := by
    rintro shelf _ key now ⟨m, rfl, hheld⟩ hkey -
    obtain ⟨name, hname⟩ := exists_join hkey
    have hfound := hheld key name hkey hname
    rw [Option.map_id'] at hfound
    refine ⟨?_, m, rfl, hheld⟩
    rw [← hfound]
    exact Memory.load_eq hname
  save := by
    rintro shelf _ state expected ⟨m, rfl, hheld⟩ hkey - hstate
    obtain ⟨name, hname⟩ := exists_join hkey
    have hfound := hheld state.key name hkey hname
    have hversion : m.version name = shelf.version state.key := by
      unfold Memory.version Shelf.version heldVersion
      rw [hfound, Option.map_id']
    show (m.save state expected).1 = _ ∧ InProcess _ (.memory (m.save state expected).2)
    unfold Shelf.save Memory.save
    rw [← hversion, hname]
    dsimp only [bind, Except.bind]
    by_cases hexpected : m.version name = expected
    · rw [Memory.swap_of_eq hexpected, if_pos hexpected, hstate.copies]
      refine ⟨rfl, _, rfl, hheld.put hkey hname ?_ fun other hother => ?_⟩
      · exact Table.get?_put_self _ _ _
      · exact Table.get?_put_of_ne _ _ hother
    · rw [Memory.swap_of_ne hexpected, if_neg hexpected]
      exact ⟨rfl, m, rfl, hheld⟩
  delete := by
    rintro shelf _ key ⟨m, rfl, hheld⟩ hkey
    obtain ⟨name, hname⟩ := exists_join hkey
    have hfound := hheld key name hkey hname
    rw [Option.map_id'] at hfound
    have hdelete : Backing.operations.delete key (.memory m) =
        (.ok (m.records.has name), .memory ⟨m.records.erase name⟩) := by
      show Backing.delete key (.memory m) = _
      unfold Backing.delete Memory.delete
      rw [hname]
    rw [hdelete]
    refine ⟨?_, _, rfl, hheld.put hkey hname ?_ fun other hother => ?_⟩
    · unfold Table.has
      rw [hfound]
    · exact Table.get?_erase_self _ _
    · exact Table.get?_erase_of_ne _ hother

end Memory

/-! ### The archive -/

section Archive

theorem equal_int (a b : Int) : (Value.int a).equal (.int b) = decide (a = b) := by
  have horder : (Number.int a).order (.int b) = some (compare a b) := rfl
  have heq : (some (compare a b) == some Ordering.eq) = decide (a = b) := by
    by_cases h : a = b <;> simp [h]
  simp [Value.equal, Value.equal.scalar, Value.number?, Number.same, horder, heq]

theorem plus_one (a : Int) : (Value.int a).plus (.int 1) = .ok (.int (a + 1)) := rfl

/-- The archive holds the documents of the states. -/
def InArchive (shelf : Shelf) (a : Archive) : Prop :=
  HeldAs State.document shelf a.records.get?

theorem storedVersion_document (state : Option State) :
    Archive.storedVersion (state.map State.document) =
      .ok (.int (heldVersion state)) := by
  cases state with
  | none => rfl
  | some state => exact state.require_version

/-- A swap, when the stored version can be read. -/
theorem Archive.swap_eq {a : Archive} {name : String} {version : Int} {state : State}
    (hversion : storedVersion (a.records.get? name) = .ok (.int version))
    (hcopy : state.copy = .ok state) (expected : Int) :
    a.swap name state expected = .ok (if version = expected then
        (.stored (.int (expected + 1)),
          ⟨a.records.put name { state with version := expected + 1 }.document⟩)
      else (.conflict (.int version), a)) := by
  unfold swap
  rw [hversion]
  by_cases hexpected : version = expected
  · simp only [bind, Except.bind, equal_int, hexpected, decide_true, if_true, plus_one, hcopy,
      State.put_version]
  · simp only [bind, Except.bind, equal_int, hexpected, decide_false, if_false, Bool.false_eq_true]

theorem Archive.save_eq {a a' : Archive} {state : State} {name : String} {expected : Int}
    {saved : Saved} (hname : state.key.join = .ok name)
    (hswap : a.swap name state expected = .ok (saved, a')) :
    a.save state expected = (.ok saved, a') := by
  unfold save
  rw [hname]
  simp only [bind, Except.bind, hswap]

theorem keeps_archive : Keeps Archive.operations InArchive where
  load := by
    intro shelf a key now hheld hkey hsound
    obtain ⟨name, hname⟩ := exists_join hkey
    have hfound := hheld key name hkey hname
    refine ⟨?_, hheld⟩
    show a.load now key = _
    unfold Archive.load
    rw [hname]
    simp only [bind, Except.bind, hfound]
    cases hstate : shelf.states key with
    | none => rfl
    | some state =>
      simp only [Option.map_some, (hsound state hstate).restores]
      rfl
  save := by
    intro shelf a state expected hheld hkey _ hstate
    obtain ⟨name, hname⟩ := exists_join hkey
    have hfound := hheld state.key name hkey hname
    have hversion : Archive.storedVersion (a.records.get? name) =
        .ok (.int (shelf.version state.key)) := by
      rw [hfound]
      exact storedVersion_document _
    have hswap := Archive.swap_eq hversion hstate.copies expected
    show (a.save state expected).1 = _ ∧ InArchive _ (a.save state expected).2
    unfold Shelf.save
    by_cases hexpected : shelf.version state.key = expected
    · rw [if_pos hexpected] at hswap ⊢
      rw [Archive.save_eq hname hswap]
      refine ⟨rfl, hheld.put hkey hname ?_ fun other hother => ?_⟩
      · exact Table.get?_put_self _ _ _
      · exact Table.get?_put_of_ne _ _ hother
    · rw [if_neg hexpected] at hswap ⊢
      rw [Archive.save_eq hname hswap]
      exact ⟨rfl, hheld⟩
  delete := by
    intro shelf a key hheld hkey
    obtain ⟨name, hname⟩ := exists_join hkey
    have hfound := hheld key name hkey hname
    have hdelete : Archive.operations.delete key a =
        (.ok (a.records.has name), ⟨a.records.erase name⟩) := by
      show Archive.delete key a = _
      unfold Archive.delete
      rw [hname]
    rw [hdelete]
    refine ⟨?_, hheld.put hkey hname ?_ fun other hother => ?_⟩
    · unfold Table.has
      rw [hfound, Option.isSome_map]
    · exact Table.get?_erase_self _ _
    · exact Table.get?_erase_of_ne _ hother

end Archive

/-! ### The store on a server -/

namespace Server

/-- No command is planned to fail. -/
def Calm (s : Server) : Prop := s.errors = []

variable {s : Server} {key : String}

theorem command_of_calm (h : s.Calm) {α : Type} (c : Command)
    (f : Server → Except ServerError α × Server) : command c f s = f s := by
  unfold command
  rw [h]
  rfl

theorem get_of_calm (h : s.Calm) : s.get key = (.ok (s.text? key), s) := command_of_calm h _ _

theorem watch_of_calm (h : s.Calm) : s.watch key = (.ok (s.changeCount key), s) :=
  command_of_calm h _ _

theorem watchedGet_of_calm (h : s.Calm) : s.watchedGet key = (.ok (s.text? key), s) :=
  command_of_calm h _ _

theorem execute_of_calm (h : s.Calm) (seen : Nat) (entry : Entry) :
    s.execute key seen entry = if s.changeCount key = seen then (.ok (), s.put key entry)
      else (.error (.raced racedWording), s) := command_of_calm h _ _

theorem delete_of_calm (h : s.Calm) : s.delete key =
    if s.entries.has key then (.ok true, s.remove key) else (.ok false, s) :=
  command_of_calm h _ _

theorem has_entries (s : Server) (key : String) : s.entries.has key = (s.text? key).isSome :=
  (Option.isSome_map ..).symm

theorem text?_put_self (s : Server) (key : String) (entry : Entry) :
    (s.put key entry).text? key = some entry.text :=
  congrArg (Option.map Entry.text) (Table.get?_put_self s.entries key entry)

theorem text?_put_of_ne (s : Server) {other : String} (entry : Entry) (h : other ≠ key) :
    (s.put key entry).text? other = s.text? other :=
  congrArg (Option.map Entry.text) (Table.get?_put_of_ne s.entries entry h)

theorem text?_remove_self (s : Server) (key : String) : (s.remove key).text? key = none :=
  congrArg (Option.map Entry.text) (Table.get?_erase_self s.entries key)

theorem text?_remove_of_ne (s : Server) {other : String} (h : other ≠ key) :
    (s.remove key).text? other = s.text? other :=
  congrArg (Option.map Entry.text) (Table.get?_erase_of_ne s.entries h)

end Server

section Remote

/-- What stands for a state on a server. -/
def shown (state : State) : String := Document.write (.object state.document)

/-- The texts that a store on a server finds under names. -/
def Remote.found (r : Remote) (name : String) : Option String := r.server.text? (r.keyStart ++ name)

/-- The server holds the document texts of the states, and no command fails. -/
def OnServer (shelf : Shelf) (b : Backing) : Prop :=
  ∃ r, b = .remote r ∧ r.server.Calm ∧ HeldAs shown shelf r.found

theorem shown_ne_empty (state : State) : shown state ≠ "" := by
  unfold shown
  simp [Document.write]

/-- The record of a readable state is its document text at the new version. -/
theorem compose_record {state : State} {version : Int}
    (h : Readable { state with version := version }) :
    Document.compose (Remote.record state (.int version)) =
      .ok (shown { state with version := version }) := by
  unfold Remote.record
  rw [State.put_version]
  exact Document.compose_eq_ok.mpr ⟨⟨h.brief, h.nested⟩, rfl⟩

/-- What is written of a faithful state can be read. -/
theorem readable_of_compose {state : State} {version : Int} {text : String} (h : Faithful state)
    (htext : Document.compose (Remote.record state (.int version)) = .ok text) :
    Readable { state with version := version } ∧ text = shown { state with version := version } := by
  unfold Remote.record at htext
  rw [State.put_version] at htext
  obtain ⟨⟨hbrief, hnested⟩, rfl⟩ := Document.compose_eq_ok.mp htext
  exact ⟨⟨h.at_version version, hbrief, hnested⟩, rfl⟩

theorem storedVersion_shown {state : Option State} (h : ∀ s, state = some s → Readable s) :
    Remote.storedVersion (state.map shown) = .ok (.int (heldVersion state)) := by
  cases state with
  | none => rfl
  | some s =>
    have hreads : Document.read (shown s) = .ok (.object s.document) := (h s rfl).rereads
    show Remote.storedVersion (some (shown s)) = .ok (.int s.version)
    unfold Remote.storedVersion
    split
    · rename_i heq
      exact nomatch heq
    · rename_i heq
      exact absurd (Option.some.inj heq) (shown_ne_empty s)
    · rename_i heq
      rw [← Option.some.inj heq, hreads]
      exact s.require_version

/-- A write under one name changes what is found under it. -/
theorem Remote.found_put (r : Remote) (name : String) (entry : Entry) :
    ({ r with server := r.server.put (r.keyStart ++ name) entry } : Remote).found name =
        some entry.text ∧
      ∀ other, other ≠ name →
        ({ r with server := r.server.put (r.keyStart ++ name) entry } : Remote).found other =
          r.found other :=
  ⟨r.server.text?_put_self _ entry, fun _ h =>
    r.server.text?_put_of_ne entry (keyStart_append_ne h r.keyStart)⟩

theorem Remote.found_remove (r : Remote) (name : String) :
    ({ r with server := r.server.remove (r.keyStart ++ name) } : Remote).found name = none ∧
      ∀ other, other ≠ name →
        ({ r with server := r.server.remove (r.keyStart ++ name) } : Remote).found other =
          r.found other :=
  ⟨r.server.text?_remove_self _, fun _ h =>
    r.server.text?_remove_of_ne (keyStart_append_ne h r.keyStart)⟩

/-- The write that a save of a state offers. -/
def Remote.pending (r : Remote) (name : String) (state : State) (expected : Int) : Pending where
  key := r.keyStart ++ name
  seen := r.server.changeCount (r.keyStart ++ name)
  entry := ⟨shown { state with version := expected + 1 }, r.keptFor⟩
  version := .int (expected + 1)

/-- What the comparison of versions comes to, when the stored one can be read. -/
theorem Remote.offer_eq (r : Remote) {text : Option String} {version : Int}
    (hversion : storedVersion text = .ok (.int version)) (name : String) (seen : Nat) {state : State}
    {expected : Int} (hstate : Readable { state with version := expected + 1 }) :
    r.offer name seen state expected text =
      .ok (if version = expected then
        .ok ⟨name, seen, ⟨shown { state with version := expected + 1 }, r.keptFor⟩,
          .int (expected + 1)⟩
      else .error (.conflict (.int version))) := by
  unfold offer
  rw [hversion]
  by_cases hexpected : version = expected
  · simp only [bind, Except.bind, equal_int, hexpected, decide_true, if_true, plus_one,
      compose_record hstate]
  · simp only [bind, Except.bind, equal_int, hexpected, decide_false, if_false, Bool.false_eq_true]

/-- What the comparison comes to for any faithful state: a state that cannot be written is not
offered. -/
theorem Remote.offer_cases (r : Remote) {text : Option String} {version : Int}
    (hversion : storedVersion text = .ok (.int version)) (name : String) (seen : Nat) {state : State}
    (hstate : Faithful state) (expected : Int) :
    (∃ f, r.offer name seen state expected text = .error f) ∨
      version ≠ expected ∧
        r.offer name seen state expected text = .ok (.error (.conflict (.int version))) ∨
      version = expected ∧ Readable { state with version := expected + 1 } ∧
        r.offer name seen state expected text =
          .ok (.ok ⟨name, seen, ⟨shown { state with version := expected + 1 }, r.keptFor⟩,
            .int (expected + 1)⟩) := by
  by_cases hexpected : version = expected
  · subst hexpected
    cases hcompose : Document.compose (record state (.int (version + 1))) with
    | error f =>
      refine .inl ⟨f, ?_⟩
      unfold offer
      rw [hversion]
      simp only [bind, Except.bind, equal_int, decide_true, if_true, plus_one, hcompose]
    | ok text' =>
      obtain ⟨hreadable, rfl⟩ := readable_of_compose hstate hcompose
      refine .inr (.inr ⟨rfl, hreadable, ?_⟩)
      rw [r.offer_eq hversion name seen hreadable, if_pos rfl]
  · refine .inr (.inl ⟨hexpected, ?_⟩)
    unfold offer
    rw [hversion]
    simp only [bind, Except.bind, equal_int, hexpected, decide_false, if_false, Bool.false_eq_true]

/-- A save begins with the comparison of versions. -/
theorem Remote.begin_of_calm {r : Remote} (hcalm : r.server.Calm) {state : State} {name : String}
    (hname : state.key.join = .ok name) {version : Int}
    (hversion : storedVersion (r.found name) = .ok (.int version)) {expected : Int}
    (hstate : Readable { state with version := expected + 1 }) : r.begin state expected =
      (.ok (if version = expected then .ok (r.pending name state expected)
        else .error (.conflict (.int version))), r) := by
  have hoffer := r.offer_eq hversion (r.keyStart ++ name)
    (r.server.changeCount (r.keyStart ++ name)) hstate
  unfold begin
  rw [serverKey_eq hname]
  dsimp only
  rw [Server.watch_of_calm hcalm]
  dsimp only
  rw [Server.watchedGet_of_calm hcalm]
  exact congrArg (·, r) hoffer

/-- A write that was offered is made if nothing has changed since. -/
theorem Remote.commit_of_calm {r : Remote} (hcalm : r.server.Calm) (p : Pending) (expected : Int) :
    r.commit p expected = if r.server.changeCount p.key = p.seen
      then (.ok (.stored p.version), { r with server := r.server.put p.key p.entry })
      else (.ok (.conflict (.int expected)), r) := by
  unfold commit
  rw [Server.execute_of_calm hcalm]
  by_cases hseen : r.server.changeCount p.key = p.seen
  · rw [if_pos hseen, if_pos hseen]
  · rw [if_neg hseen, if_neg hseen]

theorem Remote.save_of_calm {r : Remote} (hcalm : r.server.Calm) {state : State} {name : String}
    (hname : state.key.join = .ok name) {version : Int}
    (hversion : storedVersion (r.found name) = .ok (.int version)) {expected : Int}
    (hstate : Readable { state with version := expected + 1 }) :
    r.save state expected = if version = expected
      then (.ok (.stored (.int (expected + 1))), { r with
        server := r.server.put (r.keyStart ++ name) (r.pending name state expected).entry })
      else (.ok (.conflict (.int version)), r) := by
  unfold save
  rw [begin_of_calm hcalm hname hversion hstate]
  by_cases hexpected : version = expected
  · rw [if_pos hexpected, if_pos hexpected]
    dsimp only
    rw [commit_of_calm hcalm]
    exact if_pos rfl
  · rw [if_neg hexpected, if_neg hexpected]

/-- The text of a readable state is decoded to the state. -/
theorem Remote.decode_shown {state : State} (h : Readable state) (now : Moment) (record : String) :
    decode now record (shown state) = .ok state := by
  have hreads : Document.read (shown state) = .ok (.object state.document) := h.rereads
  unfold decode
  rw [hreads]
  simp only [bind, Except.bind, h.restores_document]

theorem Remote.load_of_calm {r : Remote} (hcalm : r.server.Calm) {key : SessionKey} {name : String}
    (hname : key.join = .ok name) {state : Option State} (hfound : r.found name = state.map shown)
    (hsound : ∀ s, state = some s → Readable s) (now : Moment) : r.load now key = (.ok state, r) := by
  have hget : r.server.get (r.keyStart ++ name) = (.ok (state.map shown), r.server) := by
    rw [Server.get_of_calm hcalm, ← hfound]
    rfl
  unfold load
  rw [serverKey_eq hname]
  dsimp only
  rw [hget]
  cases state with
  | none => rfl
  | some s =>
    simp only [Option.map_some, decode_shown (hsound s rfl)]
    rfl

theorem Remote.delete_of_calm {r : Remote} (hcalm : r.server.Calm) {key : SessionKey}
    {name : String} (hname : key.join = .ok name) :
    r.delete key = if (r.found name).isSome
      then (.ok true, { r with server := r.server.remove (r.keyStart ++ name) })
      else (.ok false, r) := by
  unfold delete
  rw [serverKey_eq hname]
  dsimp only
  rw [Server.delete_of_calm hcalm, Server.has_entries]
  unfold found
  split_ifs <;> rfl

theorem keeps_remote : Keeps Backing.operations OnServer where
  load := by
    rintro shelf _ key now ⟨r, rfl, hcalm, hheld⟩ hkey hsound
    obtain ⟨name, hname⟩ := exists_join hkey
    have hload : Backing.operations.load now key (.remote r) =
        ((r.load now key).1, .remote (r.load now key).2) := rfl
    rw [hload, Remote.load_of_calm hcalm hname (hheld key name hkey hname)
      fun s hs => (hsound s hs).readable]
    exact ⟨rfl, r, rfl, hcalm, hheld⟩
  save := by
    rintro shelf _ state expected ⟨r, rfl, hcalm, hheld⟩ hkey hsound hstate
    obtain ⟨name, hname⟩ := exists_join hkey
    have hversion : Remote.storedVersion (r.found name) = .ok (.int (shelf.version state.key)) := by
      rw [hheld state.key name hkey hname]
      exact storedVersion_shown fun s hs => (hsound s hs).readable
    have hsave : Backing.operations.save state expected (.remote r) =
        ((r.save state expected).1, .remote (r.save state expected).2) := rfl
    rw [hsave, Remote.save_of_calm hcalm hname hversion hstate.readable]
    unfold Shelf.save
    by_cases hexpected : shelf.version state.key = expected
    · rw [if_pos hexpected, if_pos hexpected]
      obtain ⟨hself, hothers⟩ := r.found_put name (r.pending name state expected).entry
      exact ⟨rfl, _, rfl, hcalm, hheld.put hkey hname hself hothers⟩
    · rw [if_neg hexpected, if_neg hexpected]
      exact ⟨rfl, r, rfl, hcalm, hheld⟩
  delete := by
    rintro shelf _ key ⟨r, rfl, hcalm, hheld⟩ hkey
    obtain ⟨name, hname⟩ := exists_join hkey
    have hfound := hheld key name hkey hname
    have hdelete : Backing.operations.delete key (.remote r) =
        ((r.delete key).1, .remote (r.delete key).2) := rfl
    rw [hdelete, Remote.delete_of_calm hcalm hname, hfound, Option.isSome_map]
    by_cases hthere : (shelf.states key).isSome = true
    · rw [if_pos hthere, hthere]
      obtain ⟨hself, hothers⟩ := r.found_remove name
      exact ⟨rfl, _, rfl, hcalm, hheld.put hkey hname hself hothers⟩
    · have hnone : shelf.states key = none := by simpa using hthere
      rw [if_neg hthere, hnone]
      refine ⟨rfl, r, rfl, hcalm, hheld.put hkey hname ?_ fun _ _ => rfl⟩
      rw [hfound, hnone]

end Remote

/-! ### Runs -/

/-- Every state on the shelf can be copied, written and read. -/
def Shelf.Sound (shelf : Shelf) : Prop :=
  ∀ key state, shelf.states key = some state → Storage.Sound state

namespace Call

/-- The session that the call is about. -/
def key : Call → SessionKey
  | load _ key => key
  | save state _ => state.key
  | delete key => key

/-- The call is about a session without colons in its ids, and saves no state that could not be
copied, written and read under its next version. -/
structure Fits (call : Call) : Prop where
  plain : call.key.Plain
  sound : ∀ state expected, call = .save state expected →
    Sound { state with version := expected.getD state.version + 1 }

end Call

section Runs

variable {σ : Type} {ops : Operations σ} {holds : Shelf → σ → Prop} {shelf : Shelf} {s : σ}

/-- The state that was passed to a save has its new version afterwards, if there is one. -/
theorem Shelf.passed_save (shelf : Shelf) (state : State) (expected : Int) :
    passed (.ok (shelf.save state expected).1) state =
      if (shelf.save state expected).1.ok then { state with version := expected + 1 } else state := by
  unfold Shelf.save passed
  split_ifs with hversion hstored hstored
  · exact Saved.adopt_stored _ _
  · exact absurd rfl hstored
  · exact nomatch hstored
  · exact Saved.adopt_conflict _ _

theorem Shelf.sound_empty : Shelf.empty.Sound := fun _ _ h => nomatch h

theorem Shelf.Sound.put (h : shelf.Sound) {key : SessionKey} {state : Option State}
    (hstate : ∀ s, state = some s → Storage.Sound s) : (shelf.put key state).Sound := by
  intro other s hs
  unfold Shelf.put at hs
  dsimp only at hs
  split_ifs at hs
  · exact hstate s hs
  · exact h other s hs

theorem Shelf.Sound.save (h : shelf.Sound) {state : State} {expected : Int}
    (hstate : Storage.Sound { state with version := expected + 1 }) :
    (shelf.save state expected).2.Sound := by
  unfold Shelf.save
  split_ifs
  · exact h.put fun s hs => Option.some.inj hs ▸ hstate
  · exact h

/-- What one call keeps: the answer is the shelf's, and the store holds what is on it then. -/
theorem Keeps.answer (h : Keeps ops holds) (hholds : holds shelf s) (hsound : shelf.Sound)
    {call : Call} (hfits : call.Fits) :
    (ops.answer s call).1 = (shelf.answer call).1 ∧
      holds (shelf.answer call).2 (ops.answer s call).2 ∧
      (shelf.answer call).2.Sound := by
  cases call with
  | load now key =>
    obtain ⟨hanswer, hholds'⟩ := h.load now hholds hfits.plain (hsound key)
    exact ⟨congrArg Answer.loaded hanswer, hholds', hsound⟩
  | save state expected =>
    have hstate := hfits.sound state expected rfl
    obtain ⟨hanswer, hholds'⟩ := h.save hholds hfits.plain (hsound state.key) hstate
    have hpassed := shelf.passed_save state (expected.getD state.version)
    rw [← hanswer] at hpassed
    exact ⟨congrArg₂ Answer.saved hanswer hpassed, hholds',
      hsound.save hstate⟩
  | delete key =>
    obtain ⟨hanswer, hholds'⟩ := h.delete hholds hfits.plain
    exact ⟨congrArg Answer.deleted hanswer, hholds', hsound.put fun _ hs => nomatch hs⟩

theorem Keeps.answers (h : Keeps ops holds) (hholds : holds shelf s) (hsound : shelf.Sound)
    {calls : List Call} (hfits : ∀ call ∈ calls, call.Fits) :
    ops.answers s calls = shelf.answers calls := by
  induction calls generalizing shelf s with
  | nil => rfl
  | cons call more ih =>
    obtain ⟨hsame, hholds', hsound'⟩ := h.answer hholds hsound (hfits call List.mem_cons_self)
    have hrest := ih hholds' hsound' fun c hc => hfits c (List.mem_cons_of_mem _ hc)
    rw [Operations.answers, Shelf.answers, hsame, hrest]

/-- **Every kind of store answers as a map with compare and swap does**, whatever is called in
whatever order: the store of the process, the archive, and the store on a server, with any start of
its keys and any time that it keeps states for. -/
theorem answers_eq_shelf {calls : List Call} (h : ∀ call ∈ calls, call.Fits)
    (keyStart : String) (keptFor : Option Int) :
    Backing.operations.answers (.memory .empty) calls =
        Shelf.answers .empty calls ∧
      Archive.operations.answers .empty calls = Shelf.answers .empty calls ∧
      Backing.operations.answers (.remote (.new keyStart keptFor)) calls =
        Shelf.answers .empty calls := by
  refine ⟨?_, ?_, ?_⟩
  · exact keeps_memory.answers ⟨_, rfl, fun _ _ _ _ => rfl⟩ Shelf.sound_empty h
  · exact keeps_archive.answers (fun _ _ _ _ => rfl) Shelf.sound_empty h
  · have hholds : OnServer .empty (.remote (.new keyStart keptFor)) :=
      ⟨.new keyStart keptFor, rfl, rfl, fun _ _ _ _ => rfl⟩
    exact keeps_remote.answers hholds Shelf.sound_empty h

end Runs

/-- A state in the middle of a conversation, with a fraction in one of its times and an offset in the
other. -/
def visit : State where
  flowId := .text "welcome"
  tenantId := .text "acme"
  userId := .text "ann"
  sessionId := .text "1"
  currentNodeId := .text "ask"
  context := [("name", .text "Ann"), ("tries", .list [.int 2, .null])]
  history := [.text "start", .text "ask"]
  startedAt := ⟨63839664000123456, none⟩
  lastUpdatedAt := ⟨63839664000000000, some (-16200000000)⟩
  completed := false
  version := 0

theorem plain_visit : visit.key.Plain := by
  refine ⟨"acme", "ann", "1", rfl, by decide, by decide, by decide⟩

theorem faithful_visit : Faithful visit where
  timely := by
    refine ⟨⟨by decide, fun o ho => nomatch ho⟩, ⟨by decide, fun o ho => ?_⟩⟩
    rw [← Option.some.inj ho]
    exact ⟨by decide, fun _ => by decide⟩
  named := rfl
  legible := by
    have hbindings : visit.bindings = visit.context := State.bindings_of_named rfl
    rw [State.document, hbindings]
    simp only [Document.Legible, Document.LegibleFields, Document.LegibleItems, visit, Table.names]
    decide

theorem sound_visit : Sound { visit with version := 1 } where
  toFaithful := faithful_visit.at_version 1
  brief := by decide +kernel
  shallow := by decide +kernel

/-- A save, a stale save, a load, a delete and another load. -/
theorem answers_eq_shelf_visit :
    let calls : List Call := [.save visit none, .save visit none, .load visit.startedAt visit.key,
      .delete visit.key, .load visit.startedAt visit.key]
    (∀ call ∈ calls, call.Fits) ∧
      Backing.operations.answers (.memory .empty) calls =
          Shelf.answers .empty calls ∧
        Archive.operations.answers .empty calls = Shelf.answers .empty calls ∧
        Backing.operations.answers (.remote (.new "parley" none)) calls =
          Shelf.answers .empty calls ∧
        Shelf.answers .empty calls =
          [.saved (.ok (.stored (.int 1))) { visit with version := 1 },
            .saved (.ok (.conflict (.int 1))) visit,
            .loaded (.ok (some { visit with version := 1 })), .deleted (.ok true),
            .loaded (.ok none)] := by
  intro calls
  have hfits : ∀ call ∈ calls, call.Fits := by
    have hsave : (Call.save visit none).Fits :=
      ⟨plain_visit, fun state expected h => by
        obtain ⟨rfl, rfl⟩ := Call.save.inj h
        exact sound_visit⟩
    have hload : (Call.load visit.startedAt visit.key).Fits := ⟨plain_visit, fun _ _ h => nomatch h⟩
    have hdelete : (Call.delete visit.key).Fits := ⟨plain_visit, fun _ _ h => nomatch h⟩
    simp only [calls, List.forall_mem_cons, List.not_mem_nil, false_imp_iff, implies_true, and_true]
    exact ⟨hsave, hsave, hload, hdelete, hload⟩
  obtain ⟨hmemory, harchive, hremote⟩ := answers_eq_shelf hfits "parley" none
  exact ⟨hfits, hmemory, harchive, hremote, rfl⟩

section Piled

variable {state : State} {name : String} {f : Fault}

theorem memory_answers_of_copy (hname : state.key.join = .ok name) (hcopy : state.copy = .error f) :
    Backing.operations.answers (.memory .empty) [.save state (some 0)] =
      [.saved (.error f) state] := by
  have hsave : (Memory.empty.save state 0).1 = .error f := by
    have hswap : Memory.empty.swap name state 0 = _ := Memory.swap_of_eq rfl
    unfold Memory.save
    rw [hname]
    dsimp only [bind, Except.bind]
    rw [hswap, hcopy]
    rfl
  show [Answer.saved (Memory.empty.save state 0).1 (passed (Memory.empty.save state 0).1 state)] = _
  rw [hsave]
  rfl

theorem remote_answers_of_readable (hname : state.key.join = .ok name)
    (hstate : Readable { state with version := 1 }) (keyStart : String) (keptFor : Option Int) :
    Backing.operations.answers (.remote (.new keyStart keptFor)) [.save state (some 0)] =
      [.saved (.ok (.stored (.int 1))) { state with version := 1 }] := by
  have hversion : Remote.storedVersion ((Remote.new keyStart keptFor).found name) = .ok (.int 0) :=
    rfl
  have hcalm : (Remote.new keyStart keptFor).server.Calm := rfl
  have hsave := Remote.save_of_calm hcalm hname hversion
    (show Readable { state with version := 0 + 1 } from hstate)
  show [Answer.saved ((Remote.new keyStart keptFor).save state 0).1
    (passed ((Remote.new keyStart keptFor).save state 0).1 state)] = _
  rw [hsave]
  rfl

/-- The visit with a name of so many lists. -/
def piledVisit (n : Nat) : State := { visit with context := [("name", .piled n)] }

theorem legible_piled : ∀ n, Document.Legible (.piled n)
  | 0 => trivial
  | n + 1 => ⟨legible_piled n, trivial⟩

theorem faithful_piledVisit (n : Nat) : Faithful (piledVisit n) where
  timely := ⟨faithful_visit.timely.started, faithful_visit.timely.updated⟩
  named := rfl
  legible := by
    have hbindings : (piledVisit n).bindings = [("name", .piled n)] := State.bindings_of_named rfl
    have hpiled := legible_piled n
    rw [State.document, hbindings]
    simp only [Document.Legible, Document.LegibleFields, Document.LegibleItems, piledVisit, visit,
      Table.names, hpiled, List.map_cons, List.map_nil]
    decide

/-- **A state that one kind of store takes and another one cannot.**  Its document can be written and
read, so that it is stored on a server; the store of the process would have to copy it. -/
theorem not_shelf_of_piled :
    Readable { piledVisit 500 with version := 1 } ∧
      Backing.operations.answers (.memory .empty) [.save (piledVisit 500) (some 0)] =
        [.saved (.error (.tooDeep "")) (piledVisit 500)] ∧
      Backing.operations.answers (.remote (.new "parley" none)) [.save (piledVisit 500) (some 0)] =
        [.saved (.ok (.stored (.int 1))) { piledVisit 500 with version := 1 }] ∧
      Shelf.answers .empty [.save (piledVisit 500) (some 0)] =
        [.saved (.ok (.stored (.int 1))) { piledVisit 500 with version := 1 }] := by
  have hname : (piledVisit 500).key.join = .ok "acme:ann:1" := by decide +kernel
  have hcopy : (piledVisit 500).copy = .error (.tooDeep "") := by decide +kernel
  have hreadable : Readable { piledVisit 500 with version := 1 } :=
    ⟨(faithful_piledVisit 500).at_version 1, by decide +kernel, by decide +kernel⟩
  exact ⟨hreadable, memory_answers_of_copy hname hcopy,
    remote_answers_of_readable hname hreadable "parley" none, rfl⟩

end Piled

end Parley.Storage
