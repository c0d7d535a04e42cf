import Parley.Storage.Saved
import Parley.Storage.Server
import Parley.Document.Reader
import Parley.Value.Arithmetic

/-!
# Parley.Storage.Remote — states kept by a key-value server

A state is a document under a key of its session.  To store one, the key is watched, the version
under it compared, and the write made on condition that the key did not change in between: two
steps, `begin` and `commit`, between which others may act.
-/

namespace Parley.Storage

open Conversation (State SessionKey)

/-- A server, what all keys start with, and the seconds that a state is kept. -/
structure Remote where
  server : Server
  keyStart : String
  keptFor : Option Int
  deriving DecidableEq

/-- A write that waits for its condition. -/
structure Pending where
  key : String
  seen : Nat
  entry : Entry
  version : Value
  deriving DecidableEq

namespace Remote

def defaultKeyStart : String := "convoflow:state:"
def defaultKeptFor : Int := 86400

def new (keyStart : String) (keptFor : Option Int) : Remote := ⟨Server.empty, keyStart, keptFor⟩

/-- The server's key for a session. -/
def serverKey (r : Remote) (key : SessionKey) : Except Fault String := do
  .ok (r.keyStart ++ (← key.join))

/-- A failure of the server as a failure of the store. -/
def serverFault (operation key : String) : ServerError → Fault
  | .failed wording | .raced wording => .storePersistence operation key wording

/-- Content that cannot be read is a failure of the store as well. -/
def decodeFault (key : String) (cause : Fault) : Fault :=
  match cause.family with
  | .content | .missing => .storePersistence "decode" key cause.message
  | _ => cause

/-- The state that a text stands for. -/
def decode (now : Time.Moment) (key text : String) : Except Fault State :=
  match (do State.ofDocument now (← Document.read text) : Except Fault State) with
  | .ok state => .ok state
  | .error cause => .error (decodeFault key cause)

def load (now : Time.Moment) (key : SessionKey) (r : Remote) :
    Except Fault (Option State) × Remote :=
  match r.serverKey key with
  | .error f => (.error f, r)
  | .ok name =>
    let (answer, server) := r.server.get name
    let r := { r with server := server }
    match answer with
    | .error e => (.error (serverFault "load" name e), r)
    | .ok none => (.ok none, r)
    | .ok (some text) => ((decode now name text).map some, r)

/-- The version in a stored text; zero if there is none. -/
def storedVersion (text : Option String) : Except Fault Value :=
  match text with
  | none | some "" => .ok (.int 0)
  | some text => do
    match ← Document.read text with
    | .object fields => Value.require fields "version"
    | v => .error (State.subscriptFault v "version")

/-- The document that is stored for a state. -/
def record (state : State) (version : Value) : Value :=
  .object (Table.put state.document "version" version)

/-- A version comparison, and the write that follows if it succeeds. -/
def offer (r : Remote) (name : String) (seen : Nat) (state : State) (expected : Int)
    (text : Option String) : Except Fault (Except Saved Pending) := do
  let version ← storedVersion text
  if version.equal (.int expected) then
    let next ← version.plus (.int 1)
    let text ← Document.compose (record state next)
    .ok (.ok ⟨name, seen, ⟨text, r.keptFor⟩, next⟩)
  else .ok (.error (.conflict version))

/-- A server error while storing: a race is a conflict. -/
def saveError {α : Type} (name : String) (expected : Int) :
    ServerError → Except Fault (Except Saved α)
  | .raced _ => .ok (.error (.conflict (.int expected)))
  | .failed wording => .error (.storePersistence "save" name wording)

/-- Watches the key and compares versions: either the outcome, or a write to commit. -/
def begin (state : State) (expected : Int) (r : Remote) :
    Except Fault (Except Saved Pending) × Remote :=
  match r.serverKey state.key with
  | .error f => (.error f, r)
  | .ok name =>
    match r.server.watch name with
    | (.error e, server) => (saveError name expected e, { r with server := server })
    | (.ok seen, server) =>
      match server.watchedGet name with
      | (.error e, server) => (saveError name expected e, { r with server := server })
      | (.ok text, server) =>
        (r.offer name seen state expected text, { r with server := server })

/-- Makes the write if the key did not change. -/
def commit (p : Pending) (expected : Int) (r : Remote) : Except Fault Saved × Remote :=
  match r.server.execute p.key p.seen p.entry with
  | (.ok _, server) => (.ok (.stored p.version), { r with server := server })
  | (.error (.raced _), server) => (.ok (.conflict (.int expected)), { r with server := server })
  | (.error (.failed wording), server) =>
    (.error (.storePersistence "save" p.key wording), { r with server := server })

def save (state : State) (expected : Int) (r : Remote) : Except Fault Saved × Remote :=
  match r.begin state expected with
  | (.error f, r) => (.error f, r)
  | (.ok (.error saved), r) => (.ok saved, r)
  | (.ok (.ok pending), r) => r.commit pending expected

/-- Drops a state; tells whether there was one. -/
def delete (key : SessionKey) (r : Remote) : Except Fault Bool × Remote :=
  match r.serverKey key with
  | .error f => (.error f, r)
  | .ok name =>
    match r.server.delete name with
    | (.ok found, server) => (.ok found, { r with server := server })
    | (.error e, server) => (.error (serverFault "delete" name e), { r with server := server })

end Remote

end Parley.Storage
