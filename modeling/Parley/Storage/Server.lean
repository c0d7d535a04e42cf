import Parley.Table

/-!
# Parley.Storage.Server — a key-value server

The server keeps texts by key, each for a number of seconds or for good.  A client can watch a key
and write under it later on condition that nobody has changed it since.  Commands can be planned to
fail.
-/

namespace Parley.Storage

/-- What the server answers in place of a result. -/
inductive ServerError
  | failed (wording : String)
  /-- A watched key was changed. -/
  | raced (wording : String)
  deriving DecidableEq, Repr

/-- The commands that a client gives. -/
inductive Command
  | get | delete | watch | watchedGet | execute
  deriving DecidableEq, Repr

/-- A text and the seconds that it is kept. -/
structure Entry where
  text : String
  keptFor : Option Int
  deriving DecidableEq, Repr

/-- The texts, how often each key was changed, and the errors planned for the next commands. -/
structure Server where
  entries : Table String Entry
  changes : Table String Nat
  errors : Table Command ServerError
  deriving DecidableEq, Repr

namespace Server

def empty : Server := ⟨[], [], []⟩

/-- Plans an error for the next command of a kind. -/
def plan (s : Server) (command : Command) (error : ServerError) : Server :=
  { s with errors := s.errors.put command error }

def changeCount (s : Server) (key : String) : Nat := (s.changes.get? key).getD 0

/-- Notes a change of a key. -/
def touched (s : Server) (key : String) : Server :=
  { s with changes := s.changes.put key (s.changeCount key + 1) }

def put (s : Server) (key : String) (entry : Entry) : Server :=
  { s with entries := s.entries.put key entry }.touched key

def remove (s : Server) (key : String) : Server :=
  { s with entries := s.entries.erase key }.touched key

def text? (s : Server) (key : String) : Option String := (s.entries.get? key).map Entry.text

/-- Runs a command unless an error is planned for it. -/
def command {α : Type} (c : Command) (f : Server → Except ServerError α × Server) (s : Server) :
    Except ServerError α × Server :=
  match s.errors.get? c with
  | some error => (.error error, { s with errors := s.errors.erase c })
  | none => f s

def get (key : String) : Server → Except ServerError (Option String) × Server :=
  command .get fun s => (.ok (s.text? key), s)

/-- Drops a text; tells whether there was one. -/
def delete (key : String) : Server → Except ServerError Bool × Server :=
  command .delete fun s =>
    if s.entries.has key then (.ok true, s.remove key) else (.ok false, s)

/-- Starts to watch a key: tells how often it was changed so far. -/
def watch (key : String) : Server → Except ServerError Nat × Server :=
  command .watch fun s => (.ok (s.changeCount key), s)

def watchedGet (key : String) : Server → Except ServerError (Option String) × Server :=
  command .watchedGet fun s => (.ok (s.text? key), s)

def racedWording : String := "Watched variable changed."

/-- Writes under a key that was seen after so many changes. -/
def execute (key : String) (seen : Nat) (entry : Entry) :
    Server → Except ServerError Unit × Server :=
  command .execute fun s =>
    if s.changeCount key = seen then (.ok (), s.put key entry)
    else (.error (.raced racedWording), s)

end Server

end Parley.Storage
