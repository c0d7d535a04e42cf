import Parley.Record.Source
import Parley.Turn.Inbound

/-!
# Parley.Record.Turn — messages from documents, and what came of them
-/

namespace Parley.Record

open Conversation (State)
open Turn (Inbound Outcome)

def inbound (now : Time.Moment) (s : Source) : Except Fault Inbound := do
  let prior ← match s.get "prior" with
    | .null => pure none
    | v => (State.ofDocument now v).map some
  .ok ⟨s.text "tenant", s.text "user", s.text "session", s.text "template_id", s.text? "text",
    prior⟩

/-- An outcome with the time that it took. -/
def outcomeDocument (o : Outcome) : Value :=
  .object (o.document ++ [("latency_ms", .ofNumber (o.latencyMs.roundTo 3))])

/-- The session that a reset is about. -/
def sessionOf (key : Value) : Inbound :=
  match (Source.itemsOf key).map fun v => v.text?.getD "" with
  | [tenant, user, session] => ⟨tenant, user, session, "", none, none⟩
  | _ => ⟨"", "", "", "", none, none⟩

end Parley.Record
