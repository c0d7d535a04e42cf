import Parley.Stages.Ledger
import Parley.Http

/-!
# Parley.Stages.Dispatcher — passing stage visits on to the lead system

Each visit that the ledger did not know becomes one advance of a lead.  Advances are made later and
on their own: what goes wrong with them reaches nobody.
-/

namespace Parley.Stages

open Conversation (State StageTransition)

/-- What the conversation's variables give for a lead. -/
def namedLead (state : State) : Value :=
  (Value.field state.context "lead_id").orElse (Value.field state.context "leadId")

/-- The lead that the conversation's variables name, else the user. -/
def leadId (state : State) : Value :=
  if (namedLead state).truthy then .text (namedLead state).display else state.userId

/-- Finds the lead; one that the variables name has to be shown. -/
def findLead (state : State) : Except Fault Value :=
  if (namedLead state).truthy then (namedLead state).shown.map .text else .ok state.userId

theorem findLead_eq_ok {state : State} {lead : Value} : findLead state = .ok lead ↔
    ((namedLead state).truthy = true →
      (namedLead state).brief = true ∧ (namedLead state).nesting ≤ Limits.room) ∧
    lead = leadId state := by
  unfold findLead leadId
  split
  · rename_i htruthy
    rw [exceptMap_eq_ok]
    refine ⟨fun ⟨s, hs, hlead⟩ => ?_, fun ⟨h, hlead⟩ => ?_⟩
    · obtain ⟨hwithin, rfl⟩ := Value.shown_eq_ok.mp hs
      exact ⟨fun _ => hwithin, hlead.symm⟩
    · exact ⟨_, Value.shown_eq_ok.mpr ⟨h htruthy, rfl⟩, hlead.symm⟩
  · rename_i hfalse
    exact ⟨fun h => ⟨fun htruthy => absurd htruthy hfalse, (Except.ok.inj h).symm⟩,
      fun ⟨_, h⟩ => congrArg Except.ok h.symm⟩

/-- What keeps a lead from being found is a limit. -/
theorem isLimit_of_findLead {state : State} {f : Fault} (h : findLead state = .error f) :
    f.isLimit = true := by
  unfold findLead at h
  split at h
  · exact Value.isLimit_of_shown (exceptMap_eq_error.mp h)
  · exact nomatch h

/-- A lead and the stage that it moves to. -/
structure Advance where
  leadId : Value
  stageId : String
  deriving DecidableEq

def Advance.document (a : Advance) : Value := .list [a.leadId, .text a.stageId]

/-- Claims visits one by one and makes an advance of each new one. -/
def dispatch (l : Ledger) (state : State) : List StageTransition → List Advance × Ledger
  | [] => ([], l)
  | t :: more =>
    match l.claim (.of state t) with
    | (true, l) =>
      let (advances, l) := dispatch l state more
      (⟨leadId state, t.stageId⟩ :: advances, l)
    | (false, l) => dispatch l state more

/-- Finds the lead, and then claims the visits and makes the advances.  Without a lead nothing is
claimed. -/
def passOn (l : Ledger) (state : State) (ts : List StageTransition) :
    Except Fault (List Advance) × Ledger :=
  match findLead state with
  | .ok _ => (.ok (dispatch l state ts).1, (dispatch l state ts).2)
  | .error f => (.error f, l)

/-- The lead system. -/
structure LeadClient (σ : Type) where
  advance : Advance → Action σ Unit

section Client

variable {σ : Type}

/-- No lead system. -/
def LeadClient.none : LeadClient σ := ⟨fun _ => Action.result ()⟩

def stageUrl (baseUrl : String) (a : Advance) : Except Fault String :=
  a.leadId.shown.map fun lead => Http.trimUrl baseUrl ++ "/leads/" ++ lead ++ "/stage"

/-- A lead system at an address. -/
def LeadClient.http (baseUrl : String) (transport : Http.Transport σ) : LeadClient σ where
  advance a := do
    let address ← Action.ofExcept (stageUrl baseUrl a)
    match Http.encodeUrl address with
    | Option.none => Action.fail (.surprise "invalid address")
    | some url =>
      match ← transport.post ⟨url, .object [("stageId", .text a.stageId)], Option.none⟩ with
      | .ok _ => return ()
      | .error _ => Action.fail (.surprise "advance refused")

/-- Makes advances, whatever goes wrong with some of them. -/
def LeadClient.makeAll (c : LeadClient σ) : List Advance → Action σ Unit
  | [] => return ()
  | a :: more => do
    let _ ← (c.advance a).attempt
    c.makeAll more

end Client

/-- The ledger that all share, and the dispatcher's own one if it has one. -/
structure Ledgers where
  shared : Ledger
  own : Option Ledger
  deriving DecidableEq

namespace Ledgers

/-- A dispatcher that starts with an empty ledger keeps one of its own from then on. -/
def start (given : Ledger) : Ledgers :=
  ⟨given, if given.size = 0 then some (.new Ledger.defaultMaxEntries) else none⟩

/-- The ledger that dispatching uses. -/
def dispatching (s : Ledgers) : Ledger := s.own.getD s.shared

def dispatch (s : Ledgers) (state : State) (ts : List StageTransition) : List Advance × Ledgers :=
  let (advances, l) := Stages.dispatch s.dispatching state ts
  (advances, match s.own with
    | some _ => { s with own := some l }
    | none => { s with shared := l })

end Ledgers

end Parley.Stages
