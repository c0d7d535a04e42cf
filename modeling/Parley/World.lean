import Parley.Outcomes.Collector
import Parley.Recovery.Event
import Parley.Recovery.Retry
import Parley.Routing.Router
import Parley.Session.Locks
import Parley.Stages.Dispatcher
import Parley.Storage.Store
import Parley.Template.Registry

/-!
# Parley.World — what a running service keeps

The world has a part for each thing that the service remembers between messages, and the
surroundings, in which the engines work: they have the clock, and nothing of the rest.
-/

namespace Parley

open Time (Clocked)

/-- Everything that lasts from one message to the next. -/
structure World (ε : Type) where
  surroundings : ε
  store : Storage.Store
  metrics : Outcomes.Collector
  ledger : Stages.Ledger
  journal : Recovery.Journal
  retry : Recovery.RetryPolicy
  registry : Template.Registry
  router : Routing.Router
  locks : Session.Locks
  /-- The advances of leads that were scheduled, in order. -/
  advances : List Stages.Advance

namespace World

variable {ε : Type}

instance [Clocked ε] : Clocked (World ε) where
  clock w := Clocked.clock w.surroundings
  setClock w c := { w with surroundings := Clocked.setClock w.surroundings c }

instance : Holds (World ε) ε where
  part := World.surroundings
  replace w a := { w with surroundings := a }

instance : Holds (World ε) Storage.Store where
  part := World.store
  replace w a := { w with store := a }

instance : Holds (World ε) Outcomes.Collector where
  part := World.metrics
  replace w a := { w with metrics := a }

instance : Holds (World ε) Stages.Ledger where
  part := World.ledger
  replace w a := { w with ledger := a }

instance : Holds (World ε) Recovery.Journal where
  part := World.journal
  replace w a := { w with journal := a }

instance : Holds (World ε) Recovery.RetryPolicy where
  part := World.retry
  replace w a := { w with retry := a }

instance : Holds (World ε) Template.Registry where
  part := World.registry
  replace w a := { w with registry := a }

instance : Holds (World ε) Routing.Router where
  part := World.router
  replace w a := { w with router := a }

instance : Holds (World ε) Session.Locks where
  part := World.locks
  replace w a := { w with locks := a }

end World

end Parley
