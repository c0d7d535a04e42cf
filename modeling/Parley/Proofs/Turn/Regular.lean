import Parley.Proofs.Action.Lawful
import Parley.Proofs.Conversation.Given
import Parley.Proofs.Turn.Silent

/-!
# Parley.Proofs.Turn.Regular — a service on the store of its own process

`Regular w`: the states are kept by the process itself, each of them can be looked up and stored again,
and each template is served or refused with a fault that callers are told about.  Locks, retries and
calls of the store are lawful in such a world: they leave it regular, and fail in known ways only.
-/

namespace Parley.Turn

open Parley.Action (Comes Lawful Sure)
open Conversation (SessionKey State)
open Storage (Memory Store)
open Template (FlowGraph Registry)
open Time (Clocked Moment)

/-! ### Faults -/

/-- Callers are told about the fault. -/
def Answerable (f : Fault) : Prop := (Service.responseOf? f).isSome = true

/-! ### Registries -/

/-- Templates are served under their own ids, or refused with a fault that callers are told about. -/
structure Servable (r : Registry) : Prop where
  closed : r.Closed
  named : ∀ id graph, r.serves id = .ok graph → graph.id = id
  refused : ∀ id f, r.serves id = .error f → Answerable f

namespace Servable

variable {r r' : Registry} {id : String} {graph : FlowGraph}

theorem fetch (h : Servable r) (hfetch : r.fetch id = .ok (graph, r')) : Servable r' := by
  have hserves := Registry.serves_fetch hfetch
  refine ⟨h.closed.fetch hfetch, fun other graph' hs => ?_, fun other f hs => ?_⟩
  · rw [hserves] at hs
    exact h.named other graph' hs
  · rw [hserves] at hs
    exact h.refused other f hs

/-- An empty registry knows no template. -/
theorem empty : Servable Registry.empty := by
  have hserves (id : String) : Registry.empty.serves id = .error (.unknownTemplate id) :=
    Registry.serves_of_unknown fun _ h => nomatch h
  refine ⟨Registry.closed_empty, fun id graph h => ?_, fun id f h => ?_⟩
  · rw [hserves id] at h
    exact nomatch h
  · rw [hserves id] at h
    rw [← Except.error.inj h]
    rfl

/-- A graph has the id that it is asked for. -/
theorem id_of_readGraph {document : Value} {version : Value} (hid : id ≠ "")
    (h : Template.readGraph document (.text id) version = .ok graph) : graph.id = id := by
  have htruthy : (Value.text id).truthy = true := by simp [Value.truthy, hid]
  obtain ⟨data, rfl⟩ := Template.object_of_readGraph h
  obtain ⟨accepted⟩ := Template.readGraph_eq_ok.mp h
  rw [accepted.result]
  simp [Template.Draft.graph, Template.optionalText, Value.orElse, htruthy, Value.display]

/-- What is registered is servable. -/
theorem register (h : Servable r) {t : Service.TemplateRequest} (hid : id ≠ "")
    (hregister : r.register id t.document t.version = .ok (graph, r')) : Servable r' := by
  obtain ⟨version, stored, -, hread, -⟩ := Registry.register_eq_ok hregister
  have hserved : r'.serves id = .ok graph :=
    Registry.serves_register hregister fun _ => Template.versionFor_ne_empty
  have hother {other : String} (ho : other ≠ id) : r'.serves other = r.serves other :=
    Registry.serves_register_of_ne hregister ho
  refine ⟨h.closed.register hregister, fun other graph' hs => ?_, fun other f hs => ?_⟩
  · by_cases ho : other = id
    · subst ho
      rw [hserved] at hs
      rw [← Except.ok.inj hs]
      exact id_of_readGraph hid hread
    · rw [hother ho] at hs
      exact h.named other graph' hs
  · by_cases ho : other = id
    · subst ho
      exact nomatch hserved.symm.trans hs
    · rw [hother ho] at hs
      exact h.refused other f hs

end Servable

/-! ### Worlds -/

variable {ε : Type}

/-- The states are in the store of the process, each fit to be looked up and stored again, and
templates are servable. -/
structure Regular (w : World ε) : Prop where
  store : ∃ m : Memory, w.store = .ofMemory m ∧ ∀ name s, m.records.get? name = some s → s.Fit
  registry : Servable w.registry

theorem Regular.of_same {w w' : World ε} (hs : w'.store = w.store)
    (hr : w'.registry = w.registry) : Leaves Regular w w' :=
  fun h => ⟨hs ▸ h.store, hr ▸ h.registry⟩

instance : Lockless (ε := ε) (Leaves Regular) where
  of_parts hs hr _ _ _ := Regular.of_same hs hr
  of_locks _ _ := Regular.of_same rfl rfl

theorem Regular.of_clock [Clocked ε] (w : World ε) (c : Time.Clock) :
    Leaves Regular w (Clocked.setClock w c) := Regular.of_same rfl rfl

theorem Regular.of_load (now : Moment) (key : SessionKey) (w : World ε) :
    Leaves Regular w { w with store := (w.store.load now key).2 } := by
  intro h
  obtain ⟨m, hm, hfit⟩ := h.store
  refine ⟨⟨m, ?_, hfit⟩, h.registry⟩
  dsimp only
  rw [hm]
  rfl

/-! ### Calls of the store -/

section Calls

variable {F : Fault → Prop}

/-- A state that is loaded was stored, and can be stored again. -/
theorem lawful_loading {key : SessionKey} {name : String} (hkey : key.join = .ok name)
    (now : Moment) :
    Lawful Regular (Action.tryPart (Store.load now key) : Action (World ε) (Option State)) F
      fun base => ∀ s, base = some s → s.Fit := by
  refine Action.lawful_tryPart fun w hw => ⟨Regular.of_load now key w hw, ?_⟩
  obtain ⟨m, hm, hfit⟩ := hw.store
  have hanswer : (Store.load now key (Holds.part w)).1 = .ok (m.records.get? name) := by
    show (Store.load now key w.store).1 = _
    rw [hm]
    exact Memory.load_eq hkey
  rw [hanswer]
  exact hfit name

/-- A state with a place that can be looked up is stored, or has no name to be stored under, or is too
deep to be copied. -/
theorem lawful_saving {state : State} (hplace : state.currentNodeId.hashable = true)
    (hnamed : ∀ f, state.key.join = .error f → F f) (hlimit : ∀ f, f.isLimit = true → F f)
    (expected : Int) :
    Lawful Regular (Action.tryPart (Store.save state expected) : Action (World ε) Storage.Saved) F
      fun _ => True := by
  refine Action.lawful_tryPart fun w hw => ?_
  obtain ⟨m, hm, hfit⟩ := hw.store
  have hsave : Store.save state expected w.store =
      ((m.save state expected).1, .ofMemory (m.save state expected).2) := by
    rw [hm]
    rfl
  show Regular { w with store := (Store.save state expected w.store).2 } ∧
    Comes F (fun _ => True) (Store.save state expected w.store).1
  rw [hsave]
  constructor
  · rcases m.save_cases state expected with ⟨hsame, -⟩ | ⟨name, hname, -, hstored⟩
    · rw [hsame]
      exact ⟨⟨m, rfl, hfit⟩, hw.registry⟩
    · rw [hstored]
      refine ⟨⟨_, rfl, fun other s hs => ?_⟩, hw.registry⟩
      by_cases ho : other = name
      · subst ho
        rw [← Option.some.inj ((Table.get?_put_self ..).symm.trans hs)]
        exact ⟨hplace, other, hname⟩
      · exact hfit other s ((Table.get?_put_of_ne _ _ ho).symm.trans hs)
  · cases hanswer : (m.save state expected).1 with
    | ok saved => trivial
    | error f => exact (Memory.fault_of_save hanswer).elim (hnamed f) (hlimit f)

theorem lawful_deleting {key : SessionKey} {name : String} (hkey : key.join = .ok name) :
    Lawful Regular (Action.tryPart (Store.delete key) : Action (World ε) Bool) F fun _ => True := by
  refine Action.lawful_tryPart fun w hw => ?_
  obtain ⟨m, hm, hfit⟩ := hw.store
  have hdelete : Store.delete key w.store =
      (.ok (m.records.has name), .ofMemory ⟨m.records.erase name⟩) := by
    rw [hm]
    unfold Store.delete Storage.Backing.delete Memory.delete
    rw [hkey]
    rfl
  show Regular { w with store := (Store.delete key w.store).2 } ∧
    Comes F (fun _ => True) (Store.delete key w.store).1
  rw [hdelete]
  refine ⟨⟨⟨_, rfl, fun other s hs => ?_⟩, hw.registry⟩, trivial⟩
  by_cases ho : other = name
  · subst ho
    cases (Table.get?_erase_self ..).symm.trans hs
  · exact hfit other s ((Table.get?_erase_of_ne _ ho).symm.trans hs)

end Calls

/-! ### Retries and locks -/

section Around

variable [Clocked ε] {inv : World ε → Prop} [Lockless (Leaves inv)] {α : Type}
  {x : Action (World ε) α} {F G : Fault → Prop} {K : α → Prop}

omit [Clocked ε] in
theorem lawful_giveUp (operation : String) (last : Option Fault)
    (hlast : ∀ attempts, F (Recovery.exhaustedFault operation attempts last)) :
    Lawful inv (Recovery.giveUp operation last : Action (World ε) α) F K := by
  refine Action.lawful_idle_andThen (idle_noteStats _) (Action.sure_ofState _) fun _ _ => ?_
  refine Action.lawful_idle_andThen Action.idle_view (Action.sure_look _) fun policy _ => ?_
  exact Action.lawful_fail (hlast _)

/-- What fails in ways that make no sense to try again is tried once. -/
theorem lawful_withRetry (operation : String) (hx : Lawful inv x G K)
    (hG : ∀ f, G f → Recovery.isRetryable f = false ∧ F f)
    (hlast : ∀ attempts, F (Recovery.exhaustedFault operation attempts none)) :
    Lawful inv (Recovery.withRetry operation x) F K := by
  refine Action.lawful_idle_andThen Action.idle_view (Action.sure_look _) fun policy _ => ?_
  cases policy.config.maxAttempts.toNat with
  | zero => exact lawful_giveUp operation none hlast
  | succ left =>
    refine Action.lawful_idle_andThen (idle_noteStats _) (Action.sure_ofState _) fun _ _ => ?_
    refine hx.attempt.andThen fun outcome houtcome => ?_
    cases outcome with
    | ok a =>
      refine Action.lawful_idle_andThen (idle_noteStats _) (Action.sure_ofState _) fun _ _ => ?_
      exact Action.lawful_result houtcome
    | error f =>
      obtain ⟨honce, hf⟩ := hG f houtcome
      dsimp only
      rw [if_neg (by rw [honce]; exact Bool.false_ne_true)]
      exact Action.lawful_fail hf

theorem idle_acquire {same : World ε → World ε → Prop} [Unlocked same]
    (t : Session.Ticket) (span : Option Number) :
    (Session.acquire t span : Action (World ε) Bool).Idle same := by
  have hask : (Action.update fun s : Session.Locks => s.ask t : Action (World ε) Unit).Idle
      same := Action.idle_update fun w => Unlocked.of_locks w _
  have hwait (limit : Option Time.Seconds) :
      (Session.waitInLine t limit : Action (World ε) Bool).Idle same := by
    refine Action.idle_view.andThen fun locks => ?_
    cases locks.holds t with
    | true => exact Action.idle_result true
    | false =>
      exact Action.idle_pause.andThen fun _ => Action.idle_view.andThen fun _ =>
        Action.idle_result _
  cases span with
  | none => exact hask.andThen fun _ => hwait none
  | some span =>
    refine idle_reading.andThen fun now => Action.idle_giveWay.andThen fun _ => ?_
    split_ifs
    · exact Action.idle_result false
    · exact hask.andThen fun _ => (hwait _).andThen fun held => Action.idle_giveWay.andThen fun _ =>
        Action.idle_giveWay.andThen fun _ => Action.idle_result held

theorem sure_acquire (t : Session.Ticket) (span : Option Number) :
    Sure (Session.acquire t span : Action (World ε) Bool) := by
  have hwait (limit : Option Time.Seconds) :
      Sure (Session.waitInLine t limit : Action (World ε) Bool) := by
    refine (Action.sure_look _).andThen fun locks => ?_
    cases locks.holds t with
    | true => exact Action.sure_result true
    | false =>
      exact (Action.sure_pause _ _).andThen fun _ => (Action.sure_look _).andThen fun _ =>
        Action.sure_result _
  cases span with
  | none => exact (Action.sure_ofState _).andThen fun _ => hwait none
  | some span =>
    refine (Action.sure_look _).andThen fun now => (Action.sure_pause _ _).andThen fun _ => ?_
    split_ifs
    · exact Action.sure_result false
    · exact (Action.sure_ofState _).andThen fun _ => (hwait _).andThen fun held =>
        (Action.sure_pause _ _).andThen fun _ => (Action.sure_pause _ _).andThen fun _ =>
          Action.sure_result held

/-- What is lawful is lawful under a lock, but the lock may be busy. -/
theorem lawful_whileHolding (name : String) (span : Option Number) (hx : Lawful inv x F K)
    (hbusy : F (Session.busy name)) : Lawful inv (Session.whileHolding name span x) F K := by
  have henter : (Action.onPart fun s : Session.Locks => s.enter name :
      Action (World ε) Session.Ticket).Idle (Leaves inv) :=
    Action.idle_onPart fun w => Unlocked.of_locks w _
  refine Action.lawful_idle_andThen henter (Action.sure_ofState _) fun t _ => ?_
  refine Lawful.ensuring ?_ (Action.idle_update fun w => Unlocked.of_locks w _)
    (Action.sure_ofState _)
  refine Action.lawful_idle_andThen (idle_acquire t span) (sure_acquire t span) fun held _ => ?_
  cases held with
  | true => exact hx
  | false => exact Action.lawful_fail hbusy

end Around

end Parley.Turn
