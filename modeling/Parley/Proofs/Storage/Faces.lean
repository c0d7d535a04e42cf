import Parley.Proofs.Conversation.Given
import Parley.Proofs.Storage.Contents
import Parley.Proofs.Storage.Isolation
import Parley.Proofs.Storage.Shelf
import Parley.Storage.Store

/-!
# Parley.Proofs.Storage.Faces — the faults that a store on a server shows

`OneFace` says of an outcome that whatever goes wrong is a failure of the store, which names the
record.  `oneFace_iff` tells where that is true of a store on a server, whatever text is stored and
whatever command fails:

* of a delete, always;
* of a load, if the stored text is no document at all or one with fields of the right types (`Typed`);
  what is no object shows through as what it is, and so does a text that is nested too deeply;
* of a save, if the stored text is blank or an object with a version (`Versioned`), and the state can be
  written if that version is the one expected; all else shows through, even a text that is no document,
  since only a load takes care of the faults of a document.

Of any store, whatever is in it, `ofStore_load` and `ofStore_save` say that it fails with a fault of its
own or of the data, and never with one of another service.
-/

namespace Parley.Storage

open Conversation (State SessionKey Endless LiesInData)
open Conversation.State (FieldFault)
open Time (Moment)

/-! ### What can be foreseen of a document -/

section Foreseen

variable {now : Moment} {fields : Fields Value} {v : Value} {f : Fault}

/-- What keeps a state from being read is a content that means nothing or a field that is missing;
these are the faults that a load reports as failures of the store. -/
def Foreseen (now : Moment) (v : Value) : Prop :=
  ∀ f, State.ofDocument now v = .error f → f.family = .content ∨ f.family = .missing

/-- A value that may stand for a number: text, or a number that is not infinite. -/
def StandsForNumber (v : Value) : Prop :=
  (v.number?.isSome = true ∨ v.kind = .text) ∧ ¬ Endless v

def isText : Value → Bool
  | .text _ => true
  | _ => false

/-- The fields of a state that are read are of a type for it, or blank. -/
structure Typed (fields : Fields Value) : Prop where
  context : Template.blankOr Template.isTableLike (Value.field fields "context") = true
  history : Template.blankOr Template.isSequence (Value.field fields "history") = true
  startedAt : Template.blankOr isText (Value.field fields "startedAt") = true
  lastUpdatedAt : Template.blankOr isText (Value.field fields "lastUpdatedAt") = true
  version : ∀ v, fields.get? "version" = some v → StandsForNumber v

theorem content_of_minor (h : Template.Minor true f) : f.family = .content := by
  rcases h with hcontent | ⟨hnot, -⟩
  · exact hcontent
  · exact nomatch hnot

theorem blankOr_orElse {type : Value → Bool} (blank : Value)
    (h : Template.blankOr type v = true) (hblank : type blank = true) :
    type (v.orElse blank) = true := by
  unfold Value.orElse
  split_ifs with hv
  · simpa [Template.blankOr, hv] using h
  · exact hblank

theorem content_of_readTime (htext : Template.blankOr isText v = true)
    (h : State.readTime now v = .error f) : f.family = .content := by
  unfold State.readTime at h
  split_ifs at h with hblank
  cases v with
  | text s => exact State.family_of_readMoment h
  | _ => simp_all [Template.blankOr, isText]

theorem content_of_integer (hcount : StandsForNumber v) (h : v.integer = .error f) :
    f.family = .content := by
  obtain ⟨hnumber, hfinite⟩ := hcount
  unfold Value.integer at h
  split at h
  · unfold Value.readInteger at h
    dsimp only at h
    split at h
    · rw [← Except.error.inj h]
      rfl
    · split at h
      · exact nomatch h
      · rw [← Except.error.inj h]
        rfl
  · rename_i hnot
    split at h
    · exact nomatch h
    · rename_i x hx
      unfold Value.wholePart at h
      split at h
      · exact nomatch h
      · rename_i hwhole
        split_ifs at h with hendless
        · refine absurd ⟨x, ?_, hwhole, hendless⟩ hfinite
          cases v with
          | real y => exact congrArg Value.real (Number.real.inj (Option.some.inj hx))
          | _ => exact nomatch hx
        · rw [← Except.error.inj h]
          rfl
    · rename_i hnone
      rw [hnone] at hnumber
      rcases hnumber with hnumber | htext
      · exact nomatch hnumber
      · cases v with
        | text s => exact absurd rfl (hnot s)
        | _ => exact nomatch htext

/-- **Nothing unforeseen is in a document of the right types.** -/
theorem foreseen_of_typed (h : Typed fields) : Foreseen now (.object fields) := by
  intro f hf
  cases State.fieldFault_of_ofFields hf with
  | required name hf =>
    unfold Value.require at hf
    split at hf
    · exact nomatch hf
    · rw [← Except.error.inj hf]
      exact .inr rfl
  | context hf =>
    have htyped := blankOr_orElse (.object []) h.context rfl
    exact .inl (content_of_minor (htyped ▸ Template.table_error hf))
  | history hf =>
    have htyped := blankOr_orElse (.list []) h.history rfl
    exact .inl (content_of_minor (htyped ▸ Template.items_error hf))
  | startedAt hf => exact .inl (content_of_readTime h.startedAt hf)
  | lastUpdatedAt hf => exact .inl (content_of_readTime h.lastUpdatedAt hf)
  | version hf =>
    obtain ⟨v, hv, hf⟩ := State.get?_version_of_integer hf
    exact .inl (content_of_integer (h.version v hv) hf)

/-- What is no object has no fields, and that is not foreseen. -/
theorem object_of_foreseen (h : Foreseen now v) : ∃ fields, v = .object fields := by
  cases v with
  | object fields => exact ⟨fields, rfl⟩
  | _ => rcases h _ rfl with hfamily | hfamily <;> exact nomatch hfamily

end Foreseen

/-! ### One face -/

/-- Whatever goes wrong is a failure of the store, at the record. -/
def OneFace {α : Type} (record : String) (outcome : Except Fault α) : Prop :=
  ∀ f, outcome = .error f → ∃ operation cause, f = .storePersistence operation record cause

section OneFace

variable {α β : Type} {record : String} {f : Fault}

theorem oneFace_ok (a : α) : OneFace record (.ok a : Except Fault α) := fun _ h => nomatch h

theorem oneFace_error (operation cause : String) :
    OneFace record (.error (.storePersistence operation record cause) : Except Fault α) :=
  fun _ h => ⟨operation, cause, (Except.error.inj h).symm⟩

/-- A fault of another family is not the store's. -/
theorem not_oneFace_of_family {outcome : Except Fault α} (h : outcome = .error f)
    (hfamily : f.family ≠ .service) : ¬ OneFace record outcome := by
  intro hface
  obtain ⟨operation, cause, rfl⟩ := hface f h
  exact hfamily rfl

theorem oneFace_map {g : α → β} {outcome : Except Fault α} :
    OneFace record (outcome.map g) ↔ OneFace record outcome := by
  cases outcome with
  | ok a => exact ⟨fun _ => oneFace_ok a, fun _ => oneFace_ok (g a)⟩
  | error f => exact ⟨fun h g' hg => h g' (congrArg Except.error (Except.error.inj hg)),
      fun h g' hg => h g' (congrArg Except.error (Except.error.inj hg))⟩

end OneFace

/-! ### What is read of a text -/

section Read

variable {record text : String} {now : Moment} {f : Fault}

/-- Whatever keeps a state from being read of the text is foreseen. -/
def Loadable (now : Moment) (text : String) : Prop :=
  ∀ f, Document.read text >>= State.ofDocument now = .error f →
    f.family = .content ∨ f.family = .missing

/-- The text is blank, or an object that has a version. -/
def Versioned (text : String) : Prop :=
  text = "" ∨
    ∃ fields version, Document.read text = .ok (.object fields) ∧
      Table.get? fields "version" = some version

theorem family_of_liesInData (h : LiesInData f) : f.family ≠ .service := by
  rcases h with h | h | h <;> rw [h] <;> decide

theorem family_subscriptFault (v : Value) (field : String) :
    (State.subscriptFault v field).family ≠ .service := by
  cases v <;> exact fun h => nomatch h

theorem decodeFault_of_foreseen (h : f.family = .content ∨ f.family = .missing) :
    Remote.decodeFault record f = .storePersistence "decode" record f.message := by
  unfold Remote.decodeFault
  rcases h with h | h <;> rw [h]

theorem decodeFault_of_unforeseen (h : ¬ (f.family = .content ∨ f.family = .missing)) :
    Remote.decodeFault record f = f := by
  unfold Remote.decodeFault
  split
  · rename_i hcontent
    exact absurd (.inl hcontent) h
  · rename_i hmissing
    exact absurd (.inr hmissing) h
  · rfl

/-- A text that is no document is content that cannot be read, unless it is nested too deeply. -/
theorem family_of_read (h : Document.read text = .error f) :
    f.family = .content ∨ f.family = .outside := by
  rcases Document.refused_of_read h with ⟨_, _, _, _, rfl⟩ | hlimit
  · exact .inl rfl
  · exact Fault.family_of_isLimit hlimit

theorem content_of_read (h : Document.read text = .error f) :
    f.family = .content ↔ ¬ ∃ doing, f = .tooDeep doing := by
  rcases Document.refused_of_read h with ⟨_, _, _, _, rfl⟩ | hlimit
  · exact ⟨fun _ ⟨_, hdeep⟩ => (nomatch hdeep), fun _ => rfl⟩
  · cases f with
    | tooLong digits => exact ⟨fun _ ⟨_, hdeep⟩ => (nomatch hdeep), fun _ => rfl⟩
    | tooDeep doing => exact ⟨fun hfamily => (nomatch hfamily), fun hnot => absurd ⟨_, rfl⟩ hnot⟩
    | _ => exact nomatch hlimit

/-- No state fails to be read with a fault of a service. -/
theorem family_of_ofDocument {v : Value} (h : State.ofDocument now v = .error f) :
    f.family ≠ .service := by
  cases v with
  | object fields =>
    rcases (State.fieldFault_of_ofFields h).liesInData with hlies | ⟨hoverflow, -⟩
    · exact family_of_liesInData hlies
    · rw [hoverflow]
      decide
  | _ =>
    rw [← Except.error.inj h]
    exact family_subscriptFault _ _

/-- What keeps a state from being read of a text is no fault of a service. -/
theorem family_of_document (h : Document.read text >>= State.ofDocument now = .error f) :
    f.family ≠ .service := by
  rcases exceptBind_eq_error.mp h with hread | ⟨v, -, hstate⟩
  · rcases family_of_read hread with hfamily | hfamily <;> rw [hfamily] <;> decide
  · exact family_of_ofDocument hstate

theorem oneFace_decode_iff :
    OneFace record (Remote.decode now record text) ↔ Loadable now text := by
  unfold Remote.decode
  cases hstate : Document.read text >>= State.ofDocument now with
  | ok state =>
    refine ⟨fun _ f hf => ?_, fun _ => oneFace_ok state⟩
    exact nomatch hstate.symm.trans hf
  | error f =>
    dsimp only
    constructor
    · intro hface f' hf'
      rw [← Except.error.inj (hstate.symm.trans hf')]
      by_contra hunforeseen
      rw [decodeFault_of_unforeseen hunforeseen] at hface
      exact not_oneFace_of_family rfl (family_of_document hstate) hface
    · intro hloadable
      rw [decodeFault_of_foreseen (hloadable f hstate)]
      exact oneFace_error _ _

/-- A text that is no document is loadable just if it is not nested too deeply. -/
theorem loadable_of_refused (h : Document.read text = .error f) :
    Loadable now text ↔ ¬ ∃ doing, f = .tooDeep doing := by
  have hbind : Document.read text >>= State.ofDocument now = .error f := by
    rw [h]
    rfl
  rw [← content_of_read h]
  constructor
  · intro hloadable
    rcases hloadable f hbind with hfamily | hmissing
    · exact hfamily
    · rcases family_of_read h with hfamily | hfamily
      · exact hfamily
      · exact nomatch hmissing.symm.trans hfamily
  · intro hfamily f' hf'
    rw [← Except.error.inj (hbind.symm.trans hf')]
    exact .inl hfamily

/-- A document is loadable just if everything in it is foreseen. -/
theorem loadable_of_read {v : Value} (h : Document.read text = .ok v) :
    Loadable now text ↔ Foreseen now v := by
  unfold Loadable Foreseen
  rw [h]
  exact Iff.rfl

theorem storedVersion_some (h : text ≠ "") :
    Remote.storedVersion (some text) = (do
      match ← Document.read text with
      | .object fields => Value.require fields "version"
      | v => .error (State.subscriptFault v "version")) := by
  unfold Remote.storedVersion
  split
  · rename_i hnone
    exact nomatch hnone
  · rename_i hblank
    exact absurd (Option.some.inj hblank) h
  · rename_i t _ ht
    obtain rfl := Option.some.inj ht
    rfl

/-- The version of a stored text can be read just if the text has one. -/
theorem storedVersion_eq_ok_iff :
    (∃ version, Remote.storedVersion (some text) = .ok version) ↔ Versioned text := by
  by_cases hblank : text = ""
  · subst hblank
    exact ⟨fun _ => .inl rfl, fun _ => ⟨.int 0, rfl⟩⟩
  · rw [storedVersion_some hblank]
    constructor
    · rintro ⟨version, h⟩
      obtain ⟨v, hread, h⟩ := exceptBind_eq_ok.mp h
      cases v with
      | object fields => exact .inr ⟨fields, version, hread, State.get?_of_require h⟩
      | _ => exact nomatch h
    · rintro (hnone | ⟨fields, version, hread, hversion⟩)
      · exact absurd hnone hblank
      · refine ⟨version, ?_⟩
        rw [hread]
        show Value.require fields "version" = .ok version
        unfold Value.require
        rw [hversion]

theorem family_of_storedVersion {text : Option String} (h : Remote.storedVersion text = .error f) :
    f.family ≠ .service := by
  cases text with
  | none => exact nomatch h
  | some text =>
    by_cases hblank : text = ""
    · subst hblank
      exact nomatch h
    · rw [storedVersion_some hblank] at h
      rcases exceptBind_eq_error.mp h with hread | ⟨v, -, h⟩
      · rcases family_of_read hread with hfamily | hfamily <;> rw [hfamily] <;> decide
      · cases v with
        | object fields => exact family_of_liesInData (State.liesInData_of_require h)
        | _ =>
          rw [← Except.error.inj h]
          exact family_subscriptFault _ _

end Read

/-! ### The operations -/

/-- The text is stored under the key, and none of the commands is planned to fail. -/
def Server.Tells (s : Server) (commands : List Command) (key text : String) : Prop :=
  (∀ c ∈ commands, s.errors.get? c = none) ∧ s.text? key = some text

namespace Remote

variable {key : SessionKey} {state : State} {name : String}

theorem oneFace_load_iff (hname : key.join = .ok name) (now : Moment) (r : Remote) :
    OneFace (r.keyStart ++ name) (r.load now key).1 ↔
      ∀ text, r.server.Tells [.get] (r.keyStart ++ name) text → Loadable now text := by
  unfold load
  rw [serverKey_eq hname]
  unfold Server.get Server.command
  cases hplan : r.server.errors.get? .get with
  | some error =>
    refine ⟨fun _ text htells => ?_, fun _ => ?_⟩
    · exact nomatch hplan.symm.trans (htells.1 .get (by simp))
    · cases error <;> exact oneFace_error _ _
  | none =>
    dsimp only
    cases htext : r.server.text? (r.keyStart ++ name) with
    | none =>
      refine ⟨fun _ text htells => ?_, fun _ => oneFace_ok none⟩
      exact nomatch htext.symm.trans htells.2
    | some text =>
      show OneFace _ ((decode now (r.keyStart ++ name) text).map some) ↔ _
      rw [oneFace_map, oneFace_decode_iff]
      constructor
      · intro hloadable text' htells
        rw [← Option.some.inj (htext.symm.trans htells.2)]
        exact hloadable
      · intro hloadable
        exact hloadable text ⟨by simp [hplan], htext⟩

/-- A number that is equal to the expected version has a successor. -/
theorem exists_plus_of_equal {version : Value} {expected : Int}
    (h : version.equal (.int expected) = true) : ∃ next, version.plus (.int 1) = .ok next := by
  cases version with
  | bool b => exact ⟨_, rfl⟩
  | int i => exact ⟨_, rfl⟩
  | real x =>
    have hfits : Decimal.intFitsFloat 1 = true := by decide +kernel
    exact ⟨.real (x + Decimal.floatOfInt 1), by simp [Value.plus, Value.number?, hfits]⟩
  | _ => simp [Value.equal] at h

/-- If the stored version is the one expected, the state can be written with the next one. -/
def Writable (r : Remote) (record : String) (state : State) (expected : Int) : Prop :=
  ∀ version next, storedVersion (r.server.text? record) = .ok version →
    version.equal (.int expected) = true → version.plus (.int 1) = .ok next →
    ∃ text, Document.compose (Remote.record state next) = .ok text

/-- If the stored version can be read, it is compared, and the offer made or refused, unless the
state cannot be written. -/
theorem offered_or_unwritten (state : State) (record : String) (r : Remote) (seen : Nat)
    (expected : Int) {text : Option String} {version : Value}
    (h : storedVersion text = .ok version) :
    (∃ offered, r.offer record seen state expected text = .ok offered ∧
      (∀ pending, offered = .ok pending → pending.key = record) ∧
      (version.equal (.int expected) = true → ∀ next, version.plus (.int 1) = .ok next →
        ∃ text, Document.compose (Remote.record state next) = .ok text)) ∨
      version.equal (.int expected) = true ∧ ∃ next f, version.plus (.int 1) = .ok next ∧
        Document.compose (Remote.record state next) = .error f ∧
        r.offer record seen state expected text = .error f := by
  unfold offer
  rw [h]
  dsimp only [bind, Except.bind]
  by_cases hequal : version.equal (.int expected) = true
  · obtain ⟨next, hnext⟩ := exists_plus_of_equal hequal
    rw [if_pos hequal, hnext]
    dsimp only
    cases hcompose : Document.compose (Remote.record state next) with
    | error f => exact .inr ⟨hequal, next, f, rfl, hcompose, rfl⟩
    | ok written =>
      refine .inl ⟨_, rfl, fun pending hpending => ?_, fun _ next' hnext' => ?_⟩
      · rw [← Except.ok.inj hpending]
      · rw [← Except.ok.inj hnext']
        exact ⟨written, hcompose⟩
  · rw [if_neg hequal]
    exact .inl ⟨_, rfl, fun _ hpending => (nomatch hpending), fun h => absurd h hequal⟩

/-- What keeps a state from being written is no fault of a service. -/
theorem family_of_compose {v : Value} {f : Fault} (h : Document.compose v = .error f) :
    f.family ≠ .service := by
  rcases Fault.family_of_isLimit (Document.isLimit_of_compose h) with hfamily | hfamily <;>
    rw [hfamily] <;> decide

theorem oneFace_commit (p : Pending) (expected : Int) (r : Remote) :
    OneFace p.key (r.commit p expected).1 := by
  unfold commit
  split
  · exact oneFace_ok _
  · exact oneFace_ok _
  · exact oneFace_error _ _

/-- If neither the watch nor the read fails, it is the offer that decides. -/
theorem begin_of_unplanned (hname : state.key.join = .ok name) (expected : Int) {r : Remote}
    (hwatch : r.server.errors.get? .watch = none)
    (hget : r.server.errors.get? .watchedGet = none) :
    r.begin state expected =
      (r.offer (r.keyStart ++ name) (r.server.changeCount (r.keyStart ++ name)) state expected
        (r.server.text? (r.keyStart ++ name)), r) := by
  unfold begin
  rw [serverKey_eq hname]
  unfold Server.watch Server.watchedGet Server.command
  dsimp only
  rw [hwatch]
  dsimp only
  rw [hget]

/-- If one of them fails, it is the failure that decides. -/
theorem begin_of_planned (hname : state.key.join = .ok name) (expected : Int) {r : Remote}
    (h : r.server.errors.get? .watch ≠ none ∨ r.server.errors.get? .watchedGet ≠ none) :
    ∃ error r', r.begin state expected = (saveError (r.keyStart ++ name) expected error, r') := by
  unfold begin
  rw [serverKey_eq hname]
  unfold Server.watch Server.watchedGet Server.command
  dsimp only
  cases hwatch : r.server.errors.get? .watch with
  | some error => exact ⟨error, _, rfl⟩
  | none =>
    cases hget : r.server.errors.get? .watchedGet with
    | some error =>
      dsimp only
      rw [hget]
      exact ⟨error, _, rfl⟩
    | none =>
      rcases h with h | h
      · exact absurd hwatch h
      · exact absurd hget h

/-- Such a save fails as the store, or reports a conflict. -/
theorem oneFace_save_of_planned (hname : state.key.join = .ok name) (expected : Int) {r : Remote}
    (h : r.server.errors.get? .watch ≠ none ∨ r.server.errors.get? .watchedGet ≠ none) :
    OneFace (r.keyStart ++ name) (r.save state expected).1 := by
  obtain ⟨error, r', hbegin⟩ := begin_of_planned hname expected h
  unfold save
  rw [hbegin]
  cases error with
  | raced wording => exact oneFace_ok _
  | failed wording => exact oneFace_error _ _

theorem oneFace_save_iff (hname : state.key.join = .ok name) (expected : Int) (r : Remote) :
    OneFace (r.keyStart ++ name) (r.save state expected).1 ↔
      (∀ text, r.server.Tells [.watch, .watchedGet] (r.keyStart ++ name) text → Versioned text) ∧
      ((∀ c ∈ [Command.watch, .watchedGet], r.server.errors.get? c = none) →
        r.Writable (r.keyStart ++ name) state expected) := by
  by_cases hcalm : r.server.errors.get? .watch = none ∧ r.server.errors.get? .watchedGet = none
  · obtain ⟨hwatch, hget⟩ := hcalm
    have hallowed : ∀ c ∈ [Command.watch, .watchedGet], r.server.errors.get? c = none := by
      simp [hwatch, hget]
    unfold save
    rw [begin_of_unplanned hname expected hwatch hget]
    generalize r.server.changeCount (r.keyStart ++ name) = seen
    cases hversion : storedVersion (r.server.text? (r.keyStart ++ name)) with
    | error f =>
      have hoffer : r.offer (r.keyStart ++ name) seen state expected
          (r.server.text? (r.keyStart ++ name)) = .error f := by
        unfold offer
        rw [hversion]
        rfl
      rw [hoffer]
      refine iff_of_false (not_oneFace_of_family rfl (family_of_storedVersion hversion)) fun h => ?_
      cases htext : r.server.text? (r.keyStart ++ name) with
      | none =>
        rw [htext] at hversion
        cases hversion
      | some text =>
        obtain ⟨version, hread⟩ := storedVersion_eq_ok_iff.mpr (h.1 text ⟨hallowed, htext⟩)
        rw [htext, hread] at hversion
        cases hversion
    | ok version =>
      obtain ⟨offered, hoffer, hkey, hwritten⟩ | ⟨hequal, next, f, hnext, hcompose, hoffer⟩ :=
        offered_or_unwritten state (r.keyStart ++ name) r seen expected hversion
      · rw [hoffer]
        refine iff_of_true ?_ ⟨fun text htells => ?_, fun _ version' next hversion' hequal hnext => ?_⟩
        · cases offered with
          | error saved => exact oneFace_ok saved
          | ok pending =>
            rw [← hkey pending rfl]
            exact oneFace_commit pending expected r
        · rw [htells.2] at hversion
          exact storedVersion_eq_ok_iff.mp ⟨version, hversion⟩
        · obtain rfl := Except.ok.inj (hversion.symm.trans hversion')
          exact hwritten hequal next hnext
      · rw [hoffer]
        refine iff_of_false (not_oneFace_of_family rfl (family_of_compose hcompose)) fun h => ?_
        obtain ⟨text, htext⟩ := h.2 hallowed version next hversion hequal hnext
        cases hcompose.symm.trans htext
  · have hfailed := not_and_or.mp hcalm
    refine iff_of_true (oneFace_save_of_planned hname expected hfailed)
      ⟨fun text htells => ?_, fun hallowed => ?_⟩
    · exact absurd ⟨htells.1 .watch (by simp), htells.1 .watchedGet (by simp)⟩ hcalm
    · exact absurd ⟨hallowed .watch (by simp), hallowed .watchedGet (by simp)⟩ hcalm

theorem oneFace_delete (hname : key.join = .ok name) (r : Remote) :
    OneFace (r.keyStart ++ name) (r.delete key).1 := by
  unfold delete
  rw [serverKey_eq hname]
  dsimp only
  split
  · exact oneFace_ok _
  · rename_i error _ _
    cases error <;> exact oneFace_error _ _

/-- A save that does not succeed leaves the state that was passed, and all that is stored. -/
theorem unchanged_of_refused {expected : Int} {r : Remote}
    (h : ∀ saved, (r.save state expected).1 = .ok saved → saved.ok = false) :
    passed (r.save state expected).1 state = state ∧
      (r.save state expected).2.server.entries = r.server.entries := by
  refine ⟨?_, entries_save h⟩
  cases hsave : (r.save state expected).1 with
  | error f => rfl
  | ok saved =>
    show saved.adopt state = state
    unfold Saved.adopt
    rw [h saved hsave]

/-- **Where the failures of a store on a server have one face.**  A delete only ever fails as the
store.  So does a load just if the stored text is loadable: a text that is no document is, unless it
is nested too deeply; a document has to be an object for that, and it is enough that its fields are of
the right types.  So does a save just if the stored text is versioned, and the state can be written if
that version is the one expected.  A save that does not succeed changes neither the state that was
passed nor what is stored. -/
theorem oneFace_iff (hname : state.key.join = .ok name) (r : Remote) (now : Moment)
    (expected : Int) :
    OneFace (r.keyStart ++ name) (r.delete state.key).1 ∧
      (OneFace (r.keyStart ++ name) (r.load now state.key).1 ↔
        ∀ text, r.server.Tells [.get] (r.keyStart ++ name) text → Loadable now text) ∧
      (∀ text f, Document.read text = .error f →
        (Loadable now text ↔ ¬ ∃ doing, f = .tooDeep doing)) ∧
      (∀ text v, Document.read text = .ok v →
        (Loadable now text → ∃ fields, v = .object fields) ∧
          ∀ fields, v = .object fields → Typed fields → Loadable now text) ∧
      (OneFace (r.keyStart ++ name) (r.save state expected).1 ↔
        (∀ text, r.server.Tells [.watch, .watchedGet] (r.keyStart ++ name) text →
          Versioned text) ∧
        ((∀ c ∈ [Command.watch, .watchedGet], r.server.errors.get? c = none) →
          r.Writable (r.keyStart ++ name) state expected)) ∧
      ((∀ saved, (r.save state expected).1 = .ok saved → saved.ok = false) →
        passed (r.save state expected).1 state = state ∧
          (r.save state expected).2.server.entries = r.server.entries) := by
  refine ⟨oneFace_delete hname r, oneFace_load_iff hname now r, fun text f h => loadable_of_refused h,
    fun text v hread => ⟨fun hloadable => ?_, ?_⟩, oneFace_save_iff hname expected r,
    unchanged_of_refused⟩
  · exact object_of_foreseen ((loadable_of_read hread).mp hloadable)
  · rintro fields rfl htyped
    exact (loadable_of_read hread).mpr (foreseen_of_typed htyped)

end Remote

/-- A server on which the record of a session is a mere number. -/
def numbered : Remote where
  server := ⟨[("convoflow:state:acme:ann:1", ⟨"5", none⟩)], [], []⟩
  keyStart := Remote.defaultKeyStart
  keptFor := none

theorem tells_numbered (commands : List Command) :
    numbered.server.Tells commands (numbered.keyStart ++ "acme:ann:1") "5" :=
  ⟨fun _ _ => rfl, by decide +kernel⟩

theorem read_five : Document.read "5" = .ok (.int 5) := by decide +kernel

/-- The number shows through, when the state is loaded and when it is stored. -/
theorem oneFace_iff_numbered :
    visit.key.join = .ok "acme:ann:1" ∧
      OneFace "convoflow:state:acme:ann:1" (numbered.delete visit.key).1 ∧
      ¬ OneFace "convoflow:state:acme:ann:1" (numbered.load visit.startedAt visit.key).1 ∧
      ¬ OneFace "convoflow:state:acme:ann:1" (numbered.save visit 0).1 := by
  have hname : visit.key.join = .ok "acme:ann:1" := by decide +kernel
  have hrecord : numbered.keyStart ++ "acme:ann:1" = "convoflow:state:acme:ann:1" := by
    decide +kernel
  obtain ⟨hdelete, hload, -, hobject, hsave, -⟩ :=
    Remote.oneFace_iff hname numbered visit.startedAt 0
  rw [hrecord] at hdelete hload hsave
  refine ⟨hname, hdelete, fun hface => ?_, fun hface => ?_⟩
  · have hfive := hload.mp hface "5" (hrecord ▸ tells_numbered _)
    obtain ⟨fields, hfields⟩ := (hobject "5" _ read_five).1 hfive
    exact nomatch hfields
  · rcases (hsave.mp hface).1 "5" (hrecord ▸ tells_numbered _) with hblank | ⟨fields, -, hread, -⟩
    · exact absurd hblank (by decide)
    · exact nomatch read_five.symm.trans hread

/-- A load may fail with the fault of a value that has no fields. -/
theorem not_oneFace_of_number :
    ¬ ∀ (r : Remote) (now : Moment) (key : SessionKey) (name : String),
      key.join = .ok name → OneFace (r.keyStart ++ name) (r.load now key).1 := by
  intro hface
  have hload : (numbered.load visit.startedAt visit.key).1 = .error (.notSubscriptable .int) := by
    decide +kernel
  obtain ⟨operation, cause, hfault⟩ :=
    hface numbered visit.startedAt visit.key "acme:ann:1" (by decide +kernel) _ hload
  exact nomatch hfault

/-! ### Any store -/

/-- A failure of the store, or a fault of no service. -/
def OfStore (f : Fault) : Prop :=
  f.family ≠ .service ∨ ∃ operation record cause, f = .storePersistence operation record cause

section OfStore

variable {key : SessionKey} {f : Fault} {now : Moment}

theorem not_ofStore_baselineFailed (wording : String) : ¬ OfStore (.baselineFailed wording) := by
  rintro (hfamily | ⟨_, _, _, hstore⟩)
  · exact hfamily rfl
  · exact nomatch hstore

theorem ofStore_join (h : key.join = .error f) : OfStore f := by
  obtain ⟨position, kind, rfl⟩ := Conversation.join_eq_error h
  exact .inl fun hfamily => nomatch hfamily

theorem ofStore_outage (operation : String) (key : SessionKey) :
    OfStore (Store.outageFault operation key) := by
  unfold Store.outageFault
  cases hkey : key.join with
  | ok name => exact .inr ⟨_, _, _, rfl⟩
  | error f => exact ofStore_join hkey

theorem ofStore_serverKey {r : Remote} (h : r.serverKey key = .error f) : OfStore f := by
  rcases exceptBind_eq_error.mp h with hkey | ⟨_, -, h⟩
  · exact ofStore_join hkey
  · exact nomatch h

theorem ofStore_decode {record text : String} (h : Remote.decode now record text = .error f) :
    OfStore f := by
  have hcause {cause : Fault} (hfamily : cause.family ≠ .service) :
      OfStore (Remote.decodeFault record cause) := by
    unfold Remote.decodeFault
    split
    · exact .inr ⟨_, _, _, rfl⟩
    · exact .inr ⟨_, _, _, rfl⟩
    · exact .inl hfamily
  unfold Remote.decode at h
  split at h
  · exact nomatch h
  · rename_i cause hread
    rw [← Except.error.inj h]
    exact hcause (family_of_document hread)

theorem ofStore_remoteLoad {r : Remote} (h : (r.load now key).1 = .error f) : OfStore f := by
  unfold Remote.load at h
  cases hkey : r.serverKey key with
  | error e =>
    rw [hkey] at h
    rw [← Except.error.inj h]
    exact ofStore_serverKey hkey
  | ok name =>
    rw [hkey] at h
    dsimp only at h
    rcases hget : r.server.get name with ⟨e | _ | text, server⟩ <;> rw [hget] at h
    · rw [← Except.error.inj h]
      cases e <;> exact .inr ⟨_, _, _, rfl⟩
    · exact nomatch h
    · dsimp only at h
      cases hdecode : Remote.decode now name text with
      | ok state =>
        rw [hdecode] at h
        exact nomatch h
      | error e =>
        rw [hdecode] at h
        rw [← Except.error.inj h]
        exact ofStore_decode hdecode

/-- Whatever a store has in it, it fails to load with a fault of its own or of the data. -/
theorem ofStore_load {s : Store} (h : (s.load now key).1 = .error f) : OfStore f := by
  unfold Store.load at h
  split_ifs at h
  · rw [← Except.error.inj h]
    exact ofStore_outage _ _
  · cases hbacking : s.backing with
    | memory m =>
      rw [hbacking] at h
      rcases exceptBind_eq_error.mp h with hkey | ⟨_, -, h⟩
      · exact ofStore_join hkey
      · exact nomatch h
    | remote r =>
      rw [hbacking] at h
      exact ofStore_remoteLoad h

section Saving

variable {state : State} {expected : Int}

theorem ofStore_offer {r : Remote} {record : String} {seen : Nat} {text : Option String}
    (h : r.offer record seen state expected text = .error f) : OfStore f := by
  cases hversion : Remote.storedVersion text with
  | error e =>
    unfold Remote.offer at h
    rw [hversion] at h
    rw [← Except.error.inj h]
    exact .inl (family_of_storedVersion hversion)
  | ok version =>
    obtain ⟨offered, hoffer, -⟩ | ⟨-, next, e, -, hcompose, hoffer⟩ :=
      Remote.offered_or_unwritten state record r seen expected hversion
    · exact nomatch hoffer.symm.trans h
    · rw [← Except.error.inj (hoffer.symm.trans h)]
      exact .inl (Remote.family_of_compose hcompose)

theorem ofStore_saveError {α : Type} {record : String} {e : ServerError}
    (h : (Remote.saveError record expected e : Except Fault (Except Saved α)) = .error f) :
    OfStore f := by
  cases e with
  | raced wording => exact nomatch h
  | failed wording => exact .inr ⟨_, _, _, (Except.error.inj h).symm⟩

theorem ofStore_begin {r : Remote} (h : (r.begin state expected).1 = .error f) : OfStore f := by
  unfold Remote.begin at h
  cases hkey : r.serverKey state.key with
  | error e =>
    rw [hkey] at h
    rw [← Except.error.inj h]
    exact ofStore_serverKey hkey
  | ok name =>
    rw [hkey] at h
    dsimp only at h
    rcases hwatch : r.server.watch name with ⟨e | seen, server⟩ <;> rw [hwatch] at h
    · exact ofStore_saveError h
    · dsimp only at h
      rcases hget : server.watchedGet name with ⟨e | text, server'⟩ <;> rw [hget] at h
      · exact ofStore_saveError h
      · exact ofStore_offer h

theorem ofStore_commit {p : Pending} {r : Remote} (h : (r.commit p expected).1 = .error f) :
    OfStore f :=
  .inr (let ⟨operation, cause, hf⟩ := Remote.oneFace_commit p expected r f h
    ⟨operation, p.key, cause, hf⟩)

theorem ofStore_remoteSave {r : Remote} (h : (r.save state expected).1 = .error f) :
    OfStore f := by
  unfold Remote.save at h
  rcases hbegin : r.begin state expected with ⟨e | saved | pending, r'⟩ <;> rw [hbegin] at h
  · rw [← Except.error.inj h]
    exact ofStore_begin (congrArg Prod.fst hbegin)
  · exact nomatch h
  · exact ofStore_commit h

theorem ofStore_backing {b : Backing} (h : (b.save state expected).1 = .error f) :
    OfStore f := by
  cases b with
  | memory m =>
    rcases m.fault_of_save h with hkey | hlimit
    · exact ofStore_join hkey
    · rcases Fault.family_of_isLimit hlimit with hfamily | hfamily <;>
        exact .inl (by rw [hfamily]; decide)
  | remote r => exact ofStore_remoteSave h

/-- Whatever a store has in it, it fails to save with a fault of its own or of the data. -/
theorem ofStore_save {s : Store} (h : (s.save state expected).1 = .error f) : OfStore f := by
  unfold Store.save at h
  split_ifs at h
  · rw [← Except.error.inj h]
    exact ofStore_outage _ _
  · rw [← Except.error.inj h]
    exact ofStore_outage _ _
  · exact ofStore_backing h

end Saving

end OfStore

end Parley.Storage
