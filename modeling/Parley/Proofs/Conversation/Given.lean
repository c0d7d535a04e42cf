import Parley.Conversation.State
import Parley.Proofs.Template.Refusals

/-!
# Parley.Proofs.Conversation.Given — states that callers bring along

A caller may hand in a state as data.  The fields that name the flow, the session and the place are
taken as they are, whatever they hold; the others are read.  `FieldFault` lists what can go wrong on
the way.  `liesInData_of_ofFields`: data that no state can be read from has a field that is missing, of
a wrong shape, or with a content that means nothing, unless the version is an infinite number.
`Bearable`: the service can go on with a state that is read from the data (`fit_of_ofFields`).
-/

namespace Parley.Conversation

open Time (Moment)

/-- An infinite number. -/
def Endless (v : Value) : Prop :=
  ∃ x, v = .real x ∧ Decimal.truncInt? x = none ∧ (x == x) = true

/-- A fault that lies in the data. -/
def LiesInData (f : Fault) : Prop :=
  f.family = .shape ∨ f.family = .content ∨ f.family = .missing

/-- The state can be looked up in a graph, and stored. -/
structure State.Fit (s : State) : Prop where
  placed : s.currentNodeId.hashable = true
  named : ∃ name, s.key.join = .ok name

/-- The version of a state is finite; and if the state is one of the template, its place can be a
place, and its ids are texts. -/
structure Bearable (templateId : String) (fields : Fields Value) : Prop where
  finite : ∀ v, fields.get? "version" = some v → ¬ Endless v
  placed : fields.get? "flowId" = some (.text templateId) →
    ∀ v, fields.get? "currentNodeId" = some v → v.hashable = true
  named : fields.get? "flowId" = some (.text templateId) →
    ∀ field ∈ ["tenantId", "userId", "sessionId"], ∀ v, fields.get? field = some v →
      ∃ id, v = .text id

/-- A key has no name only if one of its ids is no text. -/
theorem join_eq_error {key : SessionKey} {f : Fault} (h : key.join = .error f) :
    ∃ position kind, f = .notJoinable position kind := by
  have htexts {parts : List Value} {position : Nat}
      (h : joinTexts ":" position parts = .error f) :
      ∃ position kind, f = .notJoinable position kind := by
    induction parts generalizing position with
    | nil => cases h
    | cons v more ih =>
      cases v with
      | text s =>
        rcases exceptBind_eq_error.mp h with hmore | ⟨_, -, hdone⟩
        · exact ih hmore
        · cases hdone
      | null | bool _ | int _ | real _ | list _ | object _ =>
        exact ⟨position, _, (Except.error.inj h).symm⟩
  rcases exceptBind_eq_error.mp h with hjoin | ⟨_, -, hdone⟩
  · exact htexts hjoin
  · cases hdone

namespace State

variable {now : Moment} {fields : Fields Value} {s : State} {f : Fault} {v : Value}

/-! ### Faults -/

theorem liesInData_of_minor {typed : Bool} (h : Template.Minor typed f) : LiesInData f := by
  rcases h with hcontent | ⟨-, hshape | hmissing⟩
  · exact .inr (.inl hcontent)
  · exact .inl hshape
  · exact .inr (.inr hmissing)

theorem liesInData_of_require {name : String} (h : Value.require fields name = .error f) :
    LiesInData f := by
  unfold Value.require at h
  cases hv : fields.get? name with
  | some found =>
    rw [hv] at h
    cases h
  | none =>
    rw [hv] at h
    rw [← Except.error.inj h]
    exact .inr (.inr rfl)

theorem family_of_checked {date : Nat × Nat × Nat} {clock : Time.TimeOfDay} {offset : Option Int}
    (h : Time.checked date clock offset = .error f) : f.family = .content := by
  have hgo {year month day : Nat}
      (h : Time.checked.go clock offset year month day
        (fun wording => .error (.badCalendar wording)) = .error f) : f.family = .content := by
    unfold Time.checked.go at h
    split_ifs at h <;> rw [← Except.error.inj h] <;> rfl
  unfold Time.checked at h
  dsimp only at h
  split at h
  · split_ifs at h
    · rw [← Except.error.inj h]
      rfl
    · exact hgo h
  · exact hgo h

theorem family_of_readMoment {text : String} (h : Time.readMoment text = .error f) :
    f.family = .content := by
  unfold Time.readMoment at h
  dsimp only at h
  split_ifs at h
  · rw [← Except.error.inj h]
    rfl
  · split at h
    · exact family_of_checked h
    · rw [← Except.error.inj h]
      rfl

theorem liesInData_of_readTime (h : readTime now v = .error f) : LiesInData f := by
  unfold readTime at h
  split_ifs at h
  split at h
  · exact .inr (.inl (family_of_readMoment h))
  · rw [← Except.error.inj h]
    exact .inl rfl

/-- A value that is not a whole number of any kind lies in the data, or is infinite. -/
theorem liesInData_of_integer (h : v.integer = .error f) :
    LiesInData f ∨ f.family = .overflow ∧ Endless v := by
  unfold Value.integer at h
  split at h
  · unfold Value.readInteger at h
    dsimp only at h
    split at h
    · rw [← Except.error.inj h]
      exact .inl (.inr (.inl rfl))
    · split at h
      · exact nomatch h
      · rw [← Except.error.inj h]
        exact .inl (.inr (.inl rfl))
  · split at h
    · exact nomatch h
    · rename_i x hx
      unfold Value.wholePart at h
      split at h
      · exact nomatch h
      · rename_i hnone
        split_ifs at h with hnumber
        · refine .inr ⟨by rw [← Except.error.inj h]; rfl, x, ?_, hnone, hnumber⟩
          cases v with
          | real y => exact congrArg Value.real (Number.real.inj (Option.some.inj hx))
          | _ => exact nomatch hx
        · rw [← Except.error.inj h]
          exact .inl (.inr (.inl rfl))
    · rw [← Except.error.inj h]
      exact .inl (.inl rfl)

/-- A fault in one of the fields that a state is read from. -/
inductive FieldFault (now : Moment) (fields : Fields Value) (f : Fault) : Prop
  | required (name : String) (h : Value.require fields name = .error f)
  | context (h : ((Value.field fields "context").orElse (.object [])).table = .error f)
  | history (h : ((Value.field fields "history").orElse (.list [])).items = .error f)
  | startedAt (h : readTime now (Value.field fields "startedAt") = .error f)
  | lastUpdatedAt (h : readTime now (Value.field fields "lastUpdatedAt") = .error f)
  | version (h : (fieldOr fields "version" (.int 0)).integer = .error f)

theorem fieldFault_of_ofFields (h : ofFields now fields = .error f) : FieldFault now fields f := by
  unfold ofFields at h
  rcases exceptBind_eq_error.mp h with h | ⟨_, -, h⟩
  · exact .required _ h
  rcases exceptBind_eq_error.mp h with h | ⟨_, -, h⟩
  · exact .required _ h
  rcases exceptBind_eq_error.mp h with h | ⟨_, -, h⟩
  · exact .required _ h
  rcases exceptBind_eq_error.mp h with h | ⟨_, -, h⟩
  · exact .required _ h
  rcases exceptBind_eq_error.mp h with h | ⟨_, -, h⟩
  · exact .required _ h
  rcases exceptBind_eq_error.mp h with h | ⟨_, -, h⟩
  · exact .context h
  rcases exceptBind_eq_error.mp h with h | ⟨_, -, h⟩
  · exact .history h
  rcases exceptBind_eq_error.mp h with h | ⟨_, -, h⟩
  · exact .startedAt h
  rcases exceptBind_eq_error.mp h with h | ⟨_, -, h⟩
  · exact .lastUpdatedAt h
  rcases exceptBind_eq_error.mp h with h | ⟨_, -, h⟩
  · exact .version h
  · exact nomatch h

/-- A version that is left out is zero, and that is a number. -/
theorem get?_version_of_integer (h : (fieldOr fields "version" (.int 0)).integer = .error f) :
    ∃ v, fields.get? "version" = some v ∧ v.integer = .error f := by
  unfold fieldOr at h
  cases hv : fields.get? "version" with
  | none =>
    rw [hv] at h
    exact nomatch h
  | some v =>
    rw [hv] at h
    exact ⟨v, rfl, h⟩

/-- Such a fault lies in the data, unless the version has no end. -/
theorem FieldFault.liesInData (h : FieldFault now fields f) :
    LiesInData f ∨ f.family = .overflow ∧ ∃ v, fields.get? "version" = some v ∧ Endless v := by
  cases h with
  | required _ h => exact .inl (liesInData_of_require h)
  | context h => exact .inl (liesInData_of_minor (Template.table_error h))
  | history h => exact .inl (liesInData_of_minor (Template.items_error h))
  | startedAt h => exact .inl (liesInData_of_readTime h)
  | lastUpdatedAt h => exact .inl (liesInData_of_readTime h)
  | version h =>
    obtain ⟨v, hv, h⟩ := get?_version_of_integer h
    rcases liesInData_of_integer h with hlies | ⟨hoverflow, hendless⟩
    · exact .inl hlies
    · exact .inr ⟨hoverflow, v, hv, hendless⟩

/-- **What keeps a state from being read lies in the data**, unless its version has no end. -/
theorem liesInData_of_ofFields (h : ofFields now fields = .error f) :
    LiesInData f ∨ ∃ v, fields.get? "version" = some v ∧ Endless v :=
  (fieldFault_of_ofFields h).liesInData.imp id And.right

/-! ### States -/

theorem get?_of_require {name : String} (h : Value.require fields name = .ok v) :
    fields.get? name = some v := by
  unfold Value.require at h
  cases hv : fields.get? name with
  | some found =>
    rw [hv] at h
    exact congrArg some (Except.ok.inj h)
  | none =>
    rw [hv] at h
    cases h

/-- The fields that are taken as they are. -/
structure TakenFrom (fields : Fields Value) (s : State) : Prop where
  flow : fields.get? "flowId" = some s.flowId
  tenant : fields.get? "tenantId" = some s.tenantId
  user : fields.get? "userId" = some s.userId
  session : fields.get? "sessionId" = some s.sessionId
  place : fields.get? "currentNodeId" = some s.currentNodeId

theorem takenFrom_of_ofFields (h : ofFields now fields = .ok s) : TakenFrom fields s := by
  obtain ⟨flowId, hflow, h⟩ := exceptBind_eq_ok.mp h
  obtain ⟨tenantId, htenant, h⟩ := exceptBind_eq_ok.mp h
  obtain ⟨userId, huser, h⟩ := exceptBind_eq_ok.mp h
  obtain ⟨sessionId, hsession, h⟩ := exceptBind_eq_ok.mp h
  obtain ⟨currentNodeId, hplace, h⟩ := exceptBind_eq_ok.mp h
  obtain ⟨context, -, h⟩ := exceptBind_eq_ok.mp h
  obtain ⟨history, -, h⟩ := exceptBind_eq_ok.mp h
  obtain ⟨startedAt, -, h⟩ := exceptBind_eq_ok.mp h
  obtain ⟨lastUpdatedAt, -, h⟩ := exceptBind_eq_ok.mp h
  obtain ⟨version, -, h⟩ := exceptBind_eq_ok.mp h
  rw [← Except.ok.inj h]
  exact ⟨get?_of_require hflow, get?_of_require htenant, get?_of_require huser,
    get?_of_require hsession, get?_of_require hplace⟩

/-- A state of the template that is read from bearable data can be looked up and stored. -/
theorem fit_of_ofFields {templateId : String} (hb : Bearable templateId fields)
    (h : ofFields now fields = .ok s) (hflow : s.flowId = .text templateId) : s.Fit := by
  have htaken := takenFrom_of_ofFields h
  have hours : fields.get? "flowId" = some (.text templateId) := by rw [htaken.flow, hflow]
  obtain ⟨tenant, htenant⟩ := hb.named hours "tenantId" (by simp) _ htaken.tenant
  obtain ⟨user, huser⟩ := hb.named hours "userId" (by simp) _ htaken.user
  obtain ⟨session, hsession⟩ := hb.named hours "sessionId" (by simp) _ htaken.session
  refine ⟨hb.placed hours _ htaken.place, ":".intercalate [tenant, user, session], ?_⟩
  unfold key
  rw [htenant, huser, hsession]
  rfl

end State

end Parley.Conversation
