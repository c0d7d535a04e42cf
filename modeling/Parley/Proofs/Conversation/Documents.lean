import Parley.Conversation.State
import Parley.Proofs.Time.Reader

/-!
# Parley.Proofs.Conversation.Documents — states, their documents and the names of their sessions

`State.Timely s`: both times of the state are moments that text can hold.
`State.ofFields_document`: such a state is read back from its document, with all its fields.
`State.timely_of_ofFields`: the times of all states that are read are such moments.

The name of a session is its ids, joined by colons.  Two sessions can have one name, if there are
colons in their ids.  `SessionKey.Plain.eq_of_join`: a key whose ids have no colon shares its name
with no other key.
-/

namespace Parley.Conversation

/-! ### Names -/

/-- What the name of a key is made of. -/
theorem join_eq_ok {key : SessionKey} {name : String} (h : key.join = .ok name) :
    ∃ tenant user session : String,
      key = ⟨.text tenant, .text user, .text session⟩ ∧
        name = ":".intercalate [tenant, user, session] := by
  obtain ⟨t, u, s⟩ := key
  cases t with
  | text tenant =>
    cases u with
    | text user =>
      cases s with
      | text session => exact ⟨tenant, user, session, rfl, (Except.ok.inj h).symm⟩
      | _ => exact nomatch h
    | _ => exact nomatch h
  | _ => exact nomatch h

theorem toList_intercalate (tenant user session : String) :
    (":".intercalate [tenant, user, session]).toList =
      tenant.toList ++ ':' :: (user.toList ++ ':' :: session.toList) := by
  show (tenant ++ ":" ++ user ++ ":" ++ session).toList = _
  simp

/-- Where the first part has no separator, it ends at the first one. -/
theorem eq_of_append_cons {α : Type} {sep : α} {l l' m m' : List α} (hl : sep ∉ l) (hl' : sep ∉ l')
    (h : l ++ sep :: m = l' ++ sep :: m') : l = l' ∧ m = m' := by
  induction l generalizing l' with
  | nil =>
    cases l' with
    | nil => exact ⟨rfl, (List.cons.inj h).2⟩
    | cons a l' =>
      have hhead : sep = a := (List.cons.inj h).1
      exact absurd List.mem_cons_self (hhead ▸ hl')
  | cons a l ih =>
    cases l' with
    | nil =>
      have hhead : a = sep := (List.cons.inj h).1
      exact absurd List.mem_cons_self (hhead ▸ hl)
    | cons b l' =>
      obtain ⟨hhead, htail⟩ := List.cons.inj h
      have hrest := ih (fun hmem => hl (List.mem_cons_of_mem _ hmem))
        (fun hmem => hl' (List.mem_cons_of_mem _ hmem)) htail
      rw [hhead, hrest.1]
      exact ⟨rfl, hrest.2⟩

/-- No id of the key has a colon in it. -/
def SessionKey.Plain (key : SessionKey) : Prop :=
  ∃ tenant user session : String, key = ⟨.text tenant, .text user, .text session⟩ ∧
    ':' ∉ tenant.toList ∧ ':' ∉ user.toList ∧ ':' ∉ session.toList

/-- **A key without colons shares its name with no other key**, whatever ids that one has. -/
theorem SessionKey.Plain.eq_of_join {key other : SessionKey} (h : key.Plain)
    (hsame : other.join = key.join) : other = key := by
  obtain ⟨t, u, s, rfl, ht, hu, hs⟩ := h
  obtain ⟨t', u', s', rfl, hname⟩ := join_eq_ok hsame
  have hchars : t.toList ++ ':' :: (u.toList ++ ':' :: s.toList) =
      t'.toList ++ ':' :: (u'.toList ++ ':' :: s'.toList) := by
    rw [← toList_intercalate, ← toList_intercalate]
    exact congrArg String.toList hname
  -- the name has two colons, so that none is left for the other ids
  have hcount := congrArg (List.count ':') hchars
  simp only [List.count_append, List.count_cons_self, List.count_eq_zero.mpr ht,
    List.count_eq_zero.mpr hu, List.count_eq_zero.mpr hs] at hcount
  have ht' : ':' ∉ t'.toList := List.count_eq_zero.mp (by omega)
  have hu' : ':' ∉ u'.toList := List.count_eq_zero.mp (by omega)
  obtain ⟨htenant, hrest⟩ := eq_of_append_cons ht ht' hchars
  obtain ⟨huser, hsession⟩ := eq_of_append_cons hu hu' hrest
  rw [String.toList_inj.mp htenant, String.toList_inj.mp huser, String.toList_inj.mp hsession]

/-! ### Documents -/

namespace State

open Time (Moment)

/-- Both times are moments that text can hold. -/
structure Timely (s : State) : Prop where
  started : s.startedAt.Proper
  updated : s.lastUpdatedAt.Proper

theorem readTime_iso {m : Moment} (h : m.Proper) (now : Moment) :
    readTime now (.text m.iso) = .ok m := by
  have hchars := h.toList_iso
  have hnonempty : m.iso ≠ "" := by
    intro hempty
    rw [hempty] at hchars
    have hlength := congrArg List.length hchars
    simp [Time.length_dateChars] at hlength
  have htruthy : (Value.text m.iso).truthy = true := by simp [Value.truthy, hnonempty]
  unfold readTime
  rw [if_neg (by simp [htruthy])]
  exact Time.readMoment_iso h

/-- Variables whose names are texts are written as they are. -/
theorem bindings_of_named {s : State} (h : s.slots = []) : s.bindings = s.context := by
  unfold bindings
  rw [h]
  rfl

/-- **A state is read back from its document**, if the names of its variables are texts. -/
theorem ofFields_document {s : State} (h : s.Timely) (hnamed : s.slots = []) (now : Moment) :
    ofFields now s.document = .ok s := by
  have hcontext : ((Value.object s.bindings).orElse (.object [])).table = .ok s.context := by
    rw [bindings_of_named hnamed]
    cases hfields : s.context <;> rfl
  have hhistory : ((Value.list s.history).orElse (.list [])).items = .ok s.history := by
    cases hitems : s.history <;> rfl
  have hstarted := readTime_iso h.started now
  have hupdated := readTime_iso h.updated now
  have hversion : (Value.int s.version).integer = .ok s.version := rfl
  unfold ofFields
  simp [document, Value.require, Value.field, fieldOr, Table.get?, hcontext, hhistory, hstarted,
    hupdated, hversion, bind, Except.bind, Value.truthy]
  rw [← hnamed]

theorem ofDocument_document {s : State} (h : s.Timely) (hnamed : s.slots = []) (now : Moment) :
    ofDocument now (.object s.document) = .ok s := ofFields_document h hnamed now

theorem proper_of_readTime {now m : Moment} {v : Value} (h : readTime now v = .ok m)
    (hnow : now.Proper) : m.Proper := by
  unfold readTime at h
  split_ifs at h
  · exact Except.ok.inj h ▸ hnow
  · split at h
    · exact Time.proper_of_readMoment h
    · exact nomatch h

/-- **Every state that is read is timely**, if the clock is. -/
theorem timely_of_ofFields {now : Moment} {fields : Fields Value} {s : State}
    (h : ofFields now fields = .ok s) (hnow : now.Proper) : s.Timely := by
  obtain ⟨flowId, -, h⟩ := exceptBind_eq_ok.mp h
  obtain ⟨tenantId, -, h⟩ := exceptBind_eq_ok.mp h
  obtain ⟨userId, -, h⟩ := exceptBind_eq_ok.mp h
  obtain ⟨sessionId, -, h⟩ := exceptBind_eq_ok.mp h
  obtain ⟨currentNodeId, -, h⟩ := exceptBind_eq_ok.mp h
  obtain ⟨context, -, h⟩ := exceptBind_eq_ok.mp h
  obtain ⟨history, -, h⟩ := exceptBind_eq_ok.mp h
  obtain ⟨startedAt, hstarted, h⟩ := exceptBind_eq_ok.mp h
  obtain ⟨lastUpdatedAt, hupdated, h⟩ := exceptBind_eq_ok.mp h
  obtain ⟨version, -, h⟩ := exceptBind_eq_ok.mp h
  rw [← Except.ok.inj h]
  exact ⟨proper_of_readTime hstarted hnow, proper_of_readTime hupdated hnow⟩

/-- A version number replaces the one in the document. -/
theorem put_version (s : State) (version : Int) :
    Table.put s.document "version" (.int version) = { s with version := version }.document := by
  have hbindings : { s with version := version }.bindings = s.bindings := rfl
  simp [document, Table.put, hbindings]

theorem require_version (s : State) : Value.require s.document "version" = .ok (.int s.version) := by
  simp [Value.require, document, Table.get?]

end State

end Parley.Conversation
