import Parley.Proofs.Unicode.Words
import Parley.Template.Predicate

/-!
# Parley.Proofs.Template.Tests — when a branch's test is met

`Predicate.Met` says for each kind of test when it is met, and `Predicate.Jams` which tests stop the
evaluation with a fault that is no failed test: patterns whose repetition is too large, patterns that
ask for two alphabets or are nested too deeply, and tests of a variable that has no text.
`holds_cases`: every evaluation finds the test met, finds it not met for whatever reason, or jams.
-/

namespace Parley.Template

namespace Predicate

/-- When a test is met by a message and the variables. -/
inductive Met (p : Predicate) (text : String) (context : Fields Value) : Prop
  /-- The value occurs in the message. -/
  | contains : p.matchType = .contains → (p.fold p.value).toList <:+: (p.fold text).toList →
    Met p text context
  /-- The value is the message. -/
  | equals : p.matchType = .equals → p.fold text = p.fold p.value → Met p text context
  /-- The value is a pattern that is found in the message. -/
  | regex {node : Pattern.Node} : p.matchType = .regex →
    Pattern.read (!p.caseSensitive) p.value = .ok node → node.occursIn text = true →
    Met p text context
  /-- The value names a variable that is filled. -/
  | contextHas {v : Value} : p.matchType = .contextHas → context.get? p.value = some v → v ≠ .null →
    v ≠ .text "" → Met p text context
  /-- The value names a variable, and after the first `=` what it reads like. -/
  | contextValue {name wanted : List Char} {v : Value} {shown : String} :
    p.matchType = .contextValue → p.value.toList = name ++ '=' :: wanted → '=' ∉ name →
    context.get? (Unicode.strip (String.ofList name)) = some v → v ≠ .null → v.shown = .ok shown →
    p.fold shown = p.fold (Unicode.strip (String.ofList wanted)) → Met p text context

/-- Patterns that cannot be compiled, and for which the evaluation fails in another way than for those
with an error of grammar; and variables whose values have no text, for a limit that is met. -/
inductive Jams (p : Predicate) (context : Fields Value) : Fault → Prop
  | repetition : p.matchType = .regex →
    Pattern.read (!p.caseSensitive) p.value = .error .repetitionTooLarge →
    Jams p context Template.repetitionTooLarge
  | modes : p.matchType = .regex →
    Pattern.read (!p.caseSensitive) p.value = .error .incompatibleModes →
    Jams p context Template.incompatibleModes
  | deep : p.matchType = .regex →
    Pattern.read (!p.caseSensitive) p.value = .error .tooDeep →
    Jams p context Template.patternTooDeep
  | textless {name wanted : List Char} {v : Value} {f : Fault} : p.matchType = .contextValue →
    p.value.toList = name ++ '=' :: wanted → '=' ∉ name →
    context.get? (Unicode.strip (String.ofList name)) = some v → v ≠ .null → v.shown = .error f →
    Jams p context f

/-- The test is evaluated, or found to have no answer, and is not met. -/
structure Passed (p : Predicate) (text : String) (context : Fields Value) : Prop where
  unmet : ¬ p.Met text context
  smooth : ∀ f, ¬ p.Jams context f

section Holds

variable {p : Predicate} {text : String} {context : Fields Value}

theorem holds_of_met (h : p.Met text context) : p.holds text context = .ok true := by
  unfold holds
  cases h with
  | contains hp h =>
    rw [hp]
    exact congrArg Except.ok (Unicode.occursIn_iff.mpr h)
  | equals hp h =>
    rw [hp]
    exact congrArg Except.ok (decide_eq_true h)
  | regex hp hread h =>
    rw [hp, hread]
    exact congrArg Except.ok h
  | @contextHas v hp hv hnull hempty =>
    rw [hp, hv]
    cases v with
    | null => exact absurd rfl hnull
    | text s => simpa using fun hs => hempty (congrArg Value.text hs)
    | bool | int | real | list | object => rfl
  | @contextValue name wanted v shown hp hvalue hname hv hnull hshown h =>
    rw [hp, Unicode.cutAt_of_eq hvalue hname]
    dsimp only
    rw [hv]
    cases v with
    | null => exact absurd rfl hnull
    | text | bool | int | real | list | object =>
      dsimp only
      rw [hshown]
      exact congrArg Except.ok (decide_eq_true h)

theorem met_of_holds (h : p.holds text context = .ok true) : p.Met text context := by
  unfold holds at h
  cases hp : p.matchType with
  | contains =>
    rw [hp] at h
    exact .contains hp (Unicode.occursIn_iff.mp (Except.ok.inj h))
  | equals =>
    rw [hp] at h
    exact .equals hp (of_decide_eq_true (Except.ok.inj h))
  | regex =>
    rw [hp] at h
    dsimp only at h
    split at h
    · rename_i node hread
      exact .regex hp hread (Except.ok.inj h)
    · exact nomatch h
    · exact nomatch h
    · exact nomatch h
    · exact nomatch h
  | contextHas =>
    rw [hp] at h
    have h := Except.ok.inj h
    split at h
    · exact nomatch h
    · exact nomatch h
    · rename_i s hv
      refine .contextHas hp hv nofun fun hs => ?_
      rw [Value.text.inj hs] at h
      exact nomatch h
    · rename_i v hnull htext hv
      exact .contextHas hp hv (fun hn => hnull hn) fun hs => htext _ hs
  | contextValue =>
    rw [hp] at h
    rcases Unicode.cutAt_cases '=' p.value with ⟨-, hcut⟩ | ⟨name, wanted, hvalue, hname, hcut⟩
    · rw [hcut] at h
      exact nomatch h
    · rw [hcut] at h
      dsimp only at h
      split at h
      · exact nomatch h
      · exact nomatch h
      · rename_i v hnull hv
        obtain ⟨shown, hshown, h⟩ := exceptMap_eq_ok.mp h
        exact .contextValue hp hvalue hname hv (fun hn => hnull hn) hshown (of_decide_eq_true h)
  | other name =>
    rw [hp] at h
    exact nomatch h

/-- **A test holds if and only if it is met.** -/
theorem met_iff : p.Met text context ↔ p.holds text context = .ok true :=
  ⟨holds_of_met, met_of_holds⟩

/-- The faults of an evaluation: those of a test that has no answer, and those of a jam. -/
theorem fault_cases {f : Fault} (h : p.holds text context = .error f) :
    (∃ reason, f = p.fault reason) ∧ (∀ f, ¬ p.Jams context f) ∨ p.Jams context f := by
  unfold holds at h
  cases hp : p.matchType with
  | contains | equals | contextHas =>
    rw [hp] at h
    exact nomatch h
  | regex =>
    rw [hp] at h
    dsimp only at h
    split at h
    · exact nomatch h
    · rename_i hread
      refine .inl ⟨⟨_, (Except.error.inj h).symm⟩, ?_⟩
      rintro f (⟨-, hother⟩ | ⟨-, hother⟩ | ⟨-, hother⟩ | ⟨hother, -⟩)
      · exact nomatch hread.symm.trans hother
      · exact nomatch hread.symm.trans hother
      · exact nomatch hread.symm.trans hother
      · exact nomatch hp.symm.trans hother
    · rename_i hread
      rw [← Except.error.inj h]
      exact .inr (.repetition hp hread)
    · rename_i hread
      rw [← Except.error.inj h]
      exact .inr (.modes hp hread)
    · rename_i hread
      rw [← Except.error.inj h]
      exact .inr (.deep hp hread)
  | contextValue =>
    rw [hp] at h
    rcases Unicode.cutAt_cases '=' p.value with ⟨hno, hcut⟩ | ⟨name, wanted, hvalue, hname, hcut⟩
    · rw [hcut] at h
      refine .inl ⟨⟨_, (Except.error.inj h).symm⟩, ?_⟩
      rintro f (⟨hother, -⟩ | ⟨hother, -⟩ | ⟨hother, -⟩ | ⟨-, hvalue, -⟩)
      · exact nomatch hp.symm.trans hother
      · exact nomatch hp.symm.trans hother
      · exact nomatch hp.symm.trans hother
      · exact hno (hvalue ▸ List.mem_append_right _ List.mem_cons_self)
    · rw [hcut] at h
      dsimp only at h
      split at h
      · exact nomatch h
      · exact nomatch h
      · rename_i v hnull hv
        have hshown := exceptMap_eq_error.mp h
        exact .inr (.textless hp hvalue hname hv (fun hn => hnull hn) hshown)
  | other name =>
    rw [hp] at h
    refine .inl ⟨⟨_, (Except.error.inj h).symm⟩, ?_⟩
    rintro f (⟨hother, -⟩ | ⟨hother, -⟩ | ⟨hother, -⟩ | ⟨hother, -⟩) <;>
      exact nomatch hp.symm.trans hother

theorem holds_of_jams {f : Fault} (h : p.Jams context f) : p.holds text context = .error f := by
  unfold holds
  cases h with
  | repetition hp hread => rw [hp, hread]
  | modes hp hread => rw [hp, hread]
  | deep hp hread => rw [hp, hread]
  | @textless name wanted v f hp hvalue hname hv hnull hshown =>
    rw [hp, Unicode.cutAt_of_eq hvalue hname]
    dsimp only
    rw [hv]
    cases v with
    | null => exact absurd rfl hnull
    | text | bool | int | real | list | object =>
      dsimp only
      rw [hshown]
      rfl

/-- A jam is not the fault of a test that has no answer. -/
theorem ne_fault_of_jams {f : Fault} (h : p.Jams context f) (matchType value reason : String) :
    f ≠ .predicate matchType value reason := by
  rintro rfl
  cases h with
  | textless _ _ _ _ _ hshown => exact nomatch Value.isLimit_of_shown hshown

/-- **Every evaluation finds a test met, finds it not met, or jams.** -/
theorem holds_cases (p : Predicate) (text : String) (context : Fields Value) :
    (p.Met text context ∧ p.holds text context = .ok true) ∨
    (p.Passed text context ∧
      (p.holds text context = .ok false ∨ ∃ reason, p.holds text context = .error (p.fault reason))) ∨
    ∃ f, p.Jams context f ∧ p.holds text context = .error f := by
  cases h : p.holds text context with
  | ok met =>
    cases met with
    | true => exact .inl ⟨met_iff.mpr h, rfl⟩
    | false =>
      refine .inr (.inl ⟨⟨fun hmet => ?_, fun f hjams => ?_⟩, .inl rfl⟩)
      · exact nomatch (met_iff.mp hmet).symm.trans h
      · exact nomatch (holds_of_jams hjams).symm.trans h
  | error f =>
    rcases fault_cases h with ⟨⟨reason, rfl⟩, hsmooth⟩ | hjams
    · refine .inr (.inl ⟨⟨fun hmet => ?_, hsmooth⟩, .inr ⟨reason, rfl⟩⟩)
      exact nomatch (met_iff.mp hmet).symm.trans h
    · exact .inr (.inr ⟨f, hjams, rfl⟩)

end Holds

end Predicate

end Parley.Template
