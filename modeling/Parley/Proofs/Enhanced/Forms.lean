import Parley.Proofs.Enhanced.Attempts
import Parley.Proofs.Unicode.Casing
import Parley.Proofs.Value.Numerals

/-!
# Parley.Proofs.Enhanced.Forms — what an answer of a type looks like

`Formed type v`: the text `v` has the form of answers of a type, be it an address, a phone number, a
number or a name.  An answer is brought into its normal form and checked by different functions;
`hasForm_iff`: together they accept exactly the texts of this form.  `formed_of_capture`: an answer is
stored in its normal form if that has the form of its type, and is rejected if not.
-/

namespace Parley.Enhanced

open Conversation (Interpreter Reply State Stores)
open Numeral (IsNumeral IsNamed)
open Template (FlowGraph FlowNode)
open Time (Clock Clocked Moment)
open Unicode (isBlank isDecimal isLetter Spaced)

/-! ### Forms -/

/-- A name, an `@`, and a domain with a point inside; there is no other `@`, and no blank. -/
def HasAddressParts (v : String) : Prop :=
  ∃ name left right : List Char, v.toList = name ++ '@' :: (left ++ '.' :: right) ∧
    name ≠ [] ∧ left ≠ [] ∧ right ≠ [] ∧
    ∀ c ∈ name ++ left ++ right, isBlank c = false ∧ c ≠ '@'

/-- An address in lower case. -/
structure IsAddress (v : String) : Prop where
  lowered : Unicode.lowercase v = v
  parts : HasAddressParts v

/-- An optional plus sign, a digit from one to nine, and seven to fifteen digits of any script. -/
def IsPhoneNumber (v : String) : Prop :=
  ∃ (sign : List Char) (first : Char) (digits : List Char), v.toList = sign ++ first :: digits ∧
    (sign = [] ∨ sign = ['+']) ∧ '1' ≤ first ∧ first ≤ '9' ∧
    7 ≤ digits.length ∧ digits.length ≤ 15 ∧ ∀ d ∈ digits, isDecimal d = true

/-- Two characters at least, in words of letters with one space between them. -/
structure IsFullName (v : String) : Prop where
  long : 2 ≤ v.length
  spelled : ∃ words : List (List Char), (∀ w ∈ words, w ≠ [] ∧ ∀ c ∈ w, isLetter c = true) ∧
    v.toList = [' '].intercalate words

/-- The types of answers that have a form. -/
inductive AnswerType
  | email | phone | number | name

/-- How a question names the type of its answers. -/
def AnswerType.tag : AnswerType → String
  | .email => "email"
  | .phone => "phone"
  | .number => "number"
  | .name => "name"

/-- The form of the answers of a type. -/
def Formed : AnswerType → String → Prop
  | .email, v => IsAddress v
  | .phone, v => IsPhoneNumber v
  | .number, v => IsNumeral v.toList ∨ IsNamed v.toList
  | .name, v => IsFullName v

section Checks

variable {s v text : String} {cs : List Char} {type : AnswerType}

/-! ### Addresses -/

theorem isAddressChar_iff {c : Char} : isAddressChar c = true ↔ isBlank c = false ∧ c ≠ '@' := by
  simp [isAddressChar]

theorem hasInnerPoint_iff : hasInnerPoint cs = true ↔
    ∃ left right, cs = left ++ '.' :: right ∧ left ≠ [] ∧ right ≠ [] := by
  unfold hasInnerPoint
  rw [List.contains_iff_mem]
  constructor
  · intro h
    cases cs with
    | nil => exact absurd h List.not_mem_nil
    | cons c rest =>
      have hne : rest ≠ [] := by
        rintro rfl
        exact absurd h List.not_mem_nil
      obtain ⟨before, after, hrest⟩ := List.append_of_mem h
      refine ⟨c :: before, after ++ [rest.getLast hne], ?_, List.cons_ne_nil _ _,
        List.append_ne_nil_of_right_ne_nil _ (List.cons_ne_nil _ _)⟩
      conv_lhs => rw [← List.dropLast_concat_getLast hne]
      show c :: (rest.dropLast ++ _) = _
      rw [show rest.dropLast = before ++ '.' :: after from hrest]
      simp
  · rintro ⟨left, right, rfl, hleft, hright⟩
    obtain ⟨c, left, rfl⟩ := List.exists_cons_of_ne_nil hleft
    show '.' ∈ (left ++ '.' :: right).dropLast
    rw [List.dropLast_append_of_ne_nil (List.cons_ne_nil _ _), List.dropLast_cons_of_ne_nil hright]
    simp

theorem withoutLastBreak_eq (h : '\n' ∉ cs) : withoutLastBreak cs = cs :=
  if_neg fun hlast => h (List.mem_of_getLast? hlast)

theorem hasAddressParts_of_isEmail (hbreak : '\n' ∉ s.toList) (h : isEmail s = true) :
    HasAddressParts s := by
  unfold isEmail at h
  dsimp only at h
  rw [withoutLastBreak_eq hbreak] at h
  split at h
  · rename_i domain hdomain
    simp only [Bool.and_eq_true, hasInnerPoint_iff, List.all_eq_true] at h
    obtain ⟨⟨hname, hall⟩, left, right, rfl, hleft, hright⟩ := h
    refine ⟨s.toList.takeWhile isAddressChar, left, right, ?_, by simpa using hname, hleft, hright,
      fun c hc => isAddressChar_iff.mp ?_⟩
    · have hprefix := List.prefix_iff_eq_take.mp (List.takeWhile_prefix isAddressChar (l := s.toList))
      rw [← hdomain]
      conv_lhs => rw [← List.take_append_drop (s.toList.takeWhile isAddressChar).length s.toList]
      rw [← hprefix]
    · rw [List.append_assoc] at hc
      rcases List.mem_append.mp hc with hc | hc
      · exact List.mem_takeWhile_imp hc
      · refine hall c (List.mem_append.mpr ((List.mem_append.mp hc).imp_right ?_))
        exact List.mem_cons_of_mem _
  · exact nomatch h

theorem isEmail_of_hasAddressParts (hbreak : '\n' ∉ s.toList) (h : HasAddressParts s) :
    isEmail s = true := by
  obtain ⟨name, left, right, hs, hname, hleft, hright, hall⟩ := h
  have hchar {c : Char} (hc : c ∈ name ++ left ++ right) : isAddressChar c = true :=
    isAddressChar_iff.mpr (hall c hc)
  have htake : s.toList.takeWhile isAddressChar = name := by
    rw [hs, List.takeWhile_append_of_pos fun c hc => hchar (by simp [hc]),
      List.takeWhile_cons_of_neg (by decide), List.append_nil]
  have hdomain : (left ++ '.' :: right).all isAddressChar = true := by
    rw [List.all_eq_true]
    intro c hc
    rcases List.mem_append.mp hc with hc | hc
    · exact hchar (by simp [hc])
    · rcases List.mem_cons.mp hc with rfl | hc
      · decide
      · exact hchar (by simp [hc])
  have hpoint := hasInnerPoint_iff.mpr ⟨left, right, rfl, hleft, hright⟩
  unfold isEmail
  dsimp only
  rw [withoutLastBreak_eq hbreak, htake, hs, List.drop_left]
  show (!name.isEmpty && (left ++ '.' :: right).all isAddressChar &&
    hasInnerPoint (left ++ '.' :: right)) = true
  rw [hdomain, hpoint, Bool.and_true, Bool.and_true, Bool.not_eq_true', List.isEmpty_eq_false_iff]
  exact hname

/-! ### Phone numbers -/

theorem dropSeparators_dropSeparators (s : String) :
    dropSeparators (dropSeparators s) = dropSeparators s := by
  unfold dropSeparators
  rw [String.toList_ofList, List.filter_filter]
  simp

theorem isPhoneNumber_of_isPhone (h : isPhone s = true) : IsPhoneNumber s := by
  unfold isPhone at h
  dsimp only at h
  split at h
  · rename_i first digits hcs
    simp only [Bool.and_eq_true, decide_eq_true_eq, List.all_eq_true] at h
    obtain ⟨⟨⟨⟨hlow, hhigh⟩, hall⟩, hleast⟩, hmost⟩ := h
    split at hcs
    · rename_i rest hs
      rw [hcs] at hs
      exact ⟨['+'], first, digits, hs, .inr rfl, hlow, hhigh, hleast, hmost, hall⟩
    · exact ⟨[], first, digits, hcs, .inl rfl, hlow, hhigh, hleast, hmost, hall⟩
  · exact nomatch h

theorem isPhone_of_isPhoneNumber (h : IsPhoneNumber s) : isPhone s = true := by
  obtain ⟨sign, first, digits, hs, hsign, hlow, hhigh, hleast, hmost, hall⟩ := h
  have hcheck : ('1' ≤ first && first ≤ '9' && digits.all isDecimal && 7 ≤ digits.length &&
      digits.length ≤ 15) = true := by
    simp only [Bool.and_eq_true, decide_eq_true_eq, List.all_eq_true]
    exact ⟨⟨⟨⟨hlow, hhigh⟩, hall⟩, hleast⟩, hmost⟩
  unfold isPhone
  dsimp only
  rw [hs]
  rcases hsign with rfl | rfl
  · have hplus : first ≠ '+' := by
      rintro rfl
      exact absurd hlow (by decide)
    rw [List.nil_append]
    split
    · rename_i hcs
      split at hcs
      · rename_i heq
        exact absurd (List.cons.inj heq).1 hplus
      · obtain ⟨rfl, rfl⟩ := List.cons.inj hcs
        exact hcheck
    · rename_i hcs
      split at hcs
      · rename_i heq
        exact absurd (List.cons.inj heq).1 hplus
      · exact nomatch hcs
  · exact hcheck

/-! ### Names -/

theorem isName_iff (hs : Spaced s.toList) : isName s = true ↔ IsFullName s := by
  unfold isName
  rw [Bool.and_eq_true, decide_eq_true_eq, List.all_eq_true]
  constructor
  · rintro ⟨hlong, hall⟩
    obtain ⟨words, hwords, heq⟩ := hs
    refine ⟨hlong, words, fun w hw => ⟨(hwords w hw).filled, fun c hc => ?_⟩, heq⟩
    have hmem : c ∈ s.toList := heq ▸ Unicode.mem_intercalate_of_mem hw hc
    have hor := hall c hmem
    rwa [(hwords w hw).unblank c hc, Bool.or_false] at hor
  · rintro ⟨hlong, words, hwords, heq⟩
    refine ⟨hlong, fun c hc => ?_⟩
    rw [heq] at hc
    rcases Unicode.mem_intercalate hc with rfl | ⟨w, hw, hmem⟩
    · decide
    · rw [(hwords w hw).2 c hmem, Bool.true_or]

/-! ### All types -/

/-- **To be accepted is to have the form of the type.** -/
theorem hasForm_iff (type : AnswerType) (text : String) :
    hasForm (.text type.tag) (normalizeAnswer (.text type.tag) text) = true ↔
      Formed type (normalizeAnswer (.text type.tag) text) := by
  have hspaced := Unicode.spaced_singleSpaced text
  cases type with
  | email =>
    have hlower := Unicode.spaced_lowercase hspaced
    have hbreak : '\n' ∉ (Unicode.lowercase (Unicode.singleSpaced text)).toList := fun h =>
      absurd (hlower.eq_space h (by decide)) (by decide)
    show isEmail (Unicode.lowercase (Unicode.singleSpaced text)) = true ↔
      IsAddress (Unicode.lowercase (Unicode.singleSpaced text))
    exact ⟨fun h => ⟨Unicode.lowercase_lowercase _, hasAddressParts_of_isEmail hbreak h⟩,
      fun h => isEmail_of_hasAddressParts hbreak h.parts⟩
  | phone =>
    show isPhone (dropSeparators (dropSeparators (Unicode.singleSpaced text))) = true ↔
      IsPhoneNumber (dropSeparators (Unicode.singleSpaced text))
    rw [dropSeparators_dropSeparators]
    exact ⟨isPhoneNumber_of_isPhone, isPhone_of_isPhoneNumber⟩
  | number =>
    obtain ⟨hhead, hlast⟩ := hspaced.ends
    show Numeral.isRealText (Unicode.replaceChar ',' '.' (Unicode.singleSpaced text)) = true ↔
      IsNumeral (Unicode.singleSpaced text).toList ∨ IsNamed (Unicode.singleSpaced text).toList
    exact Numeral.isRealText_replaceChar_iff hhead hlast
  | name =>
    show isName (Unicode.titlecase (Unicode.singleSpaced text)) = true ↔
      IsFullName (Unicode.titlecase (Unicode.singleSpaced text))
    exact isName_iff (Unicode.spaced_titlecase hspaced)

theorem Formed.ne_empty (h : Formed type v) : v ≠ "" := by
  rintro rfl
  have hnormal : normalizeAnswer (.text type.tag) "" = "" := by cases type <;> decide +kernel
  have hform := hasForm_iff type ""
  rw [hnormal] at hform
  have hnone : hasForm (.text type.tag) "" = false := by cases type <;> decide +kernel
  rw [hform.mpr h] at hnone
  exact nomatch hnone

theorem validationFields_rulesOf (node : FlowNode) :
    validationFields (rulesOf node) = .ok (node.validation.getD []) := by
  unfold validationFields rulesOf
  cases node.validation with
  | none => rfl
  | some fields =>
    show (if (Value.object fields).truthy = true then Except.ok fields else .ok []) = .ok fields
    split_ifs with h
    · rfl
    · have hempty : fields = [] := by simpa [Value.truthy] using h
      rw [hempty]

/-- Without a pattern, the check of an answer is for the form of its type. -/
theorem checkAnswer_formed {node : FlowNode}
    (hpattern : (Value.field (node.validation.getD []) "pattern").truthy = false)
    (type : AnswerType) (text : String) :
    ∃ verdict, checkAnswer (.text type.tag) (normalizeAnswer (.text type.tag) text) (rulesOf node) =
        .ok verdict ∧
      (verdict = none ↔ Formed type (normalizeAnswer (.text type.tag) text)) := by
  have hform := hasForm_iff type text
  unfold checkAnswer
  split_ifs with hempty hunformed
  · refine ⟨_, rfl, nofun, fun h => absurd ?_ h.ne_empty⟩
    exact String.isEmpty_iff.mp hempty
  · refine ⟨_, rfl, nofun, fun h => ?_⟩
    rw [hform.mpr h] at hunformed
    exact nomatch hunformed
  · rw [validationFields_rulesOf]
    refine ⟨none, ?_, fun _ => hform.mp (by simpa using hunformed), fun _ => rfl⟩
    show (if (Value.field (node.validation.getD []) "pattern").truthy = true then _ else _) = _
    rw [if_neg (Bool.eq_false_iff.mp hpattern)]

end Checks

/-! ### Answers -/

/-- The state with an attempt noted at a node, and nothing else. -/
def noting (cap : CaptureConfig) (node : FlowNode) (state : State) (attempts : Fields Value)
    (count : Value) : State :=
  { state with
    context := state.context.put cap.attemptsKey (.object (attempts.put node.id count)) }

section Answers

variable {σ : Type} [Clocked σ] {cap : CaptureConfig} {i : Interpreter} {m : Message}
  {node : FlowNode} {state : State} {text : String} {type : AnswerType} {reply : Reply}

/-- **Answers that are accepted are well formed.**  A question asks for an answer of a type, with no
pattern of its own and no service.  If the answer in its normal form has the form of the type, that is
what is stored.  If not, nothing is stored but the attempt, and the answer is asked for again; when no
further attempt is granted, the text is stored as it is, without blanks around it. -/
theorem formed_of_capture (hq : questionAt m = .ok (some (node, state, text)))
    (htype : node.inputType = .text type.tag)
    (hpattern : (Value.field (node.validation.getD []) "pattern").truthy = false)
    (h : ((captureModule cap none : Module σ).before i m).MayEnd (.ok (some reply))) :
    (Formed type (normalizeAnswer node.inputType text) ∧
      (1 ≤ i.maxChainSteps → state.history ≠ [] →
        Stores m.graph node (normalizeAnswer node.inputType text) reply)) ∨
    ¬ Formed type (normalizeAnswer node.inputType text) ∧
      ∃ attempts count, attemptsOf cap state = .ok attempts ∧
        ((attempts.get? node.id).getD (.int 0)).plus (.int 1) = .ok count ∧
        (grantsAttempt cap count = .ok true ∧ reply.captured = some false ∧
            reply.state = noting cap node state attempts count ∨
          grantsAttempt cap count = .ok false ∧
            (1 ≤ i.maxChainSteps → state.history ≠ [] →
              Stores m.graph node (Unicode.strip text) reply)) := by
  obtain ⟨node', state', text', checked, hq', hchecked, hsettle⟩ := settle_of_capture h
  obtain ⟨rfl, rfl, rfl⟩ : node = node' ∧ state = state' ∧ text = text' := by
    simpa using hq.symm.trans hq'
  obtain ⟨verdict, hcheck, hformed⟩ := checkAnswer_formed hpattern type text
  rw [← htype] at hcheck hformed
  have hdone : checked = ⟨normalizeAnswer node.inputType text, verdict, .null⟩ := by
    rw [checkFully_none, hcheck] at hchecked
    exact Except.ok.inj (Action.mayEnd_result.mp hchecked)
  subst hdone
  obtain ⟨attempts, hattempts, hsettled⟩ := settled_of_settle hsettle
  cases hsettled with
  | accepted hnone _ hstep => exact .inl ⟨hformed.mp hnone, stores_of_taken hq hstep⟩
  | @again reason count hsome hcount hgranted hr =>
    have hunformed : ¬ Formed type (normalizeAnswer node.inputType text) := fun h =>
      nomatch (hformed.mpr h).symm.trans hsome
    obtain ⟨working, hcopied, hasked⟩ := exceptBind_eq_ok.mp hr
    obtain ⟨-, rfl⟩ := Conversation.State.copy_eq_ok.mp hcopied
    obtain ⟨words, -, hreply⟩ := exceptBind_eq_ok.mp hasked
    rw [← Except.ok.inj hreply]
    exact .inr ⟨hunformed, attempts, count, hattempts, hcount, .inl ⟨hgranted, rfl, rfl⟩⟩
  | @last reason count now hsome hcount hgranted _ hstep =>
    have hunformed : ¬ Formed type (normalizeAnswer node.inputType text) := fun h =>
      nomatch (hformed.mpr h).symm.trans hsome
    exact .inr ⟨hunformed, attempts, count, hattempts, hcount,
      .inr ⟨hgranted, stores_of_taken hq hstep⟩⟩

end Answers

section Order

/-- A question for a number. -/
def order : Value :=
  .object [("id", .text "order"), ("entryNodeId", .text "ask"), ("nodes", .list [
    .object [("id", .text "ask"), ("type", .text "input"), ("content", .text "How many?"),
      ("inputType", .text "number"), ("variableName", .text "count"), ("next", .text "bye")],
    .object [("id", .text "bye"), ("type", .text "terminal"), ("content", .text "Bye!")]])]

/-- The question was asked. -/
def ordering : State := { asked with flowId := .text "order" }

/-- A text that is taken for a number is stored. -/
theorem stored_order (text value : String)
    (h : ((Template.readGraph order .null .null).toOption.any fun graph =>
      (graph.nodeList.all (·.mutations.isEmpty)) &&
      ((questionAt (saying text ordering graph)).toOption.any fun question =>
        question.any fun (node, state, text') => node.inputType = .text "number" &&
          node.validation = none && Conversation.answerName node = .text "count" &&
          state = ordering && text' = text) &&
      (((captureModule .default none : Module Clock).before {} (saying text ordering graph)).run
        ⟨0, 0, ⟨0, none⟩⟩).1.toOption.any fun reply => reply.any fun reply =>
          reply.captured = some true &&
            reply.state.context.get? "count" = some (.text value)) = true) :
    ∃ graph node reply, Template.readGraph order .null .null = .ok graph ∧
      questionAt (saying text ordering graph) = .ok (some (node, ordering, text)) ∧
      node.inputType = .text "number" ∧ node.validation = none ∧
      Conversation.answerName node = .text "count" ∧ Conversation.Spares graph "count" ∧
      ((captureModule .default none : Module Clock).before {} (saying text ordering graph)).MayEnd
        (.ok (some reply)) ∧
      reply.captured = some true ∧ reply.state.context.get? "count" = some (.text value) := by
  obtain ⟨graph, hread, h⟩ := exists_of_any h
  simp only [Bool.and_eq_true] at h
  obtain ⟨⟨hquiet, hquestion⟩, hreply⟩ := h
  obtain ⟨question, hquestion, h⟩ := exists_of_any hquestion
  simp only [Option.any_eq_true, Bool.and_eq_true, decide_eq_true_eq] at h
  obtain ⟨⟨node, state, text⟩, rfl, ⟨⟨⟨⟨htype, hrules⟩, hname⟩, rfl⟩, rfl⟩⟩ := h
  obtain ⟨reply, hrun, h⟩ := exists_of_any hreply
  simp only [Option.any_eq_true, Bool.and_eq_true, decide_eq_true_eq] at h
  obtain ⟨reply, rfl, hcaptured, hcount⟩ := h
  have hspares : Conversation.Spares graph "count" := by
    intro node hnode change hchange
    rw [List.isEmpty_iff.mp (List.all_eq_true.mp hquiet node hnode)] at hchange
    exact absurd hchange List.not_mem_nil
  have hend := Action.mayEnd_run ((captureModule .default none : Module Clock).before {}
    (saying text ordering graph)) ⟨0, 0, ⟨0, none⟩⟩
  rw [hrun] at hend
  exact ⟨graph, node, reply, hread, hquestion, htype, hrules, hname, hspares, hend, hcaptured,
    hcount⟩

/-- Three and a half, with a comma. -/
theorem formed_of_capture_order : ∃ graph node reply,
    Template.readGraph order .null .null = .ok graph ∧
      questionAt (saying " 3,5 " ordering graph) = .ok (some (node, ordering, " 3,5 ")) ∧
      ((captureModule .default none : Module Clock).before {} (saying " 3,5 " ordering graph)).MayEnd
        (.ok (some reply)) ∧
      Formed .number "3,5" ∧ reply.state.context.get? "count" = some (.text "3,5") := by
  obtain ⟨graph, node, reply, hread, hq, htype, hrules, hname, hspares, hend, -, -⟩ :=
    stored_order " 3,5 " "3,5" (by decide +kernel)
  have hnormal : normalizeAnswer node.inputType " 3,5 " = "3,5" := by
    rw [htype]
    decide +kernel
  have hformed : Formed .number (normalizeAnswer node.inputType " 3,5 ") := by
    rw [htype]
    exact (hasForm_iff .number " 3,5 ").mp (by decide +kernel)
  have hpattern : (Value.field (node.validation.getD []) "pattern").truthy = false := by
    rw [hrules]
    rfl
  have htag : node.inputType = .text AnswerType.number.tag := htype
  rcases formed_of_capture hq htag hpattern hend with ⟨-, hstores⟩ | ⟨hnot, -⟩
  · have hstored := (hstores (by decide) (List.cons_ne_nil _ _)).named "count" hname hspares
    rw [hnormal] at hformed hstored
    exact ⟨graph, node, reply, hread, hq, hend, hformed, hstored⟩
  · exact absurd hformed hnot

/-- **A number that is none.**  To the question for a number the answer is that it is no number, and
this is stored. -/
theorem stored_nan : ∃ graph node reply,
    Template.readGraph order .null .null = .ok graph ∧
      questionAt (saying "nan" ordering graph) = .ok (some (node, ordering, "nan")) ∧
      node.inputType = .text "number" ∧ node.validation = none ∧
      ((captureModule .default none : Module Clock).before {} (saying "nan" ordering graph)).MayEnd
        (.ok (some reply)) ∧
      reply.captured = some true ∧ reply.state.context.get? "count" = some (.text "nan") ∧
      ¬ IsNumeral "nan".toList := by
  obtain ⟨graph, node, reply, hread, hq, htype, hrules, -, -, hend, hcaptured, hcount⟩ :=
    stored_order "nan" "nan" (by decide +kernel)
  refine ⟨graph, node, reply, hread, hq, htype, hrules, hend, hcaptured, hcount, fun h => ?_⟩
  have hdigits : "nan".toList.any isDecimal = false := by decide
  obtain ⟨d, hd, hdigit⟩ := h.exists_digit
  exact List.any_eq_false.mp hdigits d hd hdigit

end Order

end Parley.Enhanced
