import Mathlib.Data.List.Nodup
import Parley.Proofs.Enhanced.Keywords
import Parley.Proofs.Unicode.Margins

/-!
# Parley.Proofs.Enhanced.Phrases — which phrases of a template a message can be

A message is compared with the phrases in a form of its own: words in lower case with single spaces,
and no sign at either end (`phrasal_messagePhrase`).  A template's phrase is put into lower case and
stripped of blanks, and that is all.  So a message is its phrase if and only if the phrase, in lower
case and stripped, is of that form already (`messagePhrase_eq_iff`).  `keyword_of_phrase`: phrases of
this form work as they are written, and no message is any of the others.
-/

namespace Parley

namespace Table

variable {κ α : Type} [DecidableEq κ] {table extra : Table κ α} {name : κ} {value : α}

theorem get?_mergeAll_of_notMem (h : ∀ entry ∈ extra, entry.1 ≠ name) :
    (table.mergeAll extra).get? name = table.get? name := by
  induction extra generalizing table with
  | nil => rfl
  | cons entry extra ih =>
    obtain ⟨hentry, hextra⟩ := List.forall_mem_cons.mp h
    exact (ih hextra).trans (get?_put_of_ne table entry.2 hentry.symm)

/-- An entry that no other one contradicts is found. -/
theorem get?_mergeAll_of_mem (h : (name, value) ∈ extra)
    (halone : ∀ entry ∈ extra, entry.1 = name → entry.2 = value) :
    (table.mergeAll extra).get? name = some value := by
  induction extra generalizing table with
  | nil => exact absurd h List.not_mem_nil
  | cons entry extra ih =>
    obtain ⟨hentry, hextra⟩ := List.forall_mem_cons.mp halone
    show (mergeAll (table.put entry.1 entry.2) extra).get? name = some value
    by_cases hlater : ∃ entry ∈ extra, entry.1 = name
    · obtain ⟨later, hmem, hname⟩ := hlater
      exact ih (by rwa [← hname, ← hextra later hmem hname]) hextra
    · have hnone : ∀ entry ∈ extra, entry.1 ≠ name := fun entry hmem hname =>
        hlater ⟨entry, hmem, hname⟩
      have hfirst : entry = (name, value) :=
        ((List.mem_cons.mp h).resolve_right fun hmem => hnone _ hmem rfl).symm
      rw [get?_mergeAll_of_notMem hnone, hfirst, get?_put_self]

end Table

namespace Enhanced

open Conversation (State)
open Template (FlowGraph)

/-! ### The form of messages -/

/-- What is dropped at both ends of a message. -/
def isSign (c : Char) : Bool := c = ' ' || c = '.' || c = '!' || c = '?'

/-- Words with single spaces, and no sign at either end. -/
structure Phrasal (s : String) : Prop where
  spaced : Unicode.Spaced s.toList
  head : ∀ c, s.toList.head? = some c → isSign c = false
  last : ∀ c, s.toList.getLast? = some c → isSign c = false

theorem phrasal_messagePhrase (text : String) : Phrasal (messagePhrase text) := by
  obtain ⟨-, hhead, hlast⟩ :=
    Unicode.stripIf_spec isSign (Unicode.singleSpaced (Unicode.lowercase text))
  exact ⟨Unicode.spaced_stripIf (Unicode.spaced_singleSpaced _) (by decide), hhead, hlast⟩

/-- **A message is its own phrase** if and only if the phrase is of the form of messages. -/
theorem messagePhrase_eq_iff (phrase : String) :
    messagePhrase phrase = keywordPhrase phrase ↔ Phrasal (keywordPhrase phrase) := by
  refine ⟨fun h => h ▸ phrasal_messagePhrase phrase, fun h => ?_⟩
  have hspaced : Unicode.singleSpaced (Unicode.lowercase phrase) = keywordPhrase phrase := by
    rw [← Unicode.singleSpaced_lowercase_strip]
    exact Unicode.singleSpaced_of_spaced h.spaced
  show Unicode.stripIf isSign (Unicode.singleSpaced (Unicode.lowercase phrase)) = _
  rw [hspaced]
  exact Unicode.stripIf_of_ends h.head h.last

/-! ### Phrases of a template -/

section Own

variable (nav : NavigationConfig) {graph : FlowGraph} {navigation own : Fields Value}
  {phrase target : String}

/-- The phrases of a template come after those of the configuration. -/
theorem keywordsFor_of_own (hnavigation : Value.field graph.metadata "navigation" = .object navigation)
    (hown : Value.field navigation "keywords" = .object own) :
    keywordsFor nav graph = .ok (nav.keywords.mergeAll
      (own.map fun entry => (keywordPhrase entry.1, .text entry.2.display))) := by
  unfold keywordsFor
  rw [hnavigation, settingsTable_object]
  show (settingsTable (Value.field navigation "keywords") "items" >>= _) = _
  rw [hown, settingsTable_object]
  rfl

theorem display_text (s : String) : (Value.text s).display = s := rfl

/-- A phrase that no other one clashes with is known with its target. -/
theorem get?_keywordPhrase (hmem : (phrase, .text target) ∈ own)
    (halone : ∀ entry ∈ own, keywordPhrase entry.1 = keywordPhrase phrase →
      entry = (phrase, .text target)) :
    (nav.keywords.mergeAll (own.map fun entry =>
      (keywordPhrase entry.1, .text entry.2.display))).get? (keywordPhrase phrase) =
        some (.text target) := by
  have hentry {entry : String × Value} (h : entry = (phrase, .text target)) :
      (keywordPhrase entry.1, Value.text entry.2.display) =
        (keywordPhrase phrase, .text target) := by
    rw [h, display_text]
  -- which form the phrases are brought into does not matter
  generalize keywordPhrase = form at *
  refine Table.get?_mergeAll_of_mem (List.mem_map.mpr ⟨_, hmem, hentry rfl⟩) fun entry hmem hname => ?_
  obtain ⟨source, hsource, rfl⟩ := List.mem_map.mp hmem
  exact (Prod.mk.inj (hentry (halone source hsource hname))).2

/-- **Which phrases of a template work.**  A phrase of the template leads to the start, to the question
before or to a node, and clashes with no other one.  It is known with its target, in lower case and
without blanks around it.  If it has single spaces then and no sign at either end, a user who types
the phrase in an open conversation asks for this target; and if not, no message at all is this
phrase. -/
theorem keyword_of_phrase
    (hnavigation : Value.field graph.metadata "navigation" = .object navigation)
    (hown : Value.field navigation "keywords" = .object own)
    (hmem : (phrase, .text target) ∈ own)
    (halone : ∀ entry ∈ own, keywordPhrase entry.1 = keywordPhrase phrase →
      entry = (phrase, .text target))
    (hknown : Known graph (.text target)) :
    ∃ keywords, keywordsFor nav graph = .ok keywords ∧
      keywords.get? (keywordPhrase phrase) = some (.text target) ∧
      (Phrasal (keywordPhrase phrase) →
        keywords.get? (messagePhrase phrase) = some (.text target) ∧
        ∀ (m : Message) (state : State), m.graph = graph → m.state = some state →
          state.completed = false → m.text = some phrase → phrase.isEmpty = false →
          navigationTarget nav m = (resolveTarget graph state (.text target)).bind fun found =>
            match found with
            | none => .ok none
            | some id => if isCircular nav state id then .ok none else .ok (some (state, id))) ∧
      (¬ Phrasal (keywordPhrase phrase) → ∀ text, messagePhrase text ≠ keywordPhrase phrase) := by
  have hkeywords := keywordsFor_of_own nav hnavigation hown
  have hfound := get?_keywordPhrase nav hmem halone
  refine ⟨_, hkeywords, hfound, fun hphrasal => ?_, fun hnot text heq => ?_⟩
  · have htyped := hfound
    rw [← (messagePhrase_eq_iff phrase).mpr hphrasal] at htyped
    refine ⟨htyped, fun m state hgraph hstate hopen htext hsaid => ?_⟩
    subst hgraph
    exact navigationTarget_of_known hstate hopen htext hkeywords htyped hknown hsaid
  · exact hnot (heq ▸ phrasal_messagePhrase text)

end Own

/-! ### A help desk -/

section HelpDesk

/-- The phrases of a template that has a node for help. -/
def deskPhrases : Fields Value :=
  [("Talk to Sales", .text "desk"), ("Help!", .text "desk"), ("Begin again", .text "restart")]

/-- A question, and a node that two phrases lead to. -/
def helpDesk : Value :=
  .object [("id", .text "shop"), ("entryNodeId", .text "ask"), ("nodes", .list [
      .object [("id", .text "ask"), ("type", .text "input"), ("content", .text "Your order?"),
        ("next", .text "bye")],
      .object [("id", .text "desk"), ("type", .text "terminal"), ("content", .text "Call us.")],
      .object [("id", .text "bye"), ("type", .text "terminal"), ("content", .text "Bye!")]]),
    ("metadata", .object [("navigation", .object [("keywords", .object deskPhrases)])])]

theorem readGraph_helpDesk : ∃ graph, Template.readGraph helpDesk .null .null = .ok graph ∧
    Value.field graph.metadata "navigation" = .object [("keywords", .object deskPhrases)] ∧
    Known graph (.text "desk") := by
  have h : ((Template.readGraph helpDesk .null .null).toOption.any fun graph =>
      Value.field graph.metadata "navigation" = .object [("keywords", .object deskPhrases)] &&
        (graph.node? "desk").isSome) = true := by decide +kernel
  obtain ⟨graph, hread, h⟩ := exists_of_any h
  simp only [Bool.and_eq_true, decide_eq_true_eq] at h
  obtain ⟨node, hnode⟩ := Option.isSome_iff_exists.mp h.2
  exact ⟨graph, hread, h.1, .inr (.inr ⟨node, congrArg Except.ok hnode⟩)⟩

theorem keywordPhrase_eq_ofList (phrase : String) :
    keywordPhrase phrase =
      String.ofList (Unicode.lowerChars [] (Unicode.strip phrase).toList) :=
  Unicode.lowercase_eq _

theorem keywordPhrase_deskPhrases : keywordPhrase "Talk to Sales" = "talk to sales" ∧
    keywordPhrase "Help!" = "help!" ∧ keywordPhrase "Begin again" = "begin again" := by
  simp only [keywordPhrase_eq_ofList]
  decide +kernel

theorem messagePhrase_deskPhrases :
    messagePhrase "Talk to Sales" = "talk to sales" ∧ messagePhrase "Help!" = "help" := by
  unfold messagePhrase
  rw [Unicode.lowercase_eq, Unicode.lowercase_eq]
  decide +kernel

/-- No phrase clashes with another one. -/
theorem nodup_deskPhrases : (deskPhrases.map fun entry => keywordPhrase entry.1).Nodup := by
  obtain ⟨hsales, hhelp, hbegin⟩ := keywordPhrase_deskPhrases
  simp only [deskPhrases, List.map_cons, List.map_nil, hsales, hhelp, hbegin]
  decide

theorem alone_deskPhrases {phrase : String} {target : Value} (h : (phrase, target) ∈ deskPhrases) :
    ∀ entry ∈ deskPhrases, keywordPhrase entry.1 = keywordPhrase phrase →
      entry = (phrase, target) := by
  intro entry hentry hclash
  exact List.inj_on_of_nodup_map nodup_deskPhrases hentry h hclash

/-- Capital letters do no harm. -/
theorem keyword_of_phrase_sales : ∃ graph keywords,
    Template.readGraph helpDesk .null .null = .ok graph ∧
      keywordsFor .default graph = .ok keywords ∧
      Phrasal (keywordPhrase "Talk to Sales") ∧
      keywords.get? (messagePhrase "Talk to Sales") = some (.text "desk") := by
  obtain ⟨graph, hread, hnavigation, hknown⟩ := readGraph_helpDesk
  have hmem : ("Talk to Sales", .text "desk") ∈ deskPhrases := by decide
  obtain ⟨keywords, hkeywords, -, hworks, -⟩ := keyword_of_phrase .default hnavigation rfl hmem
    (alone_deskPhrases hmem) hknown
  have hphrasal : Phrasal (keywordPhrase "Talk to Sales") := by
    rw [← messagePhrase_eq_iff, messagePhrase_deskPhrases.1, keywordPhrase_deskPhrases.1]
  exact ⟨graph, keywords, hread, hkeywords, hphrasal, (hworks hphrasal).1⟩

/-- **A phrase that does not work as it is written.**  The user types just the phrase of the template,
and navigation does not know it. -/
theorem unknown_help : ∃ graph keywords,
    Template.readGraph helpDesk .null .null = .ok graph ∧
      Value.field graph.metadata "navigation" = .object [("keywords", .object deskPhrases)] ∧
      ("Help!", .text "desk") ∈ deskPhrases ∧ Known graph (.text "desk") ∧
      (deskPhrases.map fun entry => keywordPhrase entry.1).Nodup ∧
      keywordsFor .default graph = .ok keywords ∧
      keywords.get? (messagePhrase "Help!") = none ∧
      ∀ state, state.completed = false →
        navigationTarget .default (saying "Help!" state graph) = .ok none := by
  obtain ⟨graph, hread, hnavigation, hknown⟩ := readGraph_helpDesk
  have hkeywords := keywordsFor_of_own .default hnavigation rfl
  have hnone : (NavigationConfig.default.keywords.mergeAll (deskPhrases.map fun entry =>
      (keywordPhrase entry.1, Value.text entry.2.display))).get? (messagePhrase "Help!") = none := by
    obtain ⟨hsales, hhelp, hbegin⟩ := keywordPhrase_deskPhrases
    simp only [deskPhrases, List.map_cons, List.map_nil, hsales, hhelp, hbegin,
      messagePhrase_deskPhrases.2]
    decide
  refine ⟨graph, _, hread, hnavigation, by decide, hknown, nodup_deskPhrases, hkeywords, hnone,
    fun state hopen => ?_⟩
  rw [navigationTarget_eq rfl rfl hopen (by decide) hkeywords, hnone]

end HelpDesk

end Enhanced

end Parley
