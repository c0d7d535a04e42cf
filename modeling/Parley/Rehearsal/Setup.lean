import Parley.Enhanced.Engine
import Parley.Record.Blueprint
import Parley.Record.Conversation
import Parley.Rehearsal.Stage

/-!
# Parley.Rehearsal.Setup — an enhanced engine as a document describes it
-/

namespace Parley.Rehearsal

open Record (Source)

def captureUrl : String := "http://capture/"

/-- The configured modules with the broken ones in the place of those that they stand for. -/
def setup {α : Type} (s : Source) : Except Fault (Enhanced.Setup (Stage α)) := do
  let normalizer : Option (Enhanced.Normalizer (Stage α)) :=
    if (s.get "normalizer").isNull then none else some ⟨captureUrl, scripted⟩
  let navigation ← Record.overlay Record.navigationFields (s.fields "navigation") .default
  let capture ← Record.overlay Record.captureFields (s.fields "capture") .default
  let broken ← (s.fields "broken").mapM fun (tag, mode) => do
    .ok ((Mischief.ofName (mode.text?.getD "")).module (← Record.capability (.text tag)))
  let kept := [Enhanced.navigationModule navigation, Enhanced.captureModule capture normalizer].filter
    fun m => !(broken.any (·.tag = m.tag))
  .ok ⟨broken ++ kept, ← Record.overlay Record.interpreterFields (s.fields "interpreter") {},
    s.number "module_timeout" (.real 2)⟩

end Parley.Rehearsal
