import Parley.Value

/-!
# Parley.Capability — what the enhanced path can do, and which path is taken
-/

namespace Parley

/-- An ability of the enhanced path. -/
inductive Capability
  | enhancedCapture
  | dynamicNavigation
  deriving DecidableEq, Repr

namespace Capability

def name : Capability → String
  | enhancedCapture => "enhanced_capture"
  | dynamicNavigation => "dynamic_navigation"

def all : List Capability := [enhancedCapture, dynamicNavigation]

def ofName? (s : String) : Option Capability := all.find? (·.name = s)

/-- Navigation comes first, so that a wish to go back is not taken for an answer. -/
def order : List Capability := [dynamicNavigation, enhancedCapture]

/-- The abilities of a list, each once, in the order of their names. -/
def sorted (caps : List Capability) : List Capability :=
  [dynamicNavigation, enhancedCapture].filter (caps.contains ·)

end Capability

/-- The two ways to process a message. -/
inductive Path
  | baseline
  | enhanced
  deriving DecidableEq, Repr

namespace Path

def name : Path → String
  | baseline => "baseline"
  | enhanced => "enhanced"

def all : List Path := [baseline, enhanced]

def ofName? (s : String) : Option Path := all.find? (·.name = s)

end Path

end Parley
