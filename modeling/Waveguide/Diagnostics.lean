/-!
Findings that are reported but do not stop a run.
-/

namespace Waveguide

inductive WarningKind where
  | noElements
  | noSources
  | noObservers
  | sourceOutside
  | observerOutside
  | transientOutside
  deriving DecidableEq

def WarningKind.all : List WarningKind :=
  [.noElements, .noSources, .noObservers, .sourceOutside, .observerOutside, .transientOutside]

def WarningKind.code : WarningKind → Nat
  | noElements => 100
  | noSources => 101
  | noObservers => 102
  | sourceOutside => 110
  | observerOutside => 111
  | transientOutside => 112

def WarningKind.name : WarningKind → String
  | noElements => "NoElements"
  | noSources => "NoSources"
  | noObservers => "NoObservers"
  | sourceOutside => "SourceOutside"
  | observerOutside => "ObserverOutside"
  | transientOutside => "TransientOutside"

structure Warning where
  kind : WarningKind
  message : String

structure Diagnostics where
  warnings : List Warning

namespace Diagnostics

def empty : Diagnostics := ⟨[]⟩

def warn (diagnostics : Diagnostics) (kind : WarningKind) (message : String) : Diagnostics :=
  ⟨diagnostics.warnings ++ [⟨kind, message⟩]⟩

def isEmpty (diagnostics : Diagnostics) : Bool := diagnostics.warnings.isEmpty

def count (diagnostics : Diagnostics) (kind : WarningKind) : Nat :=
  diagnostics.warnings.countP fun warning => warning.kind == kind

end Diagnostics

end Waveguide
