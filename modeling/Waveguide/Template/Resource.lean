import Waveguide.Template
import Waveguide.Document.Notations
import Waveguide.Yaml.Parser

/-!
The set of templates a program is written with. A resource names its templates in two sections; it
must have every template the writer of programs uses.
-/

namespace Waveguide

/-- Every template in use, with the number of values it takes. -/
def Template.slots : List (String × Nat) :=
  [("intro", 0),
    ("generated", 1),
    ("base", 1),
    ("comment", 1),
    ("geometry", 2),
    ("geometry_3d", 3),
    ("geometry_head", 0),
    ("geometry_tail", 0),
    ("block_head", 0),
    ("block_position", 4),
    ("block_position_3d", 5),
    ("block_metal", 2),
    ("block_dielectric", 1),
    ("block_tail", 0),
    ("sources_head", 0),
    ("sources_tail", 0),
    ("source_head", 0),
    ("source_component", 1),
    ("source_position", 4),
    ("source_pulse", 2),
    ("source_continuous", 2),
    ("source_tail", 0),
    ("pml", 0),
    ("resolution", 1),
    ("complex", 0),
    ("flux_head", 1),
    ("flux_prop", 3),
    ("flux_position", 4),
    ("flux_tail", 0),
    ("flux_ref", 1),
    ("fluxes_head", 0),
    ("fluxes_tail", 0),
    ("function_head", 1),
    ("function_tail", 0),
    ("function_ref", 1),
    ("snapshot_global", 4),
    ("snapshot_local", 6),
    ("time_decay", 4),
    ("time_fixed", 2)]

/-- What fills the places of a template's text with values. -/
abbrev Filler (K : Type) := String → List (Slot K) → Except RenderFault String

/-- What makes a text of the name of a template and of values for its places. -/
abbrev Renderer (K : Type) := String → List (Slot K) → Except (Failure K) String

structure Templates where
  sources : List (String × String)

namespace Templates

open Document

def section? (node : Yaml) : Option (List (String × String)) := do
  let members ← members? node
  let entries ← members.mapM fun (name, node) => do some (name, ← text? node)
  some entries.reverse

def sections? (node : Yaml) : Option (List (String × String) × List (String × String)) := do
  let record ← record? ["Header", "Code"] node
  some (← record.withDefault "Header" [] section?, ← record.withDefault "Code" [] section?)

def missing (sources : List (String × String)) : List String :=
  (Template.slots.map Prod.fst).filter fun name => (sources.lookup name).isNone

def check (header code : List (String × String)) : Except ResourceFault Templates :=
  match code.reverse.find? fun entry => (header.lookup entry.1).isSome with
  | some (name, _) => .error (.definedTwice name)
  | none =>
      let sources := header ++ code
      let missing := missing sources
      if missing.isEmpty then .ok ⟨sources⟩ else .error (.missing missing)

def ofDocument {K : Type} (node : Option Yaml) : Except (Failure K) Templates :=
  match node.bind sections? with
  | none => .error (.resource .unparsable)
  | some (header, code) =>
      match check header code with
      | .ok templates => .ok templates
      | .error fault => .error (.resource fault)

def ofYaml {K : Type} (text : String) : Except (Failure K) Templates :=
  ofDocument (Yaml.parse? text)

variable {K : Type}

/-- The text of a template, which must get exactly as many values as it takes. -/
def renderWith (fill : Filler K) (templates : Templates) : Renderer K := fun name slots =>
  match Template.slots.lookup name with
  | none => .error (.resource (.unknown name))
  | some expected =>
      if slots.length ≠ expected then .error (.resource (.slots name expected slots.length))
      else
        match templates.sources.lookup name with
        | none => .error (.resource (.absent name))
        | some source =>
            match fill source slots with
            | .ok text => .ok text
            | .error fault => .error (.template name fault)

def render [Numeral K] (templates : Templates) : Renderer K := templates.renderWith Template.render

end Templates

instance {K : Type} [Numeral K] : Coe Templates (Renderer K) := ⟨Templates.render⟩

end Waveguide
