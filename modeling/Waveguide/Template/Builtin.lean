import Waveguide.Template.Resource

/-!
The resource that is used when none is given. It is written down as the tables of its templates; its
text has one line for each of them.
-/

namespace Waveguide.Templates

def place (digit : Char) : List Char :=
  ['\x7b', '\x7b', ' ', 'a', 'r', 'g', 's', '[', digit, ']', ' ', '\x7d', '\x7d']

/-- Writes out the places for values, which stand shortened to a dollar sign and a digit. -/
def expandSlots : List Char → List Char
  | '$' :: digit :: rest => place digit ++ expandSlots rest
  | c :: rest => c :: expandSlots rest
  | [] => []

def expanded (entry : String × String) : String × String :=
  (entry.1, String.ofList (expandSlots entry.2.toList))

def entryLine (entry : String × String) : List Char :=
  "  ".toList ++ entry.1.toList ++ ": \x27".toList ++ entry.2.toList ++ "\x27\n".toList

def titleLine (title : String) : List Char := title.toList ++ ":\n".toList

def groupLines (groups : List (List (String × String))) : List Char :=
  ['\n'].intercalate (groups.map fun group => group.flatMap entryLine)

def builtinRemarks : List String := [
  "# Resource file for the MEEP control-file generator.",
  "#",
  "# Every template receives its values as the positional list \x60args\x60.",
  "# The number of values each template gets is fixed by its name.",
  ""]

def builtinHeader : List (String × String) := [
  ("intro", "Meep control file generated from a meta-configuration"),
  ("generated", "Generated on $0"),
  ("base", "Meta-configuration file: $0")]

def builtinCode : List (List (String × String)) := [
  [("comment", "; $0")],
  [("geometry", "(set! geometry-lattice (make lattice (size $0 $1 no-size)))"),
    ("geometry_3d", "(set! geometry-lattice (make lattice (size $0 $1 $2)))"),
    ("geometry_head", "(set! geometry (list"),
    ("geometry_tail", "))")],
  [("block_head", "  (make block "),
    ("block_position", "(center $0 $1) (size $2 $3 infinity)"),
    ("block_position_3d", "(center $0 $1 0) (size $2 $3 $4)"),
    ("block_metal", " (material (make medium (epsilon $0) (D-conductivity $1)))"),
    ("block_dielectric", " (material (make dielectric (epsilon $0)))"),
    ("block_tail", ")")],
  [("sources_head", "(set! sources (list"),
    ("sources_tail", "))"),
    ("source_head", "  (make source "),
    ("source_component", "(component $0) "),
    ("source_position", "(center $0 $1) (size $2 $3)"),
    ("source_pulse", " (src (make gaussian-src (frequency $0) (fwidth $1)))"),
    ("source_continuous", " (src (make continuous-src (frequency $0) (width $1)))"),
    ("source_tail", ")")],
  [("pml", "(set! pml-layers (list (make pml (thickness 1.0))))"),
    ("resolution", "(set! resolution $0)"),
    ("complex", "(set! force-complex-fields? true)")],
  [("flux_head", "(define trans$0 "),
    ("flux_prop", "(add-flux $0 $1 $2 "),
    ("flux_position", "(make flux-region (center $0 $1) (size $2 $3))"),
    ("flux_tail", ")"),
    ("flux_ref", " trans$0"),
    ("fluxes_head", "(display-fluxes"),
    ("fluxes_tail", ")")],
  [("function_head", "(define $0 "),
    ("function_tail", ")"),
    ("function_ref", " $0"),
    ("snapshot_global", "(to-appended \"$0\" (at-every $1 output-$2field-$3))"),
    ("snapshot_local", "(to-appended \"$0\" (at-every $1 (in-point" ++
      " (vector3 $4 $5) output-$2field-$3)))")],
  [("time_decay", "(run-sources+ (stop-when-fields-decayed $1 Ez (vector3 $2 $3) 1e-3)$0)"),
    ("time_fixed", "(run-until $0$1)")]]

def builtinText : String :=
  String.ofList
    (builtinRemarks.flatMap (fun remark => remark.toList ++ ['\n']) ++
      titleLine "Header" ++ groupLines [builtinHeader.map expanded] ++ ['\n'] ++
      titleLine "Code" ++ groupLines (builtinCode.map (List.map expanded)))

def builtin {K : Type} : Except (Failure K) Templates := ofYaml builtinText

end Waveguide.Templates
