import Waveguide.Program
import Waveguide.Description.Reader
import Waveguide.Template.Builtin
import Waveguide.Text.Quoted
import Waveguide.FileTree

/-!
The command line: its arguments, and a run from reading the description to writing the program.
What a run does with files is left open, so that it can act on a tree of files as well as on the
files of a machine.
-/

namespace Waveguide

namespace CommandLine

structure Arguments where
  input : Option String
  resource : Option String
  output : Option String
  structureOnly : Bool
  stdout : Bool

def Arguments.none : Arguments := ⟨.none, .none, .none, false, false⟩

inductive Request where
  | run (arguments : Arguments)
  | help
  | version
  | misuse

inductive PathOption where
  | input
  | resource
  | output
  deriving DecidableEq

inductive Flag where
  | structureOnly
  | stdout
  | verbose
  | help
  | version
  deriving DecidableEq

inductive Switch where
  | path (option : PathOption)
  | flag (flag : Flag)

def letter? (c : Char) : Option Switch :=
  match c with
  | 'i' => some (.path .input)
  | 'r' => some (.path .resource)
  | 'o' => some (.path .output)
  | 'v' => some (.flag .verbose)
  | 'h' => some (.flag .help)
  | 'V' => some (.flag .version)
  | _ => none

def word? (name : String) : Option Switch :=
  match name with
  | "input" => some (.path .input)
  | "resource" => some (.path .resource)
  | "output" => some (.path .output)
  | "structure-only" => some (.flag .structureOnly)
  | "stdout" => some (.flag .stdout)
  | "verbose" => some (.flag .verbose)
  | "help" => some (.flag .help)
  | "version" => some (.flag .version)
  | _ => none

namespace Arguments

def path? (arguments : Arguments) : PathOption → Option String
  | .input => arguments.input
  | .resource => arguments.resource
  | .output => arguments.output

def withPath (arguments : Arguments) (option : PathOption) (path : String) : Arguments :=
  match option with
  | .input => { arguments with input := path }
  | .resource => { arguments with resource := path }
  | .output => { arguments with output := path }

def set? (arguments : Arguments) (option : PathOption) (path : String) : Option Arguments :=
  if path.isEmpty || (arguments.path? option).isSome then .none
  else some (arguments.withPath option path)

def raised (arguments : Arguments) : Flag → Bool
  | .structureOnly => arguments.structureOnly
  | .stdout => arguments.stdout
  | .verbose | .help | .version => false

def withFlag (arguments : Arguments) : Flag → Arguments
  | .structureOnly => { arguments with structureOnly := true }
  | .stdout => { arguments with stdout := true }
  | .verbose | .help | .version => arguments

/-- The arguments after a flag, which but for `verbose` is given once, or the request that the flag
makes at once. -/
def raise (arguments : Arguments) : Flag → Except Request Arguments
  | .help => .error .help
  | .version => .error .version
  | flag => if arguments.raised flag then .error .misuse else .ok (arguments.withFlag flag)

end Arguments

/-- The arguments after a switch, and the option that it ends with, if any. The option may have its
path joined to it. -/
abbrev Switched := Arguments × Option (PathOption × Option String)

def dropEquals : List Char → List Char
  | '=' :: rest => rest
  | rest => rest

/-- The letters after a dash. The first that stands for an option ends them. -/
def letters (arguments : Arguments) : List Char → Except Request Switched
  | [] => .ok (arguments, none)
  | c :: rest =>
      match letter? c with
      | none => .error .misuse
      | some (.flag flag) => do letters (← arguments.raise flag) rest
      | some (.path option) =>
          if rest.isEmpty then .ok (arguments, some (option, none))
          else .ok (arguments, some (option, some (String.ofList (dropEquals rest))))

def splitWord (argument : List Char) : String × Option String :=
  let name := String.ofList (argument.takeWhile (· ≠ '='))
  match argument.dropWhile (· ≠ '=') with
  | [] => (name, none)
  | _ :: value => (name, some (String.ofList value))

def word (arguments : Arguments) (text : List Char) : Except Request Switched :=
  let (name, value) := splitWord text
  match word? name, value with
  | some (.path option), path => .ok (arguments, some (option, path))
  | some (.flag flag), none => (arguments.raise flag).map fun arguments => (arguments, none)
  | _, _ => .error .misuse

def switch (arguments : Arguments) : List Char → Except Request Switched
  | '-' :: '-' :: text => word arguments text
  | '-' :: c :: rest => letters arguments (c :: rest)
  | _ => .error .misuse

def isPath (argument : String) : Bool := argument == "-" || !argument.startsWith "-"

def parseFrom (arguments : Arguments) (awaiting : Option PathOption) : List String → Request
  | [] => if awaiting.isSome then .misuse else .run arguments
  | argument :: others =>
      match awaiting with
      | some option =>
          if isPath argument then
            match arguments.set? option argument with
            | some arguments => parseFrom arguments none others
            | none => .misuse
          else .misuse
      | none =>
          if argument = "--" then if others.isEmpty then .run arguments else .misuse
          else
            match switch arguments argument.toList with
            | .error request => request
            | .ok (arguments, none) => parseFrom arguments none others
            | .ok (arguments, some (option, none)) => parseFrom arguments (some option) others
            | .ok (arguments, some (option, some path)) =>
                match arguments.set? option path with
                | some arguments => parseFrom arguments none others
                | none => .misuse

def parse (arguments : List String) : Request := parseFrom Arguments.none none arguments

/-- What a run does with files. Reading has no answer if there is no such text; replacing a file
answers whether it succeeded. -/
structure FileAccess (m : Type → Type) where
  read : String → m (Option String)
  replace : String → String → m Bool

structure Outcome where
  exit : Nat
  stdout : String
  stderr : List String

variable {K : Type} [Numeral K]

def Arguments.inputPath (arguments : Arguments) : String := arguments.input.getD "gen.yaml"

/-- Where the program goes: to the output path if one is given, else to the file that the
description names beside itself, else to its own name with another extension. -/
def outputPath (arguments : Arguments) (controlFile : Option String) : String :=
  match arguments.output, controlFile with
  | some path, _ => path
  | none, some name => Path.join ((Path.parent? arguments.inputPath).getD "") name
  | none, none => Path.withExtension arguments.inputPath "ctl"

variable {m : Type → Type} [Monad m]

def settingsFor (arguments : Arguments) : Settings K :=
  { Settings.default with
    inputName := arguments.inputPath
    structureOnly := arguments.structureOnly }

def failureLine (context : String) (failure : Failure K) : String :=
  "error " ++ Nat.repr failure.code ++ ": " ++ context ++ failure.message

def warningLine (warning : Warning) : String :=
  "warning " ++ Nat.repr warning.kind.code ++ ": " ++ warning.message

def failed (warnings : List String) (context : String) (failure : Failure K) : Outcome :=
  ⟨1, "", warnings ++ [failureLine context failure]⟩

def deliver (files : FileAccess m) (arguments : Arguments) (output : Program.Output) :
    m Outcome := do
  let warnings := output.diagnostics.warnings.map warningLine
  if arguments.stdout then pure ⟨0, output.program, warnings⟩
  else
    let path := outputPath arguments output.controlFile
    if ← files.replace path output.program then
      pure ⟨0, "", warnings ++ ["Generated MEEP control file: " ++ Text.quoted path]⟩
    else
      let context := "Failed to write output file: " ++ Text.quoted path ++ ": "
      pure (failed warnings context (Failure.file : Failure K))

/-- What a run leaves to libraries: reading documents and the command line, and filling templates. -/
structure Tools (K : Type) where
  yaml : String → Option Yaml
  json : String → Option Json
  fill : Filler K
  request : List String → Request
  help : String
  version : String
  complaint : List String → List String

namespace Tools

variable (tools : Tools K)

def describe (path text : String) : Except (Failure K) (Description K) :=
  let description :=
    if Path.extension? path = some "json" then (tools.json text).bind Description.ofDocument?
    else (tools.yaml text).bind Description.ofDocument?
  match description with
  | some description => .ok description
  | none => .error .parse

def load (files : FileAccess m) (path : String) : m (Except (Failure K) (Description K)) := do
  match ← files.read path with
  | some text => pure (tools.describe path text)
  | none => pure (.error .file)

def loadTemplates (files : FileAccess m) (path : String) :
    m (Except (Failure K) Templates) := do
  match ← files.read path with
  | some text => pure (Templates.ofDocument (tools.yaml text))
  | none => pure (.error (.resource .unreadable))

def templatesFor (files : FileAccess m) : Option String → m (Except (Failure K) Templates)
  | some path => tools.loadTemplates files path
  | none => pure (Templates.ofDocument (tools.yaml Templates.builtinText))

def run (files : FileAccess m) (time : String) (arguments : Arguments) : m Outcome := do
  let path := arguments.inputPath
  match ← tools.load files path with
  | .error failure =>
      pure (failed [] ("Failed to read description: " ++ Text.quoted path ++ ": ") failure)
  | .ok description =>
      match ← tools.templatesFor files arguments.resource with
      | .error failure => pure (failed [] "" failure)
      | .ok templates =>
          let renderer := templates.renderWith tools.fill
          match Program.ofDescription description renderer (settingsFor arguments) time with
          | .error failure => pure (failed [] "Translation failed: " failure)
          | .ok output => deliver (K := K) files arguments output

def execute (files : FileAccess m) (time : String) (arguments : List String) : m Outcome :=
  match tools.request arguments with
  | .run request => tools.run files time request
  | .help => pure ⟨0, tools.help, []⟩
  | .version => pure ⟨0, tools.version, []⟩
  | .misuse => pure ⟨2, "", tools.complaint arguments⟩

end Tools

def usage : String :=
  "Usage: gen-grooves [-i INPUT] [-r RESOURCE] [-o OUTPUT] [--structure-only] [--stdout] [-v]...\n"

/-- The readers and the templates of this library. -/
def Tools.own : Tools K where
  yaml := Yaml.parse?
  json := Json.parse?
  fill := Template.render
  request := parse
  help := usage
  version := "gen-grooves 0.1.0\n"
  complaint _ := [usage]

def load (files : FileAccess m) (path : String) : m (Except (Failure K) (Description K)) :=
  Tools.own.load files path

def loadTemplates (files : FileAccess m) (path : String) : m (Except (Failure K) Templates) :=
  Tools.own.loadTemplates files path

def execute (files : FileAccess m) (time : String) (arguments : List String) : m Outcome :=
  (Tools.own : Tools K).execute files time arguments

end CommandLine

def FileTree.accessOn (disk : Disk) : CommandLine.FileAccess (StateM FileTree) where
  read path := do return (← get).read? disk path
  replace path text := modifyGet fun tree =>
    let (tree, replaced) := FileTree.replaceOn disk tree path text
    (replaced, tree)

def FileTree.access : CommandLine.FileAccess (StateM FileTree) := FileTree.accessOn .plain

end Waveguide
