import Waveguide.Path
import Waveguide.Text.Blank

/-!
A tree of files and directories, and how a file in it is replaced at once: the new text goes to a
file of a fresh name beside the old one, which then takes the old one's place. A step on the way may
fail; which ones do is left to the disk that holds the tree.
-/

namespace Waveguide

inductive FileTree.Entry where
  | file (text : String)
  | directory
  deriving DecidableEq

/-- The files and directories below one directory, by the names that lead to them. -/
structure FileTree where
  entries : List (List String × FileTree.Entry)
  deriving DecidableEq

inductive FileTree.Step where
  | read (place : List String)
  | create (place : List String)
  | rename (source target : List String)

/-- What a disk adds to the tree it holds: where paths start, how it names temporary files, and the
steps that fail for want of rights or space. -/
structure Disk where
  /-- The place of the current directory in a tree of all files. Without it the tree is what lies
  below the current directory, and no path leads out of it. -/
  current : Option (List String)
  temporaryName : FileTree → List String → String
  refuses : FileTree → FileTree.Step → Bool
  /-- The part of a text that is in its file when the rest could not be written. -/
  brokenOff? : FileTree → String → Option String

namespace Disk

def start? (disk : Disk) (path : String) : Option (List String) :=
  if path.isEmpty then none
  else if path.startsWith "/" then disk.current.map fun _ => []
  else some (disk.current.getD [])

def above? (disk : Disk) (place : List String) : Option (List String) :=
  if place.isEmpty then disk.current.map fun _ => [] else some place.dropLast

end Disk

namespace FileTree

def find? (tree : FileTree) (place : List String) : Option Entry :=
  if place.isEmpty then some .directory else tree.entries.lookup place

def isDirectory (tree : FileTree) (place : List String) : Bool :=
  tree.find? place == some .directory

def names (path : String) : List String := (Text.splitAt '/' path.toList).map String.ofList

def enter (tree : FileTree) (disk : Disk) (place : List String) (name : String) :
    Option (List String) :=
  if !tree.isDirectory place then none
  else if name == "" || name == "." then some place
  else if name == ".." then disk.above? place
  else some (place ++ [name])

def locate (tree : FileTree) (disk : Disk) (path : String) : Option (List String) := do
  let start ← disk.start? path
  (names path).foldlM (tree.enter disk) start

def read? (tree : FileTree) (disk : Disk) (path : String) : Option String := do
  let place ← tree.locate disk path
  if disk.refuses tree (.read place) then none
  match tree.find? place with
  | some (.file text) => some text
  | _ => none

def remove (tree : FileTree) (place : List String) : FileTree :=
  ⟨tree.entries.filter fun entry => entry.1 != place⟩

def put (tree : FileTree) (place : List String) (text : String) : FileTree :=
  if (tree.find? place).isSome then
    ⟨tree.entries.map fun entry => if entry.1 = place then (place, .file text) else entry⟩
  else ⟨tree.entries ++ [(place, .file text)]⟩

def createFresh? (tree : FileTree) (disk : Disk) (directory : String) :
    Option (FileTree × List String) := do
  let place ← tree.locate disk directory
  let fresh := place ++ [disk.temporaryName tree place]
  if tree.isDirectory place && (tree.find? fresh).isNone && !disk.refuses tree (.create fresh) then
    some (tree.put fresh "", fresh)
  else none

def fill (tree : FileTree) (disk : Disk) (place : List String) (text : String) :
    FileTree × Bool :=
  match disk.brokenOff? tree text with
  | some part => (tree.put place part, false)
  | none => (tree.put place text, true)

/-- The place a file can take under a path: a name in a directory that no directory has. -/
def target? (tree : FileTree) (disk : Disk) (path : String) : Option (List String) := do
  let place ← tree.locate disk path
  let last ← (names path).getLast?
  if last == "" || last == "." || last == ".." || tree.isDirectory place then none else some place

def rename? (tree : FileTree) (disk : Disk) (source : List String) (path : String) :
    Option FileTree := do
  let target ← tree.target? disk path
  if disk.refuses tree (.rename source target) then none
  match tree.find? source with
  | some (.file text) => some ((tree.remove source).put target text)
  | _ => none

/-- Replaces the file at a path. After a failure the fresh file is removed. -/
def replaceOn (disk : Disk) (tree : FileTree) (path text : String) : FileTree × Bool :=
  match tree.createFresh? disk (Path.home path) with
  | none => (tree, false)
  | some (created, fresh) =>
      match created.fill disk fresh text with
      | (filled, false) => (filled.remove fresh, false)
      | (filled, true) =>
          match filled.rename? disk fresh path with
          | some renamed => (renamed, true)
          | none => (filled.remove fresh, false)

def freshName (tree : FileTree) (directory : List String) : Nat → String
  | 0 => ".tmp" ++ Nat.repr tree.entries.length
  | count + 1 =>
      let name := ".tmp" ++ Nat.repr (tree.entries.length - count - 1)
      if (tree.find? (directory ++ [name])).isSome then freshName tree directory count else name

end FileTree

def Disk.plain : Disk where
  current := none
  temporaryName tree directory := tree.freshName directory tree.entries.length
  refuses _ _ := false
  brokenOff? _ _ := none

@[simp] theorem Disk.plain_temporaryName (tree : FileTree) (directory : List String) :
    Disk.plain.temporaryName tree directory = tree.freshName directory tree.entries.length := rfl

@[simp] theorem Disk.plain_refuses (tree : FileTree) (step : FileTree.Step) :
    Disk.plain.refuses tree step = false := rfl

@[simp] theorem Disk.plain_brokenOff? (tree : FileTree) (text : String) :
    Disk.plain.brokenOff? tree text = none := rfl

def FileTree.replace (tree : FileTree) (path text : String) : FileTree × Bool :=
  replaceOn .plain tree path text

end Waveguide
