/-!
File paths: names between slashes. Slashes at the end of a path and dots that name the directory
itself do not change what the last name and the parent of a path are.
-/

namespace Waveguide.Path

def dropEnd : List Char → List Char
  | ['/'] => ['/']
  | '/' :: rest => dropEnd rest
  | '.' :: '/' :: rest => dropEnd ('/' :: rest)
  | path => path

def lastName (path : String) : List Char × List Char :=
  let path := dropEnd path.toList.reverse
  (path.takeWhile (· ≠ '/'), path.dropWhile (· ≠ '/'))

def parent? (path : String) : Option String :=
  match lastName path with
  | ([], _) => none
  | (_, before) => some (String.ofList (dropEnd before).reverse)

def fileName? (path : String) : Option (List Char) :=
  match (lastName path).1 with
  | [] | ['.'] | ['.', '.'] => none
  | name => some name.reverse

/-- A name up to its last point, and the text after it. A point at the start belongs to the name. -/
def splitName (name : List Char) : List Char × Option (List Char) :=
  let reversed := name.reverse
  match reversed.dropWhile (· ≠ '.') with
  | [] | ['.'] => (name, none)
  | _ :: stem => (stem.reverse, some (reversed.takeWhile (· ≠ '.')).reverse)

def extension? (path : String) : Option String :=
  (fileName? path).bind fun name => (splitName name).2.map String.ofList

def withExtension (path extension : String) : String :=
  match fileName? path with
  | none => path
  | some name =>
      let before := (lastName path).2.reverse
      String.ofList (before ++ (splitName name).1 ++ '.' :: extension.toList)

def join (directory path : String) : String :=
  if path.startsWith "/" || directory.isEmpty then path
  else if directory.endsWith "/" then directory ++ path
  else directory ++ "/" ++ path

def home (path : String) : String :=
  match parent? path with
  | some directory => if directory.isEmpty then "." else directory
  | none => "."

end Waveguide.Path
