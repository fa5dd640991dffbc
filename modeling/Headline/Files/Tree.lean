import Headline.Text.Quoted

/-!
# Files and folders

All that the library asks of a file system is what a path leads to. A tree of files and
folders answers that: a path is followed name by name, from the folder in which the program
runs or from the root. What a path leads to may not be what was wanted, and then the fault
says why. Faults that come from limits of a file system are not among those of a tree, in which
all that a folder holds is within reach.
-/

namespace Headline

namespace Files

/-- A file with its bytes, or a folder with what it holds by name. -/
inductive Tree where
  | file (bytes : List UInt8)
  | folder (entries : List (String × Tree))
deriving Repr

instance : Inhabited Tree := ⟨.folder []⟩

/-- Why a path does not lead to a file. -/
inductive Fault where
  | notFound
  /-- something that is no folder is used as one -/
  | notFolder
  | isFolder
  /-- a name or the whole path is too long -/
  | tooLong
  /-- another refusal of the file system, with its number and wording -/
  | refused (number : Nat) (wording : String)
  /-- the path holds the character that ends paths -/
  | nulInPath
deriving Repr, DecidableEq

/-- Whether a fault comes from the file system, as opposed to a path that it is never asked
for. -/
def Fault.isSystem : Fault → Bool
  | .nulInPath => false
  | _ => true

/-- The number and the wording of a fault, followed by the path. -/
def Fault.message (path : String) : Fault → String
  | notFound => s!"[Errno 2] No such file or directory: {Text.quoted path}"
  | notFolder => s!"[Errno 20] Not a directory: {Text.quoted path}"
  | isFolder => s!"[Errno 21] Is a directory: {Text.quoted path}"
  | tooLong => s!"[Errno 36] File name too long: {Text.quoted path}"
  | refused number wording => s!"[Errno {number}] {wording}: {Text.quoted path}"
  | nulInPath => "embedded null byte"

/-! ## Following paths -/

/-- Follow names from a place in a tree. `above` are the folders around the place, innermost
first; the root counts as its own folder. -/
def Tree.follow (above : List Tree) (place : Tree) : List String → Except Fault Tree
  | [] => .ok place
  | name :: names =>
    match place with
    | .file _ => .error .notFolder
    | .folder entries =>
      if name == "." then follow above place names
      else if name == ".." then
        match above with
        | [] => follow [] place names
        | outer :: above => follow above outer names
      else
        match entries.lookup name with
        | some inner => follow (place :: above) inner names
        | none => .error .notFound

/-- Put something into a tree under names that lead to it; folders on the way are made where
there are none. -/
def Tree.put (tree leaf : Tree) : List String → Tree
  | [] => leaf
  | name :: names =>
    let entries := match tree with
      | .folder entries => entries
      | .file _ => []
    let inner := put ((entries.lookup name).getD (.folder [])) leaf names
    if entries.any (·.1 == name) then
      .folder (entries.map fun e => if e.1 == name then (name, inner) else e)
    else .folder (entries ++ [(name, inner)])

def names (path : String) : List String :=
  (go path.toList).filter (!·.isEmpty) |>.map String.ofList
where
  /-- The parts between slashes. -/
  go : List Char → List (List Char)
    | [] => [[]]
    | c :: cs =>
      if c == '/' then [] :: go cs
      else match go cs with
        | [] => [[c]]
        | part :: parts => (c :: part) :: parts

/-- Whether a path ends with a slash, so that it can only lead to a folder. -/
def wantsFolder (path : String) : Bool := path.toList.getLast? == some '/'

/-- A path one name longer. -/
def join (path name : String) : String :=
  if path.isEmpty || wantsFolder path then path ++ name else path ++ "/" ++ name

end Files

/-! ## What paths lead to -/

/-- A view of files: what each path leads to, or why it leads nowhere. -/
structure Files where
  find : String → Except Files.Fault Files.Tree

namespace Files

/-- The files of a tree, seen from the folder to which the names `home` lead. -/
def ofTree (root : Tree) (home : List String) : Files where
  find path :=
    if path.toList.contains (Char.ofNat 0) then .error .nulInPath
    else if path.isEmpty then .error .notFound
    else
      let fromRoot := path.toList.head? == some '/'
      match root.follow [] (if fromRoot then names path else home ++ names path) with
      | .ok (.file bytes) => if wantsFolder path then .error .notFolder else .ok (.file bytes)
      | found => found

def read (files : Files) (path : String) : Except Fault (List UInt8) :=
  match files.find path with
  | .ok (.file bytes) => .ok bytes
  | .ok (.folder _) => .error .isFolder
  | .error fault => .error fault

def contains (files : Files) (path : String) : Bool := (files.find path).isOk

end Files

end Headline
