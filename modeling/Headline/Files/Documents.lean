import Headline.Files.Tree

/-!
# Documents among files

Paths that lead to folders stand for the documents below them. A folder gives its own
documents first, by name, and then those of its folders, by name as well. In which order a
folder lists what it holds therefore does not matter. All other paths stand for themselves,
whether there is something or not.
-/

namespace Headline.Files

def sortByName {α : Type} (entries : List (String × α)) : List (String × α) :=
  entries.mergeSort fun a b => decide (a.1 ≤ b.1)

/-- The files among the entries of a folder, by name. -/
def fileNames (entries : List (String × Tree)) : List String :=
  (sortByName (entries.filter fun e => e.2 matches .file _)).map (·.1)

mutual

/-- The paths of the documents in a tree that stands at a path. -/
def Tree.documents (isDocument : String → Bool) (path : String) : Tree → List String
  | .file _ => []
  | .folder entries =>
    ((fileNames entries).filter isDocument).map (join path) ++
      (sortByName (documentsBelow isDocument path entries)).flatMap (·.2)

/-- The folders among the entries of a folder, each with the paths of its documents. -/
def Tree.documentsBelow (isDocument : String → Bool) (path : String) :
    List (String × Tree) → List (String × List String)
  | [] => []
  | (name, .folder inner) :: rest =>
    (name, Tree.documents isDocument (join path name) (.folder inner)) ::
      documentsBelow isDocument path rest
  | (_, .file _) :: rest => documentsBelow isDocument path rest

end

/-- The paths for which one path stands. -/
def documentsAt (files : Files) (isDocument : String → Bool) (path : String) : List String :=
  match files.find path with
  | .ok (.folder entries) => (Tree.folder entries).documents isDocument path
  | _ => [path]

/-- The paths for which paths stand, in order. -/
def documents (files : Files) (isDocument : String → Bool) (paths : List String) : List String :=
  paths.flatMap (files.documentsAt isDocument)

end Headline.Files
