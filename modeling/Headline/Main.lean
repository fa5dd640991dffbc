import Headline.CommandLine

/-!
# The program

What the run may look at is read from the file system beforehand; the run itself is a function
of that.
-/

namespace Headline.Program

open Headline

/-- The fault that an error of the file system stands for. -/
def faultOf : IO.Error → Files.Fault
  | .noFileOrDirectory _ _ _ => .notFound
  | .inappropriateType _ code details =>
    if code = 21 then .isFolder else if code = 20 then .notFolder else .refused code.toNat details
  | .permissionDenied _ code details => .refused code.toNat details
  | .resourceExhausted _ code details => .refused code.toNat details
  | .invalidArgument _ code details =>
    if code = 36 then .tooLong else .refused code.toNat details
  | e => .refused 5 (toString e)

/-- The folder at a path with all that it holds, without the bytes of files. A folder that cannot
be opened holds nothing. -/
partial def listing (path : String) : IO Files.Tree := do
  try
    let entries ← (IO.FS.DirEntry.mk path "").root.readDir
    let entries ← entries.toList.mapM fun entry => do
      if ← entry.path.isDir then return (entry.fileName, ← listing (Files.join path entry.fileName))
      else return (entry.fileName, .file [])
    return .folder entries
  catch _ => return .folder []

/-- What a path leads to. -/
def look (path : String) : IO (Except Files.Fault Files.Tree) := do
  try
    if ← (IO.FS.DirEntry.mk path "").root.isDir then return .ok (← listing path)
    else return .ok (.file (← IO.FS.readBinFile path).toList)
  catch e => return .error (faultOf e)

/-- The files that have been looked at. -/
def seen (found : List (String × Except Files.Fault Files.Tree)) : Files where
  find path := (found.lookup path).getD (.error .notFound)

def lookAt (paths : List String) : IO (List (String × Except Files.Fault Files.Tree)) :=
  paths.mapM fun path => return (path, ← look path)

/-- The files that a run may look at. -/
def gather (texts : List String) (settings : Settings) : IO Files := do
  match Arguments.parse texts with
  | .error _ => return seen []
  | .ok a =>
    let found ← lookAt ((CommandLine.optionsFile? a settings).toList ++ a.paths)
    let documents := (seen found).documents Settings.isDocument a.paths
    return seen (found ++ (← lookAt documents))

end Headline.Program

open Headline in
/-- Run the program. A fault that was not provided for is shown and counts as failure. -/
def main (texts : List String) : IO UInt32 := do
  let settings := Settings.ofEnvironment
    ⟨← IO.getEnv "LOG_LEVEL", ← IO.getEnv "HEADING_RULE_CONFIG"⟩
  let t := CommandLine.run .standard texts settings (← Program.gather texts settings)
  IO.eprint t.complaint
  for entry in t.log do IO.eprintln entry.text
  IO.print t.output
  match t.ending with
  | .ok code => return code.toUInt32
  | .error fault =>
    IO.eprintln fault.message
    return 1
