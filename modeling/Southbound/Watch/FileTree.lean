import Southbound.Watch

/-!
# A file system in memory

A `FileTree` knows which files and folders there are below one directory.  Changes to it are
reported to whoever watches a folder, but only what happens to the direct children of that folder.
A watched folder that is moved stays watched; one that is removed does not, even if it comes back.
-/

namespace Southbound

/-- The names that lead from the top to a file or folder. -/
abbrev Location := List String

/-- Files and folders below one directory. -/
structure FileTree where
  /-- The name of the directory itself, with which longer paths start. -/
  root : String
  files : List Location
  folders : List Location

/-- A change of the files. -/
inductive FileCommand
  /-- Writes the whole file, and makes it if it is not there. -/
  | write (name : String) (text : String)
  | append (name : String) (text : String)
  | read (name : String)
  | changeMode (name : String)
  | remove (name : String)
  | makeFolder (name : String)
  | removeFolder (name : String)
  | rename (name newName : String)

namespace FileTree

/-- Nothing is there. -/
def empty (root : String) : FileTree := ⟨root, [], []⟩

/-- Follows one part of a path. -/
def follow (l : Location) (part : String) : Location :=
  if part = "." then l
  else if part = ".." ∧ l ≠ [] ∧ l.getLast? ≠ some ".." then l.dropLast
  else l ++ [part]

/-- The parts of a path below the directory. -/
def partsBelow (t : FileTree) (path : String) : List String :=
  match Path.parts path with
  | [] => []
  | first :: rest => if first = t.root then rest else first :: rest

/-- Where a path leads. -/
def locate (t : FileTree) (path : String) : Location := (t.partsBelow path).foldl follow []

/-- The places that a path passes, the last one included. -/
def passed (t : FileTree) (path : String) : List Location :=
  let parts := t.partsBelow path
  (List.range parts.length).map fun n => (parts.take (n + 1)).foldl follow []

/-- Makes the folder and those on the way to it; `none` if a file is in the way. -/
def makeFolders (t : FileTree) (path : String) : Option FileTree :=
  let way := t.passed path
  if way.any t.files.contains then none
  else
    let missing := way.filter fun l => l ≠ [] ∧ !t.folders.contains l
    some { t with folders := t.folders ++ missing }

/-- Whether there is a file or folder. -/
def has (t : FileTree) (l : Location) : Bool := t.files.contains l || t.folders.contains l

/-- Moves a place, or what is below a place that is moved. -/
def moved (source target : Location) (l : Location) : Location :=
  if source.isPrefixOf l then target ++ l.drop source.length else l

/-- Files and folders after a change. -/
def apply (t : FileTree) : FileCommand → FileTree
  | .write name _ =>
    let l := t.locate name
    if t.files.contains l then t else { t with files := t.files ++ [l] }
  | .append _ _ | .read _ | .changeMode _ => t
  | .remove name => { t with files := t.files.filter (· != t.locate name) }
  | .makeFolder name => (t.makeFolders name).getD t
  | .removeFolder name => { t with folders := t.folders.filter (· != t.locate name) }
  | .rename name newName =>
    let source := t.locate name
    let target := t.locate newName
    if source = target ∨ !t.has source then t
    else
      { t with
        files := (t.files.filter (· != target)).map (moved source target)
        folders := (t.folders.filter (· != target)).map (moved source target) }

/-- What happens to which file or folder. -/
def changes (t : FileTree) : FileCommand → List (Location × FileChange)
  | .write name text =>
    let l := t.locate name
    if t.files.contains l then [(l, .modified .content)]
    else (l, .created) :: if text = "" then [] else [(l, .modified .content)]
  | .append name text => if text = "" then [] else [(t.locate name, .modified .content)]
  | .read name => [(t.locate name, .accessed)]
  | .changeMode name => [(t.locate name, .modified .metadata)]
  | .remove name | .removeFolder name =>
    if t.has (t.locate name) then [(t.locate name, .removed)] else []
  | .makeFolder name =>
    ((t.passed name).filter fun l => l ≠ [] ∧ !t.has l).map fun l => (l, .created)
  | .rename name newName =>
    let source := t.locate name
    let target := t.locate newName
    if source = target ∨ !t.has source then []
    else [(source, .modified .name), (target, .modified .name)]

/-- The reports that one gets who watches a folder. -/
def reports (t : FileTree) (folder : Location) (c : FileCommand) : List FileReport :=
  (t.changes c).filterMap fun (l, change) =>
    if l ≠ [] ∧ l.dropLast = folder then l.getLast?.map fun name => ⟨change, [name]⟩ else none

/-- Where a watched folder is after a change, if it is still there. -/
def watched (t : FileTree) (folder : Location) : FileCommand → Option Location
  | .removeFolder name => if t.locate name = folder then none else some folder
  | .rename name newName =>
    let source := t.locate name
    let target := t.locate newName
    if source = target then some folder
    else if target = folder then none
    else some (moved source target folder)
  | _ => some folder

/-- Makes changes one after the other, and collects the reports for a watched folder.  A folder that
is gone is no longer watched, whatever takes its place. -/
def applyAll (t : FileTree) (folder : Option Location) :
    List FileCommand → FileTree × Option Location × List FileReport
  | [] => (t, folder, [])
  | c :: rest =>
    let now := folder.elim [] (t.reports · c)
    let (t', folder', later) := (t.apply c).applyAll (folder.bind (t.watched · c)) rest
    (t', folder', now ++ later)

end FileTree

end Southbound
