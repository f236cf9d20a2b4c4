import Southbound.Event
import Southbound.Log
import Southbound.Path

/-!
# Watching the configuration file

The watcher gets reports on the directory of the configuration file, so that the file may come into
being later or be replaced as a whole.  Reports that are there when the watcher wakes up are one
burst and become at most one event: `added` if the file was created in the burst, else `updated` if
it was changed.  Only what a report says about the file's own name counts.
-/

namespace Southbound

/-! ## Reports -/

/-- What about a file was modified. -/
inductive FileAspect
  | content
  | metadata
  | name
  | unspecified
deriving DecidableEq

/-- What happened to a file. -/
inductive FileChange
  | created
  | modified (aspect : FileAspect)
  | removed
  | accessed
  | unspecified
deriving DecidableEq

namespace FileChange

/-- What the change means for the configuration, if anything. -/
def classify : FileChange → Option ConfigChange
  | created => some .added
  | modified .metadata => none
  | modified _ => some .updated
  | removed | accessed | unspecified => none

end FileChange

/-- A report of the file system. -/
structure FileReport where
  change : FileChange
  paths : List String
deriving DecidableEq

namespace FileReport

/-- Whether the report is about a file of this name. -/
def touches (r : FileReport) (name : String) : Bool :=
  r.paths.any fun p => Path.fileName? p == some name

end FileReport

/-- A report, or the words in which the file system fails to give one. -/
abbrev Notice := Except String FileReport

/-! ## Bursts -/

/-- Two changes in one: a file that was added is added, whatever else happened. -/
def ConfigChange.join? : Option ConfigChange → Option ConfigChange → Option ConfigChange
  | some .added, _ => some .added
  | change, none => change
  | _, change => change

/-- What a notice means for a file of this name. -/
def Notice.classify (fileName : Option String) : Notice → Option ConfigChange
  | .error _ => none
  | .ok r => if fileName.any r.touches then r.change.classify else none

/-- What a burst means for a file of this name. -/
def burstChange (fileName : Option String) (burst : List Notice) : Option ConfigChange :=
  burst.foldl (fun change notice => ConfigChange.join? change (notice.classify fileName)) none

/-! ## The watcher -/

/-- The watcher of one file. -/
structure Watcher where
  /-- The file, as it was named at the start. -/
  path : String
  /-- The application whose configuration it is. -/
  appId : String
  running : Bool
  /-- Whether anybody takes the events. -/
  listening : Bool
deriving DecidableEq

/-- What the watcher does when it wakes up. -/
structure Awakening where
  watcher : Watcher
  events : List ConfigEvent
  lines : List LogLine

namespace Watcher

/-- The directory that holds the file. -/
def directory (path : String) : String :=
  match Path.parent? path with
  | some dir => if dir = "" then "." else dir
  | none => "."

/-- A watcher at work, and what it says at the start. -/
def start (path appId : String) : Awakening :=
  ⟨⟨path, appId, true, true⟩, [], [.watching path]⟩

/-- Nobody takes the events any more. -/
def unsubscribe (w : Watcher) : Watcher := { w with listening := false }

/-- What the watcher says about the notices that are no reports. -/
def failures (burst : List Notice) : List LogLine :=
  burst.filterMap fun
    | .error detail => some (.watchFailed detail)
    | .ok _ => none

/-- Wakes up to a burst, or to the signal to stop, which comes first. -/
def wake (w : Watcher) (stop : Bool) (burst : List Notice) : Awakening :=
  if !w.running then ⟨w, [], []⟩
  else if stop then ⟨{ w with running := false }, [], [.watcherStopped]⟩
  else
    match burstChange (Path.fileName? w.path) burst with
    | none => ⟨w, [], failures burst⟩
    | some change =>
      let lines := failures burst ++ [.fileChanged w.path change]
      if w.listening then ⟨w, [⟨w.appId, change⟩], lines⟩
      else ⟨w, [], lines ++ [.nobodyListens]⟩

end Watcher

end Southbound
