import Southbound.Proofs.Bursts
import Southbound.Watch.FileTree

/-!
# Watching the folder of the file

The watcher looks at the folder of its file and not at the file, so that the file may be missing
when it starts, be replaced, or come back.  The main statement, `Watcher.wake_of_commands`, says
that nothing is missed by this and nothing is made up: whatever commands change the tree between two
awakenings, what is published is the strongest of what happened to the file while its folder was
watched.

A report names the file by the last part of its place.  That this is read as the name of that file
and of no other rests on the parts of a path having no slash in them, so that each of them is a path
of one part (`Path.parts_of_mem_parts`).
-/

namespace Southbound

/-! ## The parts of a path -/

namespace Path

theorem slash_notMem_of_mem_pieces {cs piece : List Char} (mem : piece ∈ pieces cs) :
    '/' ∉ piece := by
  induction cs generalizing piece with
  | nil =>
    obtain rfl := List.mem_singleton.1 mem
    exact List.not_mem_nil
  | cons c rest ih =>
    rw [pieces] at mem
    cases split : pieces rest with
    | nil => simp [split] at mem
    | cons front others =>
      simp only [split] at mem ih
      by_cases slash : c = '/'
      · rw [if_pos slash] at mem
        rcases List.mem_cons.1 mem with rfl | later
        · exact List.not_mem_nil
        · exact ih later
      · rw [if_neg slash] at mem
        rcases List.mem_cons.1 mem with rfl | later
        · exact List.not_mem_cons_of_ne_of_not_mem (Ne.symm slash) (ih List.mem_cons_self)
        · exact ih (List.mem_cons_of_mem _ later)

theorem pieces_of_slash_notMem {cs : List Char} (slashless : '/' ∉ cs) : pieces cs = [cs] := by
  induction cs with
  | nil => rfl
  | cons c rest ih =>
    obtain ⟨front, back⟩ := List.ne_and_not_mem_of_not_mem_cons slashless
    rw [pieces, ih back]
    exact if_neg (Ne.symm front)

/-- What counts in a path stands between its slashes and says something, but for a point in
front. -/
theorem counted_of_mem_parts {path part : String} (mem : part ∈ parts path) :
    (∃ piece ∈ pieces path.toList, String.ofList piece = part) ∧
      (part = "." ∨ part ≠ "" ∧ part ≠ ".") := by
  rw [← List.mem_map]
  have kept : ∀ {ps : List String}, part ∈ ps.filter (fun p => p != "" && p != ".") →
      part ∈ ps ∧ (part = "." ∨ part ≠ "" ∧ part ≠ ".") := by
    intro ps filtered
    obtain ⟨between, told⟩ := List.mem_filter.1 filtered
    exact ⟨between, .inr (by simpa using told)⟩
  simp only [parts] at mem
  split at mem
  · rename_i pointed
    rcases List.mem_cons.1 mem with rfl | later
    · exact ⟨List.mem_of_mem_head? (by simpa using pointed), .inl rfl⟩
    · exact kept later
  · exact kept mem

/-- A part that counts is a path of one part. -/
theorem parts_of_mem_parts {path part : String} (mem : part ∈ parts path) :
    parts part = [part] := by
  obtain ⟨⟨piece, cut, rfl⟩, counted⟩ := counted_of_mem_parts mem
  have single := pieces_of_slash_notMem (slash_notMem_of_mem_pieces cut)
  rcases counted with point | ⟨named, pointless⟩
  · rw [point]
    decide +kernel
  · simp [parts, single, named, pointless]

theorem proper_of_fileName? {path file : String} (named : fileName? path = some file) :
    ¬ (file = "." ∨ file = "..") := by
  rw [fileName?] at named
  cases last : (parts path).getLast? with
  | none => simp [last] at named
  | some p => grind

/-- The name of a file is the name of the path that consists of it. -/
theorem fileName?_eq_some_iff {path name file : String} (named : fileName? path = some file)
    (part : parts name = [name]) : fileName? name = some file ↔ name = file := by
  have proper := proper_of_fileName? named
  have read : fileName? name = if name = "." ∨ name = ".." then none else some name := by
    rw [fileName?, part]
    rfl
  rw [read]
  grind

end Path

/-- What a list of findings means, if only some of it is found to mean something. -/
theorem ConfigChange.strongest_map_filterMap {α β : Type} (f : α → Option β)
    (meaning : β → Option ConfigChange) (as : List α) :
    strongest ((as.filterMap f).map meaning) = strongest (as.map fun a => (f a).bind meaning) := by
  induction as with
  | nil => rfl
  | cons a as ih =>
    rw [List.map_cons, strongest_cons, ← ih]
    cases found : f a with
    | none => rw [List.filterMap_cons_none found, Option.bind_none, none_stronger]
    | some b =>
      rw [List.filterMap_cons_some found, List.map_cons, strongest_cons, Option.bind_some]

/-! ## What a command does to one file -/

namespace FileTree

variable {t : FileTree} {path name : String}

theorem mem_follow {l : Location} {part : String} (mem : name ∈ follow l part) :
    name ∈ l ∨ name = part := by
  unfold follow at mem
  split at mem
  · exact .inl mem
  · split at mem
    · exact .inl (List.dropLast_subset l mem)
    · simpa using mem

theorem mem_foldl_follow {parts : List String} {l : Location} (mem : name ∈ parts.foldl follow l) :
    name ∈ l ∨ name ∈ parts := by
  induction parts generalizing l with
  | nil => exact .inl mem
  | cons part parts ih =>
    rcases ih mem with before | later
    · rcases mem_follow before with old | rfl
      · exact .inl old
      · exact .inr List.mem_cons_self
    · exact .inr (List.mem_cons_of_mem _ later)

theorem mem_parts_of_mem_partsBelow (mem : name ∈ t.partsBelow path) : name ∈ Path.parts path := by
  unfold partsBelow at mem
  cases all : Path.parts path with
  | nil => simp [all] at mem
  | cons first rest =>
    simp only [all] at mem
    split at mem
    · exact List.mem_cons_of_mem _ mem
    · exact mem

theorem parts_of_mem_locate (mem : name ∈ t.locate path) : Path.parts name = [name] := by
  rcases mem_foldl_follow mem with nowhere | below
  · cases nowhere
  · exact Path.parts_of_mem_parts (mem_parts_of_mem_partsBelow below)

theorem parts_of_mem_passed {l : Location} (passes : l ∈ t.passed path) (mem : name ∈ l) :
    Path.parts name = [name] := by
  obtain ⟨n, -, rfl⟩ := List.mem_map.1 passes
  rcases mem_foldl_follow mem with nowhere | taken
  · cases nowhere
  · exact Path.parts_of_mem_parts (mem_parts_of_mem_partsBelow (List.mem_of_mem_take taken))

/-- Only a place to which a path leads is changed, or one on the way to it. -/
theorem place_of_mem_changes {c : FileCommand} {l : Location} {change : FileChange}
    (changed : (l, change) ∈ t.changes c) : ∃ path, l = t.locate path ∨ l ∈ t.passed path := by
  cases c with
  | write path text => exact ⟨path, .inl (by grind [changes])⟩
  | append path text => exact ⟨path, .inl (by grind [changes])⟩
  | read path => exact ⟨path, .inl (by grind [changes])⟩
  | changeMode path => exact ⟨path, .inl (by grind [changes])⟩
  | remove path => exact ⟨path, .inl (by grind [changes])⟩
  | makeFolder path => exact ⟨path, .inr (by grind [changes])⟩
  | removeFolder path => exact ⟨path, .inl (by grind [changes])⟩
  | rename path path' =>
    have place : l = t.locate path ∨ l = t.locate path' := by grind [changes]
    rcases place with source | target
    · exact ⟨path, .inl source⟩
    · exact ⟨path', .inl target⟩

theorem parts_of_mem_changes {c : FileCommand} {l : Location} {change : FileChange}
    (changed : (l, change) ∈ t.changes c) (mem : name ∈ l) : Path.parts name = [name] := by
  obtain ⟨path, rfl | passes⟩ := place_of_mem_changes changed
  · exact parts_of_mem_locate mem
  · exact parts_of_mem_passed passes mem

/-- What a command does to one file or folder. -/
def happened (t : FileTree) (l : Location) (c : FileCommand) : List FileChange :=
  (t.changes c).filterMap fun change => if change.1 = l then some change.2 else none

/-- What happens to a file of this name in a folder, as long as the folder is watched. -/
def account (t : FileTree) (folder : Option Location) (name : String) :
    List FileCommand → List FileChange
  | [] => []
  | c :: rest =>
    folder.elim [] (fun dir => t.happened (dir ++ [name]) c) ++
      (t.apply c).account (folder.bind (t.watched · c)) name rest

end FileTree

/-! ## What the watcher hears of it -/

section hearing

open ConfigChange

variable {t : FileTree} {path file : String}

/-- Of all that a command changes, the reports on a folder tell what happened to the file there. -/
theorem FileTree.strongest_reports (named : Path.fileName? path = some file) (dir : Location)
    (c : FileCommand) :
    strongest ((t.reports dir c).map fun r => Notice.classify (some file) (.ok r)) =
      strongest ((t.happened (dir ++ [file]) c).map FileChange.classify) := by
  unfold reports happened
  rw [strongest_map_filterMap, strongest_map_filterMap]
  refine congrArg strongest (List.map_congr_left ?_)
  rintro ⟨l, change⟩ changed
  rcases List.eq_nil_or_concat l with rfl | ⟨front, name, rfl⟩
  · simp
  · have same : Path.fileName? name = some file ↔ name = file :=
      Path.fileName?_eq_some_iff named (parts_of_mem_changes changed (by simp))
    by_cases here : front = dir
    · have meant : Notice.classify (some file) (.ok ⟨change, [name]⟩) =
          if name = file then change.classify else none := by
        simp only [Notice.classify, FileReport.touches, Option.any_some, List.any_cons,
          List.any_nil, Bool.or_false, beq_iff_eq, same]
      rcases eq_or_ne name file with rfl | other
      · simp [here, meant]
      · simp [here, other, meant]
    · simp [here]

/-- Whatever is done between two awakenings, the watcher publishes the strongest of what happened
to its file while the folder was watched. -/
theorem Watcher.wake_of_commands {w : Watcher} (running : w.running = true)
    (named : Path.fileName? w.path = some file) (t : FileTree) (folder : Option Location)
    (cs : List FileCommand) :
    (w.wake false ((t.applyAll folder cs).2.2.map .ok)).events =
      w.announce (strongest ((t.account folder file cs).map FileChange.classify)) := by
  rw [(wake_of_running running _).2, named, burstChange_eq_strongest]
  refine congrArg w.announce ?_
  induction cs generalizing t folder with
  | nil => rfl
  | cons c cs ih =>
    rw [FileTree.applyAll, FileTree.account]
    simp only [List.map_append, strongest_append]
    rw [ih]
    cases folder with
    | none => rfl
    | some dir =>
      have now := FileTree.strongest_reports (t := t) named dir c
      simp only [Option.elim_some, List.map_map]
      rw [← now]
      rfl

/-- A file that is written elsewhere in the folder and then moved to its place is modified there. -/
example :
    (FileTree.empty "<root>").account (some ["etc"]) "provider.toml"
        [.makeFolder "etc", .write "etc/provider.toml.new" "x = 1", .read "etc/provider.toml",
          .rename "etc/provider.toml.new" "etc/provider.toml", .removeFolder "etc",
          .write "etc/provider.toml" "x = 2"] =
      [.accessed, .modified .name] := by
  decide +kernel

end hearing

end Southbound
