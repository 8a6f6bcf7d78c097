import Mathlib.Logic.Function.Basic
import MediaFilter.Store.FileSystem

/-!
A file system seen from outside: at each place there is nothing, a directory, or a file with its
content.  Putting a file or a new directory somewhere, and removing a file, change what is seen at
that place and nowhere else.
-/

namespace MediaFilter

namespace FileNode

def content? : FileNode → Option FileContent
  | .file content => some content
  | .directory _ => none

def leaf : Option FileContent → FileNode
  | some content => .file content
  | none => .directory []

end FileNode

namespace FileEntries

def look (entries : FileEntries) (place : Place) : Option (Option FileContent) :=
  (entries.node? place).map FileNode.content?

end FileEntries

namespace FileNode

def look : FileNode → Place → Option (Option FileContent)
  | .directory entries, place => FileEntries.look entries place
  | .file content, [] => some (some content)
  | .file _, _ :: _ => none

@[simp] theorem look_nil (node : FileNode) : node.look [] = some node.content? := by
  cases node <;> rfl

@[simp] theorem content?_leaf (content : Option FileContent) :
    (leaf content).content? = content := by
  cases content <;> rfl

@[simp] theorem look_leaf_cons (content : Option FileContent) (name : String) (names : Place) :
    (leaf content).look (name :: names) = none := by
  cases content <;> rfl

/-- The node with a directory below it changed. -/
def alter (change : FileEntries → FileEntries) (place : Place) : FileNode → FileNode
  | .directory entries => .directory (FileEntries.alter change entries place)
  | .file content => .file content

end FileNode

namespace FileEntries

@[simp] theorem look_nil (entries : FileEntries) : entries.look [] = some none := rfl

theorem look_cons (entries : FileEntries) (name : String) (names : Place) :
    entries.look (name :: names) = (entries.find? name).bind fun node => node.look names := by
  cases found : entries.find? name with
  | none => simp [look, node?, found]
  | some node =>
      cases node with
      | directory inner => simp [look, node?, found, FileNode.look]
      | file content => cases names <;> simp [look, node?, found, FileNode.look, FileNode.content?]

theorem look_append_cons {entries : FileEntries} {place : Place}
    (leaf : entries.look place ≠ some none) (name : String) (names : Place) :
    entries.look (place ++ name :: names) = none := by
  induction place generalizing entries with
  | nil => exact absurd rfl leaf
  | cons first place induction =>
      rw [List.cons_append, look_cons]
      rw [look_cons] at leaf
      cases found : entries.find? first with
      | none => rfl
      | some node =>
          rw [found] at leaf
          cases node with
          | directory inner => exact induction leaf
          | file content => cases place <;> rfl

theorem find?_cons (key name : String) (node : FileNode) (entries : FileEntries) :
    FileEntries.find? name ((key, node) :: entries) =
      if name = key then some node else entries.find? name := by
  by_cases same : name = key
  · simp [find?, same]
  · have apart : (key == name) = false := by simp [Ne.symm same]
    simp [find?, apart, same]

@[simp] theorem find?_erase (name other : String) (entries : FileEntries) :
    (entries.erase name).find? other = if other = name then none else entries.find? other := by
  simp only [erase, find?, List.find?_filter]
  split
  · rename_i same
    simp [same]
  · rename_i different
    congr 2
    funext entry
    by_cases named : entry.1 = other <;> simp [named, different]

@[simp] theorem find?_put (name other : String) (node : FileNode) (entries : FileEntries) :
    (entries.put name node).find? other =
      if other = name then some node else entries.find? other := by
  rw [put, find?_cons, find?_erase]
  split <;> rfl

theorem find?_alter_cons (change : FileEntries → FileEntries) (name other : String) (names : Place)
    (entries : FileEntries) :
    (entries.alter change (name :: names)).find? other = (entries.find? other).map fun node =>
      if other = name then node.alter change names else node := by
  induction entries with
  | nil => rfl
  | cons entry entries induction =>
      obtain ⟨key, node⟩ := entry
      have altered : FileEntries.alter change ((key, node) :: entries) (name :: names) =
          (key, if key = name then node.alter change names else node) ::
            FileEntries.alter change entries (name :: names) := by
        cases node with
        | directory inner => by_cases same : key = name <;> simp [alter, FileNode.alter, same]
        | file content => simp [alter, FileNode.alter]
      rw [altered, find?_cons, find?_cons, induction]
      by_cases same : other = key <;> simp [same]

theorem look_cons_of_directory {entries inner : FileEntries} {name : String}
    (found : entries.find? name = some (.directory inner)) (names : Place) :
    entries.look (name :: names) = inner.look names := by
  rw [look_cons, found]
  rfl

theorem exists_directory_of_look_cons {entries : FileEntries} {name : String} {names : Place}
    (isDirectory : entries.look (name :: names) = some none) :
    ∃ inner, entries.find? name = some (.directory inner) := by
  rw [look_cons] at isDirectory
  cases found : entries.find? name with
  | none => simp [found] at isDirectory
  | some node =>
      cases node with
      | directory inner => exact ⟨inner, rfl⟩
      | file content =>
          rw [found] at isDirectory
          cases names <;> cases isDirectory

theorem look_alter_cons (change : FileEntries → FileEntries) {entries inner : FileEntries}
    {name : String} (found : entries.find? name = some (.directory inner)) (names : Place)
    (other : String) (rest : Place) :
    (entries.alter change (name :: names)).look (other :: rest) =
      if other = name then (inner.alter change names).look rest
      else entries.look (other :: rest) := by
  rw [look_cons, find?_alter_cons, look_cons]
  by_cases same : other = name
  · subst same
    rw [found, if_pos rfl, Option.map_some, if_pos rfl]
    rfl
  · simp [same]

section

variable {change : FileEntries → FileEntries} {name : String}
  {placed : Option (Option FileContent)}
  (finds : ∀ entries other, (change entries).find? other =
    if other = name then placed.map FileNode.leaf else FileEntries.find? other entries)

include finds

theorem look_change {entries : FileEntries} (isLeaf : entries.look [name] ≠ some none) :
    (change entries).look = Function.update entries.look [name] placed := by
  funext place
  cases place with
  | nil => rfl
  | cons other rest =>
      rw [look_cons, finds]
      by_cases same : other = name
      · subst same
        cases rest with
        | nil => cases placed <;> simp
        | cons next rest =>
            have nothing : entries.look (other :: next :: rest) = none :=
              look_append_cons isLeaf next rest
            rw [Function.update_of_ne (by simp), nothing]
            cases placed <;> simp
      · rw [if_neg same, ← look_cons, Function.update_of_ne (by simp [same])]

/-- What becomes of a tree where one place is given a leaf, or nothing. -/
theorem look_alter {above : Place} {entries : FileEntries}
    (isDirectory : entries.look above = some none)
    (isLeaf : entries.look (above ++ [name]) ≠ some none) :
    (entries.alter change above).look = Function.update entries.look (above ++ [name]) placed := by
  induction above generalizing entries with
  | nil => exact look_change finds isLeaf
  | cons first above induction =>
      obtain ⟨inner, found⟩ := exists_directory_of_look_cons isDirectory
      rw [look_cons_of_directory found] at isDirectory
      rw [List.cons_append, look_cons_of_directory found] at isLeaf
      have below := induction isDirectory isLeaf
      funext place
      cases place with
      | nil => rfl
      | cons other rest =>
          rw [look_alter_cons change found, below]
          by_cases same : other = first
          · subst same
            rw [if_pos rfl, Function.update_apply, Function.update_apply,
              look_cons_of_directory found]
            simp
          · rw [if_neg same, Function.update_of_ne (by simp [same])]

end

end FileEntries

namespace FileSystem

def look (system : FileSystem) : Place → Option (Option FileContent) := system.entries.look

@[simp] theorem look_root (system : FileSystem) : system.look [] = some none := rfl

theorem look_eq (system : FileSystem) (place : Place) :
    system.look place = (system.node? place).map FileNode.content? := rfl

theorem node?_of_look {system : FileSystem} {place : Place} {content : FileContent}
    (found : system.look place = some (some content)) :
    system.node? place = some (.file content) := by
  rw [look_eq] at found
  obtain ⟨node, isThere, held⟩ := Option.map_eq_some_iff.1 found
  cases node with
  | directory entries => cases held
  | file other =>
      cases held
      exact isThere

section

variable {system : FileSystem} {above : Place} {name : String}
  (isDirectory : system.look above = some none)
  (isLeaf : system.look (above ++ [name]) ≠ some none)

include isDirectory isLeaf

theorem look_put (content : Option FileContent) :
    (system.put (above ++ [name]) (.leaf content)).look =
      Function.update system.look (above ++ [name]) (some content) := by
  have put : system.put (above ++ [name]) (.leaf content) =
      ⟨system.entries.alter (.put name (.leaf content)) above⟩ := by
    simp [FileSystem.put, alter]
  rw [put]
  exact FileEntries.look_alter (fun _ _ => FileEntries.find?_put _ _ _ _) isDirectory isLeaf

theorem look_erase : (system.erase (above ++ [name])).look =
    Function.update system.look (above ++ [name]) none := by
  have erased : system.erase (above ++ [name]) = ⟨system.entries.alter (.erase name) above⟩ := by
    simp [FileSystem.erase, alter]
  rw [erased]
  exact FileEntries.look_alter (fun _ _ => FileEntries.find?_erase _ _ _) isDirectory isLeaf

end

theorem look_of_append {system : FileSystem} {above below : Place}
    (found : system.look (above ++ below) = some none) : system.look above = some none := by
  cases below with
  | nil => simpa using found
  | cons name names =>
      by_contra leaf
      rw [look, FileEntries.look_append_cons leaf] at found
      cases found

end FileSystem

end MediaFilter
