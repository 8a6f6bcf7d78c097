import MediaFilter.Proofs.Store.Naming

/-!
What saving leaves of the files there are.  Each step touches the draft or the file of its own key,
and the file only when the whole text takes its place; whatever fails, every other file is read as
before.
-/

namespace MediaFilter

namespace FileSystem

def contentAt : Option (Option FileContent) → Except FileFault String
  | some (some (.text text)) => .ok text
  | some (some (.bytes _)) => .error .notText
  | some none => .error .isDirectory
  | none => .error .notFound

theorem read_eq (system : FileSystem) (path : FilePath) :
    system.read path = system.locate path >>= fun place => contentAt (system.look place) := by
  rw [read]
  cases system.locate path with
  | error fault => rfl
  | ok place =>
      dsimp only
      change _ = contentAt (system.look place)
      rw [look_eq]
      cases system.node? place with
      | none => rfl
      | some node =>
          cases node with
          | directory entries => rfl
          | file content => cases content <;> rfl

theorem isDirectory_eq_false_iff {system : FileSystem} {place : Place} :
    system.isDirectory place = false ↔ system.look place ≠ some none := by
  rw [isDirectory, look_eq]
  cases system.node? place with
  | none => simp
  | some node => cases node <;> simp [FileNode.content?]

theorem write_eq_ok {system after : FileSystem} {path : FilePath} {content : FileContent}
    (written : system.write path content = .ok after) :
    ∃ place, system.locate path = .ok place ∧ system.look place ≠ some none ∧
      after = system.put place (.file content) := by
  rw [write] at written
  split at written
  · cases written
  · rename_i place located
    split at written
    · cases written
    · rename_i notDirectory
      rw [Bool.not_eq_true, isDirectory_eq_false_iff] at notDirectory
      cases written
      exact ⟨place, located, notDirectory, rfl⟩

theorem rename_eq_ok {system after : FileSystem} {source target : FilePath}
    (renamed : system.rename source target = .ok after) :
    ∃ former place content, system.locate source = .ok former ∧
      system.locate target = .ok place ∧ system.node? former = some (.file content) ∧
      system.look place ≠ some none ∧
      after = (system.erase former).put place (.file content) := by
  rw [rename] at renamed
  split at renamed
  · cases renamed
  · cases renamed
  · rename_i former place isSource isTarget
    split at renamed
    · rename_i content held
      split at renamed
      · cases renamed
      · rename_i notDirectory
        rw [Bool.not_eq_true, isDirectory_eq_false_iff] at notDirectory
        cases renamed
        exact ⟨former, place, content, isSource, isTarget, held, notDirectory, rfl⟩
    · cases renamed
    · cases renamed

end FileSystem

namespace FileStore

variable {store : FileStore} {system : FileSystem} {name : String}

theorem locate_path (plain : IsPlain name) : system.locate (store.path name) =
    match (store.path name).fault? with
    | some fault => .error fault
    | none => (system.resolve (pathNames store.directory)).map fun above => above ++ [name] := by
  have whole : (store.path name).names = pathNames store.directory ++ [name] := rfl
  rw [FileSystem.locate, whole, List.dropLast_concat, List.getLast?_concat]
  cases (store.path name).fault? with
  | some fault => rfl
  | none =>
      cases system.resolve (pathNames store.directory) with
      | error fault => rfl
      | ok above => simp [plain.short, Place.step_of_plain plain, Except.map]

theorem locate_path_eq_ok {place : Place}
    (located : system.locate (store.path name) = .ok place) :
    isNameTooLong name = false ∧ (store.path name).fault? = none ∧
      ∃ above, system.resolve (pathNames store.directory) = .ok above := by
  have whole : (store.path name).names = pathNames store.directory ++ [name] := rfl
  rw [FileSystem.locate, whole, List.dropLast_concat, List.getLast?_concat] at located
  split at located
  · cases located
  · cases located
  · rename_i isLast
    cases isLast
  · rename_i sound resolved last
    cases last
    split at located
    · cases located
    · rename_i short
      exact ⟨by simpa using short, sound, _, resolved⟩

/-- The file system once the directory of the store has been made, as far as it can be. -/
def made (store : FileStore) (system : FileSystem) : FileSystem :=
  (system.makeDirectories (.ofText store.directory)).2

theorem made_made (store : FileStore) (system : FileSystem) :
    store.made (store.made system) = store.made system :=
  FileSystem.makeDirectories_makeDirectories _ system

theorem made_of_found (found : system.resolve (pathNames store.directory) ≠ .error .notFound) :
    store.made system = system :=
  FileSystem.makeDirectories_of_found found

/-- The directory is where it was, with all of its files but for those of some names. -/
structure Spares (store : FileStore) (touched : List String) (before after : FileSystem) :
    Prop where
  settled : store.made after = after
  resolves : after.resolve (pathNames store.directory) =
    before.resolve (pathNames store.directory)
  reads : ∀ name, IsPlain name → name ∉ touched →
    after.read (store.path name) = before.read (store.path name)

theorem Spares.refl (settled : store.made system = system) (touched : List String) :
    store.Spares touched system system :=
  ⟨settled, rfl, fun _ _ _ => rfl⟩

theorem Spares.trans {before middle after : FileSystem} {touched more : List String}
    (first : store.Spares touched before middle) (second : store.Spares more middle after) :
    store.Spares (touched ++ more) before after := by
  refine ⟨second.settled, second.resolves.trans first.resolves, fun name plain untouched => ?_⟩
  rw [List.mem_append, not_or] at untouched
  rw [second.reads name plain untouched.2, first.reads name plain untouched.1]

theorem read_of_long {before after : FileSystem} (long : isNameTooLong name = true)
    (same : after.resolve (pathNames store.directory) =
      before.resolve (pathNames store.directory)) :
    after.read (store.path name) = before.read (store.path name) := by
  have whole : (store.path name).names = pathNames store.directory ++ [name] := rfl
  have located : after.locate (store.path name) = before.locate (store.path name) := by
    rw [FileSystem.locate, FileSystem.locate, whole, List.dropLast_concat, same]
  have nowhere : ∀ place, before.locate (store.path name) ≠ .ok place := by
    intro place isThere
    cases (locate_path_eq_ok isThere).1.symm.trans long
  rw [FileSystem.read_eq, FileSystem.read_eq, located]
  cases isThere : before.locate (store.path name) with
  | ok place => exact absurd isThere (nowhere place)
  | error fault => rfl

theorem read_of_fault {fault : FileFault} (plain : IsPlain name)
    (unsound : (store.path name).fault? = some fault) (system : FileSystem) :
    system.read (store.path name) = .error fault := by
  rw [FileSystem.read_eq, locate_path plain, unsound]
  rfl

theorem read_of_missing (missing : system.resolve (pathNames store.directory) = .error .notFound)
    (plain : IsPlain name) (sound : (store.path name).fault? = none) :
    system.read (store.path name) = .error .notFound := by
  rw [FileSystem.read_eq, locate_path plain, sound, missing]
  rfl

theorem read_of_resolved {above : Place}
    (resolved : system.resolve (pathNames store.directory) = .ok above) (plain : IsPlain name)
    (sound : (store.path name).fault? = none) :
    system.read (store.path name) = FileSystem.contentAt (system.look (above ++ [name])) := by
  rw [FileSystem.read_eq, locate_path plain, sound, resolved]
  rfl

/-- Making a directory brings nothing into it, if all that is missing on the way can be made. -/
theorem read_made {front back : List String} {start : Place}
    (parted : pathNames store.directory = front ++ back)
    (resolved : system.resolve front = .ok start)
    (passable : ∀ name ∈ back, name ≠ ".." ∧ isNameTooLong name = false) (plain : IsPlain name) :
    (store.made system).read (store.path name) = system.read (store.path name) := by
  by_cases missing : system.resolve (pathNames store.directory) = .error .notFound
  · cases sound : (store.path name).fault? with
    | some fault => rw [read_of_fault plain sound, read_of_fault plain sound]
    | none =>
        rw [read_of_missing missing plain sound]
        have opens := system.opens_makeDirectories (.ofText store.directory)
        have names : (FilePath.ofText store.directory).names = front ++ back := parted
        rw [parted, ← FileSystem.resolve_filter, List.filter_append] at missing
        rw [names, List.filter_append] at opens
        rw [← FileSystem.resolve_filter] at resolved
        have onWay := FileSystem.isPlain_of_passable passable
        have resolves := opens.resolve resolved onWay missing
        rw [← List.filter_append, FileSystem.resolve_filter, ← parted] at resolves
        rcases resolves with absent | reached
        · exact read_of_missing absent plain sound
        · have nothing := opens.look_below resolved onWay missing name
          have isRead := read_of_resolved reached plain sound
          rw [nothing] at isRead
          exact isRead
  · rw [made_of_found missing]

theorem create_cases (store : FileStore) (fault : Option SaveFault) (system : FileSystem) :
    (∃ other, store.create fault system = (.error other, system)) ∨
      (store.create fault system).2 = store.made system := by
  rw [create]
  split
  · exact .inl ⟨_, rfl⟩
  · exact .inr rfl

section

variable {above : Place} (resolved : system.resolve (pathNames store.directory) = .ok above)

include resolved

theorem resolve_update {after : FileSystem} {leaf : Option (Option FileContent)}
    (isLeaf : system.look (above ++ [name]) ≠ some none)
    (updated : after.look = Function.update system.look (above ++ [name]) leaf) :
    after.resolve (pathNames store.directory) = .ok above :=
  FileSystem.resolve_of_directories (FileSystem.look_stays isLeaf updated) resolved

theorem spares_update {after : FileSystem} {leaf : Option (Option FileContent)}
    (isLeaf : system.look (above ++ [name]) ≠ some none)
    (updated : after.look = Function.update system.look (above ++ [name]) leaf) :
    store.Spares [name] system after := by
  have kept := resolve_update resolved isLeaf updated
  refine ⟨made_of_found (by simp [kept]), kept.trans resolved.symm, fun other plain untouched => ?_⟩
  cases sound : (store.path other).fault? with
  | some fault => rw [read_of_fault plain sound, read_of_fault plain sound]
  | none =>
      rw [read_of_resolved kept plain sound, read_of_resolved resolved plain sound, updated,
        Function.update_of_ne]
      simpa using untouched

end

theorem locate_path_of_resolved {above : Place}
    (resolved : system.resolve (pathNames store.directory) = .ok above) (plain : IsPlain name)
    (sound : (store.path name).fault? = none) :
    system.locate (store.path name) = .ok (above ++ [name]) := by
  rw [locate_path plain, sound, resolved]
  rfl

theorem write_eq_ok {after : FileSystem} {content : FileContent} {last : Char}
    (ends : name.toList.getLast? = some last) (notPoint : last ≠ '.')
    (written : system.write (store.path name) content = .ok after) :
    IsPlain name ∧ (store.path name).fault? = none ∧
      ∃ above, system.resolve (pathNames store.directory) = .ok above ∧
        system.look (above ++ [name]) ≠ some none ∧
        after.look = Function.update system.look (above ++ [name]) (some (some content)) := by
  obtain ⟨place, located, notDirectory, rfl⟩ := FileSystem.write_eq_ok written
  obtain ⟨short, sound, above, resolved⟩ := locate_path_eq_ok located
  have plain := isPlain_of_getLast? ends notPoint short
  rw [locate_path_of_resolved resolved plain sound] at located
  cases located
  exact ⟨plain, sound, above, resolved, notDirectory,
    FileSystem.look_put (FileSystem.look_of_resolve resolved) notDirectory (some content)⟩

theorem spares_write {after : FileSystem} {content : FileContent} {last : Char}
    (ends : name.toList.getLast? = some last) (notPoint : last ≠ '.')
    (written : system.write (store.path name) content = .ok after) :
    store.Spares [name] system after := by
  obtain ⟨_, _, above, resolved, isLeaf, updated⟩ := write_eq_ok ends notPoint written
  exact spares_update resolved isLeaf updated

section

variable {above : Place} {draft file : String} {content : FileContent} {after : FileSystem}
  (resolved : system.resolve (pathNames store.directory) = .ok above) (isDraft : IsPlain draft)
  (isFile : IsPlain file) (apart : draft ≠ file)
  (drafted : system.look (above ++ [draft]) = some (some content))
  (renamed : system.rename (store.path draft) (store.path file) = .ok after)

include resolved isDraft isFile apart drafted renamed

theorem exists_of_rename : (store.path file).fault? = none ∧ ∃ middle : FileSystem,
    middle.look = Function.update system.look (above ++ [draft]) none ∧
      middle.look (above ++ [file]) ≠ some none ∧
      after.look = Function.update middle.look (above ++ [file]) (some (some content)) := by
  obtain ⟨_, _, held, isSource, isTarget, isFound, notDirectory, rfl⟩ :=
    FileSystem.rename_eq_ok renamed
  obtain ⟨_, sound, _⟩ := locate_path_eq_ok isSource
  obtain ⟨_, whole, _⟩ := locate_path_eq_ok isTarget
  rw [locate_path_of_resolved resolved isDraft sound] at isSource
  rw [locate_path_of_resolved resolved isFile whole] at isTarget
  cases isSource
  cases isTarget
  rw [FileSystem.node?_of_look drafted] at isFound
  cases isFound
  have isDirectory := FileSystem.look_of_resolve resolved
  have isThere : system.look (above ++ [draft]) ≠ some none := by simp [drafted]
  have erased := FileSystem.look_erase isDirectory isThere
  have same : (system.erase (above ++ [draft])).look (above ++ [file]) =
      system.look (above ++ [file]) := by
    rw [erased, Function.update_of_ne]
    simpa using apart.symm
  have stays : (system.erase (above ++ [draft])).look above = some none := by
    rw [erased, Function.update_of_ne _ _ _, isDirectory]
    simp
  rw [← same] at notDirectory
  exact ⟨whole, _, erased, notDirectory, FileSystem.look_put stays notDirectory (some content)⟩

theorem spares_rename : store.Spares [draft, file] system after := by
  obtain ⟨_, middle, erased, isLeaf, placed⟩ :=
    exists_of_rename resolved isDraft isFile apart drafted renamed
  have isThere : system.look (above ++ [draft]) ≠ some none := by simp [drafted]
  exact (spares_update resolved isThere erased).trans
    (spares_update (resolve_update resolved isThere erased) isLeaf placed)

theorem read_renamed :
    after.read (store.path file) = FileSystem.contentAt (some (some content)) := by
  obtain ⟨sound, middle, erased, isLeaf, placed⟩ :=
    exists_of_rename resolved isDraft isFile apart drafted renamed
  have isThere : system.look (above ++ [draft]) ≠ some none := by simp [drafted]
  have found := resolve_update (resolve_update resolved isThere erased) isLeaf placed
  rw [read_of_resolved found isFile sound, placed, Function.update_self]

end

theorem Spares.mono {before after : FileSystem} {touched more : List String}
    (spares : store.Spares touched before after) (within : touched ⊆ more) :
    store.Spares more before after :=
  ⟨spares.settled, spares.resolves, fun name plain untouched =>
    spares.reads name plain fun member => untouched (within member)⟩

variable {key text : String} {fault : Option SaveFault}

theorem spares_writeDraft (settled : store.made system = system) :
    store.Spares [draftName key] system (store.writeDraft key text fault system).2 := by
  have written : ∀ content after,
      system.write (store.path (draftName key)) content = .ok after →
        store.Spares [draftName key] system after :=
    fun _ _ => spares_write (getLast?_draftName key) (by decide)
  unfold writeDraft
  dsimp only
  split
  · exact .refl settled _
  · split
    · exact written _ _ ‹_›
    · exact .refl settled _
  · split
    · exact written _ _ ‹_›
    · exact .refl settled _

theorem write_of_writeDraft {after : FileSystem}
    (drafted : store.writeDraft key text fault system = (.ok (), after)) :
    system.write (store.path (draftName key)) (.text text) = .ok after := by
  unfold writeDraft at drafted
  dsimp only at drafted
  split at drafted
  · cases drafted
  · split at drafted <;> cases drafted
  · split at drafted
    · rename_i written
      cases drafted
      exact written
    · cases drafted

theorem rename_of_publish {after : FileSystem}
    (published : store.publish key fault system = .ok after) :
    system.rename (store.path (draftName key)) (store.path (fileName key)) = .ok after := by
  rw [publish] at published
  split at published
  · cases published
  · exact published

theorem published_of_drafted {drafted after : FileSystem}
    (written : system.write (store.path (draftName key)) (.text text) = .ok drafted)
    (published : store.publish key fault drafted = .ok after) :
    isNameTooLong (fileName key) = false ∧
      store.Spares [draftName key, fileName key] drafted after ∧
      after.read (store.path (fileName key)) = .ok text := by
  obtain ⟨isDraft, _, above, resolved, isLeaf, updated⟩ :=
    write_eq_ok (getLast?_draftName key) (by decide) written
  have short := short_of_draft isDraft.short
  have isFile := isPlain_fileName short
  have apart := (fileName_ne_draftName key key).symm
  have found := resolve_update resolved isLeaf updated
  have held : drafted.look (above ++ [draftName key]) = some (some (.text text)) := by
    rw [updated, Function.update_self]
  have renamed := rename_of_publish published
  exact ⟨short, spares_rename found isDraft isFile apart held renamed,
    read_renamed found isDraft isFile apart held renamed⟩

/-- A save is told at once that it fails, or it makes the directory; then it fails and changes
nothing but its draft, or it succeeds and its text is read. -/
theorem saveWith_cases {outcome : Except Error Unit} {after : FileSystem}
    (saved : store.saveWith fault key text system = (outcome, after)) :
    (∃ error, outcome = .error error ∧ after = system) ∨
      (∃ error, outcome = .error error ∧
        store.Spares [draftName key] (store.made system) after) ∨
      (outcome = .ok () ∧ (isKey key = true ∧ isNameTooLong (fileName key) = false) ∧
        store.Spares [draftName key, fileName key] (store.made system) after ∧
        after.read (store.path (fileName key)) = .ok text) := by
  have settled := store.made_made system
  have opened := store.create_cases fault system
  rw [saveWith] at saved
  split at saved
  case isFalse =>
    cases saved
    exact .inl ⟨_, rfl, rfl⟩
  rename_i valid
  split at saved
  · rename_i created
    rw [created] at opened
    cases saved
    rcases opened with ⟨_, same⟩ | same
    · exact .inl ⟨_, rfl, (Prod.mk.inj same).2⟩
    · subst same
      exact .inr (.inl ⟨_, rfl, .refl settled _⟩)
  · rename_i created
    rw [created] at opened
    rcases opened with ⟨_, same⟩ | same
    · cases same
    subst same
    have drafts := @spares_writeDraft store (store.made system) key text fault settled
    split at saved
    · rename_i drafted
      rw [drafted] at drafts
      cases saved
      exact .inr (.inl ⟨_, rfl, drafts⟩)
    · rename_i drafted
      rw [drafted] at drafts
      split at saved
      · cases saved
        exact .inr (.inl ⟨_, rfl, drafts⟩)
      · rename_i published
        obtain ⟨short, spares, isRead⟩ :=
          published_of_drafted (write_of_writeDraft drafted) published
        cases saved
        refine .inr (.inr ⟨rfl, ⟨valid, short⟩, (drafts.trans spares).mono ?_, isRead⟩)
        simp

end FileStore

end MediaFilter
