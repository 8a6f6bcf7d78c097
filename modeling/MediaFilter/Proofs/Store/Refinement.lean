import Mathlib.Data.String.Basic
import MediaFilter.Proofs.Store.Atomicity
import MediaFilter.Store.Memory

/-!
A store of files beside a store in memory that is told of every save that succeeded.  Whatever was
saved and whatever failed, both give the same texts.
-/

namespace MediaFilter

namespace FileStore

inductive Call where
  | load (key : String)
  | save (key text : String) (fault : Option SaveFault)

/-- The file system that a store of files works on, and the store in memory beside it. -/
structure Twins where
  system : FileSystem
  memory : MemoryStore

def Call.perform (store : FileStore) (twins : Twins) : Call → Twins
  | .load _ => twins
  | .save key text fault =>
    match store.saveWith fault key text twins.system with
    | (.ok (), system) => ⟨system, twins.memory.save key text⟩
    | (.error _, system) => ⟨system, twins.memory⟩

def after (store : FileStore) (start : FileSystem) (calls : List Call) : Twins :=
  calls.foldl (Call.perform store) ⟨start, .empty⟩

/-- The text that a load gives, if it gives one. -/
def text? (store : FileStore) (key : String) (system : FileSystem) : Option String :=
  match store.load key system with
  | .ok text => text
  | .error _ => none

/-- Whether making the directory, where it is missing, changes nothing that is seen. -/
def Steady {α : Type} (store : FileStore) (view : FileSystem → α) (system : FileSystem) : Prop :=
  view (store.made system) = view system

/-- Whether the directory is not missing, or all that is missing on the way to it can be made. -/
def Passable (store : FileStore) (system : FileSystem) : Prop :=
  system.resolve (pathNames store.directory) = .error .notFound →
    ∃ front back place, pathNames store.directory = front ++ back ∧
      system.resolve front = .ok place ∧
      ∀ name ∈ back, name ≠ ".." ∧ isNameTooLong name = false

/-- A key gives the same text, and the same outcome, unless making the directory at the start
changed that. -/
structure Undisturbed (store : FileStore) (start : FileSystem) (key : String)
    (before after : FileSystem) : Prop where
  text : store.Steady (store.text? key) start → store.text? key after = store.text? key before
  load : store.Steady (store.load key) start → store.load key after = store.load key before

section

variable {store : FileStore} {key : String} {before after : FileSystem} {touched : List String}

theorem load_of_invalid (invalid : isKey key = false) (system : FileSystem) :
    store.load key system = .error (badKey key) := by
  simp [load, invalid]

theorem saveWith_of_invalid (invalid : isKey key = false) (fault : Option SaveFault)
    (text : String) (system : FileSystem) :
    store.saveWith fault key text system = (.error (badKey key), system) := by
  simp [saveWith, invalid]

theorem load_of_read {system : FileSystem} {text : String} (valid : isKey key = true)
    (found : system.read (store.path (fileName key)) = .ok text) :
    store.load key system = .ok (some text) := by
  simp [load, valid, found]

theorem text?_eq (store : FileStore) (key : String) (system : FileSystem) :
    store.text? key system =
      if isKey key then (system.read (store.path (fileName key))).toOption else none := by
  rw [text?, load]
  cases isKey key with
  | false => rfl
  | true =>
      cases system.read (store.path (fileName key)) with
      | ok text => rfl
      | error fault => cases fault <;> rfl

theorem text?_of_long (long : isNameTooLong (fileName key) = true) (system : FileSystem) :
    store.text? key system = none := by
  rw [text?_eq, FileSystem.read_eq]
  cases located : system.locate (store.path (fileName key)) with
  | error fault => exact ite_self none
  | ok place =>
      rw [(locate_path_eq_ok located).1] at long
      cases long

theorem load_of_long {system : FileSystem} (valid : isKey key = true)
    (long : isNameTooLong (fileName key) = true)
    (sound : (store.path (fileName key)).fault? = none) :
    (system.resolve (pathNames store.directory) = .error .notFound →
      store.load key system = .ok none) ∧
    ∀ above, system.resolve (pathNames store.directory) = .ok above →
      store.load key system =
        .error (failed "read" (store.shownPath (fileName key)) .tooLong) := by
  have whole : (store.path (fileName key)).names =
      pathNames store.directory ++ [fileName key] := rfl
  constructor
  · intro missing
    have unread : system.read (store.path (fileName key)) = .error .notFound := by
      simp [FileSystem.read, FileSystem.locate, sound, whole, missing]
    simp [load, valid, unread]
  · intro above resolved
    have unread : system.read (store.path (fileName key)) = .error .tooLong := by
      simp [FileSystem.read, FileSystem.locate, sound, whole, resolved, long]
    simp [load, valid, unread]

theorem load_of_spares (spares : store.Spares touched before after)
    (untouched : fileName key ∉ touched) : store.load key after = store.load key before := by
  have isRead : after.read (store.path (fileName key)) =
      before.read (store.path (fileName key)) := by
    cases short : isNameTooLong (fileName key) with
    | true => exact read_of_long short spares.resolves
    | false => exact spares.reads _ (isPlain_fileName short) untouched
  rw [load, load, isRead]

theorem text?_congr (same : store.load key after = store.load key before) :
    store.text? key after = store.text? key before := by
  rw [text?, text?, same]

end

theorem fileName_not_mem_draft (key other : String) : fileName other ∉ [draftName key] := by
  simpa using fileName_ne_draftName other key

theorem fileName_not_mem_touched {key other : String} (different : other ≠ key) :
    fileName other ∉ [draftName key, fileName key] := by
  simpa using ⟨fileName_ne_draftName other key, fun same => different (fileName_injective same)⟩

/-- The store of files gives what the store in memory does, or else what a base does. -/
structure Mirrors (store : FileStore) (base : FileSystem) (twins : Twins) : Prop where
  named : ∀ key text, twins.memory.load key = some text →
    isKey key = true ∧ isNameTooLong (fileName key) = false
  loads : ∀ key, isKey key = true →
    store.load key twins.system =
      (twins.memory.load key).elim (store.load key base) fun text => .ok (some text)

theorem mirrors_empty (store : FileStore) (base : FileSystem) :
    store.Mirrors base ⟨base, .empty⟩ :=
  ⟨fun _ _ => nofun, fun _ _ => rfl⟩

/-- A use changes nothing, or it goes on from where the directory has been made. -/
theorem Mirrors.perform {store : FileStore} {base : FileSystem} {twins : Twins}
    (mirrors : store.Mirrors base ⟨store.made twins.system, twins.memory⟩) (call : Call) :
    call.perform store twins = twins ∨
      (store.made (call.perform store twins).system = (call.perform store twins).system ∧
        store.Mirrors base (call.perform store twins)) := by
  cases call with
  | load key => exact .inl rfl
  | save key text fault =>
      rw [Call.perform]
      cases saved : store.saveWith fault key text twins.system with
      | mk outcome after =>
          rcases saveWith_cases saved with
            ⟨error, rfl, rfl⟩ | ⟨error, rfl, spares⟩ | ⟨rfl, named, spares, isRead⟩
          · exact .inl rfl
          · refine .inr ⟨spares.settled, mirrors.named, fun other isValid => ?_⟩
            rw [load_of_spares spares (fileName_not_mem_draft key other)]
            exact mirrors.loads other isValid
          · refine .inr ⟨spares.settled, fun other => ?_, fun other isValid => ?_⟩
            · by_cases same : other = key
              · exact fun _ _ => same ▸ named
              · rw [MemoryStore.load_save_of_ne _ _ same]
                exact mirrors.named other
            · by_cases same : other = key
              · rw [same, MemoryStore.load_save_self, load_of_read named.1 isRead]
                rfl
              · rw [MemoryStore.load_save_of_ne _ _ same,
                  load_of_spares spares (fileName_not_mem_touched same)]
                exact mirrors.loads other isValid

/-- Either nothing has happened to the files yet, or the directory has been made first. -/
theorem after_cases (store : FileStore) (start : FileSystem) (calls : List Call) :
    store.after start calls = ⟨start, .empty⟩ ∨
      (store.made (store.after start calls).system = (store.after start calls).system ∧
        store.Mirrors (store.made start) (store.after start calls)) := by
  induction calls using List.reverseRecOn with
  | nil => exact .inl rfl
  | append_singleton calls call induction =>
      have next : store.after start (calls ++ [call]) =
          call.perform store (store.after start calls) := by
        rw [after, List.foldl_append]
        rfl
      rw [next]
      rcases induction with untouched | ⟨settled, mirrors⟩
      · rw [untouched]
        exact Mirrors.perform (store.mirrors_empty (store.made start)) call
      · have goesOn : store.Mirrors (store.made start)
            ⟨store.made (store.after start calls).system, (store.after start calls).memory⟩ := by
          rw [settled]
          exact mirrors
        rcases goesOn.perform call with same | moved
        · rw [same]
          exact .inr ⟨settled, mirrors⟩
        · exact .inr moved

theorem exists_base (store : FileStore) (start : FileSystem) (calls : List Call) :
    ∃ base, (base = start ∨ base = store.made start) ∧
      store.Mirrors base (store.after start calls) := by
  rcases store.after_cases start calls with untouched | ⟨_, mirrors⟩
  · rw [untouched]
    exact ⟨start, .inl rfl, store.mirrors_empty start⟩
  · exact ⟨_, .inr rfl, mirrors⟩

section

variable {store : FileStore} {system : FileSystem} {key text : String} {fault : Option SaveFault}

theorem load_of_saveWith {outcome : Except Error Unit} {after : FileSystem}
    (saved : store.saveWith fault key text system = (outcome, after)) {other : String}
    (spared : (∃ error, outcome = .error error) ∨ other ≠ key) :
    store.load other after = store.load other system ∨
      store.load other after = store.load other (store.made system) := by
  rcases saveWith_cases saved with ⟨_, _, rfl⟩ | ⟨_, _, spares⟩ | ⟨rfl, _, spares, _⟩
  · exact .inl rfl
  · exact .inr (load_of_spares spares (fileName_not_mem_draft key other))
  · rcases spared with ⟨_, failed⟩ | different
    · cases failed
    · exact .inr (load_of_spares spares (fileName_not_mem_touched different))

theorem saveWith_unwritten (store : FileStore) (system : FileSystem) :
    ∃ error, store.saveWith (some (.writing none)) "k" "" system =
      (.error error, store.made system) := by
  have created : store.create (some (.writing none)) system =
      system.makeDirectories (.ofText store.directory) := if_neg (by decide)
  rw [saveWith, if_pos (by decide), created, made]
  cases system.makeDirectories (.ofText store.directory) with
  | mk outcome after => cases outcome <;> exact ⟨_, rfl⟩

end

section

variable {store : FileStore} {start : FileSystem}

theorem steady_after {α : Type} {view : FileSystem → α} (steady : store.Steady view start)
    (calls : List Call) : store.Steady view (store.after start calls).system := by
  rcases store.after_cases start calls with untouched | ⟨settled, _⟩
  · rw [untouched]
    exact steady
  · exact congrArg view settled

theorem undisturbed_of_load {calls : List Call} {key : String} {after : FileSystem}
    (either : store.load key after = store.load key (store.after start calls).system ∨
      store.load key after = store.load key (store.made (store.after start calls).system)) :
    store.Undisturbed start key (store.after start calls).system after := by
  rcases either with same | same
  · exact ⟨fun _ => text?_congr same, fun _ => same⟩
  · exact ⟨fun steady => (text?_congr same).trans (steady_after steady calls),
      fun steady => same.trans (steady_after steady calls)⟩

theorem steady_load_of_passable (passable : store.Passable start) {key : String}
    (short : isNameTooLong (fileName key) = false) : store.Steady (store.load key) start := by
  by_cases missing : start.resolve (pathNames store.directory) = .error .notFound
  · obtain ⟨front, back, place, parted, resolved, onWay⟩ := passable missing
    rw [Steady, load, load, read_made parted resolved onWay (isPlain_fileName short)]
  · exact congrArg _ (made_of_found missing)

theorem steady_text_of_passable (passable : store.Passable start) (key : String) :
    store.Steady (store.text? key) start := by
  cases short : isNameTooLong (fileName key) with
  | true => rw [Steady, text?_of_long short, text?_of_long short]
  | false => exact text?_congr (steady_load_of_passable passable short)

end

theorem locate_of_plain {store : FileStore} {system : FileSystem} {name : String} {place : Place}
    {last : Char} (ends : name.toList.getLast? = some last) (notPoint : last ≠ '.')
    (located : system.locate (store.path name) = .ok place) :
    ∃ above, system.resolve (pathNames store.directory) = .ok above ∧ place = above ++ [name] := by
  obtain ⟨short, sound, above, resolved⟩ := locate_path_eq_ok located
  rw [locate_path_of_resolved resolved (isPlain_of_getLast? ends notPoint short) sound] at located
  exact ⟨above, resolved, (Except.ok.inj located).symm⟩

theorem Mirrors.text? {store : FileStore} {base : FileSystem} {twins : Twins}
    (mirrors : store.Mirrors base twins) (key : String) :
    store.text? key twins.system = (twins.memory.load key).or (store.text? key base) := by
  cases held : twins.memory.load key with
  | some text =>
      have loads := mirrors.loads key (mirrors.named key text held).1
      rw [held] at loads
      rw [FileStore.text?, loads]
      rfl
  | none =>
      cases valid : isKey key with
      | false => simp [text?_eq, valid]
      | true =>
          have loads := mirrors.loads key valid
          rw [held] at loads
          exact text?_congr loads

theorem Mirrors.nothing_of_long {store : FileStore} {base : FileSystem} {twins : Twins}
    (mirrors : store.Mirrors base twins) (key : String)
    (long : isNameTooLong (fileName key) = true) :
    twins.memory.load key = none ∧ store.text? key twins.system = none := by
  refine ⟨?_, text?_of_long long twins.system⟩
  cases held : twins.memory.load key with
  | none => rfl
  | some text =>
      rw [(mirrors.named key text held).2] at long
      cases long

/-- Whatever is saved and whatever fails in it, a store of files gives the texts of the saves that
succeeded, and else what it gave at the start, or what it gives there once its directory is made.
For a key that does not tell these two apart, it answers as the store in memory does, no save that
fails disturbs it, and no save of another key; and no key tells them apart where the directory is
not missing, or all that is missing on the way can be made.  Only such keys are disturbed by no save
that fails.  A key that is refused touches nothing, and one that is too long for a name never has a
text.  The files of a key are just below the directory, and shared with no other key. -/
theorem files_refine_memory (store : FileStore) (start : FileSystem) (calls : List Call) :
    let twins := store.after start calls
    (∃ base, (base = start ∨ base = store.made start) ∧ ∀ key,
      store.text? key twins.system = (twins.memory.load key).or (store.text? key base) ∧
      (isKey key = true → store.load key twins.system =
        (twins.memory.load key).elim (store.load key base) fun text => .ok (some text))) ∧
    (∀ key, store.Steady (store.text? key) start →
      store.text? key twins.system = (twins.memory.load key).or (store.text? key start)) ∧
    (∀ key, isKey key = true → store.Steady (store.load key) start →
      store.load key twins.system =
          (twins.memory.load key).elim (store.load key start) (fun text => .ok (some text)) ∧
        (store.load key start = .ok none →
          store.load key twins.system = .ok (twins.memory.load key))) ∧
    (∀ key text fault error after,
      store.saveWith fault key text twins.system = (.error error, after) →
        ∀ other, store.Undisturbed start other twins.system after) ∧
    (∀ key text fault other, other ≠ key →
      store.Undisturbed start other twins.system
        (store.saveWith fault key text twins.system).2) ∧
    (start.resolve (pathNames store.directory) ≠ .error .notFound → store.made start = start) ∧
    (store.Passable start → ∀ key, store.Steady (store.text? key) start ∧
      (isNameTooLong (fileName key) = false → store.Steady (store.load key) start)) ∧
    (∀ (α : Type) (view : FileSystem → α),
      (∀ key text fault error after, store.saveWith fault key text start = (.error error, after) →
        view after = view start) → store.Steady view start) ∧
    (∀ key, isNameTooLong (fileName key) = true →
      twins.memory.load key = none ∧ store.text? key twins.system = none) ∧
    (∀ key, isKey key = false → store.load key twins.system = .error (badKey key) ∧
      ∀ fault text,
        store.saveWith fault key text twins.system = (.error (badKey key), twins.system)) ∧
    (∀ key, isKey key = true → ∀ name ∈ [fileName key, draftName key],
      pathNames (store.shownPath name) = pathNames store.directory ++ [name] ∧
      ∀ place, twins.system.locate (store.path name) = .ok place →
        ∃ above, twins.system.resolve (pathNames store.directory) = .ok above ∧
          place = above ++ [name]) ∧
    (∀ key other, fileName key ≠ draftName other ∧ (other ≠ key →
      fileName other ≠ fileName key ∧ draftName other ≠ draftName key)) := by
  intro twins
  obtain ⟨base, isBase, mirrors⟩ := store.exists_base start calls
  have same : ∀ {α : Type} {view : FileSystem → α}, store.Steady view start →
      view base = view start := by
    intro α view steady
    rcases isBase with rfl | rfl
    · rfl
    · exact steady
  refine ⟨⟨base, isBase, fun key => ⟨mirrors.text? key, mirrors.loads key⟩⟩, ?_, ?_, ?_, ?_,
    made_of_found, ?_, ?_, mirrors.nothing_of_long, ?_, ?_, ?_⟩
  · intro key steady
    rw [← same steady]
    exact mirrors.text? key
  · intro key valid steady
    have loads := mirrors.loads key valid
    rw [same steady] at loads
    refine ⟨loads, fun fresh => ?_⟩
    rw [loads, fresh]
    cases twins.memory.load key <;> rfl
  · exact fun key text fault error after failed other =>
      undisturbed_of_load (load_of_saveWith failed (.inl ⟨error, rfl⟩))
  · exact fun key text fault other different =>
      undisturbed_of_load (load_of_saveWith rfl (.inr different))
  · exact fun passable key =>
      ⟨steady_text_of_passable passable key, steady_load_of_passable passable⟩
  · intro α view undisturbed
    obtain ⟨error, unwritten⟩ := store.saveWith_unwritten start
    exact undisturbed _ _ _ error _ unwritten
  · exact fun key invalid => ⟨load_of_invalid invalid twins.system,
      fun fault text => saveWith_of_invalid invalid fault text twins.system⟩
  · intro key valid name isEither
    rw [List.mem_cons, List.mem_singleton] at isEither
    rcases isEither with rfl | rfl
    · exact ⟨pathNames_shownPath valid store (by decide) (by decide),
        fun place => locate_of_plain (getLast?_fileName key) (by decide)⟩
    · exact ⟨pathNames_shownPath valid store (by decide) (by decide),
        fun place => locate_of_plain (getLast?_draftName key) (by decide)⟩
  · exact fun key other => ⟨fileName_ne_draftName key other, fun different =>
      ⟨fun same => different (fileName_injective same),
        fun same => different (draftName_injective same)⟩⟩

theorem files_refine_memory_of_nested :
    let store : FileStore := ⟨"../state/nested"⟩
    let calls : List Call :=
      [.save "filters-manga" "first" none, .save "filters-manga" "second" none,
        .save "filters-manga" "third" (some .renaming),
        .save "filters-anime" "fourth" (some (.writing (some (.bytes [255]))))]
    let twins := store.after .empty calls
    store.Passable .empty ∧ twins.memory.load "filters-manga" = some "second" ∧
      store.load "filters-manga" twins.system = .ok (some "second") ∧
      store.load "filters-anime" twins.system = .ok none := by
  intro store calls twins
  have passable : store.Passable .empty :=
    fun _ => ⟨[".."], ["state", "nested"], [], by decide +kernel, by decide +kernel, by decide⟩
  have second : twins.memory.load "filters-manga" = some "second" := by decide +kernel
  have fourth : twins.memory.load "filters-anime" = none := by decide +kernel
  obtain ⟨-, -, agrees, -, -, -, steady, -⟩ := files_refine_memory store .empty calls
  refine ⟨passable, second, ?_, ?_⟩
  · rw [← second]
    exact (agrees "filters-manga" (by decide) ((steady passable _).2 (by decide +kernel))).2
      (by decide +kernel)
  · rw [← fourth]
    exact (agrees "filters-anime" (by decide) ((steady passable _).2 (by decide +kernel))).2
      (by decide +kernel)

def repeatedKey (count : Nat) : String := String.ofList (List.replicate count 'z')

theorem isKey_repeatedKey (count : Nat) : isKey (repeatedKey (count + 1)) = true := by
  rw [isKey, repeatedKey, Bool.and_eq_true, String.toList_ofList]
  constructor
  · simp [List.replicate_succ]
  · have letter : isKeyChar 'z' = true := by decide
    simp [letter]

theorem utf8ByteSize_repeatedKey (count : Nat) : (repeatedKey count).utf8ByteSize = count := by
  rw [repeatedKey, String.utf8ByteSize_ofList]
  induction count with
  | zero => rfl
  | succ count induction =>
      rw [List.replicate_succ, String.utf8Len_cons, induction]
      rfl

theorem utf8ByteSize_fileName_repeatedKey (count : Nat) :
    (fileName (repeatedKey count)).utf8ByteSize = count + 5 := by
  have ending : ".json".utf8ByteSize = 5 := by decide
  rw [fileName, String.utf8ByteSize_append, utf8ByteSize_repeatedKey, ending]

/-- The load of a key of 251 characters that found nothing fails once a save has made the directory,
and a save that makes a detour passable leads to the file of another key. -/
theorem not_refined_of_long_key_and_detour :
    let long := repeatedKey 251
    let store : FileStore := ⟨"d"⟩
    let saved := store.saveWith none "k" "v" .empty
    let roundabout : FileStore := ⟨"a/../b"⟩
    let old : FileSystem := ⟨[("b", .directory [("k.json", .file (.text "old"))])]⟩
    let detour := roundabout.saveWith none "j" "v" old
    (isKey long = true ∧ saved.1 = .ok () ∧ store.load long .empty = .ok none ∧
      store.load long saved.2 = .error (failed "read" (store.shownPath (fileName long)) .tooLong)) ∧
    detour.1 = .ok () ∧ roundabout.load "k" old = .ok none ∧
      roundabout.load "k" detour.2 = .ok (some "old") := by
  intro long store saved roundabout old detour
  have valid : isKey long = true := isKey_repeatedKey 250
  have size : (fileName long).utf8ByteSize = 256 := utf8ByteSize_fileName_repeatedKey 251
  have tooLong : isNameTooLong (fileName long) = true := by
    rw [isNameTooLong, size]
    decide
  have sound : (store.path (fileName long)).fault? = none := by
    apply fault?_path valid
    · decide +kernel
    · rw [size]
      decide +kernel
  have missing : FileSystem.empty.resolve (pathNames store.directory) = .error .notFound := by
    decide +kernel
  have made : saved.2.resolve (pathNames store.directory) = .ok ["d"] := by decide +kernel
  have missed := (load_of_long valid tooLong sound).1 missing
  have fails := (load_of_long valid tooLong sound).2 ["d"] made
  refine ⟨⟨valid, ?_, missed, fails⟩, ?_⟩
  · decide +kernel
  · decide +kernel

end FileStore

end MediaFilter
