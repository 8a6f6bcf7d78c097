import Mathlib.Data.List.Induction
import MediaFilter.Proofs.Store.Tree

/-!
Where paths lead.  A path that leads to a directory goes on to do so while directories stay.  Making
the directories of a path adds directories that it leads through and nothing else, and making them
again adds nothing.
-/

namespace MediaFilter

/-- A name that leads one step down, unless nothing can have it. -/
structure IsPlain (name : String) : Prop where
  ne_point : name ≠ "."
  ne_points : name ≠ ".."
  short : isNameTooLong name = false

theorem Place.step_of_plain {name : String} (plain : IsPlain name) (place : Place) :
    place.step name = place ++ [name] := by
  rw [Place.step, if_neg plain.ne_point, if_neg plain.ne_points]

namespace FileSystem

theorem enter_eq (system : FileSystem) (place : Place) (name : String) :
    system.enter place name =
      if isNameTooLong name then .error .tooLong
      else
        match system.look (place.step name) with
        | some none => .ok (place.step name)
        | some (some _) => .error .notDirectory
        | none => .error .notFound := by
  rw [enter, look_eq]
  cases system.node? (place.step name) with
  | none => rfl
  | some node => cases node <;> rfl

theorem enter_eq_ok_iff {system : FileSystem} {place next : Place} {name : String} :
    system.enter place name = .ok next ↔
      isNameTooLong name = false ∧ place.step name = next ∧ system.look next = some none := by
  rw [enter_eq]
  constructor
  · intro entered
    split at entered
    · cases entered
    · rename_i short
      split at entered
      · rename_i found
        cases entered
        exact ⟨by simpa using short, rfl, found⟩
      · cases entered
      · cases entered
  · intro ⟨short, stepped, found⟩
    subst stepped
    simp [short, found]

theorem resolve_concat (system : FileSystem) (names : List String) (name : String) :
    system.resolve (names ++ [name]) = system.resolve names >>= fun place =>
      system.enter place name := by
  simp [resolve, List.foldlM_append]

theorem resolve_concat_of_ok {system : FileSystem} {names : List String} {place : Place}
    (resolved : system.resolve names = .ok place) (name : String) :
    system.resolve (names ++ [name]) = system.enter place name := by
  rw [resolve_concat, resolved]
  rfl

theorem resolve_concat_of_error {system : FileSystem} {names : List String} {fault : FileFault}
    (failed : system.resolve names = .error fault) (name : String) :
    system.resolve (names ++ [name]) = .error fault := by
  rw [resolve_concat, failed]
  rfl

theorem look_of_resolve {system : FileSystem} {names : List String} {place : Place}
    (resolved : system.resolve names = .ok place) : system.look place = some none := by
  cases names using List.reverseRecOn with
  | nil =>
      cases resolved
      exact look_root system
  | append_singleton names name =>
      cases above : system.resolve names with
      | error fault =>
          rw [resolve_concat_of_error above] at resolved
          cases resolved
      | ok place =>
          rw [resolve_concat_of_ok above] at resolved
          exact (enter_eq_ok_iff.1 resolved).2.2

theorem resolve_of_directories {before after : FileSystem}
    (stay : ∀ place, before.look place = some none → after.look place = some none)
    {names : List String} {place : Place} (resolved : before.resolve names = .ok place) :
    after.resolve names = .ok place := by
  induction names using List.reverseRecOn generalizing place with
  | nil => exact resolved
  | append_singleton names name induction =>
      cases above : before.resolve names with
      | error fault =>
          rw [resolve_concat_of_error above] at resolved
          cases resolved
      | ok middle =>
          rw [resolve_concat_of_ok above] at resolved
          obtain ⟨short, stepped, found⟩ := enter_eq_ok_iff.1 resolved
          rw [resolve_concat_of_ok (induction above)]
          exact enter_eq_ok_iff.2 ⟨short, stepped, stay _ found⟩

theorem resolve_filter (system : FileSystem) (names : List String) :
    system.resolve (names.filter fun name => name != ".") = system.resolve names := by
  induction names using List.reverseRecOn with
  | nil => rfl
  | append_singleton names name induction =>
      rw [List.filter_append]
      cases above : system.resolve names with
      | error fault =>
          rw [above] at induction
          rw [resolve_concat_of_error above]
          by_cases point : name = "."
          · simp [point, induction]
          · simp [point, resolve_concat_of_error induction]
      | ok place =>
          rw [above] at induction
          rw [resolve_concat_of_ok above]
          by_cases point : name = "."
          · have stays : system.enter place "." = .ok place :=
              enter_eq_ok_iff.2 ⟨by decide, rfl, look_of_resolve above⟩
            simp [point, induction, stays]
          · simp [point, resolve_concat_of_ok induction]

theorem isPlain_of_passable {names : List String}
    (passable : ∀ name ∈ names, name ≠ ".." ∧ isNameTooLong name = false) :
    ∀ name ∈ names.filter (fun name => name != "."), IsPlain name := by
  intro name member
  obtain ⟨onWay, notPoint⟩ := List.mem_filter.1 member
  exact ⟨by simpa using notPoint, (passable name onWay).1, (passable name onWay).2⟩

theorem resolve_append_of_ok {system : FileSystem} {front back : List String} {place : Place}
    (resolved : system.resolve (front ++ back) = .ok place) :
    ∃ above, system.resolve front = .ok above := by
  rw [resolve, List.foldlM_append] at resolved
  cases reached : system.resolve front with
  | ok above => exact ⟨above, rfl⟩
  | error fault =>
      rw [resolve] at reached
      rw [reached] at resolved
      cases resolved

section

variable {system : FileSystem} {front names : List String} {start : Place}
  (resolved : system.resolve front = .ok start) (plain : ∀ name ∈ names, IsPlain name)

include resolved plain

theorem resolve_of_plain {place : Place} (goesOn : system.resolve (front ++ names) = .ok place) :
    place = start ++ names := by
  induction names using List.reverseRecOn generalizing place with
  | nil =>
      rw [List.append_nil, resolved] at goesOn
      rw [List.append_nil]
      exact (Except.ok.inj goesOn).symm
  | append_singleton names name induction =>
      rw [List.forall_mem_append, List.forall_mem_singleton] at plain
      rw [← List.append_assoc] at goesOn
      obtain ⟨middle, above⟩ := resolve_append_of_ok goesOn
      rw [resolve_concat_of_ok above] at goesOn
      obtain ⟨_, stepped, _⟩ := enter_eq_ok_iff.1 goesOn
      rw [← stepped, Place.step_of_plain plain.2, induction plain.1 above, List.append_assoc]

/-- Plain names lead on where they say, unless something is missing or a file is in the way. -/
theorem resolve_plain_cases :
    (system.resolve (front ++ names) = .ok (start ++ names) ∧
      system.look (start ++ names) = some none) ∨
    (system.resolve (front ++ names) = .error .notFound ∧
      system.look (start ++ names) ≠ some none ∧
      ∀ above, above <+: names → ∀ content, system.look (start ++ above) ≠ some (some content)) ∨
    (system.resolve (front ++ names) = .error .notDirectory ∧
      ∃ above, above <+: names ∧
        ∃ content, system.look (start ++ above) = some (some content)) := by
  induction names using List.reverseRecOn with
  | nil =>
      rw [List.append_nil, List.append_nil]
      exact .inl ⟨resolved, look_of_resolve resolved⟩
  | append_singleton names name induction =>
      rw [List.forall_mem_append, List.forall_mem_singleton] at plain
      rw [← List.append_assoc, ← List.append_assoc]
      rcases induction plain.1 with ⟨above, isDirectory⟩ | ⟨missing, leaf, clear⟩ | ⟨blocked, file⟩
      · rw [resolve_concat_of_ok above, enter_eq, Place.step_of_plain plain.2, plain.2.short]
        cases found : system.look (start ++ names ++ [name]) with
        | none =>
            refine .inr (.inl ⟨rfl, by simp, fun place isAbove content => ?_⟩)
            rcases List.prefix_concat_iff.1 isAbove with rfl | ⟨rest, rfl⟩
            · simp [← List.append_assoc, found]
            · rw [← List.append_assoc] at isDirectory
              simp [look_of_append isDirectory]
        | some content =>
            cases content with
            | none => exact .inl ⟨rfl, rfl⟩
            | some content =>
                refine .inr (.inr ⟨rfl, _, List.prefix_rfl, content, ?_⟩)
                rwa [← List.append_assoc]
      · have nothing : system.look (start ++ names ++ [name]) = none :=
          FileEntries.look_append_cons leaf name []
        rw [List.append_assoc] at nothing
        refine .inr (.inl ⟨resolve_concat_of_error missing name, by simp [nothing],
          fun place isAbove content => ?_⟩)
        rcases List.prefix_concat_iff.1 isAbove with rfl | isAbove
        · simp [nothing]
        · exact clear place isAbove content
      · obtain ⟨place, isAbove, found⟩ := file
        exact .inr (.inr ⟨resolve_concat_of_error blocked name, place,
          isAbove.trans (List.prefix_append names [name]), found⟩)

theorem look_of_missing (missing : system.resolve (front ++ names) = .error .notFound) :
    system.look (start ++ names) ≠ some none ∧
      ∀ above, above <+: names → ∀ content, system.look (start ++ above) ≠ some (some content) := by
  rcases system.resolve_plain_cases resolved plain with ⟨reached, _⟩ | ⟨_, clear⟩ | ⟨blocked, _⟩
  · cases reached.symm.trans missing
  · exact clear
  · cases blocked.symm.trans missing

end

/-- All that is new is directories that a path leads through. -/
def Opens (names : List String) (before after : FileSystem) : Prop :=
  ∀ place, after.look place = before.look place ∨
    (before.look place = none ∧ after.look place = some none ∧
      ∃ above, above <+: names ∧ after.resolve above = .ok place)

theorem Opens.refl (names : List String) (system : FileSystem) : Opens names system system :=
  fun _ => .inl rfl

theorem Opens.stays {names : List String} {before after : FileSystem}
    (opens : Opens names before after) {place : Place}
    (isDirectory : before.look place = some none) : after.look place = some none := by
  rcases opens place with same | ⟨missing, _⟩
  · exact same.trans isDirectory
  · cases isDirectory.symm.trans missing

theorem Opens.trans {names : List String} {before middle after : FileSystem}
    (first : Opens names before middle) (second : Opens names middle after) :
    Opens names before after := by
  intro place
  rcases second place with same | ⟨missing, opened⟩
  · rw [same]
    refine (first place).imp_right fun ⟨missing, isDirectory, above, isAbove, resolved⟩ =>
      ⟨missing, isDirectory, above, isAbove, ?_⟩
    exact resolve_of_directories (fun _ => second.stays) resolved
  · rcases first place with same | ⟨_, isDirectory, _⟩
    · exact .inr ⟨same.symm.trans missing, opened⟩
    · cases isDirectory.symm.trans missing

theorem Opens.further {names longer : List String} {before after : FileSystem}
    (opens : Opens names before after) (isAbove : names <+: longer) :
    Opens longer before after :=
  fun place => (opens place).imp_right fun ⟨missing, isDirectory, above, isFront, resolved⟩ =>
    ⟨missing, isDirectory, above, isFront.trans isAbove, resolved⟩

section

variable {front names : List String} {start : Place} {before after : FileSystem}
  (opens : Opens (front ++ names) before after) (resolved : before.resolve front = .ok start)
  (plain : ∀ name ∈ names, IsPlain name)
  (missing : before.resolve (front ++ names) = .error .notFound)

include opens resolved plain missing

theorem Opens.resolve :
    after.resolve (front ++ names) = .error .notFound ∨
      after.resolve (front ++ names) = .ok (start ++ names) := by
  have still : after.resolve front = .ok start :=
    resolve_of_directories (fun _ => opens.stays) resolved
  rcases after.resolve_plain_cases still plain with
    ⟨reached, _⟩ | ⟨absent, _⟩ | ⟨_, above, isAbove, content, found⟩
  · exact .inr reached
  · exact .inl absent
  · have clear := (look_of_missing resolved plain missing).2 above isAbove content
    rcases opens (start ++ above) with same | ⟨_, isDirectory, _⟩
    · exact absurd (same.symm.trans found) clear
    · cases isDirectory.symm.trans found

/-- The last of the directories may be new, but then there is nothing in it. -/
theorem Opens.look_below (name : String) : after.look (start ++ names ++ [name]) = none := by
  have leaf := (look_of_missing resolved plain missing).1
  rcases opens (start ++ names ++ [name]) with same | ⟨nothing, _, above, isAbove, reached⟩
  · exact same.trans (FileEntries.look_append_cons leaf name [])
  have still : after.resolve front = .ok start :=
    resolve_of_directories (fun _ => opens.stays) resolved
  rcases List.prefix_or_prefix_of_prefix isAbove (List.prefix_append front names) with
    ⟨rest, rfl⟩ | ⟨rest, rfl⟩
  · obtain ⟨former, isThere⟩ := resolve_append_of_ok resolved
    have same := resolve_of_directories (fun _ => opens.stays) isThere
    rw [reached] at same
    cases same
    cases (look_of_resolve isThere).symm.trans nothing
  · have within := (List.prefix_append_right_inj front).1 isAbove
    have isPlain := fun name member => plain name (within.subset member)
    have same := resolve_of_plain still isPlain reached
    have lengths := congrArg List.length same
    have shorter := within.length_le
    simp at lengths
    omega

end

/-- What comes of making the directories of a path: it leads there, or to something that is there
and is no directory. -/
structure Makes (names : List String) (before : FileSystem)
    (outcome : Except FileFault Place × FileSystem) : Prop where
  opens : Opens names before outcome.2
  made : ∀ place, outcome.1 = .ok place → outcome.2.resolve names = .ok place
  failed : ∀ fault, outcome.1 = .error fault →
    ∃ other, other ≠ .notFound ∧ outcome.2.resolve names = .error other

theorem makes_of_blocked {names : List String} {system : FileSystem} {fault other : FileFault}
    (blocked : system.resolve names = .error other) (isThere : other ≠ .notFound) :
    Makes names system (.error fault, system) :=
  ⟨.refl names system, fun _ => nofun, fun _ _ => ⟨other, isThere, blocked⟩⟩

theorem step_of_missing {system : FileSystem} {place : Place} {name : String}
    (isDirectory : system.look place = some none) (missing : system.look (place.step name) = none) :
    place.step name = place ++ [name] := by
  unfold Place.step at missing ⊢
  split at missing
  · cases isDirectory.symm.trans missing
  split at missing
  · rcases List.eq_nil_or_concat place with rfl | ⟨above, last, rfl⟩
    · cases missing
    · rw [List.concat_eq_append] at isDirectory missing
      rw [List.dropLast_concat] at missing
      cases (look_of_append isDirectory).symm.trans missing
  · rename_i notPoint notPoints
    rw [if_neg notPoint, if_neg notPoints]

theorem look_stays {before after : FileSystem} {place : Place}
    {leaf : Option (Option FileContent)} (isLeaf : before.look place ≠ some none)
    (updated : after.look = Function.update before.look place leaf) (other : Place)
    (isDirectory : before.look other = some none) : after.look other = some none := by
  rw [updated, Function.update_of_ne, isDirectory]
  rintro rfl
  exact isLeaf isDirectory

theorem makes_put {system : FileSystem} {above : List String} {place : Place} {name : String}
    (resolved : system.resolve above = .ok place) (short : isNameTooLong name = false)
    (stepped : place.step name = place ++ [name])
    (nothing : system.look (place ++ [name]) = none) :
    Makes (above ++ [name]) system
      (.ok (place ++ [name]), system.put (place ++ [name]) (.directory [])) := by
  have isLeaf : system.look (place ++ [name]) ≠ some none := by simp [nothing]
  have updated := look_put (look_of_resolve resolved) isLeaf none
  rw [FileNode.leaf] at updated
  have reached : (system.put (place ++ [name]) (.directory [])).resolve (above ++ [name]) =
      .ok (place ++ [name]) := by
    rw [resolve_concat_of_ok (resolve_of_directories (look_stays isLeaf updated) resolved)]
    refine enter_eq_ok_iff.2 ⟨short, stepped, ?_⟩
    rw [updated, Function.update_self]
  refine ⟨fun other => ?_, fun _ isOk => Except.ok.inj isOk ▸ reached, fun _ => nofun⟩
  by_cases same : other = place ++ [name]
  · subst same
    exact .inr ⟨nothing, look_of_resolve reached, _, List.prefix_rfl, reached⟩
  · exact .inl ((congrFun updated other).trans (Function.update_of_ne same _ _))

theorem makes_ensureDirectory {system : FileSystem} {above : List String} {place : Place}
    (resolved : system.resolve above = .ok place) (name : String) :
    Makes (above ++ [name]) system (system.ensureDirectory place name) := by
  have entered := resolve_concat_of_ok resolved name
  rw [enter] at entered
  rw [ensureDirectory]
  split
  · rename_i long
    rw [if_pos long] at entered
    exact makes_of_blocked entered nofun
  rename_i short
  rw [if_neg short] at entered
  split
  · rename_i found
    rw [found] at entered
    exact ⟨.refl _ system, fun _ isOk => Except.ok.inj isOk ▸ entered, fun _ => nofun⟩
  · rename_i found
    rw [found] at entered
    exact makes_of_blocked entered nofun
  · rename_i nothing
    have seen := look_eq system (place.step name)
    rw [nothing, Option.map_none] at seen
    have stepped := step_of_missing (look_of_resolve resolved) seen
    rw [stepped] at seen ⊢
    exact makes_put resolved (by simpa using short) stepped seen

theorem makes_makeDirectoriesTo (reversed : List String) (system : FileSystem) :
    Makes reversed.reverse system (system.makeDirectoriesTo reversed) := by
  induction reversed with
  | nil => exact ⟨.refl [] system, fun _ => id, fun _ => nofun⟩
  | cons name above makes =>
      have isAbove := List.prefix_append above.reverse [name]
      rw [List.reverse_cons, makeDirectoriesTo]
      cases resolved : system.resolve above.reverse with
      | ok place => exact makes_ensureDirectory resolved name
      | error fault =>
          have stays := resolve_concat_of_error resolved name
          cases fault with
          | notFound =>
              dsimp only
              split
              · rename_i place middle made
                rw [made] at makes
                have last := makes_ensureDirectory (makes.made place rfl) name
                exact ⟨(makes.opens.further isAbove).trans last.opens, last.made, last.failed⟩
              · rename_i outcome failed
                refine ⟨makes.opens.further isAbove, fun made isOk => ?_, fun fault isError => ?_⟩
                · exact (failed made _ (Prod.ext isOk rfl)).elim
                · obtain ⟨other, isThere, blocked⟩ := makes.failed fault isError
                  exact ⟨other, isThere, resolve_concat_of_error blocked name⟩
          | _ => exact makes_of_blocked stays nofun

theorem Makes.found {names : List String} {before : FileSystem}
    {outcome : Except FileFault Place × FileSystem} (makes : Makes names before outcome) :
    outcome.2.resolve names ≠ .error .notFound := by
  cases result : outcome.1 with
  | ok place => simp [makes.made place result]
  | error fault =>
      obtain ⟨other, isThere, blocked⟩ := makes.failed fault result
      rw [blocked]
      exact fun same => isThere (Except.error.inj same)

theorem ensureDirectory_of_found {system : FileSystem} {place : Place} {name : String}
    (found : system.enter place name ≠ .error .notFound) :
    (system.ensureDirectory place name).2 = system := by
  rw [enter] at found
  rw [ensureDirectory]
  split
  · rfl
  · rename_i short
    rw [if_neg short] at found
    split
    · rfl
    · rfl
    · rename_i nothing
      rw [nothing] at found
      exact absurd rfl found

theorem makeDirectoriesTo_of_found {reversed : List String} {system : FileSystem}
    (found : system.resolve reversed.reverse ≠ .error .notFound) :
    (system.makeDirectoriesTo reversed).2 = system := by
  cases reversed with
  | nil => rfl
  | cons name above =>
      rw [List.reverse_cons] at found
      rw [makeDirectoriesTo]
      cases resolved : system.resolve above.reverse with
      | ok place =>
          rw [resolve_concat_of_ok resolved] at found
          exact ensureDirectory_of_found found
      | error fault =>
          rw [resolve_concat_of_error resolved] at found
          cases fault with
          | notFound => exact absurd rfl found
          | _ => rfl

theorem makeDirectories_of_found {path : FilePath} {system : FileSystem}
    (found : system.resolve path.names ≠ .error .notFound) :
    (system.makeDirectories path).2 = system := by
  rw [← resolve_filter] at found
  rw [makeDirectories]
  split
  · rfl
  split
  · split
    · rename_i missing
      exact absurd missing found
    · rfl
  · exact makeDirectoriesTo_of_found (by simpa using found)

theorem exists_makeDirectoriesTo (path : FilePath) :
    ∃ reversed : List String, reversed.reverse <+: (path.names.filter fun name => name != ".") ∧
      ∀ system, (makeDirectories path system).2 = system ∨
        (makeDirectories path system).2 = (system.makeDirectoriesTo reversed).2 := by
  simp only [makeDirectories]
  generalize (path.names.filter fun name => name != ".") = names
  cases path.fault? with
  | some fault => exact ⟨[], List.nil_prefix, fun system => .inl rfl⟩
  | none =>
      by_cases point : path.names.getLast? = some "."
      · refine ⟨names.reverse.tail, by simp [List.dropLast_prefix], fun system => ?_⟩
        simp only [if_pos point]
        split
        · right
          split
          · rename_i made
            rw [made]
          · rfl
        · exact .inl rfl
      · refine ⟨names.reverse, by simp, fun system => .inr ?_⟩
        simp only [if_neg point]

theorem opens_makeDirectories (path : FilePath) (system : FileSystem) :
    Opens (path.names.filter fun name => name != ".") system (system.makeDirectories path).2 := by
  obtain ⟨reversed, isAbove, makes⟩ := exists_makeDirectoriesTo path
  rcases makes system with same | made
  · rw [same]
    exact .refl _ system
  · rw [made]
    exact (makes_makeDirectoriesTo reversed system).opens.further isAbove

theorem makeDirectories_makeDirectories (path : FilePath) (system : FileSystem) :
    ((system.makeDirectories path).2.makeDirectories path).2 =
      (system.makeDirectories path).2 := by
  obtain ⟨reversed, -, makes⟩ := exists_makeDirectoriesTo path
  rcases makes system with same | made
  · rw [same, same]
  · rcases makes (system.makeDirectories path).2 with same | again
    · exact same
    · rw [again, made]
      exact makeDirectoriesTo_of_found (makes_makeDirectoriesTo reversed system).found

end FileSystem

end MediaFilter
