import MediaFilter.Proofs.Store.Directories
import MediaFilter.Store.File

/-!
The names that keys give to files.  A name is a single step below the directory of a store, and no
two files of any keys have the same name, whether they hold a text or only its draft.
-/

namespace MediaFilter

theorem pathNames_append (first second : String) :
    pathNames (first ++ "/" ++ second) = pathNames first ++ pathNames second := by
  have whole : (first ++ "/" ++ second).toList = first.toList ++ '/' :: second.toList := by
    simp
  rw [pathNames, whole, List.splitOn_append_cons_self, List.map_append, List.filter_append]
  rfl

theorem pathNames_slash (base : String) : pathNames (base ++ "/") = pathNames base := by
  have joined := pathNames_append base ""
  rw [String.append_empty] at joined
  rw [joined]
  exact List.append_nil _

theorem pathNames_single {name : String} (unparted : '/' ∉ name.toList) (nonempty : name ≠ "") :
    pathNames name = [name] := by
  rw [pathNames, List.splitOn_eq_singleton unparted]
  simp [nonempty]

theorem pathNames_joinPath {name : String} (unparted : '/' ∉ name.toList) (nonempty : name ≠ "")
    (base : String) : pathNames (joinPath base name) = pathNames base ++ [name] := by
  have relative : ¬ name.startsWith "/" = true := by
    rw [String.startsWith_string_iff]
    exact fun begins => unparted (begins.subset (by simp))
  have single := pathNames_single unparted nonempty
  rw [joinPath, if_neg relative]
  split
  · rename_i ends
    rw [Bool.or_eq_true, String.isEmpty_iff] at ends
    rcases ends with rfl | ends
    · rw [String.empty_append, single]
      rfl
    · rw [String.endsWith, String.Slice.endsWith_string_iff, String.copy_toSlice] at ends
      obtain ⟨front, whole⟩ := ends
      have isSlashed : base = String.ofList front ++ "/" := by
        rw [← String.toList_inj, ← whole]
        simp
      rw [isSlashed, pathNames_append, pathNames_slash, single]
  · rw [pathNames_append, single]

theorem utf8ByteSize_joinPath_le (base name : String) :
    (joinPath base name).utf8ByteSize ≤ base.utf8ByteSize + 1 + name.utf8ByteSize := by
  have slash : "/".utf8ByteSize = 1 := by decide
  rw [joinPath]
  split
  · omega
  split
  · rw [String.utf8ByteSize_append]
    omega
  · rw [String.utf8ByteSize_append, String.utf8ByteSize_append]
    omega

namespace FileStore

theorem fileName_injective {key other : String} (same : fileName key = fileName other) :
    key = other := by
  have texts := congrArg String.toList same
  exact String.toList_inj.1 (by simpa [fileName] using texts)

theorem draftName_injective {key other : String} (same : draftName key = draftName other) :
    key = other := by
  have texts := congrArg String.toList same
  exact String.toList_inj.1 (by simpa [draftName] using texts)

theorem getLast?_fileName (key : String) : (fileName key).toList.getLast? = some 'n' := by
  simp [fileName]

theorem getLast?_draftName (key : String) : (draftName key).toList.getLast? = some 'p' := by
  simp [draftName]

/-- A text and a draft are told apart by how their names end. -/
theorem fileName_ne_draftName (key other : String) : fileName key ≠ draftName other := by
  intro same
  have ending := getLast?_fileName key
  rw [same, getLast?_draftName] at ending
  cases ending

theorem isPlain_of_getLast? {name : String} {last : Char}
    (ends : name.toList.getLast? = some last) (notPoint : last ≠ '.')
    (short : isNameTooLong name = false) : IsPlain name := by
  refine ⟨?_, ?_, short⟩
  · intro point
    rw [point] at ends
    exact notPoint (Option.some.inj ends).symm
  · intro points
    rw [points] at ends
    exact notPoint (Option.some.inj ends).symm

theorem isPlain_fileName {key : String} (short : isNameTooLong (fileName key) = false) :
    IsPlain (fileName key) :=
  isPlain_of_getLast? (getLast?_fileName key) (by decide) short

theorem short_of_draft {key : String} (short : isNameTooLong (draftName key) = false) :
    isNameTooLong (fileName key) = false := by
  simp only [isNameTooLong, draftName, fileName, String.utf8ByteSize_append,
    decide_eq_false_iff_not] at short ⊢
  have sizes : ".json".utf8ByteSize ≤ ".json.tmp".utf8ByteSize := by decide
  omega

section

variable {key : String} (valid : isKey key = true)

include valid

theorem not_slash_mem_key : '/' ∉ key.toList := by
  intro member
  rw [isKey, Bool.and_eq_true, List.all_eq_true] at valid
  exact absurd (valid.2 '/' member) (by decide)

theorem nul_not_mem_key : '\x00' ∉ key.toList := by
  intro member
  rw [isKey, Bool.and_eq_true, List.all_eq_true] at valid
  exact absurd (valid.2 '\x00' member) (by decide)

theorem fault?_path {store : FileStore}
    (clean : ∀ name ∈ pathNames store.directory, '\x00' ∉ name.toList)
    (room : store.directory.utf8ByteSize + 1 + (fileName key).utf8ByteSize < 4096) :
    (store.path (fileName key)).fault? = none := by
  have size := utf8ByteSize_joinPath_le store.directory (fileName key)
  have unstained : '\x00' ∉ (fileName key).toList := by simp [fileName, nul_not_mem_key valid]
  rw [FilePath.fault?, if_neg, if_neg]
  · change ¬ 4096 ≤ (joinPath store.directory (fileName key)).utf8ByteSize
    omega
  · simpa [path, List.any_append] using ⟨clean, unstained⟩

theorem pathNames_shownPath (store : FileStore) {ending : String} (unparted : '/' ∉ ending.toList)
    (nonempty : ending ≠ "") :
    pathNames (store.shownPath (key ++ ending)) = pathNames store.directory ++ [key ++ ending] := by
  apply pathNames_joinPath
  · simp [not_slash_mem_key valid, unparted]
  · simp [nonempty]

end

end FileStore

end MediaFilter
