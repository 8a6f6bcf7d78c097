import Mathlib.Data.String.Basic

/-!
Texts are ordered as their bytes are.  The bytes of two characters first differ where the lesser
character has the lesser byte, so no text need be decoded to be compared.
-/

namespace MediaFilter.Text

def bytes (text : String) : List UInt8 := text.toByteArray.data.toList

def bytesOf (cs : List Char) : List UInt8 := cs.flatMap String.utf8EncodeChar

theorem bytes_eq (text : String) : bytes text = bytesOf text.toList := by
  rw [bytes, ← String.utf8Encode_toList, List.utf8Encode, List.data_toByteArray]
  rfl

/-- One list of bytes comes before another whatever follows either. -/
def Decides (first second : List UInt8) : Prop :=
  ∀ rest more, first ++ rest < second ++ more

theorem decides_of_lt {first second : UInt8} (lt : first < second) (rest more : List UInt8) :
    Decides (first :: rest) (second :: more) :=
  fun _ _ => List.cons_lt_cons_iff.2 (.inl lt)

theorem Decides.cons {first second : List UInt8} (decides : Decides first second) (byte : UInt8) :
    Decides (byte :: first) (byte :: second) :=
  fun rest more => List.cons_lt_cons_iff.2 (.inr ⟨rfl, decides rest more⟩)

theorem byte_lt {first second : Nat} (lt : first < second) (bound : second < 256) :
    UInt8.ofNat first < UInt8.ofNat second := by
  rw [UInt8.lt_iff_toNat_lt, UInt8.toNat_ofNat', UInt8.toNat_ofNat']
  omega

theorem Decides.digit {first second : Nat} (le : first ≤ second) (bound : second < 256)
    {rest more : List UInt8} (same : first = second → Decides rest more) :
    Decides (UInt8.ofNat first :: rest) (UInt8.ofNat second :: more) := by
  rcases Nat.lt_or_eq_of_le le with lt | rfl
  · exact decides_of_lt (byte_lt lt bound) rest more
  · exact (same rfl).cons _

theorem decides_utf8EncodeChar {first second : Char} (lt : first < second) :
    Decides (String.utf8EncodeChar first) (String.utf8EncodeChar second) := by
  have lesser : first.val.toNat < second.val.toNat := lt
  have bound : second.val.toNat < 0x110000 := by
    have := second.valid
    unfold UInt32.isValidChar Nat.isValidChar at this
    omega
  unfold String.utf8EncodeChar
  generalize first.val.toNat = m at *
  generalize second.val.toNat = n at *
  dsimp only
  split
  · split
    · exact decides_of_lt (byte_lt lesser (by omega)) _ _
    split
    · exact decides_of_lt (byte_lt (by omega) (by omega)) _ _
    split <;> exact decides_of_lt (byte_lt (by omega) (by omega)) _ _
  split
  · rw [if_neg (by omega)]
    split
    · refine .digit (by omega) (by omega) fun same => ?_
      exact decides_of_lt (byte_lt (by omega) (by omega)) _ _
    split <;> exact decides_of_lt (byte_lt (by omega) (by omega)) _ _
  split
  · rw [if_neg (by omega), if_neg (by omega)]
    split
    · refine .digit (by omega) (by omega) fun same => ?_
      refine .digit (by omega) (by omega) fun alike => ?_
      exact decides_of_lt (byte_lt (by omega) (by omega)) _ _
    · exact decides_of_lt (byte_lt (by omega) (by omega)) _ _
  · rw [if_neg (by omega), if_neg (by omega), if_neg (by omega)]
    refine .digit (by omega) (by omega) fun same => ?_
    refine .digit (by omega) (by omega) fun alike => ?_
    refine .digit (by omega) (by omega) fun still => ?_
    exact decides_of_lt (byte_lt (by omega) (by omega)) _ _

theorem bytesOf_lt {first second : List Char} (lt : first < second) :
    bytesOf first < bytesOf second := by
  induction lt with
  | @nil char rest =>
      have longer : bytesOf (char :: rest) ≠ [] :=
        List.append_ne_nil_of_left_ne_nil String.utf8EncodeChar_ne_nil _
      obtain ⟨byte, bytes, whole⟩ := List.exists_cons_of_ne_nil longer
      rw [whole]
      exact List.nil_lt_cons byte bytes
  | cons lt induction => exact List.append_left_lt induction
  | rel lt => exact decides_utf8EncodeChar lt _ _

theorem bytes_lt_iff {first second : String} : bytes first < bytes second ↔ first < second := by
  rw [bytes_eq, bytes_eq]
  constructor
  · intro before
    rcases lt_trichotomy first second with lt | rfl | gt
    · exact lt
    · exact absurd before (List.lt_irrefl _)
    · exact absurd (bytesOf_lt gt) (List.lt_asymm before)
  · exact bytesOf_lt

theorem bytes_le_iff {first second : String} : bytes first ≤ bytes second ↔ first ≤ second :=
  not_congr bytes_lt_iff

end MediaFilter.Text
