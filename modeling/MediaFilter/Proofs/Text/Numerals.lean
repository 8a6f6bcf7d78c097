import MediaFilter.Text.Numeral

/-!
Numerals, told without their readers and writers.  A numeral is a run of digits with or without a
sign in front; every whole number has one that does without a plus sign and needless zeros, and
that is the one in which it is written.
-/

namespace MediaFilter.Text

theorem isDigit_of_mem_natDigits {n : Nat} {c : Char} (member : c ∈ natDigits n) :
    c.isDigit = true :=
  Nat.isDigit_of_mem_toDigits (by decide) (by decide) member

theorem natDigits_ne_nil (n : Nat) : natDigits n ≠ [] := Nat.toDigits_ne_nil

theorem head?_natDigits_ne_zero {n : Nat} (positive : 0 < n) :
    (natDigits n).head? ≠ some '0' := by
  induction n using Nat.strongRecOn with
  | ind n induction =>
      unfold natDigits
      by_cases small : n < 10
      · rw [Nat.toDigits_of_lt_base small]
        intro equal
        have isZero := Nat.digitChar_eq_zero.1 (Option.some.inj equal)
        omega
      · have shorter : (Nat.toDigits 10 (n / 10)).head? ≠ some '0' :=
          induction (n / 10) (by omega) (by omega)
        rw [Nat.toDigits_of_base_le (by decide) (by omega), List.head?_append]
        cases equation : Nat.toDigits 10 (n / 10) with
        | nil => exact absurd equation Nat.toDigits_ne_nil
        | cons digit digits =>
            rw [equation] at shorter
            exact shorter

theorem exists_digitChar {c : Char} (isDigit : c.isDigit = true) :
    ∃ n < 10, c = Nat.digitChar n := by
  obtain ⟨low, high⟩ := Char.isDigit_iff_toNat.1 isDigit
  change 48 ≤ c.toNat at low
  change c.toNat ≤ 57 at high
  refine ⟨c.toNat - 48, by omega, ?_⟩
  rw [← Char.toNat_inj, Nat.toNat_digitChar_of_lt_ten (by omega)]
  omega

theorem toDigits_append_digits {digits : List Char} (all : ∀ c ∈ digits, c.isDigit = true)
    {n : Nat} (positive : 0 < n) :
    Nat.toDigits 10 n ++ digits = Nat.toDigits 10 (Nat.ofDigitChars 10 digits n) := by
  induction digits generalizing n with
  | nil => simp
  | cons c digits induction =>
      obtain ⟨isDigit, rest⟩ := List.forall_mem_cons.1 all
      obtain ⟨d, small, rfl⟩ := exists_digitChar isDigit
      have step := Nat.toDigits_append_toDigits (by decide : 1 < 10) positive small
      rw [Nat.toDigits_of_lt_base small] at step
      rw [Nat.ofDigitChars_cons_digitChar_of_lt_ten small, ← induction rest (by omega), ← step,
        List.append_assoc]
      rfl

@[simp] theorem ofDigitChars_natDigits (n : Nat) : Nat.ofDigitChars 10 (natDigits n) 0 = n :=
  Nat.ofDigitChars_ten_toDigits

structure IsDigits (digits : List Char) : Prop where
  nonempty : digits ≠ []
  all : ∀ c ∈ digits, c.isDigit = true

theorem isDigits_natDigits (n : Nat) : IsDigits (natDigits n) :=
  ⟨natDigits_ne_nil n, fun _ member => isDigit_of_mem_natDigits member⟩

theorem IsDigits.not_mem {digits : List Char} (isDigits : IsDigits digits) {c : Char}
    (notDigit : c.isDigit = false) : c ∉ digits := fun member => by
  simp [isDigits.all c member] at notDigit

theorem natDigits_ofDigitChars {digits : List Char} (isDigits : IsDigits digits)
    (noZero : digits.head? ≠ some '0') : natDigits (Nat.ofDigitChars 10 digits 0) = digits := by
  cases digits with
  | nil => exact absurd rfl isDigits.nonempty
  | cons c digits =>
      obtain ⟨isDigit, rest⟩ := List.forall_mem_cons.1 isDigits.all
      obtain ⟨d, small, rfl⟩ := exists_digitChar isDigit
      have positive : 0 < d := by
        refine Nat.pos_of_ne_zero fun zero => noZero ?_
        rw [zero]
        rfl
      rw [Nat.ofDigitChars_cons_digitChar_of_lt_ten small, Nat.mul_zero, Nat.zero_add, natDigits,
        ← toDigits_append_digits rest positive, Nat.toDigits_of_lt_base small]
      rfl

/-- Whether a text is a numeral of this value: digits, with or without a sign in front. -/
inductive Spells : List Char → Int → Prop
  | plain {digits : List Char} (isDigits : IsDigits digits) :
      Spells digits (Nat.ofDigitChars 10 digits 0)
  | plus {digits : List Char} (isDigits : IsDigits digits) :
      Spells ('+' :: digits) (Nat.ofDigitChars 10 digits 0)
  | minus {digits : List Char} (isDigits : IsDigits digits) :
      Spells ('-' :: digits) (-(Nat.ofDigitChars 10 digits 0))

theorem map_readDigits?_eq_some_iff {text : List Char} {sign : Nat → Int} {i : Int} :
    (readDigits? text).map sign = some i ↔
      IsDigits text ∧ sign (Nat.ofDigitChars 10 text 0) = i := by
  simp only [readDigits?, Option.map_eq_some_iff, Option.ite_none_right_eq_some,
    Option.some.injEq, List.all_eq_true]
  constructor
  · rintro ⟨_, ⟨⟨nonempty, all⟩, rfl⟩, signed⟩
    exact ⟨⟨nonempty, all⟩, signed⟩
  · rintro ⟨⟨nonempty, all⟩, signed⟩
    exact ⟨_, ⟨⟨nonempty, all⟩, rfl⟩, signed⟩

theorem readSigned?_plus (digits : List Char) :
    readSigned? ('+' :: digits) = (readDigits? digits).map Int.ofNat := by
  cases read : readDigits? digits <;> simp [readSigned?, read]

theorem readSigned?_minus (digits : List Char) :
    readSigned? ('-' :: digits) = (readDigits? digits).map fun n => -Int.ofNat n := by
  cases read : readDigits? digits <;> simp [readSigned?, read]

theorem readSigned?_of_unsigned {text : List Char} (noPlus : text.head? ≠ some '+')
    (noMinus : text.head? ≠ some '-') : readSigned? text = (readDigits? text).map Int.ofNat := by
  unfold readSigned?
  split
  · exact absurd rfl noPlus
  · exact absurd rfl noMinus
  · cases readDigits? text <;> rfl

theorem IsDigits.unsigned {digits : List Char} (isDigits : IsDigits digits) {sign : Char}
    (notDigit : sign.isDigit = false) : digits.head? ≠ some sign := fun isHead =>
  isDigits.not_mem notDigit (List.mem_of_head? isHead)

theorem readSigned?_eq_some_iff {text : List Char} {i : Int} :
    readSigned? text = some i ↔ Spells text i := by
  constructor
  · intro read
    by_cases plus : text.head? = some '+'
    · obtain ⟨digits, rfl⟩ := List.head?_eq_some_iff.1 plus
      rw [readSigned?_plus, map_readDigits?_eq_some_iff] at read
      obtain ⟨isDigits, rfl⟩ := read
      exact .plus isDigits
    by_cases minus : text.head? = some '-'
    · obtain ⟨digits, rfl⟩ := List.head?_eq_some_iff.1 minus
      rw [readSigned?_minus, map_readDigits?_eq_some_iff] at read
      obtain ⟨isDigits, rfl⟩ := read
      exact .minus isDigits
    · rw [readSigned?_of_unsigned plus minus, map_readDigits?_eq_some_iff] at read
      obtain ⟨isDigits, rfl⟩ := read
      exact .plain isDigits
  · intro spells
    cases spells with
    | plus isDigits =>
        rw [readSigned?_plus]
        exact map_readDigits?_eq_some_iff.2 ⟨isDigits, rfl⟩
    | minus isDigits =>
        rw [readSigned?_minus]
        exact map_readDigits?_eq_some_iff.2 ⟨isDigits, rfl⟩
    | plain isDigits =>
        rw [readSigned?_of_unsigned (isDigits.unsigned (by decide)) (isDigits.unsigned (by decide))]
        exact map_readDigits?_eq_some_iff.2 ⟨isDigits, rfl⟩

structure IsInt64 (text : List Char) (i : Int) : Prop where
  spells : Spells text i
  least : leastInt64 ≤ i
  greatest : i ≤ greatestInt64

theorem readInt64?_eq_some_iff {text : List Char} {i : Int} :
    readInt64? text = some i ↔ IsInt64 text i := by
  rw [readInt64?, Option.filter_eq_some_iff, readSigned?_eq_some_iff, decide_eq_true_eq]
  exact ⟨fun ⟨spells, least, greatest⟩ => ⟨spells, least, greatest⟩,
    fun ⟨spells, least, greatest⟩ => ⟨spells, least, greatest⟩⟩

theorem Spells.nonneg {text : List Char} {i : Int} (spells : Spells text i)
    (unsigned : '-' ∉ text) : 0 ≤ i := by
  cases spells with
  | plain => exact Int.natCast_nonneg _
  | plus => exact Int.natCast_nonneg _
  | minus => exact absurd List.mem_cons_self unsigned

theorem Spells.nonpos {text : List Char} {i : Int} (spells : Spells text i)
    (signed : '-' ∈ text) : i ≤ 0 := by
  cases spells with
  | plain isDigits => exact absurd signed (isDigits.not_mem (by decide))
  | plus isDigits =>
      have inDigits := (List.mem_cons.1 signed).resolve_left (by decide)
      exact absurd inDigits (isDigits.not_mem (by decide))
  | minus => exact Int.neg_nonpos_of_nonneg (Int.natCast_nonneg _)

/-- A numeral with a minus sign if the number is below zero, and with nothing that could be left
out. -/
inductive Canonical : List Char → Int → Prop
  | zero : Canonical ['0'] 0
  | above {digits : List Char} (isDigits : IsDigits digits) (noZero : digits.head? ≠ some '0') :
      Canonical digits (Nat.ofDigitChars 10 digits 0)
  | below {digits : List Char} (isDigits : IsDigits digits) (noZero : digits.head? ≠ some '0') :
      Canonical ('-' :: digits) (-(Nat.ofDigitChars 10 digits 0))

theorem canonical_intDigits (i : Int) : Canonical (intDigits i) i := by
  unfold intDigits
  split
  · rename_i negative
    have noZero := head?_natDigits_ne_zero (Int.natAbs_pos.2 (Int.ne_of_lt negative))
    have below := Canonical.below (isDigits_natDigits i.natAbs) noZero
    rwa [ofDigitChars_natDigits, ← Int.eq_neg_natAbs_of_nonpos (Int.le_of_lt negative)] at below
  · rename_i nonneg
    rcases Int.eq_nat_or_neg i with ⟨n, rfl | rfl⟩
    · rcases Nat.eq_zero_or_pos n with rfl | positive
      · exact .zero
      · have above := Canonical.above (isDigits_natDigits n) (head?_natDigits_ne_zero positive)
        rwa [ofDigitChars_natDigits] at above
    · obtain rfl : n = 0 := by omega
      exact .zero

theorem canonical_iff {text : List Char} {i : Int} : Canonical text i ↔ text = intDigits i := by
  constructor
  · intro canonical
    cases canonical with
    | zero => rfl
    | above isDigits noZero =>
        rw [intDigits, if_neg (by omega), Int.natAbs_natCast,
          natDigits_ofDigitChars isDigits noZero]
    | below isDigits noZero =>
        have spelled := natDigits_ofDigitChars isDigits noZero
        have positive : 0 < Nat.ofDigitChars 10 _ 0 := Nat.pos_of_ne_zero fun zero => by
          rw [zero] at spelled
          exact noZero (spelled ▸ rfl)
        rw [intDigits, if_pos (by omega), Int.natAbs_neg, Int.natAbs_natCast, spelled]
  · rintro rfl
    exact canonical_intDigits i

end MediaFilter.Text
