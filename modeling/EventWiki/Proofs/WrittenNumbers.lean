import EventWiki.Value
import Mathlib

namespace EventWiki

namespace Text

theorem toNat_of_isDigit {c : Char} (is_digit : c.isDigit = true) :
    48 ≤ c.toNat ∧ c.toNat ≤ 57 := by
  simpa [Char.isDigit, UInt32.le_iff_toNat_le] using is_digit

theorem isAlpha_of_isDigit {c : Char} (is_digit : c.isDigit = true) : c.isAlpha = false := by
  have range := toNat_of_isDigit is_digit
  rw [← Bool.not_eq_true]
  intro alpha
  have letter : 65 ≤ c.toNat := by
    simp only [Char.isAlpha, Char.isUpper, Char.isLower, Bool.or_eq_true, Bool.and_eq_true,
      decide_eq_true_eq, UInt32.le_iff_toNat_le, ge_iff_le] at alpha
    rcases alpha with upper | lower
    · exact upper.1
    · exact le_trans (by decide) lower.1
  omega

theorem toLower_of_isDigit {c : Char} (is_digit : c.isDigit = true) : c.toLower = c := by
  have range := toNat_of_isDigit is_digit
  rw [Char.toLower, dif_neg]
  rintro ⟨upper, _⟩
  have letter : 65 ≤ c.toNat := UInt32.le_iff_toNat_le.mp upper
  omega

theorem toList_asciiFold (text : String) :
    (asciiFold text).toList = text.toList.map Char.toLower := by
  rw [asciiFold, String.toList_map]

theorem asciiFold_ne_of_isDigit {c : Char} {text word : String} (is_digit : c.isDigit = true)
    (member : c ∈ text.toList) (letters : word.toList.all (!·.isDigit) = true) :
    asciiFold text ≠ word := by
  rintro rfl
  have inside : c ∈ (asciiFold text).toList := by
    rw [toList_asciiFold, ← toLower_of_isDigit is_digit]
    exact List.mem_map_of_mem member
  have other := List.all_eq_true.mp letters c inside
  simp [is_digit] at other

end Text

namespace Decimal

theorem digit_lt {c : Char} (is_digit : c.isDigit = true) : digit c < 10 := by
  have range := Text.toNat_of_isDigit is_digit
  change c.toNat - 48 < 10
  omega

theorem digitChar_digit {c : Char} (is_digit : c.isDigit = true) : (digit c).digitChar = c := by
  have range := Text.toNat_of_isDigit is_digit
  apply Char.toNat_inj.mp
  rw [Nat.toNat_digitChar_of_lt_ten (digit_lt is_digit)]
  change 48 + (c.toNat - 48) = c.toNat
  omega

theorem ofDigits_toDigits (value : Nat) : ofDigits (Nat.toDigits 10 value) = value :=
  Nat.ofDigitChars_ten_toDigits

theorem toDigits_ofDigits {digits : List Char} (filled : digits ≠ [])
    (are_digits : ∀ c ∈ digits, c.isDigit = true) (leading : digits.head? ≠ some '0') :
    0 < ofDigits digits ∧ Nat.toDigits 10 (ofDigits digits) = digits := by
  induction digits using List.reverseRecOn with
  | nil => exact absurd rfl filled
  | append_singleton front last ih =>
      have last_digit := are_digits last (by simp)
      rw [ofDigits_concat]
      cases front with
      | nil =>
          have positive : digit last ≠ 0 := by
            intro zero
            have last_eq := digitChar_digit last_digit
            rw [zero] at last_eq
            exact leading (by rw [← last_eq]; rfl)
          rw [ofDigits_nil, Nat.mul_zero, Nat.zero_add]
          refine ⟨Nat.pos_of_ne_zero positive, ?_⟩
          rw [Nat.toDigits_of_lt_base (digit_lt last_digit), digitChar_digit last_digit]
          rfl
      | cons first front =>
          obtain ⟨positive, written⟩ := ih (by simp)
            (fun c member => are_digits c (List.mem_append_left _ member)) (by simpa using leading)
          refine ⟨by omega, ?_⟩
          rw [← Nat.toDigits_append_toDigits (by decide) positive (digit_lt last_digit), written,
            Nat.toDigits_of_lt_base (digit_lt last_digit), digitChar_digit last_digit]

theorem head?_toDigits {value : Nat} (positive : 0 < value) :
    (Nat.toDigits 10 value).head? ≠ some '0' := by
  induction value using Nat.strongRecOn with
  | ind value ih =>
      rw [Nat.toDigits_eq_if (by decide)]
      split
      · next small => interval_cases value <;> decide
      · next large =>
        rw [List.head?_append_of_ne_nil _ Nat.toDigits_ne_nil]
        exact ih (value / 10) (by omega) (by omega)

theorem toList_toString (value : Nat) : (toString value).toList = Nat.toDigits 10 value := by
  rw [Nat.toString_eq_ofList_toDigits, String.toList_ofList]

theorem head?_toString_nat (value : Nat) : (toString value).toList.head? ≠ some '+' := by
  intro plus
  rw [toList_toString] at plus
  have is_digit := Nat.isDigit_of_mem_toDigits (by decide) (by decide) (List.mem_of_mem_head? plus)
  contradiction

theorem head?_toString_int (value : Int) : (toString value).toList.head? ≠ some '+' := by
  cases value with
  | ofNat value => exact head?_toString_nat value
  | negSucc value =>
      change ("-" ++ Nat.repr (value + 1)).toList.head? ≠ _
      simp

theorem head?_oneDecimal (value : Binary) : value.oneDecimal.toList.head? ≠ some '+' := by
  have unsigned (whole : Nat) (places : String) :
      (toString whole ++ places).toList.head? ≠ some '+' := by
    rw [String.toList_append, List.head?_append_of_ne_nil]
    · exact head?_toString_nat whole
    · rw [toList_toString]
      exact Nat.toDigits_ne_nil
  rw [Binary.oneDecimal]
  simp only [String.append_assoc]
  split
  · simp
  · rw [String.empty_append]
    exact unsigned _ _

end Decimal

namespace Value

theorem head?_formatPercentage (fraction : Float) :
    (formatPercentage fraction).toList.head? ≠ some '+' := by
  rw [formatPercentage]
  split
  · split
    · exact Decimal.head?_toString_int _
    · exact Decimal.head?_toString_int _
  · split
    · exact Decimal.head?_oneDecimal _
    · decide

structure IsPlainNumber (raw : String) : Prop where
  numeric : isNumeric raw = true
  ascii : ∀ c ∈ raw.toList, Text.isDecimalDigit c = true → c.isDigit = true

variable {raw : String}

theorem IsPlainNumber.exists_parts (number : IsPlainNumber raw) : ∃ sign whole places : List Char,
    raw.toList = sign ++ (whole ++ places) ∧ (sign = [] ∨ sign = ['-']) ∧
      (whole ≠ [] ∧ ∀ c ∈ whole, c.isDigit = true) ∧
      (places = [] ∨ ∃ digits, places = '.' :: digits ∧ ∀ c ∈ digits, c.isDigit = true) := by
  obtain ⟨sign, rest, parts, signed, rest_eq⟩ : ∃ sign rest, raw.toList = sign ++ rest ∧
      (sign = [] ∨ sign = ['-']) ∧
      (if raw.toList.head? == some '-' then raw.toList.tail else raw.toList) = rest := by
    split
    · next minus =>
      obtain ⟨rest, raw_eq⟩ := List.head?_eq_some_iff.mp (eq_of_beq minus)
      exact ⟨['-'], rest, raw_eq, .inr rfl, by rw [raw_eq]; rfl⟩
    · exact ⟨[], raw.toList, rfl, .inl rfl, rfl⟩
  have ascii : ∀ c ∈ rest, Text.isDecimalDigit c = true → c.isDigit = true := by
    intro c member
    exact number.ascii c (parts ▸ List.mem_append_right sign member)
  have numeric := number.numeric
  simp only [isNumeric, rest_eq, Bool.and_eq_true] at numeric
  obtain ⟨begins, ends⟩ := numeric
  have rest_parts := (List.takeWhile_append_dropWhile (p := Text.isDecimalDigit) (l := rest)).symm
  refine ⟨sign, rest.takeWhile Text.isDecimalDigit, rest.dropWhile Text.isDecimalDigit, ?_, signed,
    ⟨?_, fun c member => ?_⟩, ?_⟩
  · rw [← rest_parts, parts]
  · cases rest with
    | nil => simp at begins
    | cons first rest =>
        have first_digit : Text.isDecimalDigit first = true := by simpa using begins
        simp [first_digit]
  · exact ascii c ((List.takeWhile_subset _) member) (List.mem_takeWhile_imp member)
  · split at ends
    · next nothing => exact .inl nothing
    · next digits point =>
      refine .inr ⟨digits, point, fun c member => ascii c ?_ (List.all_eq_true.mp ends c member)⟩
      rw [rest_parts, point]
      simp [member]
    · contradiction

theorem IsPlainNumber.exists_digit (number : IsPlainNumber raw) :
    ∃ c ∈ raw.toList, c.isDigit = true := by
  obtain ⟨sign, whole, places, parts, _, ⟨filled, digits⟩, _⟩ := number.exists_parts
  obtain ⟨first, rest, rfl⟩ := List.exists_cons_of_ne_nil filled
  exact ⟨first, by simp [parts], digits first (by simp)⟩

theorem IsPlainNumber.no_plus (number : IsPlainNumber raw) : raw.toList.head? ≠ some '+' := by
  obtain ⟨sign, whole, places, parts, signed, ⟨filled, digits⟩, _⟩ := number.exists_parts
  obtain ⟨first, rest, rfl⟩ := List.exists_cons_of_ne_nil filled
  have first_digit := digits first (by simp)
  rw [parts]
  rcases signed with rfl | rfl
  · rintro ⟨⟩
    simp at first_digit
  · simp

theorem IsPlainNumber.not_isCountryReference (number : IsPlainNumber raw) :
    isCountryReference raw = false := by
  obtain ⟨c, member, is_digit⟩ := number.exists_digit
  have no_scope : Scope.ofKeyword? raw = none := by
    rw [Scope.ofKeyword?, List.find?_eq_none]
    intro scope _ same
    exact Text.asciiFold_ne_of_isDigit is_digit member (by cases scope <;> decide)
      (eq_of_beq same).symm
  have no_tag : isCountryTag raw = false := by
    rw [isCountryTag, Bool.and_eq_false_iff]
    right
    rw [List.all_eq_false]
    exact ⟨c, member, by simp [Text.isAlpha_of_isDigit is_digit]⟩
  rw [isCountryReference, no_scope, no_tag]
  rfl

theorem IsPlainNumber.not_isLookupEligible (number : IsPlainNumber raw) :
    isLookupEligible raw = false := by
  rw [isLookupEligible, number.numeric]
  simp

theorem takeWhile_whole {whole places : List Char} (digits : ∀ c ∈ whole, c.isDigit = true)
    (behind : places = [] ∨ ∃ rest, places = '.' :: rest ∧ ∀ c ∈ rest, c.isDigit = true) :
    (whole ++ places).takeWhile Char.isDigit = whole ∧
      (whole ++ places).dropWhile Char.isDigit = places := by
  rw [List.takeWhile_append_of_pos digits, List.dropWhile_append_of_pos digits]
  rcases behind with rfl | ⟨rest, rfl, _⟩
  · simp
  · simp [show '.'.isDigit = false by decide]

theorem exists_unsigned? {whole places : List Char} (filled : whole ≠ [])
    (digits : ∀ c ∈ whole, c.isDigit = true)
    (behind : places = [] ∨ ∃ rest, places = '.' :: rest ∧ ∀ c ∈ rest, c.isDigit = true)
    (negative : Bool) : ∃ value, Decimal.unsigned? negative (whole ++ places) = some value := by
  obtain ⟨whole_eq, places_eq⟩ := takeWhile_whole digits behind
  rw [Decimal.unsigned?, whole_eq, places_eq]
  rcases behind with rfl | ⟨rest, rfl, rest_digits⟩
  · simp [filled, Decimal.exponent?]
  · have rest_whole := List.takeWhile_eq_self_iff.mpr rest_digits
    have rest_empty := List.dropWhile_eq_nil_iff.mpr rest_digits
    simp [filled, rest_whole, rest_empty, Decimal.exponent?]

theorem IsPlainNumber.exists_float? (number : IsPlainNumber raw) :
    ∃ value, Decimal.float? raw = some value := by
  obtain ⟨sign, whole, places, parts, signed, ⟨filled, digits⟩, behind⟩ := number.exists_parts
  obtain ⟨first, rest, rfl⟩ := List.exists_cons_of_ne_nil filled
  have first_digit := digits first (by simp)
  have read (negative : Bool) := exists_unsigned? filled digits behind negative
  obtain ⟨unsigned, unsigned_eq⟩ : ∃ unsigned, first :: rest ++ places = unsigned := ⟨_, rfl⟩
  have first_eq : unsigned.head? = some first := by rw [← unsigned_eq]; rfl
  rw [unsigned_eq] at parts read
  have inside : first ∈ (String.ofList unsigned).toList := by
    rw [String.toList_ofList]
    exact List.mem_of_mem_head? first_eq
  -- The digit in front tells a number from the words for infinity and for no number.
  have no_word (word : String) (letters : word.toList.all (!·.isDigit) = true) :
      (Text.asciiFold (String.ofList unsigned) == word) = false :=
    beq_eq_false_iff_ne.mpr (Text.asciiFold_ne_of_isDigit first_digit inside letters)
  have no_inf := no_word "inf" (by decide)
  have no_infinity := no_word "infinity" (by decide)
  have no_nan := no_word "nan" (by decide)
  rw [Decimal.float?, parts]
  rcases signed with rfl | rfl
  · obtain ⟨value, value_eq⟩ := read false
    rw [List.nil_append]
    split
    next negative cs cut =>
    split at cut
    · next minus =>
      obtain rfl := Option.some.inj first_eq
      simp at first_digit
    · next plus =>
      obtain rfl := Option.some.inj first_eq
      simp at first_digit
    · obtain ⟨rfl, rfl⟩ := cut
      exact ⟨value.toFloat, by simp only [no_inf, no_infinity, no_nan, value_eq]; rfl⟩
  · obtain ⟨value, value_eq⟩ := read true
    refine ⟨value.toFloat, ?_⟩
    simp only [List.cons_append, List.nil_append, no_inf, no_infinity, no_nan, value_eq]
    rfl

end Value

end EventWiki
