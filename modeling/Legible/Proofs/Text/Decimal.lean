import Legible.Number.Reading
import Mathlib.Algebra.Group.Nat.Defs

/-!
# Decimal numerals

The numeral of a natural number is made of digits (`toNat_of_mem_ofNat`), begins with zero for zero
only (`eq_zero_of_ofNat_eq_cons`), and is read back as the number (`ofText_ofNat`) as long as it has
no more digits than a numeral may have.
-/

namespace Legible

namespace Text

/-- The code points of the characters of a numeral. -/
theorem toNat_of_mem_ofNat {c : Char} {n : Nat} (h : c ∈ ofNat n) :
    48 ≤ c.toNat ∧ c.toNat ≤ 57 := by
  have hd : c.isDigit = true := Nat.isDigit_of_mem_toDigits (by decide) (by decide) h
  simp only [Char.isDigit, Bool.and_eq_true, decide_eq_true_eq, UInt32.le_iff_toNat_le] at hd
  exact hd

theorem ofNat_ne_nil (n : Nat) : ofNat n ≠ [] := Nat.toDigits_ne_nil

theorem length_ofNat_le_iff {n k : Nat} (hk : 0 < k) : (ofNat n).length ≤ k ↔ n < 10 ^ k :=
  Nat.length_toDigits_le_iff (by decide) hk

theorem ofNat_zero : ofNat 0 = ['0'] := Nat.toDigits_zero 10

/-- A numeral that begins with zero is that of zero. -/
theorem eq_zero_of_ofNat_eq_cons {n : Nat} {rest : Text} (h : ofNat n = '0' :: rest) : n = 0 := by
  induction n using Nat.strongRecOn generalizing rest with
  | ind n ih =>
    rw [ofNat, Nat.toDigits_eq_if (by decide)] at h
    split at h
    · rename_i hlt
      have hc : (Nat.digitChar n).toNat = 48 := by
        rw [(List.cons.inj h).1]
        rfl
      rw [Nat.toNat_digitChar_of_lt_ten hlt] at hc
      omega
    · rename_i hge
      obtain ⟨c, more, hd⟩ := List.exists_cons_of_ne_nil (ofNat_ne_nil (n / 10))
      have hd' : Nat.toDigits 10 (n / 10) = c :: more := hd
      rw [hd', List.cons_append] at h
      have hzero := ih (n / 10) (by omega) ((List.cons.inj h).1 ▸ hd)
      omega

theorem digitValue?_of_mem_ofNat {c : Char} {n : Nat} (h : c ∈ ofNat n) :
    digitValue? c = some (c.toNat - 48) := by
  obtain ⟨h₁, h₂⟩ := toNat_of_mem_ofNat h
  have hlt : ¬ c.toNat < 0x30 := by omega
  have hmod : (c.toNat - 0x30) % 10 = c.toNat - 48 := by omega
  simp only [digitValue?, decimalRanges, digitIn, hlt, h₂, if_true, if_false, hmod]

theorem isAsciiDigit_of_mem_ofNat {c : Char} {n : Nat} (h : c ∈ ofNat n) :
    isAsciiDigit c = true := by
  obtain ⟨h₁, h₂⟩ := toNat_of_mem_ofNat h
  simp only [isAsciiDigit, Bool.and_eq_true, decide_eq_true_eq, Char.le_def, UInt32.le_iff_toNat_le]
  exact ⟨h₁, h₂⟩

/-- The digits of a numeral spell its number. -/
theorem ofDigits_ofNat (n : Nat) : ofDigits 10 ((ofNat n).map fun c => c.toNat - 48) = n := by
  rw [ofDigits, List.foldl_map]
  exact Nat.ofDigitChars_ten_toDigits

end Text

namespace Number

open Text

theorem isMargin_of_mem_ofNat {c : Char} {n : Nat} (h : c ∈ ofNat n) : isMargin c = false := by
  obtain ⟨h₁, h₂⟩ := toNat_of_mem_ofNat h
  have hblank : isBlank c = false := by
    simp only [isBlank, blankRanges, inRanges]
    grind
  simp [isMargin, hblank]

theorem trim_of_forall_not_margin {t : Text} (h : ∀ c ∈ t, isMargin c = false) : trim t = t := by
  have hdrop {t : Text} (h : ∀ c ∈ t, isMargin c = false) : t.dropWhile isMargin = t := by
    cases t with
    | nil => rfl
    | cons c rest => rw [List.dropWhile_cons_of_neg (by simp [h c])]
  rw [trim, hdrop h, hdrop (by simpa using h), List.reverse_reverse]

theorem splitSign_ofNat (n : Nat) : splitSign (ofNat n) = (false, ofNat n) := by
  have hmem {c : Char} (h : c ∈ ofNat n) := toNat_of_mem_ofNat h
  unfold splitSign
  split
  · rename_i rest h
    have := hmem (c := '-') (by simp [h])
    simp at this
  · rename_i rest h
    have := hmem (c := '+') (by simp [h])
    simp at this
  · rfl

/-- Digits alone are a numeral. -/
theorem numeralDigits?_of_digits {t : Text} {f : Char → Nat} (hne : t ≠ [])
    (h : ∀ c ∈ t, digitValue? c = some (f c)) : numeralDigits? t = some (t.map f) := by
  fun_induction numeralDigits? t with
  | case1 => exact absurd rfl hne
  | case2 c => simp [h c]
  | case3 c rest ih =>
    have := h '_' (by simp)
    simp [digitValue?, digitIn, decimalRanges] at this
  | case4 c rest hrest hunder ih =>
    have hne : rest ≠ [] := fun e => hrest e
    simp [h c, ih hne fun c hc => h c (by simp [hc])]

theorem ofText_ofNat {n : Nat} (h : n < 10 ^ digitLimit) : ofText (ofNat n) = .ok (n : Int) := by
  have htrim : trim (ofNat n) = ofNat n :=
    trim_of_forall_not_margin fun c hc => isMargin_of_mem_ofNat hc
  have hdigits : numeralDigits? (ofNat n) = some ((ofNat n).map fun c => c.toNat - 48) :=
    numeralDigits?_of_digits (ofNat_ne_nil n) fun c hc => digitValue?_of_mem_ofNat hc
  have hlen : (ofNat n).length ≤ digitLimit := (length_ofNat_le_iff (by decide)).2 h
  simp only [ofText, htrim, splitSign_ofNat, hdigits, ofNumeral, List.length_map]
  rw [if_neg (by omega), ofDigits_ofNat]
  rfl

end Number

end Legible
