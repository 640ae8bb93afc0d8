import Mathlib.Tactic.SplitIfs
import Legible.Text.Utf8

/-!
# Texts as octets

A text is read back from its octets (`decode?_encode`).  The octets of ASCII text are the code
points of its characters (`encode_of_ascii`), and its characters are read back from them one by
one (`asciiOf_encode`).
-/

namespace Legible.Text

theorem encode_cons (c : Char) (t : Text) : encode (c :: t) = encodeChar c ++ encode t := rfl

/-! ## One character -/

theorem toNat_lt_max (c : Char) : c.toNat < 0x110000 := by
  have h := c.valid
  simp only [UInt32.isValidChar, Nat.isValidChar, Char.toNat_val] at h
  omega

theorem toNat_octet {n : Nat} (h : n < 256) : (UInt8.ofNat n).toNat = n :=
  UInt8.toNat_ofNat_of_lt' h

theorem tailValue?_ofNat {n : Nat} (h : n < 64) : tailValue? (UInt8.ofNat (0x80 + n)) = some n := by
  rw [tailValue?, toNat_octet (by omega), if_pos ⟨by omega, by omega⟩, Nat.add_sub_cancel_left]

theorem charOf?_toNat {c : Char} {least : Nat} (h : least ≤ c.toNat) :
    charOf? least c.toNat = some c := by
  have hv : c.toNat.isValidChar := c.valid
  have hc := Char.ofNat_toNat c
  rw [Char.ofNat, dif_pos hv] at hc
  rw [charOf?, dif_pos hv, if_pos h, hc]

/-- A character is read back from its octets, whatever follows. -/
theorem decodeChar?_encodeChar (c : Char) (rest : Bytes) :
    decodeChar? (encodeChar c ++ rest) = some (c, rest) := by
  have hmax := toNat_lt_max c
  have htail (k : Nat) : tailValue? (UInt8.ofNat (0x80 + c.toNat / k % 64)) =
      some (c.toNat / k % 64) := tailValue?_ofNat (Nat.mod_lt _ (by decide))
  unfold encodeChar
  dsimp only
  split_ifs with h₁ h₂ h₃
  · simp only [List.cons_append, List.nil_append, decodeChar?]
    rw [toNat_octet (by omega), if_pos h₁, charOf?_toNat (by omega)]
    rfl
  · have hsum : (0xC0 + c.toNat / 64 - 0xC0) * 64 + c.toNat / 1 % 64 = c.toNat := by omega
    simp only [List.cons_append, List.nil_append, decodeChar?]
    rw [toNat_octet (by omega), if_neg (by omega), if_neg (by omega), if_pos (by omega)]
    simp only [Option.bind_eq_bind, Option.bind_eq_some_iff]
    refine ⟨_, htail 1, c, ?_, rfl⟩
    rw [hsum]
    exact charOf?_toNat (by omega)
  · have hsum : (0xE0 + c.toNat / 4096 - 0xE0) * 4096 + c.toNat / 64 % 64 * 64 +
        c.toNat / 1 % 64 = c.toNat := by omega
    simp only [List.cons_append, List.nil_append, decodeChar?]
    rw [toNat_octet (by omega), if_neg (by omega), if_neg (by omega), if_neg (by omega),
      if_pos (by omega)]
    simp only [Option.bind_eq_bind, Option.bind_eq_some_iff]
    refine ⟨_, htail 64, _, htail 1, c, ?_, rfl⟩
    rw [hsum]
    exact charOf?_toNat (by omega)
  · have hsum : (0xF0 + c.toNat / 262144 - 0xF0) * 262144 + c.toNat / 4096 % 64 * 4096 +
        c.toNat / 64 % 64 * 64 + c.toNat / 1 % 64 = c.toNat := by omega
    simp only [List.cons_append, List.nil_append, decodeChar?]
    rw [toNat_octet (by omega), if_neg (by omega), if_neg (by omega), if_neg (by omega),
      if_neg (by omega), if_pos (by omega)]
    simp only [Option.bind_eq_bind, Option.bind_eq_some_iff]
    refine ⟨_, htail 4096, _, htail 64, _, htail 1, c, ?_, rfl⟩
    rw [hsum]
    exact charOf?_toNat (by omega)

/-! ## Texts -/

theorem decode?_of_decodeChar? {bs rest : Bytes} {c : Char}
    (h : decodeChar? bs = some (c, rest)) : decode? bs = (decode? rest).map (c :: ·) := by
  cases bs with
  | nil => simp [decodeChar?] at h
  | cons b bs =>
    rw [decode?]
    split <;> simp_all

theorem decode?_encode (t : Text) : decode? (encode t) = some t := by
  induction t with
  | nil => simp [encode, decode?]
  | cons c t ih =>
    rw [encode_cons, decode?_of_decodeChar? (decodeChar?_encodeChar c _), ih]
    rfl

/-- The octet of a carriage return stands for that character only. -/
theorem not_mem_encode {t : Text} (h : '\r' ∉ t) : 13 ∉ encode t := by
  intro hmem
  obtain ⟨c, hc, hmem⟩ := List.mem_flatMap.1 hmem
  have hlead (n : Nat) : UInt8.ofNat n = 13 → n % 256 = 13 := fun e => by
    rw [← UInt8.toNat_ofNat', e]
    rfl
  have hcode : c.toNat = 13 := by
    have hmax := toNat_lt_max c
    unfold encodeChar at hmem
    dsimp only at hmem
    split_ifs at hmem with h₁ h₂ h₃
    · have := hlead _ (List.mem_singleton.1 hmem).symm
      omega
    all_goals
      -- the octets of all other characters are above ASCII
      simp only [List.mem_cons, List.not_mem_nil, or_false, eq_comm (a := (13 : UInt8))] at hmem
      have htail (k : Nat) : UInt8.ofNat (0x80 + c.toNat / k % 64) ≠ 13 := fun e => by
        have := hlead _ e
        omega
      simp only [htail, or_false] at hmem
      have := hlead _ hmem
      omega
  have hreturn : c = '\r' := Char.toNat_inj.1 hcode
  exact h (hreturn ▸ hc)

/-! ## ASCII -/

theorem encodeChar_of_ascii {c : Char} (h : c.toNat < 0x80) :
    encodeChar c = [UInt8.ofNat c.toNat] := by
  simp [encodeChar, h]

theorem encode_of_ascii {t : Text} (h : ∀ c ∈ t, c.toNat < 0x80) :
    encode t = t.map fun c => UInt8.ofNat c.toNat := by
  induction t with
  | nil => rfl
  | cons c t ih =>
    rw [encode_cons, encodeChar_of_ascii (h c (by simp)), ih fun d hd => h d (by simp [hd])]
    rfl

theorem asciiOf_encode {t : Text} (h : ∀ c ∈ t, c.toNat < 0x80) : asciiOf (encode t) = t := by
  rw [encode_of_ascii h]
  induction t with
  | nil => rfl
  | cons c t ih =>
    have hc : (UInt8.ofNat c.toNat).toNat = c.toNat :=
      toNat_octet (by have := h c (by simp); omega)
    have ih := ih fun d hd => h d (by simp [hd])
    simp only [asciiOf] at ih ⊢
    rw [List.map_cons, List.filter_cons_of_pos (by simpa [hc] using h c (by simp)), List.map_cons,
      ih, hc, Char.ofNat_toNat]

theorem asciiOf_append (a b : Bytes) : asciiOf (a ++ b) = asciiOf a ++ asciiOf b := by
  simp [asciiOf]

theorem asciiOf_encode_cons {c : Char} (hc : c.toNat < 0x80) (t : Text) :
    asciiOf (encode (c :: t)) = c :: asciiOf (encode t) := by
  have hone : asciiOf (encode [c]) = [c] :=
    asciiOf_encode fun d hd => List.mem_singleton.1 hd ▸ hc
  have hcons : encode (c :: t) = encode [c] ++ encode t := by simp [encode]
  rw [hcons, asciiOf_append, hone]
  rfl

theorem return_not_mem_asciiOf {bs : Bytes} (h : 13 ∉ bs) : '\r' ∉ asciiOf bs := by
  intro hmem
  obtain ⟨b, hb, hcode⟩ := List.mem_map.1 hmem
  have hlt : b.toNat < 0x80 := by simpa using (List.mem_filter.1 hb).2
  have hvalid : b.toNat.isValidChar := .inl (by omega)
  have hnat : b.toNat = 13 := by
    have hchar := congrArg Char.toNat hcode
    rw [Char.ofNat, dif_pos hvalid] at hchar
    exact hchar
  have hreturn : b = 13 := UInt8.toNat_inj.1 hnat
  exact h (hreturn ▸ (List.mem_filter.1 hb).1)

end Legible.Text
