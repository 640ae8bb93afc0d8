import Legible.Text.Digit

/-!
# UTF-8

The octets of a text and the text of a list of octets.  `decode?` accepts the shortest form of
each character only, and no surrogate, so that `encode` is its one inverse.
-/

namespace Legible

/-- A string of octets. -/
abbrev Bytes := List UInt8

/-- The octets that pairs of hexadecimal digits stand for. -/
def Bytes.ofHex : Text → Bytes
  | a :: b :: rest =>
    let digit (c : Char) : Nat := (Text.hexValue? c).getD 0
    UInt8.ofNat (digit a * 16 + digit b) :: ofHex rest
  | _ => []

namespace Text

/-- The octets of one character. -/
def encodeChar (c : Char) : Bytes :=
  let n := c.toNat
  let tail (k : Nat) : UInt8 := UInt8.ofNat (0x80 + n / k % 64)
  if n < 0x80 then [UInt8.ofNat n]
  else if n < 0x800 then [UInt8.ofNat (0xC0 + n / 64), tail 1]
  else if n < 0x10000 then [UInt8.ofNat (0xE0 + n / 4096), tail 64, tail 1]
  else [UInt8.ofNat (0xF0 + n / 262144), tail 4096, tail 64, tail 1]

/-- The octets of a text. -/
def encode (t : Text) : Bytes := t.flatMap encodeChar

/-- The value of a continuation octet. -/
def tailValue? (b : UInt8) : Option Nat :=
  if 0x80 ≤ b.toNat ∧ b.toNat < 0xC0 then some (b.toNat - 0x80) else none

/-- The character of a code point that is no surrogate and not below `least`. -/
def charOf? (least n : Nat) : Option Char :=
  if h : n.isValidChar then if least ≤ n then some (Char.ofNatAux n h) else none else none

/-- The first character of a string of octets and the octets after it. -/
def decodeChar? : Bytes → Option (Char × Bytes)
  | [] => none
  | a :: rest =>
    if a.toNat < 0x80 then (charOf? 0 a.toNat).map (·, rest)
    else if a.toNat < 0xC0 then none
    else if a.toNat < 0xE0 then
      match rest with
      | b :: rest => do
        let b ← tailValue? b
        let c ← charOf? 0x80 ((a.toNat - 0xC0) * 64 + b)
        pure (c, rest)
      | _ => none
    else if a.toNat < 0xF0 then
      match rest with
      | b :: c :: rest => do
        let b ← tailValue? b
        let c ← tailValue? c
        let d ← charOf? 0x800 ((a.toNat - 0xE0) * 4096 + b * 64 + c)
        pure (d, rest)
      | _ => none
    else if a.toNat < 0xF8 then
      match rest with
      | b :: c :: d :: rest => do
        let b ← tailValue? b
        let c ← tailValue? c
        let d ← tailValue? d
        let e ← charOf? 0x10000 ((a.toNat - 0xF0) * 262144 + b * 4096 + c * 64 + d)
        pure (e, rest)
      | _ => none
    else none

theorem decodeChar?_length {bs : Bytes} {c : Char} {rest : Bytes}
    (h : decodeChar? bs = some (c, rest)) : rest.length < bs.length := by
  cases bs with
  | nil => simp [decodeChar?] at h
  | cons a bs =>
    simp only [decodeChar?] at h
    split at h
    · simp only [Option.map_eq_some_iff, Prod.mk.injEq] at h
      obtain ⟨_, _, _, rfl⟩ := h
      simp
    split at h
    · simp at h
    split at h
    · split at h
      · simp only [Option.bind_eq_bind, Option.bind_eq_some_iff, Option.pure_def,
          Option.some.injEq, Prod.mk.injEq] at h
        obtain ⟨_, _, _, _, _, rfl⟩ := h
        simp only [List.length_cons]
        omega
      · simp at h
    split at h
    · split at h
      · simp only [Option.bind_eq_bind, Option.bind_eq_some_iff, Option.pure_def,
          Option.some.injEq, Prod.mk.injEq] at h
        obtain ⟨_, _, _, _, _, _, _, rfl⟩ := h
        simp only [List.length_cons]
        omega
      · simp at h
    split at h
    · split at h
      · simp only [Option.bind_eq_bind, Option.bind_eq_some_iff, Option.pure_def,
          Option.some.injEq, Prod.mk.injEq] at h
        obtain ⟨_, _, _, _, _, _, _, _, _, rfl⟩ := h
        simp only [List.length_cons]
        omega
      · simp at h
    · simp at h

/-- The text of a string of octets, or none where the octets are no text. -/
def decode? (bs : Bytes) : Option Text :=
  match _h : bs with
  | [] => some []
  | _ :: _ =>
    match _hd : decodeChar? bs with
    | none => none
    | some (c, rest) => (decode? rest).map (c :: ·)
termination_by bs.length
decreasing_by
  subst _h
  exact decodeChar?_length _hd

/-- The characters of the octets below 128; all other octets are left out. -/
def asciiOf (bs : Bytes) : Text :=
  (bs.filter (·.toNat < 0x80)).map fun b => Char.ofNat b.toNat

end Text

end Legible
