import Mathlib.Tactic.SplitIfs
import Legible.Proofs.Text.Decimal
import Legible.Proofs.Value.Fields
import Legible.Value.Parser
import Legible.Value.Printer

/-!
# Reading what was written

A document that was written is read as the value that was written (`parse?_print`), for every value
without numbers of double precision whose objects have distinct names and whose integers have no
more digits than are read.

A value is read from the front of a longer document.  Only a numeral could go on in what follows, so
what follows is asked to be empty or to begin with a comma or a closing bracket (`Closes`).
-/

namespace Legible.Value

/-! ## Values that are read back -/

mutual

/-- Whether a value has no number of double precision, no integer of too many digits, and no object
with a name twice. -/
def IsPlain : Value → Prop
  | null => True
  | bool _ => True
  | int n => (Text.ofNat n.natAbs).length ≤ Number.digitLimit
  | double _ => False
  | str _ => True
  | arr items => ItemsPlain items
  | obj fields => (Fields.names fields).Nodup ∧ FieldsPlain fields

/-- Whether all items are plain. -/
def ItemsPlain : List Value → Prop
  | [] => True
  | v :: rest => IsPlain v ∧ ItemsPlain rest

/-- Whether the values of all fields are plain. -/
def FieldsPlain : List (Text × Value) → Prop
  | [] => True
  | (_, v) :: rest => IsPlain v ∧ FieldsPlain rest

end

/-- Whether a text is empty or begins with a character that ends a value. -/
def Closes (t : Text) : Prop := ∀ c ∈ t.head?, c = ',' ∨ c = ']' ∨ c = '\x7d'

theorem closes_nil : Closes [] := by simp [Closes]

theorem closes_cons {c : Char} {t : Text} (h : c = ',' ∨ c = ']' ∨ c = '\x7d') :
    Closes (c :: t) := by
  intro d hd
  simp only [List.head?_cons, Option.mem_def, Option.some.injEq] at hd
  exact hd ▸ h

/-! ## Blanks -/

theorem skipSpace_cons {c : Char} (h : isSpace c = false) (t : Text) :
    skipSpace (c :: t) = c :: t := by
  rw [skipSpace, List.dropWhile_cons_of_neg (by simp [h])]

/-! ## Numbers -/

theorem readDigits_ofNat (n : Nat) {rest : Text} (h : Closes rest) :
    readDigits (Text.ofNat n ++ rest) = (Text.ofNat n, rest) := by
  have hall : ∀ c ∈ Text.ofNat n, Text.isAsciiDigit c = true :=
    fun c hc => Text.isAsciiDigit_of_mem_ofNat hc
  have hrest : rest.takeWhile Text.isAsciiDigit = [] ∧
      rest.dropWhile Text.isAsciiDigit = rest := by
    cases rest with
    | nil => exact ⟨rfl, rfl⟩
    | cons c rest =>
      have hc : Text.isAsciiDigit c = false := by
        rcases h c (by simp) with rfl | rfl | rfl <;> decide
      exact ⟨List.takeWhile_cons_of_neg (by simp [hc]), List.dropWhile_cons_of_neg (by simp [hc])⟩
  rw [readDigits, List.takeWhile_append_of_pos hall, List.dropWhile_append_of_pos hall, hrest.1,
    hrest.2, List.append_nil]

theorem readWhole_ofNat (n : Nat) {rest : Text} (h : Closes rest) :
    readWhole (Text.ofNat n ++ rest) = some (Text.ofNat n, rest) := by
  obtain ⟨c, more, hn⟩ := List.exists_cons_of_ne_nil (Text.ofNat_ne_nil n)
  by_cases hc : c = '0'
  · -- only zero begins with zero, and it has no other digit
    have hzero : n = 0 := Text.eq_zero_of_ofNat_eq_cons (hc ▸ hn)
    rw [hzero, Text.ofNat_zero]
    rfl
  · have hdigits := readDigits_ofNat n h
    rw [hn] at hdigits ⊢
    rw [List.cons_append] at hdigits ⊢
    rw [readWhole]
    · rw [hdigits]
    · rintro r hr
      exact hc (List.cons.inj hr).1

theorem readFraction_of_closes {t : Text} (h : Closes t) : readFraction t = ([], t) := by
  unfold readFraction
  split
  · rename_i rest
    have := h '.' (by simp)
    simp at this
  · rfl

theorem readExponent_of_closes {t : Text} (h : Closes t) : readExponent t = (none, t) := by
  unfold readExponent
  cases t with
  | nil => rfl
  | cons c t =>
    have hc : (c = 'e' || c = 'E') = false := by
      rcases h c (by simp) with rfl | rfl | rfl <;> decide
    simp only [hc, Bool.false_eq_true, if_false]

theorem digitsValue_ofNat (n : Nat) : digitsValue (Text.ofNat n) = n := Text.ofDigits_ofNat n

theorem readNumber_ofNat {n : Nat} (hn : (Text.ofNat n).length ≤ Number.digitLimit)
    (negative : Bool) {rest : Text} (h : Closes rest) :
    readNumber (some Number.digitLimit) negative (Text.ofNat n ++ rest) =
      some (.int (if negative then -(n : Int) else n), rest) := by
  have hlimit : ¬ Number.digitLimit < (Text.ofNat n).length := by omega
  simp [readNumber, readWhole_ofNat n h, readFraction_of_closes h, readExponent_of_closes h,
    digitsValue_ofNat, hlimit]

/-- A numeral is no name, whether it has a sign or not. -/
theorem readName_ofNat (n : Nat) (rest : Text) :
    readName (Text.ofNat n ++ rest) = none ∧ readName ('-' :: (Text.ofNat n ++ rest)) = none := by
  obtain ⟨c, more, hn⟩ := List.exists_cons_of_ne_nil (Text.ofNat_ne_nil n)
  have hc := Text.toNat_of_mem_ofNat (c := c) (n := n) (by simp [hn])
  have hne {d : Char} (hd : d.toNat < 48 ∨ 57 < d.toNat) : d ≠ c := by
    rintro rfl
    omega
  rw [hn, List.cons_append]
  constructor
  · simp [readName, after?, hne (d := 'n') (by decide), hne (d := 't') (by decide),
      hne (d := 'f') (by decide), hne (d := 'N') (by decide), hne (d := 'I') (by decide),
      hne (d := '-') (by decide)]
  · simp [readName, after?, hne (d := 'I') (by decide)]

/-! ## Text -/

theorem hexValue?_digitChar {d : Nat} (h : d < 16) : Text.hexValue? (Nat.digitChar d) = some d := by
  have hall : ∀ d < 16, Text.hexValue? (Nat.digitChar d) = some d := by decide
  exact hall d h

theorem readHex4_hexDigits {n : Nat} (h : n < 0x10000) (rest : Text) :
    readHex4 (Text.hexDigits 4 n ++ rest) = some (n, rest) := by
  have hsum : ((n / 16 / 16 / 16 % 16 * 16 + n / 16 / 16 % 16) * 16 + n / 16 % 16) * 16 + n % 16 =
      n := by omega
  have hdigit (k : Nat) : Text.hexValue? (Nat.digitChar (k % 16)) = some (k % 16) :=
    hexValue?_digitChar (Nat.mod_lt _ (by decide))
  simp [Text.hexDigits, readHex4, hdigit, hsum]

/-- A character of a text is read back, and the text after it as before. -/
theorem readText_printChar (fuel : Nat) (c : Char) (rest : Text) :
    readText (fuel + 1) (printChar c ++ rest) =
      (readText fuel rest).map fun p => (c :: p.1, p.2) := by
  have hread (t : Option (Text × Text)) :
      (t.bind fun p => some (c :: p.1, p.2)) = t.map fun p => (c :: p.1, p.2) := by
    cases t <;> rfl
  rw [← hread]
  unfold printChar
  split_ifs with h₁ h₂ h₃ h₄ h₅ h₆ h₇ h₈
  · subst h₁; rfl
  · subst h₂; rfl
  · subst h₃; rfl
  · subst h₄; rfl
  · subst h₅; rfl
  · subst h₆; rfl
  · subst h₇; rfl
  · have hunit : readUnit c.toNat rest = (some c, rest) := by
      unfold readUnit
      rw [if_neg (by omega), if_neg (by omega), Char.ofNat_toNat]
    simp only [List.cons_append, List.nil_append, readText,
      readHex4_hexDigits (show c.toNat < 0x10000 by omega), Option.bind_eq_bind, Option.bind_some,
      hunit]
    rfl
  · rw [List.cons_append, List.nil_append, readText]
    · rw [if_neg (by simp [h₂, h₈])]
      rfl
    all_goals simp_all

theorem length_le_flatMap_printChar (t : Text) : t.length ≤ (t.flatMap printChar).length := by
  induction t with
  | nil => simp
  | cons c t ih =>
    have hc : 1 ≤ (printChar c).length := by
      unfold printChar
      split_ifs <;> simp
    simp only [List.flatMap_cons, List.length_append, List.length_cons]
    omega

theorem readText_flatMap_printChar {fuel : Nat} {t : Text} (h : t.length < fuel) (rest : Text) :
    readText fuel (t.flatMap printChar ++ '"' :: rest) = some (t, rest) := by
  induction t generalizing fuel with
  | nil =>
    obtain ⟨fuel, rfl⟩ : ∃ n, fuel = n + 1 := ⟨fuel - 1, by omega⟩
    rfl
  | cons c t ih =>
    obtain ⟨fuel, rfl⟩ : ∃ n, fuel = n + 1 := ⟨fuel - 1, by omega⟩
    rw [List.flatMap_cons, List.append_assoc, readText_printChar,
      ih (by rw [List.length_cons] at h; omega)]
    rfl

/-- A text is read back after its opening quote, with as much fuel as the readers of values and of
fields give. -/
theorem readText_printText (t rest : Text) :
    readText ((t.flatMap printChar ++ '"' :: rest).length + 1) (t.flatMap printChar ++ '"' :: rest) =
      some (t, rest) := by
  apply readText_flatMap_printChar
  have := length_le_flatMap_printChar t
  rw [List.length_append]
  omega

theorem printText_append (t rest : Text) :
    printText t ++ rest = '"' :: (t.flatMap printChar ++ '"' :: rest) := by
  simp [printText]

/-! ## Values -/

theorem not_mem_of_nodup {k : Text} {v : Value} {found fs : Fields}
    (h : (Fields.names (found ++ (k, v) :: fs)).Nodup) : k ∉ Fields.names found := by
  simp only [Fields.names, List.map_append, List.map_cons, List.nodup_append, List.mem_cons] at h
  exact fun hk => h.2.2 k hk k (Or.inl rfl) rfl

/-- What a written value begins with: no blank, and no bracket that closes a list. -/
theorem print_eq_cons {v : Value} (h : IsPlain v) :
    ∃ c t, print v = c :: t ∧ isSpace c = false ∧ c ≠ ']' := by
  cases v with
  | null => exact ⟨_, _, rfl, by decide, by decide⟩
  | bool b => cases b <;> exact ⟨_, _, rfl, by decide, by decide⟩
  | int n =>
    cases n with
    | ofNat n =>
      obtain ⟨c, t, hn⟩ := List.exists_cons_of_ne_nil (Text.ofNat_ne_nil n)
      have hc := Text.toNat_of_mem_ofNat (c := c) (n := n) (by simp [hn])
      refine ⟨c, t, hn, ?_, ?_⟩
      · simp only [isSpace, Bool.or_eq_false_iff, decide_eq_false_iff_not]
        refine ⟨⟨⟨?_, ?_⟩, ?_⟩, ?_⟩ <;> rintro rfl <;> simp at hc
      · rintro rfl
        simp at hc
    | negSucc n => exact ⟨_, _, rfl, by decide, by decide⟩
  | double x => exact absurd h (by simp [IsPlain])
  | str t => exact ⟨_, _, rfl, by decide, by decide⟩
  | arr items => exact ⟨_, _, rfl, by decide, by decide⟩
  | obj fields => exact ⟨_, _, rfl, by decide, by decide⟩

theorem skipSpace_print {v : Value} (h : IsPlain v) (rest : Text) :
    skipSpace (print v ++ rest) = print v ++ rest := by
  obtain ⟨c, t, hv, hc, -⟩ := print_eq_cons h
  rw [hv, List.cons_append, skipSpace_cons hc]

theorem readValue_int {n : Int} {fuel : Nat} {rest : Text} (h : IsPlain (.int n))
    (hr : Closes rest) :
    readValue (some Number.digitLimit) (fuel + 1) none (print (.int n) ++ rest) =
      .ok (.int n, rest) := by
  have hne {k : Nat} {d : Char} (hd : d.toNat < 48 ∨ 57 < d.toNat) {more : Text} :
      Text.ofNat k ++ rest ≠ d :: more := by
    obtain ⟨c, t, hk⟩ := List.exists_cons_of_ne_nil (Text.ofNat_ne_nil k)
    have hc := Text.toNat_of_mem_ofNat (c := c) (n := k) (by simp [hk])
    rw [hk, List.cons_append]
    intro e
    rw [(List.cons.inj e).1] at hc
    omega
  cases n with
  | ofNat k =>
    show readValue _ _ _ (Text.ofNat k ++ rest) = _
    rw [readValue, (readName_ofNat k rest).1]
    · have hk : (Text.ofNat k).length ≤ Number.digitLimit := h
      dsimp only
      rw [readNumber_ofNat hk false hr]
      rfl
    all_goals exact fun _ e => hne (by decide) e
  | negSucc k =>
    show readValue _ _ _ ('-' :: (Text.ofNat (k + 1) ++ rest)) = _
    rw [readValue, (readName_ofNat (k + 1) rest).2]
    · have hk : (Text.ofNat (k + 1)).length ≤ Number.digitLimit := h
      dsimp only
      rw [readNumber_ofNat hk true hr]
      rfl

theorem readValue_arr {limit : Option Nat} {fuel : Nat} {c : Char} {t rest : Text}
    {items : List Value} (hspace : isSpace c = false) (hclose : c ≠ ']')
    (h : readItems limit fuel none (c :: t) = .ok (items, rest)) :
    readValue limit (fuel + 1) none ('[' :: c :: t) = .ok (.arr items, rest) := by
  rw [readValue, skipSpace_cons hspace]
  simp only [deeper, Except.bind, bind, pure, Except.pure]
  split
  · rename_i e
    exact absurd (List.cons.inj e).1 hclose
  · rw [h]

theorem readValue_obj {limit : Option Nat} {fuel : Nat} {t rest : Text} {fields : Fields}
    (h : readFields limit fuel none [] ('"' :: t) = .ok (fields, rest)) :
    readValue limit (fuel + 1) none ('\x7b' :: '"' :: t) = .ok (.obj fields, rest) := by
  rw [readValue, skipSpace_cons (by decide)]
  show (readFields limit fuel none [] ('"' :: t)).bind (fun p => Except.ok (Value.obj p.1, p.2)) = _
  rw [h]
  rfl

/-- One written field is read, up to the comma or brace behind its value. -/
theorem readFields_field {limit : Option Nat} {k rest : Text} {v : Value} {found : Fields}
    {fuel : Nat} {c : Char} (hv : IsPlain v) (hk : k ∉ Fields.names found)
    (h : readValue limit fuel none (print v ++ c :: rest) = .ok (v, c :: rest))
    (hc : isSpace c = false) :
    readFields limit (fuel + 1) none found (printText k ++ ':' :: (print v ++ c :: rest)) =
      if c = ',' then readFields limit fuel none (found ++ [(k, v)]) rest
      else if c = '\x7d' then .ok (found ++ [(k, v)], rest)
      else .error .malformed := by
  rw [printText_append, readFields, skipSpace_cons (by decide)]
  simp only [readText_printText, orMalformed, Except.bind, bind, pure, Except.pure,
    skipSpace_cons (show isSpace ':' = false by decide), skipSpace_print hv, h,
    skipSpace_cons hc, Fields.set_of_not_mem hk]
  split
  · rename_i e
    obtain ⟨rfl, rfl⟩ := List.cons.inj e
    rfl
  · rename_i e
    obtain ⟨rfl, rfl⟩ := List.cons.inj e
    rfl
  · rename_i hcomma hbrace
    have h₁ : c ≠ ',' := fun e => hcomma rest (by rw [e])
    have h₂ : c ≠ '\x7d' := fun e => hbrace rest (by rw [e])
    rw [if_neg h₁, if_neg h₂]

mutual

/-- A written value is read back from the front of a document. -/
theorem readValue_print : ∀ (v : Value) {fuel : Nat} {rest : Text}, IsPlain v →
    (print v).length ≤ fuel → Closes rest →
    readValue (some Number.digitLimit) fuel none (print v ++ rest) = .ok (v, rest)
  | v, 0, _, hv, hf, _ => by
    obtain ⟨c, t, hc, -⟩ := print_eq_cons hv
    simp [hc] at hf
  | .null, _ + 1, _, _, _, _ => by simp [print, readValue, readName, after?]
  | .bool true, _ + 1, _, _, _, _ => by simp [print, readValue, readName, after?]
  | .bool false, _ + 1, _, _, _, _ => by simp [print, readValue, readName, after?]
  | .int _, _ + 1, _, hv, _, hr => readValue_int hv hr
  | .double _, _ + 1, _, hv, _, _ => absurd hv (by simp [IsPlain])
  | .str t, _ + 1, rest, _, _, _ => by
    show readValue _ _ _ (printText t ++ rest) = _
    rw [printText_append, readValue, readText_printText]
    rfl
  | .arr [], _ + 1, rest, _, _, _ => by
    show readValue _ _ _ ('[' :: ']' :: rest) = _
    rw [readValue, skipSpace_cons (by decide)]
    rfl
  | .arr (v :: vs), fuel + 1, rest, hv, hf, _ => by
    obtain ⟨c, t, hc, hspace, hclose⟩ := print_eq_cons (v := v) hv.1
    have hlen : (printItems (v :: vs)).length + 1 ≤ fuel := by
      simp only [print, List.length_append, List.length_cons, List.length_nil] at hf
      omega
    have hitems := @readItems_printItems v vs fuel rest hv hlen
    obtain ⟨more, hmore⟩ : ∃ more, printItems (v :: vs) ++ ']' :: rest = c :: more := by
      cases vs <;> simp [printItems, hc]
    have hprint : print (.arr (v :: vs)) ++ rest = '[' :: (printItems (v :: vs) ++ ']' :: rest) := by
      simp [print]
    rw [hmore] at hitems
    rw [hprint, hmore, readValue_arr hspace hclose hitems]
  | .obj [], _ + 1, rest, _, _, _ => by
    show readValue _ _ _ ('\x7b' :: '\x7d' :: rest) = _
    rw [readValue, skipSpace_cons (by decide)]
    rfl
  | .obj (f :: fs), fuel + 1, rest, hv, hf, _ => by
    have hlen : (printFields (f :: fs)).length + 1 ≤ fuel := by
      simp only [print, List.length_append, List.length_cons, List.length_nil] at hf
      omega
    have hfields := @readFields_printFields f fs [] fuel rest hv.2 hv.1 hlen
    obtain ⟨more, hmore⟩ : ∃ more, printFields (f :: fs) ++ '\x7d' :: rest = '"' :: more := by
      obtain ⟨k, v⟩ := f
      cases fs <;> simp [printFields, printText]
    have hprint : print (.obj (f :: fs)) ++ rest =
        '\x7b' :: (printFields (f :: fs) ++ '\x7d' :: rest) := by
      simp [print]
    rw [hmore] at hfields
    rw [hprint, hmore, readValue_obj hfields]
    rfl

/-- Written items are read back up to their bracket. -/
theorem readItems_printItems : ∀ (v : Value) (vs : List Value) {fuel : Nat} {rest : Text},
    ItemsPlain (v :: vs) → (printItems (v :: vs)).length + 1 ≤ fuel →
    readItems (some Number.digitLimit) fuel none (printItems (v :: vs) ++ ']' :: rest) =
      .ok (v :: vs, rest)
  | _, _, 0, _, _, hf => by simp at hf
  | v, [], fuel + 1, rest, hv, hf => by
    simp only [printItems] at hf ⊢
    rw [readItems, skipSpace_print hv.1,
      readValue_print v hv.1 (by omega) (closes_cons (by decide))]
    rfl
  | v, w :: vs, fuel + 1, rest, hv, hf => by
    simp only [printItems, List.length_append, List.length_cons, List.append_assoc,
      List.cons_append] at hf ⊢
    rw [readItems, skipSpace_print hv.1,
      readValue_print v hv.1 (by omega) (closes_cons (by decide))]
    have hpos : 1 ≤ (print v).length := by
      obtain ⟨c, t, hc, -⟩ := print_eq_cons hv.1
      simp [hc]
    have hrest := @readItems_printItems w vs fuel rest hv.2 (by omega)
    simp only [Except.bind, bind, skipSpace_cons (show isSpace ',' = false by decide), hrest]
    rfl

/-- Written fields are read back up to their brace, and put behind those read before. -/
theorem readFields_printFields : ∀ (f : Text × Value) (fs : Fields) {found : Fields} {fuel : Nat}
    {rest : Text}, FieldsPlain (f :: fs) → (Fields.names (found ++ f :: fs)).Nodup →
    (printFields (f :: fs)).length + 1 ≤ fuel →
    readFields (some Number.digitLimit) fuel none found (printFields (f :: fs) ++ '\x7d' :: rest) =
      .ok (found ++ f :: fs, rest)
  | _, _, _, 0, _, _, _, hf => by simp at hf
  | (k, v), [], found, fuel + 1, rest, hv, hn, hf => by
    simp only [printFields, List.length_append, List.length_cons, List.append_assoc,
      List.cons_append] at hf ⊢
    have hvalue := @readValue_print v fuel ('\x7d' :: rest) hv.1 (by omega)
      (closes_cons (by decide))
    rw [readFields_field hv.1 (not_mem_of_nodup hn) hvalue (by decide)]
    rfl
  | (k, v), g :: fs, found, fuel + 1, rest, hv, hn, hf => by
    simp only [printFields, List.length_append, List.length_cons, List.append_assoc,
      List.cons_append] at hf ⊢
    have hvalue := @readValue_print v fuel (',' :: (printFields (g :: fs) ++ '\x7d' :: rest))
      hv.1 (by omega) (closes_cons (by decide))
    rw [readFields_field hv.1 (not_mem_of_nodup hn) hvalue (by decide), if_pos rfl,
      readFields_printFields g fs hv.2 (by simpa using hn) (by omega), List.append_assoc]
    rfl

end

/-! ## Documents -/

/-- A written value is read as that value. -/
theorem parse?_print {v : Value} (h : IsPlain v) : parse? (print v) = some v := by
  have hskip : skipSpace (print v) = print v := by
    simpa using skipSpace_print h []
  have hread := @readValue_print v (2 * (print v).length + 1) [] h (by omega) closes_nil
  rw [List.append_nil] at hread
  simp only [parse?, parseWithin, hskip, hread]
  rfl

end Legible.Value
