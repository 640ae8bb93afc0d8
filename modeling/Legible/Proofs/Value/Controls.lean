import Legible.Proofs.Text.Decimal
import Legible.Value.Printer
import Mathlib.Tactic.SplitIfs

/-!
# Documents without controls

A document that was written holds no control below the space (`noControls_print`): text escapes
them, and nothing else that is written has any.  So it is a single line, wherever lines end with a
carriage return, a line feed, or both.
-/

namespace Legible

namespace Text

/-- Whether no character of a text is a control below the space. -/
def NoControls (t : Text) : Prop := ∀ c ∈ t, 0x20 ≤ c.toNat

instance (t : Text) : Decidable (NoControls t) := List.decidableBAll _ t

variable {s t : Text}

theorem noControls_nil : NoControls [] := fun _ h => absurd h List.not_mem_nil

theorem NoControls.append (hs : NoControls s) (ht : NoControls t) : NoControls (s ++ t) :=
  List.forall_mem_append.2 ⟨hs, ht⟩

theorem NoControls.cons {c : Char} (hc : 0x20 ≤ c.toNat) (ht : NoControls t) :
    NoControls (c :: t) :=
  List.forall_mem_cons.2 ⟨hc, ht⟩

theorem noControls_flatMap {α : Type} {l : List α} {f : α → Text}
    (h : ∀ x ∈ l, NoControls (f x)) : NoControls (l.flatMap f) := by
  intro c hc
  obtain ⟨x, hx, hc⟩ := List.mem_flatMap.1 hc
  exact h x hx c hc

theorem NoControls.of_subset (ht : NoControls t) (h : s ⊆ t) : NoControls s :=
  fun c hc => ht c (h hc)

theorem NoControls.return_not_mem (h : NoControls t) : '\r' ∉ t :=
  fun hmem => absurd (h '\r' hmem) (by decide)

theorem noControls_ofNat (n : Nat) : NoControls (ofNat n) := by
  intro c hc
  have hdigit := toNat_of_mem_ofNat hc
  omega

theorem noControls_ofInt (n : Int) : NoControls (ofInt n) := by
  cases n with
  | ofNat n => exact noControls_ofNat n
  | negSucc n => exact .cons (by decide) (noControls_ofNat (n + 1))

theorem noControls_hexDigits (width n : Nat) : NoControls (hexDigits width n) := by
  have hdigit : ∀ d < 16, 0x20 ≤ (Nat.digitChar d).toNat := by decide
  induction width generalizing n with
  | zero => exact noControls_nil
  | succ width ih =>
    have hlast : 0x20 ≤ (Nat.digitChar (n % 16)).toNat := hdigit _ (Nat.mod_lt n (by decide))
    exact (ih (n / 16)).append (.cons hlast noControls_nil)

end Text

open Text (NoControls)

/-! ## Numbers of double precision -/

namespace Binary64

theorem noControls_positional {digits : Text} (h : NoControls digits) (place : Int) :
    NoControls (positional digits place) := by
  have hzeros (n : Nat) : NoControls (List.replicate n '0') := by
    intro c hc
    rw [List.eq_of_mem_replicate hc]
    decide
  rw [positional]
  split_ifs
  · exact (Text.NoControls.append (by decide) (hzeros _)).append h
  · exact (h.append (hzeros _)).append (by decide)
  · exact (h.of_subset (List.take_subset _ _)).append
      (.cons (by decide) (h.of_subset (List.drop_subset _ _)))

theorem noControls_scientific {digits : Text} (h : NoControls digits) (exponent : Int) :
    NoControls (scientific digits exponent) := by
  have hsize := Text.noControls_ofNat exponent.natAbs
  unfold scientific
  dsimp only
  refine .append ?_ (.cons (by decide) (.cons (by split <;> decide) ?_))
  · split
    · exact h
    · exact h
    · rename_i d rest _
      exact .cons (h d List.mem_cons_self)
        (.cons (by decide) (h.of_subset (List.subset_cons_self d rest)))
  · split
    · exact .cons (by decide) hsize
    · exact hsize

theorem noControls_render (x : Binary64) : NoControls (x.render longNames) := by
  match x with
  | nan => decide
  | infinite false => decide
  | infinite true => decide
  | finite negative m e =>
    have hdecimal (d : Decimal) : NoControls d.render := by
      have hdigits := Text.noControls_ofNat d.digits
      rw [Decimal.render]
      split
      · exact noControls_positional hdigits _
      · exact noControls_scientific hdigits _
    have hsize : NoControls (if m = 0 then "0.0".toList else (shortest m e).render) := by
      split
      · decide
      · exact hdecimal _
    rw [render]
    split
    · exact .cons (by decide) hsize
    · exact hsize

end Binary64

/-! ## Values -/

namespace Value

theorem noControls_printChar (c : Char) : NoControls (printChar c) := by
  unfold printChar
  split_ifs with h₁ h₂ h₃ h₄ h₅ h₆ h₇ h₈
  · decide
  · decide
  · decide
  · decide
  · decide
  · decide
  · decide
  · exact Text.NoControls.append (by decide) (Text.noControls_hexDigits 4 c.toNat)
  · exact .cons (Nat.le_of_not_lt h₈) Text.noControls_nil

theorem noControls_printText (t : Text) : NoControls (printText t) :=
  .append (.cons (by decide) (Text.noControls_flatMap fun c _ => noControls_printChar c)) (by decide)

mutual

/-- A written value holds no controls. -/
theorem noControls_print : ∀ v : Value, NoControls (print v)
  | .null => by decide
  | .bool true => by decide
  | .bool false => by decide
  | .int n => Text.noControls_ofInt n
  | .double x => Binary64.noControls_render x
  | .str t => noControls_printText t
  | .arr items => .append (.cons (by decide) (noControls_printItems items)) (by decide)
  | .obj fields => .append (.cons (by decide) (noControls_printFields fields)) (by decide)

theorem noControls_printItems : ∀ items : List Value, NoControls (printItems items)
  | [] => by decide
  | [v] => noControls_print v
  | v :: w :: rest =>
    (noControls_print v).append (.cons (by decide) (noControls_printItems (w :: rest)))

theorem noControls_printFields : ∀ fields : List (Text × Value), NoControls (printFields fields)
  | [] => by decide
  | [(k, v)] => (noControls_printText k).append (.cons (by decide) (noControls_print v))
  | (k, v) :: f :: rest =>
    ((noControls_printText k).append (.cons (by decide) (noControls_print v))).append
      (.cons (by decide) (noControls_printFields (f :: rest)))

end

end Value

end Legible
