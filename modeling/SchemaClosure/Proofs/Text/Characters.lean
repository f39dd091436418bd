import Mathlib.Data.List.Basic
import SchemaClosure.Text.Characters

/-!
Kinds of characters against each other. The alphanumeric ranges are long, so they are gone through as a whole and not for one character after another: below them a character is alphanumeric as in ASCII, and none of them meets white space.
-/

namespace SchemaClosure.Text

variable {c : Char}

theorem isAlphanumeric_of_lt (h : c.toNat < 0x80) : isAlphanumeric c = c.isAlphanum := by
  have hranges : alphanumericRanges.all (fun range => Nat.ble 0x80 range.1) = true := by decide +kernel
  rw [isAlphanumeric, Bool.or_eq_left_iff_imp]
  intro hany
  obtain ⟨range, hrange, hmem⟩ := List.any_eq_true.mp hany
  have hfirst : 0x80 ≤ range.1 := Nat.le_of_ble_eq_true (List.all_eq_true.mp hranges range hrange)
  simp only [Bool.and_eq_true, decide_eq_true_eq] at hmem
  omega

theorem toNat_of_isAlphanum (h : c.isAlphanum = true) : 0x30 ≤ c.toNat ∧ c.toNat ≤ 0x7A := by
  have hvalue : (decide ('A'.val ≤ c.val ∧ c.val ≤ 'Z'.val) || (decide ('a'.val ≤ c.val) && decide (c.val ≤ 'z'.val)) ||
      (decide ('0'.val ≤ c.val) && decide (c.val ≤ '9'.val))) = true := h
  have htoNat : ∀ d : Char, d.val.toNat = d.toNat := fun _ => rfl
  have hends : 'A'.toNat = 0x41 ∧ 'Z'.toNat = 0x5A ∧ 'a'.toNat = 0x61 ∧ 'z'.toNat = 0x7A ∧ '0'.toNat = 0x30 ∧ '9'.toNat = 0x39 := by
    decide
  simp only [Bool.or_eq_true, Bool.and_eq_true, decide_eq_true_eq, UInt32.le_iff_toNat_le, htoNat] at hvalue
  omega

/-- White space as ranges of code points. -/
def whiteSpaceRanges : List (Nat × Nat) := [
  (0x09, 0x0D), (0x20, 0x20), (0x85, 0x85), (0xA0, 0xA0), (0x1680, 0x1680), (0x2000, 0x200A), (0x2028, 0x2029), (0x202F, 0x202F),
  (0x205F, 0x205F), (0x3000, 0x3000)]

theorem exists_range_of_isWhiteSpace (h : isWhiteSpace c = true) :
    ∃ range ∈ whiteSpaceRanges, range.1 ≤ c.toNat ∧ c.toNat ≤ range.2 := by
  simp only [isWhiteSpace, Bool.or_eq_true, Bool.and_eq_true, decide_eq_true_eq, List.contains_iff_mem, List.mem_cons,
    List.not_mem_nil, or_false] at h
  simp only [whiteSpaceRanges, List.exists_mem_cons_iff]
  omega

theorem isAlphanumeric_of_isWhiteSpace (h : isWhiteSpace c = true) : isAlphanumeric c = false := by
  have hranges : alphanumericRanges.all (fun range =>
      whiteSpaceRanges.all fun blank => range.2.blt blank.1 || blank.2.blt range.1) = true := by decide +kernel
  have hascii : whiteSpaceRanges.all (fun blank => blank.2.blt 0x30 || Nat.blt 0x7A blank.1) = true := by decide
  obtain ⟨blank, hblank, hfirst, hlast⟩ := exists_range_of_isWhiteSpace h
  rw [isAlphanumeric, Bool.or_eq_false_iff]
  constructor
  · rw [← Bool.not_eq_true]
    intro halphanum
    have hbounds := toNat_of_isAlphanum halphanum
    have hapart := List.all_eq_true.mp hascii blank hblank
    simp only [Bool.or_eq_true, Nat.blt_eq] at hapart
    omega
  · rw [List.any_eq_false]
    intro range hrange hmem
    have hapart := List.all_eq_true.mp (List.all_eq_true.mp hranges range hrange) blank hblank
    simp only [Bool.or_eq_true, Nat.blt_eq] at hapart
    simp only [Bool.and_eq_true, decide_eq_true_eq] at hmem
    omega

end SchemaClosure.Text
