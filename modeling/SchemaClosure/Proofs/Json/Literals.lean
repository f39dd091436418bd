import Mathlib.Data.List.TakeWhile
import SchemaClosure.Json.Printer
import SchemaClosure.Json.Token

namespace SchemaClosure.Json

theorem toNat_isScalar (c : Char) : c.toNat < 0xD800 ∨ 0xDFFF < c.toNat := by
  rcases c.valid with h | ⟨h, -⟩
  · exact Or.inl h
  · exact Or.inr h

theorem joinUnit_toNat (chars : List Char) (c : Char) : joinUnit (chars, none) c.toNat = some (c :: chars, none) := by
  have hhigh : isHighSurrogate c.toNat = false := by
    have hscalar := toNat_isScalar c
    simp only [isHighSurrogate, Bool.and_eq_false_iff, decide_eq_false_iff_not]
    omega
  have hlow : isLowSurrogate c.toNat = false := by
    have hscalar := toNat_isScalar c
    simp only [isLowSurrogate, Bool.and_eq_false_iff, decide_eq_false_iff_not]
    omega
  simp [joinUnit, hhigh, hlow, Char.ofNat_toNat]

theorem joinUnits_toNat (text : String) : joinUnits (text.toList.map Char.toNat) = some text := by
  have hjoin (chars before : List Char) :
      (chars.map Char.toNat).foldlM joinUnit (before, none) = some (chars.reverse ++ before, none) := by
    induction chars generalizing before with
    | nil => rfl
    | cons c rest ih =>
      rw [List.map_cons, List.foldlM_cons, joinUnit_toNat]
      simpa using ih (c :: before)
  rw [joinUnits, hjoin]
  simp

theorem hexDigit?_hexDigit (digit : Fin 16) : hexDigit? (hexDigit digit) = some digit.val := by
  revert digit
  decide

theorem foldlM_unicodeEscape (found : List Token) (units : List Nat) {code : Nat} (h : code < 0x10000) :
    (unicodeEscape code).foldlM Scanner.step ⟨found, .quoted units⟩ = some ⟨found, .quoted (code :: units)⟩ := by
  have hdigit (value : Nat) : hexDigit? (hexDigit (value % 16)) = some (value % 16) :=
    hexDigit?_hexDigit ⟨value % 16, Nat.mod_lt value (by decide)⟩
  simp [unicodeEscape, Scanner.step, hdigit]
  omega

/-- An escaped character is read as one unit. -/
theorem foldlM_escapeChar (found : List Token) (units : List Nat) (c : Char) :
    (escapeChar c).foldlM Scanner.step ⟨found, .quoted units⟩ = some ⟨found, .quoted (c.toNat :: units)⟩ := by
  unfold escapeChar
  split_ifs with hquote hbackslash hnewline hreturn htab hbackspace hfeed hcontrol
  · subst hquote; rfl
  · subst hbackslash; rfl
  · subst hnewline; rfl
  · subst hreturn; rfl
  · subst htab; rfl
  · rw [hbackspace]; rfl
  · rw [hfeed]; rfl
  · exact foldlM_unicodeEscape found units (hcontrol.trans (by decide))
  · simp [Scanner.step, hquote, hbackslash, hcontrol]

/-- A text between quotes is read as itself, whichever characters are escaped, as long as each is read as one unit. -/
theorem foldlM_quoted {escape : Char → List Char} (hescape : ∀ found units c,
      (escape c).foldlM Scanner.step ⟨found, .quoted units⟩ = some ⟨found, .quoted (c.toNat :: units)⟩)
    (found : List Token) (text : String) :
    ('"' :: text.toList.flatMap escape ++ ['"']).foldlM Scanner.step ⟨found, .between⟩ =
      some ⟨.string (some text) :: found, .between⟩ := by
  have hunits (chars : List Char) (units : List Nat) : (chars.flatMap escape).foldlM Scanner.step ⟨found, .quoted units⟩ =
      some ⟨found, .quoted ((chars.map Char.toNat).reverse ++ units)⟩ := by
    induction chars generalizing units with
    | nil => rfl
    | cons c rest ih =>
      rw [List.flatMap_cons, List.foldlM_append, hescape]
      simpa using ih (c.toNat :: units)
  have hopen : Scanner.step ⟨found, .between⟩ '"' = some ⟨found, .quoted []⟩ := rfl
  rw [List.cons_append, List.foldlM_cons, hopen]
  simp [List.foldlM_append, hunits, Scanner.step, joinUnits_toNat]

theorem foldlM_quotedChars (found : List Token) (text : String) :
    (quotedChars text).foldlM Scanner.step ⟨found, .between⟩ = some ⟨.string (some text) :: found, .between⟩ :=
  foldlM_quoted foldlM_escapeChar found text

/-- An integer that 64 bits hold, with a sign or without. -/
def IsExact (value : Int) : Prop := -(1 <<< 63 : Nat) ≤ value ∧ value < (1 <<< 64 : Nat)

instance (value : Int) : Decidable (IsExact value) := inferInstanceAs (Decidable (_ ∧ _))

theorem digit_head?_toDigits {value : Nat} (h : 0 < value) : (Nat.toDigits 10 value).head? ≠ some '0' := by
  induction value using Nat.strongRecOn with
  | ind value ih =>
    by_cases hsmall : value < 10
    · have hdigits : ∀ digit : Fin 10, 0 < digit.val → digit.val.digitChar ≠ '0' := by decide
      rw [Nat.toDigits_of_lt_base hsmall, List.head?_cons]
      simpa using hdigits ⟨value, hsmall⟩ h
    · have hhead := ih (value / 10) (Nat.div_lt_self h (by decide)) (Nat.div_pos (Nat.le_of_not_lt hsmall) (by decide))
      rw [Nat.toDigits_of_base_le (by decide) (Nat.le_of_not_lt hsmall), List.head?_append]
      cases hdigits : Nat.toDigits 10 (value / 10) with
      | nil => exact absurd hdigits Nat.toDigits_ne_nil
      | cons first rest =>
        rw [hdigits] at hhead
        simpa using hhead

/-- The digits of a number have no leading zero, so they are a whole part. -/
theorem isWhole_toDigits (value : Nat) : Numeral.isWhole (Nat.toDigits 10 value) = true := by
  by_cases hzero : value = 0
  · subst hzero
    rfl
  · have hhead := digit_head?_toDigits (Nat.pos_of_ne_zero hzero)
    unfold Numeral.isWhole
    split
    · rename_i hnil
      exact absurd hnil Nat.toDigits_ne_nil
    · rfl
    · rename_i first rest _ hdigits
      rw [hdigits] at hhead
      simpa using hhead

theorem isDigit_of_mem_toDigits {value : Nat} {c : Char} (h : c ∈ Nat.toDigits 10 value) : c.isDigit = true :=
  Nat.isDigit_of_mem_toDigits (by decide) (by decide) h

theorem ofChars?_digits (negative : Bool) (value : Nat) :
    Numeral.ofChars? ((if negative then ['-'] else []) ++ Nat.toDigits 10 value) =
      some ⟨negative, Nat.toDigits 10 value, [], none⟩ := by
  have hdigits : ∀ c ∈ Nat.toDigits 10 value, c.isDigit = true := fun c => isDigit_of_mem_toDigits
  have htake : (Nat.toDigits 10 value).takeWhile Char.isDigit = Nat.toDigits 10 value :=
    List.takeWhile_eq_self_iff.mpr hdigits
  have hdrop : (Nat.toDigits 10 value).dropWhile Char.isDigit = [] := List.dropWhile_eq_nil_iff.mpr hdigits
  cases negative with
  | true => simp [Numeral.ofChars?, htake, hdrop, isWhole_toDigits, Numeral.tail?]
  | false =>
    have hsign : ((Nat.toDigits 10 value).head? == some '-') = false := by
      cases hvalue : Nat.toDigits 10 value with
      | nil => rfl
      | cons first rest =>
        have hfirst := hdigits first (hvalue ▸ List.mem_cons_self)
        rw [List.head?_cons, beq_eq_false_iff_ne, ne_eq, Option.some.injEq]
        rintro rfl
        exact absurd hfirst (by decide)
    simp [Numeral.ofChars?, hsign, htake, hdrop, isWhole_toDigits, Numeral.tail?]

theorem digitsValue_toDigits (value : Nat) : Numeral.digitsValue (Nat.toDigits 10 value) = value :=
  Nat.ofDigitChars_toDigits (by decide) (by decide)

/-- The letters of an integer are a sign, where it is negative, and digits. -/
def integerLetters (value : Int) : List Char := (if decide (value < 0) then ['-'] else []) ++ Nat.toDigits 10 value.natAbs

theorem toList_toString (value : Int) : (toString value).toList = integerLetters value := by
  rw [Int.toString_eq_repr, Int.repr_eq_if, integerLetters]
  by_cases hsign : 0 ≤ value
  · have habs : value.toNat = value.natAbs := by omega
    rw [if_pos hsign, if_neg (by simpa using hsign), Nat.toList_repr, habs]
    rfl
  · have habs : (-value).toNat = value.natAbs := by omega
    rw [if_neg hsign, if_pos (by simpa using hsign), String.toList_append, Nat.toList_repr, habs]
    rfl

theorem mem_integerLetters {value : Int} {c : Char} (h : c ∈ integerLetters value) : c = '-' ∨ c.isDigit = true := by
  rcases List.mem_append.mp h with h | h
  · split at h
    · exact Or.inl (List.mem_singleton.mp h)
    · exact absurd h List.not_mem_nil
  · exact Or.inr (isDigit_of_mem_toDigits h)

theorem toInt?_digits {value : Int} (h : IsExact value) :
    Numeral.toInt? ⟨decide (value < 0), Nat.toDigits 10 value.natAbs, [], none⟩ = some value := by
  obtain ⟨hleast, hgreatest⟩ := h
  simp only [Numeral.toInt?, digitsValue_toDigits, List.isEmpty_nil, Option.isNone_none, Bool.and_self, if_true]
  by_cases hsign : value < 0
  · have hrange : ¬(decide (value.natAbs = 0) || decide (1 <<< 63 < value.natAbs)) = true := by
      rw [Bool.or_eq_true, decide_eq_true_eq, decide_eq_true_eq]
      omega
    have habs : -(value.natAbs : Int) = value := by omega
    rw [if_pos (decide_eq_true hsign), if_neg hrange, habs]
  · have hrange : value.natAbs < 1 <<< 64 := by omega
    have habs : (value.natAbs : Int) = value := by omega
    rw [if_neg (by simpa using hsign), if_pos hrange, habs]

theorem literal?_integerLetters {value : Int} (h : IsExact value) :
    literal? (integerLetters value) = some (.integer value) := by
  have hword (c : Char) (rest : List Char) (hc : ¬(c = '-' ∨ c.isDigit = true)) : integerLetters value ≠ c :: rest := by
    intro hletters
    exact hc (mem_integerLetters (hletters ▸ List.mem_cons_self))
  rw [literal?, if_neg (hword _ _ (by decide)), if_neg (hword _ _ (by decide)), if_neg (hword _ _ (by decide)), number?, integerLetters,
    ofChars?_digits, Option.map_some, toInt?_digits h]

end SchemaClosure.Json
