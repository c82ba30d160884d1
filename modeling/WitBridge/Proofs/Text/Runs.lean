/-!
# Runs of letters and digits

A run of characters of one class is taken up to the first character of another. Small letters and
digits are ASCII characters, so what the functions on characters make of them is known from a
table of these.
-/
namespace WitBridge.Text

/-- A run of characters of a class ends where the text after it leaves the class. -/
theorem takeWhile_append_of_head {p : Char → Bool} {run rest : List Char}
    (inside : ∀ c ∈ run, p c = true) (outside : ∀ c ∈ rest.head?, p c = false) :
    (run ++ rest).takeWhile p = run ∧ (run ++ rest).dropWhile p = rest := by
  rw [List.takeWhile_append_of_pos inside, List.dropWhile_append_of_pos inside]
  cases rest with
  | nil => simp
  | cons c tail =>
    have dark : p c = false := outside c (by simp)
    simp [dark]

/-- Small letters and digits are ASCII characters. -/
theorem ascii_of_isLower_or_isDigit {c : Char} (part : c.isLower = true ∨ c.isDigit = true) :
    c.toNat < 128 := by
  have bound : c.val ≤ 'z'.val := by
    rcases part with lower | digit
    · exact of_decide_eq_true (Bool.and_eq_true_iff.1 lower).2
    · have high : c.val ≤ '9'.val := of_decide_eq_true (Bool.and_eq_true_iff.1 digit).2
      exact UInt32.le_trans high (by decide)
  exact Nat.lt_of_le_of_lt (UInt32.le_iff_toNat_le.1 bound) (by decide)

/-- What the functions on characters make of a small letter. -/
theorem case_of_isLower {c : Char} (lower : c.isLower = true) :
    c.isUpper = false ∧ c.isDigit = false ∧ c.isAlpha = true ∧ c.toUpper.isUpper = true ∧
      c.toUpper.toLower = c ∧ c.toLower = c ∧ c.toUpper.toNat < 128 ∧ c ≠ '-' := by
  have table : ∀ n < 128, (Char.ofNat n).isLower = true →
      (Char.ofNat n).isUpper = false ∧ (Char.ofNat n).isDigit = false ∧
        (Char.ofNat n).isAlpha = true ∧ (Char.ofNat n).toUpper.isUpper = true ∧
        (Char.ofNat n).toUpper.toLower = Char.ofNat n ∧ (Char.ofNat n).toLower = Char.ofNat n ∧
        (Char.ofNat n).toUpper.toNat < 128 ∧ Char.ofNat n ≠ '-' := by decide
  have found := table c.toNat (ascii_of_isLower_or_isDigit (.inl lower))
  rw [Char.ofNat_toNat] at found
  exact found lower

/-- What the functions on characters make of a digit. -/
theorem case_of_isDigit {c : Char} (digit : c.isDigit = true) :
    c.isUpper = false ∧ c.isLower = false ∧ c.isAlpha = false ∧ c.toUpper = c ∧ c.toLower = c ∧
      c ≠ '-' ∧ c ≠ '_' := by
  have table : ∀ n < 128, (Char.ofNat n).isDigit = true →
      (Char.ofNat n).isUpper = false ∧ (Char.ofNat n).isLower = false ∧
        (Char.ofNat n).isAlpha = false ∧ (Char.ofNat n).toUpper = Char.ofNat n ∧
        (Char.ofNat n).toLower = Char.ofNat n ∧ Char.ofNat n ≠ '-' ∧ Char.ofNat n ≠ '_' := by
    decide
  have found := table c.toNat (ascii_of_isLower_or_isDigit (.inr digit))
  rw [Char.ofNat_toNat] at found
  exact found digit

/-- Capitals are ASCII characters. -/
theorem ascii_of_isUpper {c : Char} (upper : c.isUpper = true) : c.toNat < 128 := by
  have bound : c.val ≤ 'Z'.val := (of_decide_eq_true upper).2
  exact Nat.lt_of_le_of_lt (UInt32.le_iff_toNat_le.1 bound) (by decide)

/-- What the functions on characters make of a capital. -/
theorem case_of_isUpper {c : Char} (upper : c.isUpper = true) :
    c.isLower = false ∧ c.isDigit = false ∧ c.toLower.isLower = true := by
  have table : ∀ n < 128, (Char.ofNat n).isUpper = true →
      (Char.ofNat n).isLower = false ∧ (Char.ofNat n).isDigit = false ∧
        (Char.ofNat n).toLower.isLower = true := by decide
  have found := table c.toNat (ascii_of_isUpper upper)
  rw [Char.ofNat_toNat] at found
  exact found upper

end WitBridge.Text
