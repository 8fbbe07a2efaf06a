import Mathlib.Data.Char
import Mathlib.Tactic.Common

/-!
# ASCII characters

Changing the case touches the ASCII letters only.

Main results:

- Theorem {lit}`forall_ascii`: a property of the ASCII characters is checked one by one.
- Theorem {lit}`ascii_of_toLower`: a character with an ASCII lower case is in ASCII.
-/

namespace AsciiText

/-- The character is in ASCII. -/
def asciiChar (c : Char) : Bool :=
  c.toNat < 128

theorem asciiChar_iff {c : Char} : asciiChar c = true ↔ c.toNat < 128 :=
  decide_eq_true_iff

theorem toLower_of_not_ascii {c : Char} (h : 128 ≤ c.toNat) : c.toLower = c := by
  unfold Char.toLower
  rw [dif_neg]
  rintro ⟨-, hle⟩
  have hZ : c.toNat ≤ 90 := hle
  omega

theorem toUpper_of_not_ascii {c : Char} (h : 128 ≤ c.toNat) : c.toUpper = c := by
  unfold Char.toUpper
  rw [dif_neg]
  rintro ⟨-, hle⟩
  have hz : c.toNat ≤ 122 := hle
  omega

/-- A property of the ASCII characters is checked one by one. -/
theorem forall_ascii {P : Char → Prop} (h : ∀ n, n < 128 → P (Char.ofNat n)) {c : Char}
    (hc : c.toNat < 128) : P c := by
  rw [← Char.ofNat_toNat c]
  exact h _ hc

/-- A character with an ASCII lower case is in ASCII. -/
theorem ascii_of_toLower {c : Char} (h : asciiChar c.toLower = true) : asciiChar c = true := by
  by_contra hc
  rw [asciiChar_iff, Nat.not_lt] at hc
  rw [toLower_of_not_ascii hc, asciiChar_iff] at h
  omega

end AsciiText
