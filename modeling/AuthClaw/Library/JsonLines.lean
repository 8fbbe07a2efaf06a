import AuthClaw.Library.JsonReader

/-!
# Values of JSON on one line

What {lit}`json.dumps` writes is made of printable ASCII characters, so that a value stands on a
line of its own.

Main results:

- Theorem {lit}`printable_dumps`: the text of a value is printable.
- Theorem {lit}`getLast?_dumps_obj`: the text of an object ends with its brace.
-/

namespace JsonReader

open PythonText JsonText

/-- A printable character of ASCII. -/
def printable (c : Char) : Bool :=
  0x20 ≤ c.toNat && c.toNat ≤ 0x7e

/-- A text of printable characters. -/
def Printable (text : List Char) : Prop :=
  ∀ c ∈ text, printable c = true

section

variable {a b : List Char} {c : Char}

theorem Printable.append (ha : Printable a) (hb : Printable b) : Printable (a ++ b) := by
  intro c hc
  rcases List.mem_append.mp hc with hc | hc
  · exact ha c hc
  · exact hb c hc

theorem Printable.cons (hc : printable c = true) (ha : Printable a) : Printable (c :: a) :=
  List.forall_mem_cons.mpr ⟨hc, ha⟩

theorem printable_nil : Printable [] :=
  fun _ hc => nomatch hc

theorem printable_of_decide (h : a.all printable = true) : Printable a :=
  List.all_eq_true.mp h

theorem printable_of_isDigit (h : c.isDigit = true) : printable c = true := by
  unfold Char.isDigit at h
  rw [Bool.and_eq_true, decide_eq_true_iff, decide_eq_true_iff] at h
  have hlow : 48 ≤ c.toNat := h.1
  have hhigh : c.toNat ≤ 57 := h.2
  unfold printable
  rw [Bool.and_eq_true, decide_eq_true_iff, decide_eq_true_iff]
  omega

theorem printable_digitChar (n : Nat) : printable (Nat.digitChar (n % 16)) = true := by
  have htable : ∀ k : Fin 16, printable (Nat.digitChar k.val) = true := by
    decide
  exact htable ⟨n % 16, Nat.mod_lt n (by decide)⟩

theorem printable_hex4 (n : Nat) : Printable (hex4 n) :=
  .cons (printable_digitChar _) (.cons (printable_digitChar _)
    (.cons (printable_digitChar _) (.cons (printable_digitChar _) printable_nil)))

theorem printable_shortEscape {letter : Char} (h : shortEscape c = some letter) :
    printable letter = true := by
  unfold shortEscape at h
  split_ifs at h <;> cases h <;> decide

/-- An escape is printable, whatever the character. -/
theorem printable_escapeChar (c : Char) : Printable (escapeChar c) := by
  have hunit : ∀ n, Printable ('\\' :: 'u' :: hex4 n) :=
    fun n => .cons (by decide) (.cons (by decide) (printable_hex4 n))
  unfold escapeChar
  split
  next letter h => exact .cons (by decide) (.cons (printable_shortEscape h) printable_nil)
  next =>
    split_ifs with hprint
    · refine .cons ?_ printable_nil
      unfold printable
      rw [decide_eq_true hprint.1, decide_eq_true hprint.2]
      rfl
    · exact hunit _
    · exact (hunit _).append (hunit _)

theorem printable_encodeString (s : String) : Printable (encodeString s) := by
  refine .cons (by decide) (.append ?_ (printable_of_decide (by decide)))
  intro c hc
  rcases List.mem_flatMap.mp hc with ⟨d, -, hc⟩
  exact printable_escapeChar d c hc

theorem Digits.printable (h : Digits a) : Printable a :=
  fun c hc => printable_of_isDigit (h.2 c hc)

/-- The text of a number is printable. -/
theorem Number.Lawful.printable {n : Number} (hn : n.Lawful) : Printable n.text := by
  have hsign : Printable n.sign := by
    rcases hn.sign with h | h <;> rw [h] <;> exact printable_of_decide (by decide)
  have hwhole : Printable n.whole := by
    rcases hn.whole with h | ⟨-, h⟩
    · rw [h]
      exact printable_of_decide (by decide)
    · exact h.printable
  have hfraction : Printable n.fraction := by
    rcases hn.fraction with h | ⟨digits, hdigits, h⟩
    · rw [h]
      exact printable_nil
    · rw [h]
      exact .cons (by decide) hdigits.printable
  have hexponent : Printable n.exponent := by
    rcases hn.exponent with h | ⟨e, sign, digits, he, hs, hdigits, h⟩
    · rw [h]
      exact printable_nil
    · rw [h]
      refine .cons ?_ (.append ?_ hdigits.printable)
      · rcases he with rfl | rfl <;> decide
      · rcases hs with rfl | rfl | rfl <;> exact printable_of_decide (by decide)
  exact hsign.append (hwhole.append (hfraction.append hexponent))

theorem printable_int (n : Int) : Printable n.repr.toList := by
  intro c hc
  rcases mem_int_repr hc with rfl | hdigit
  · decide
  · exact printable_of_isDigit hdigit

end

section

variable {float : String → String × Bool}

theorem printable_dumpsItems {items : List Json} (h : ∀ item ∈ items, Printable (dumps item)) :
    Printable (dumpsItems items) := by
  induction items with
  | nil => exact printable_of_decide (by decide)
  | cons item items ih =>
      rw [List.forall_mem_cons] at h
      rw [dumpsItems]
      exact .cons (by decide) (.cons (by decide) (h.1.append (ih h.2)))

theorem printable_dumpsMembers {members : List (String × Json)}
    (h : ∀ m ∈ members, Printable (dumps m.2)) : Printable (dumpsMembers members) := by
  induction members with
  | nil => exact printable_of_decide (by decide)
  | cons m members ih =>
      rw [List.forall_mem_cons] at h
      rw [dumpsMembers]
      exact .cons (by decide) (.cons (by decide) ((printable_encodeString m.1).append
        (.cons (by decide) (.cons (by decide) (h.1.append (ih h.2))))))

/-- The text of a value is printable; the induction is on the value. -/
theorem printable_dumps {v : Json} (hv : IsJson float v) : Printable (dumps v) := by
  induction hv with
  | null => exact printable_of_decide (by decide)
  | bool b => cases b <;> exact printable_of_decide (by decide)
  | int n => exact printable_int n
  | float h =>
      rw [dumps]
      rcases h with ⟨n, hn, -, htext, -⟩ | ⟨rfl | rfl | rfl, -⟩
      · rw [← htext]
        exact hn.printable
      · exact printable_of_decide (by decide)
      · exact printable_of_decide (by decide)
      · exact printable_of_decide (by decide)
  | str s => exact printable_encodeString s
  | @arr items _ ih =>
      cases items with
      | nil => exact printable_of_decide (by decide)
      | cons item items =>
          rw [List.forall_mem_cons] at ih
          rw [dumps]
          exact .cons (by decide) (ih.1.append (printable_dumpsItems ih.2))
  | @obj members _ _ ih =>
      cases members with
      | nil => exact printable_of_decide (by decide)
      | cons m members =>
          rw [List.forall_mem_cons] at ih
          rw [dumps]
          exact .cons (by decide) ((printable_encodeString m.1).append
            (.cons (by decide) (.cons (by decide) (ih.1.append (printable_dumpsMembers ih.2)))))

theorem getLast?_dumpsMembers (members : List (String × Json)) :
    (dumpsMembers members).getLast? = some '}' := by
  induction members with
  | nil => rfl
  | cons m members ih =>
      rw [dumpsMembers]
      have hlast : ∀ text : List Char, (text ++ dumpsMembers members).getLast? = some '}' := by
        intro text
        rw [List.getLast?_append, ih]
        rfl
      have := hlast (',' :: ' ' :: (encodeString m.1 ++ ':' :: ' ' :: dumps m.2))
      simpa only [List.cons_append, List.append_assoc] using this

/-- The text of an object ends with its brace. -/
theorem getLast?_dumps_obj (members : List (String × Json)) :
    (dumps (.obj members)).getLast? = some '}' := by
  cases members with
  | nil => rfl
  | cons m members =>
      rw [dumps]
      have hlast : ('{' :: (encodeString m.1 ++ ':' :: ' ' :: dumps m.2) ++
          dumpsMembers members).getLast? = some '}' := by
        rw [List.getLast?_append, getLast?_dumpsMembers]
        rfl
      simpa only [List.cons_append, List.append_assoc] using hlast

theorem head?_dumps_obj (members : List (String × Json)) :
    (dumps (.obj members)).head? = some '{' := by
  cases members <;> rfl

end

end JsonReader
