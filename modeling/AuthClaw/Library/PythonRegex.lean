import AuthClaw.Library.AsciiText
import AuthClaw.Library.CharClass
import AuthClaw.Library.PythonText
import AuthClaw.Library.RegexViews

/-!
# The classes of Python's expressions

What {lit}`re` and the methods of {lit}`str` take for words, digits, spaces and equal
letters is decided by the Unicode tables of the interpreter.  {lit}`PyUnicode` carries
them, with what is documented of them: their values on ASCII, and which characters
share an ASCII letter when case is ignored.

Main results:

- Theorem {lit}`accepts_ascii`: the classes agree on ASCII whatever the tables are.
- Theorem {lit}`mem_variants_plain`: an ASCII letter other than the three that have
  variants beyond ASCII is matched by its two cases only.
-/

namespace PythonText

open Regex AsciiText

/-- `[c.isalnum() or c == '_']` on ASCII. -/
def asciiWord (c : Char) : Bool :=
  c.isAlphanum || c = '_'

/-- The characters that match where an ASCII character does when case is ignored. -/
def asciiVariants (c : Char) : List Char :=
  [c.toLower, c.toUpper] ++
    (if c = 'i' ∨ c = 'I' then ['\u0130', '\u0131']
      else if c = 's' ∨ c = 'S' then ['\u017f']
      else if c = 'k' ∨ c = 'K' then ['\u212a']
      else [])

/-- The letters that have variants beyond ASCII. -/
def foldedLetters : List Char :=
  ['i', 'I', 's', 'S', 'k', 'K']

/-- The Unicode tables of the interpreter. -/
structure PyUnicode where
  /-- `\w` -/
  isWord : Char → Bool
  /-- `\d`, which is `str.isdecimal`. -/
  isDecimal : Char → Bool
  /-- `str.isdigit` -/
  isDigit : Char → Bool
  /-- `\s`, which is `str.isspace`. -/
  isSpace : Char → Bool
  /-- The characters that match where this one does under `re.IGNORECASE`. -/
  variants : Char → List Char
  /-- `str.lower` -/
  lower : List Char → List Char
  isWord_ascii : ∀ c, asciiChar c = true → isWord c = asciiWord c
  isDecimal_ascii : ∀ c, asciiChar c = true → isDecimal c = c.isDigit
  isSpace_ascii : ∀ c, asciiChar c = true → isSpace c = asciiSpace c
  variants_ascii : ∀ c, asciiChar c = true → variants c = asciiVariants c
  isDigit_of_isDecimal : ∀ c, isDecimal c = true → isDigit c = true
  mem_variants : ∀ c d, asciiChar d = false → c ∈ variants d → asciiChar c = true →
    c ∈ foldedLetters
  lower_ascii : ∀ before word after, word.all asciiChar = true →
    word.map Char.toLower <:+: lower (before ++ word ++ after)

namespace PyUnicode

variable (unicode : PyUnicode)

/-- The tables of the expressions. -/
def tables : CharTables where
  isWord := unicode.isWord
  isDigit := unicode.isDecimal
  isSpace := unicode.isSpace
  variants := unicode.variants

/-- A class accepts a character. -/
def accepts (k : CharClass) (c : Char) : Bool :=
  k.accepts unicode.tables c

end PyUnicode

/-- The tables on ASCII. -/
def asciiTables : CharTables where
  isWord := asciiWord
  isDigit := Char.isDigit
  isSpace := asciiSpace
  variants := asciiVariants

variable {unicode : PyUnicode}

/-- The classes agree on ASCII whatever the tables are. -/
theorem accepts_ascii {c : Char} (hc : asciiChar c = true) (k : CharClass) :
    unicode.accepts k c = k.accepts asciiTables c := by
  have hword := unicode.isWord_ascii c hc
  have hdecimal := unicode.isDecimal_ascii c hc
  have hspace := unicode.isSpace_ascii c hc
  have hvariants := unicode.variants_ascii c hc
  simp only [PyUnicode.accepts, CharClass.accepts, PyUnicode.tables, asciiTables, hword, hdecimal,
    hspace, hvariants]

/-- An ASCII letter other than the three that have variants beyond ASCII is matched by
its two cases only. -/
theorem mem_variants_plain {c d : Char} (hc : asciiChar c = true) (hplain : c ∉ foldedLetters)
    (h : c ∈ unicode.variants d) : asciiChar d = true ∧ c ∈ asciiVariants d := by
  cases hd : asciiChar d with
  | false => exact absurd (unicode.mem_variants c d hd h hc) hplain
  | true =>
      rw [unicode.variants_ascii d hd] at h
      exact ⟨rfl, h⟩

/-- Tables that know ASCII only. -/
def asciiUnicode : PyUnicode where
  isWord := asciiWord
  isDecimal := Char.isDigit
  isDigit := Char.isDigit
  isSpace := asciiSpace
  variants c := if asciiChar c then asciiVariants c else [c]
  lower text := text.map Char.toLower
  isWord_ascii _ _ := rfl
  isDecimal_ascii _ _ := rfl
  isSpace_ascii _ _ := rfl
  variants_ascii c hc := if_pos hc
  isDigit_of_isDecimal _ h := h
  mem_variants c d hd hmem hc := by
    rw [if_neg (by simp [hd]), List.mem_singleton] at hmem
    rw [hmem, hd] at hc
    cases hc
  lower_ascii before word after _ := by
    rw [List.map_append, List.map_append]
    exact List.infix_append _ _ _

end PythonText
