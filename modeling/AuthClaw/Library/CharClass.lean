import AuthClaw.Library.Regex
import Mathlib.Data.List.Forall2
import Mathlib.Data.List.Infix

/-!
# Character classes and what a match must contain

The classes of the usual expression syntax: ranges, the named sets of a language, and
matching without case.  Which characters are words, digits or spaces and which have
the same letter depends on the language; {lit}`CharTables` carries it.

Three analyses of an expression need no text: which classes it consumes with, how many
characters of some kind every match has, and with which classes every match begins.

Main results:

- Theorem {lit}`Matches.exists_class`: each matched element is accepted by a class of
  the expression.
- Theorem {lit}`Matches.minCount_le`: every match has so many characters of a kind.
- Theorem {lit}`Matches.exists_head`: every match begins with one of the heads.
- Theorem {lit}`accepts_caseless`: a class of one letter accepts its two cases.
-/

/-- What a language takes for words, digits, spaces and equal letters. -/
structure CharTables where
  isWord : Char → Bool
  isDigit : Char → Bool
  isSpace : Char → Bool
  /-- The characters that match where this one does when case is ignored. -/
  variants : Char → List Char

/-- A character class. -/
structure CharClass where
  ranges : List (Char × Char) := []
  word : Bool := false
  digit : Bool := false
  space : Bool := false
  ignoreCase : Bool := false
  negated : Bool := false
deriving DecidableEq

namespace CharClass

/-- The class of one character. -/
def lit (c : Char) : CharClass :=
  { ranges := [(c, c)] }

/-- The class of some characters. -/
def oneOf (chars : String) : CharClass :=
  { ranges := chars.toList.map (fun c => (c, c)) }

/-- `(?i)` -/
def caseless (k : CharClass) : CharClass :=
  { k with ignoreCase := true }

/-- The character lies in one of the ranges. -/
def inRanges (k : CharClass) (c : Char) : Bool :=
  k.ranges.any (fun range => range.1.toNat ≤ c.toNat && c.toNat ≤ range.2.toNat)

/-- The class accepts the character. -/
def accepts (tables : CharTables) (k : CharClass) (c : Char) : Bool :=
  ((if k.ignoreCase then (tables.variants c).any k.inRanges else k.inRanges c) ||
    k.word && tables.isWord c || k.digit && tables.isDigit c ||
    k.space && tables.isSpace c) != k.negated

theorem inRanges_lit {c d : Char} : (lit c).inRanges d = true ↔ d = c := by
  simp only [inRanges, lit, List.any_cons, List.any_nil, Bool.or_false, Bool.and_eq_true,
    decide_eq_true_eq]
  constructor
  · rintro ⟨hle, hge⟩
    exact Char.ext (UInt32.toNat_inj.mp (Nat.le_antisymm hge hle))
  · rintro rfl
    exact ⟨Nat.le_refl _, Nat.le_refl _⟩

theorem accepts_lit {tables : CharTables} {c d : Char} :
    (lit c).accepts tables d = true ↔ d = c := by
  rw [← inRanges_lit]
  simp [accepts, lit]

/-- A class of one letter accepts the characters with that letter among their
variants. -/
theorem accepts_caseless {tables : CharTables} {c d : Char} :
    (lit c).caseless.accepts tables d = true ↔ c ∈ tables.variants d := by
  have hany : (lit c).caseless.accepts tables d = (tables.variants d).any (lit c).inRanges := by
    simp only [accepts, caseless, lit, Bool.false_and, Bool.or_false, if_true, Bool.bne_false]
    rfl
  rw [hany, List.any_eq_true]
  constructor
  · rintro ⟨x, hx, hlit⟩
    rw [inRanges_lit] at hlit
    rw [← hlit]
    exact hx
  · intro hc
    exact ⟨c, hc, inRanges_lit.mpr rfl⟩

/-- The expression of a text. -/
def lits (text : String) : Regex CharClass :=
  Regex.seqs (text.toList.map (fun c => .one (lit c)))

/-- The expression of a text in any case. -/
def caselessLits (text : String) : Regex CharClass :=
  Regex.seqs (text.toList.map (fun c => .one (lit c).caseless))

/-- `\w` -/
def wordClass : CharClass :=
  { word := true }

/-- `\d` -/
def digitClass : CharClass :=
  { digit := true }

/-- `\s` -/
def spaceClass : CharClass :=
  { space := true }

/-- `[A-Za-z0-9]` with some further characters. -/
def alnumAnd (chars : String) : CharClass :=
  { ranges := [('A', 'Z'), ('a', 'z'), ('0', '9')] ++ chars.toList.map (fun c => (c, c)) }

/-- `\b` -/
def wordBoundary : Regex CharClass :=
  .boundary wordClass

/-- `\s*` -/
def spaces : Regex CharClass :=
  .many spaceClass true

/-- `\s+` -/
def someSpaces : Regex CharClass :=
  Regex.atLeast spaceClass 1

/-- A character of a set, or none. -/
def maybe (chars : String) : Regex CharClass :=
  Regex.opt (.one (oneOf chars))

/-! ## Words in a text -/

/-- The text contains the word. -/
def containsText (text : List Char) (needle : String) : Bool :=
  text.tails.any (fun rest => needle.toList.isPrefixOf rest)

theorem containsText_iff {text : List Char} {needle : String} :
    containsText text needle = true ↔ needle.toList <:+: text := by
  unfold containsText
  simp only [List.any_eq_true, List.mem_tails, List.isPrefixOf_iff_prefix]
  constructor
  · rintro ⟨rest, hsuffix, hbegins⟩
    exact List.infix_iff_prefix_suffix.mpr ⟨rest, hbegins, hsuffix⟩
  · intro hwithin
    rcases List.infix_iff_prefix_suffix.mp hwithin with ⟨rest, hbegins, hsuffix⟩
    exact ⟨rest, hsuffix, hbegins⟩

end CharClass

namespace Regex

variable {κ α : Type} {acc : κ → α → Bool}

/-! ## Classes -/

/-- The classes that an expression consumes with. -/
def classes : Regex κ → List κ
  | .empty => []
  | .one k => [k]
  | .seq r s => classes r ++ classes s
  | .alt r s => classes r ++ classes s
  | .many k _ => [k]
  | .boundary _ => []
  | .notBefore _ => []
  | .notAfter _ => []

/-- Each matched element is accepted by a class of the expression. -/
theorem Matches.exists_class {r : Regex κ} {p q : Option α} {u : List α}
    (h : Matches acc r p u q) {a : α} (ha : a ∈ u) : ∃ k ∈ r.classes, acc k a = true := by
  induction r generalizing p q u with
  | one k =>
      rcases h with ⟨b, rfl, hb⟩
      rw [List.mem_singleton] at ha
      subst ha
      exact ⟨k, by simp [classes], hb⟩
  | seq r s ihr ihs =>
      rcases h with ⟨v, w, rfl, hr, hs⟩
      rcases List.mem_append.mp ha with ha | ha
      · rcases ihr hr ha with ⟨k, hk, hacc⟩
        exact ⟨k, List.mem_append_left _ hk, hacc⟩
      · rcases ihs hs ha with ⟨k, hk, hacc⟩
        exact ⟨k, List.mem_append_right _ hk, hacc⟩
  | alt r s ihr ihs =>
      rcases h with h | h
      · rcases ihr h ha with ⟨k, hk, hacc⟩
        exact ⟨k, List.mem_append_left _ hk, hacc⟩
      · rcases ihs h ha with ⟨k, hk, hacc⟩
        exact ⟨k, List.mem_append_right _ hk, hacc⟩
  | many k greedy => exact ⟨k, by simp [classes], h a ha⟩
  | empty =>
      rw [h] at ha
      cases ha
  | boundary k =>
      rw [h.1] at ha
      cases ha
  | notBefore k =>
      rw [h.1] at ha
      cases ha
  | notAfter k =>
      rw [h.1] at ha
      cases ha

theorem MatchesParts.exists_class {rs : List (Regex κ)} {p q : Option α} {us : List (List α)}
    (h : MatchesParts acc rs p us q) {a : α} (ha : a ∈ us.flatten) :
    ∃ r ∈ rs, ∃ k ∈ r.classes, acc k a = true := by
  induction rs generalizing p us with
  | nil =>
      change us = [] at h
      rw [h] at ha
      cases ha
  | cons r rs ih =>
      rcases h with ⟨u, vs, rfl, hr, hrs⟩
      rw [List.flatten_cons] at ha
      rcases List.mem_append.mp ha with ha | ha
      · rcases hr.exists_class ha with ⟨k, hk, hacc⟩
        exact ⟨r, List.mem_cons_self, k, hk, hacc⟩
      · rcases ih hrs ha with ⟨s, hs, k, hk, hacc⟩
        exact ⟨s, List.mem_cons_of_mem r hs, k, hk, hacc⟩

/-- A fixed number of characters of a class. -/
theorem Matches.of_pow_one {k : κ} {n : Nat} {p q : Option α} {u : List α}
    (h : Matches acc (pow (.one k) n) p u q) : u.length = n ∧ ∀ a ∈ u, acc k a = true := by
  induction n generalizing p u with
  | zero =>
      change u = [] at h
      subst h
      exact ⟨rfl, by simp⟩
  | succ n ih =>
      rcases h with ⟨v, w, rfl, ⟨a, rfl, ha⟩, hrest⟩
      rcases ih hrest with ⟨hlength, hall⟩
      refine ⟨?_, ?_⟩
      · rw [List.length_append, hlength, List.length_singleton, Nat.add_comm]
      · intro b hb
        rcases List.mem_append.mp hb with hb | hb
        · rw [List.mem_singleton.mp hb]
          exact ha
        · exact hall b hb

/-! ## Counting -/

/-- The least number of characters of a kind in a match. -/
def minCount (good : κ → Bool) : Regex κ → Nat
  | .empty => 0
  | .one k => if good k then 1 else 0
  | .seq r s => minCount good r + minCount good s
  | .alt r s => min (minCount good r) (minCount good s)
  | .many _ _ => 0
  | .boundary _ => 0
  | .notBefore _ => 0
  | .notAfter _ => 0

/-- Every match has so many characters of a kind. -/
theorem Matches.minCount_le {good : κ → Bool} {kind : α → Bool}
    (hgood : ∀ k a, good k = true → acc k a = true → kind a = true) {r : Regex κ}
    {p q : Option α} {u : List α} (h : Matches acc r p u q) :
    r.minCount good ≤ u.countP kind := by
  induction r generalizing p q u with
  | one k =>
      rcases h with ⟨a, rfl, ha⟩
      unfold minCount
      by_cases hk : good k = true
      · rw [if_pos hk, List.countP_cons_of_pos (hgood k a hk ha)]
        exact Nat.le_add_left 1 _
      · rw [if_neg hk]
        exact Nat.zero_le _
  | seq r s ihr ihs =>
      rcases h with ⟨v, w, rfl, hr, hs⟩
      rw [List.countP_append]
      exact Nat.add_le_add (ihr hr) (ihs hs)
  | alt r s ihr ihs =>
      rcases h with h | h
      · exact Nat.le_trans (Nat.min_le_left _ _) (ihr h)
      · exact Nat.le_trans (Nat.min_le_right _ _) (ihs h)
  | empty => exact Nat.zero_le _
  | many k greedy => exact Nat.zero_le _
  | boundary k => exact Nat.zero_le _
  | notBefore k => exact Nat.zero_le _
  | notAfter k => exact Nat.zero_le _

/-- The matches of a sequence of parts have the characters that the parts have. -/
theorem MatchesParts.minCount_le {good : κ → Bool} {kind : α → Bool}
    (hgood : ∀ k a, good k = true → acc k a = true → kind a = true) {rs : List (Regex κ)}
    {p q : Option α} {us : List (List α)} (h : MatchesParts acc rs p us q) :
    (rs.map (minCount good)).sum ≤ us.flatten.countP kind := by
  induction rs generalizing p us with
  | nil => exact Nat.zero_le _
  | cons r rs ih =>
      rcases h with ⟨u, vs, rfl, hr, hrs⟩
      rw [List.map_cons, List.sum_cons, List.flatten_cons, List.countP_append]
      exact Nat.add_le_add (hr.minCount_le hgood) (ih hrs)

/-- A text in which a pattern occurs has the characters that every match has. -/
theorem Occurs.minCount_le {good : κ → Bool} {kind : α → Bool}
    (hgood : ∀ k a, good k = true → acc k a = true → kind a = true) {pattern : Pattern κ}
    {text : List α} (h : Occurs acc pattern text) :
    (pattern.parts.map (minCount good)).sum ≤ text.countP kind := by
  rcases h with ⟨before, us, after, rfl, hmatch⟩
  exact (hmatch.minCount_le hgood).trans (List.infix_append _ _ _).sublist.countP_le

/-! ## Heads -/

/-- The classes of the first `n` characters of a match, as far as it reaches. -/
def heads (n : Nat) : Regex κ → List (List κ)
  | .empty => [[]]
  | .one k => [[k].take n]
  | .seq r s =>
      (heads n r).flatMap (fun ks =>
        if n ≤ ks.length then [ks] else (heads (n - ks.length) s).map (fun js => ks ++ js))
  | .alt r s => heads n r ++ heads n s
  | .many k _ => (List.range (n + 1)).map (fun m => List.replicate m k)
  | .boundary _ => [[]]
  | .notBefore _ => [[]]
  | .notAfter _ => [[]]

/-- Each character is accepted by its class. -/
def Spells (acc : κ → α → Bool) (ks : List κ) (u : List α) : Prop :=
  List.Forall₂ (fun k a => acc k a = true) ks u

theorem spells_replicate {k : κ} {u : List α} (h : ∀ a ∈ u, acc k a = true) :
    Spells acc (List.replicate u.length k) u := by
  induction u with
  | nil => exact List.Forall₂.nil
  | cons a u ih =>
      exact List.Forall₂.cons (h a (by simp)) (ih (fun b hb => h b (by simp [hb])))

theorem Spells.append {ks js : List κ} {u v : List α} (hk : Spells acc ks u)
    (hj : Spells acc js v) : Spells acc (ks ++ js) (u ++ v) := by
  induction hk with
  | nil => exact hj
  | cons ha _ ih => exact List.Forall₂.cons ha ih

theorem Spells.length_eq {ks : List κ} {u : List α} (h : Spells acc ks u) :
    ks.length = u.length :=
  List.Forall₂.length_eq h

/-- Every match begins with one of the heads. -/
theorem Matches.exists_head (n : Nat) {r : Regex κ} {p q : Option α} {u : List α}
    (h : Matches acc r p u q) : ∃ ks ∈ r.heads n, Spells acc ks (u.take n) := by
  induction r generalizing n p q u with
  | one k =>
      rcases h with ⟨a, rfl, ha⟩
      refine ⟨[k].take n, by simp [heads], ?_⟩
      cases n with
      | zero => exact List.Forall₂.nil
      | succ n => exact List.Forall₂.cons ha (by rw [List.take_nil, List.take_nil]; exact .nil)
  | seq r s ihr ihs =>
      rcases h with ⟨v, w, rfl, hr, hs⟩
      rcases ihr n hr with ⟨ks, hks, hspells⟩
      have hlength := hspells.length_eq
      rw [List.length_take] at hlength
      by_cases hn : n ≤ ks.length
      · refine ⟨ks, List.mem_flatMap.mpr ⟨ks, hks, by rw [if_pos hn]; simp⟩, ?_⟩
        rw [List.take_append_of_le_length (by omega)]
        exact hspells
      · have hv : v.take n = v := List.take_of_length_le (by omega)
        rcases ihs (n - ks.length) hs with ⟨js, hjs, hspells'⟩
        refine ⟨ks ++ js, List.mem_flatMap.mpr ⟨ks, hks, ?_⟩, ?_⟩
        · rw [if_neg hn]
          exact List.mem_map.mpr ⟨js, hjs, rfl⟩
        · rw [List.take_append, hv]
          rw [hv] at hspells
          have hsame : n - v.length = n - ks.length := by omega
          rw [hsame]
          exact hspells.append hspells'
  | alt r s ihr ihs =>
      rcases h with h | h
      · rcases ihr n h with ⟨ks, hks, hspells⟩
        exact ⟨ks, List.mem_append_left _ hks, hspells⟩
      · rcases ihs n h with ⟨ks, hks, hspells⟩
        exact ⟨ks, List.mem_append_right _ hks, hspells⟩
  | many k greedy =>
      refine ⟨List.replicate (u.take n).length k, ?_, ?_⟩
      · refine List.mem_map.mpr ⟨(u.take n).length, ?_, rfl⟩
        rw [List.mem_range, List.length_take]
        omega
      · exact spells_replicate (fun a ha => h a (List.mem_of_mem_take ha))
  | empty =>
      rw [h]
      exact ⟨[], by simp [heads], by rw [List.take_nil]; exact .nil⟩
  | boundary k =>
      rw [h.1]
      exact ⟨[], by simp [heads], by rw [List.take_nil]; exact .nil⟩
  | notBefore k =>
      rw [h.1]
      exact ⟨[], by simp [heads], by rw [List.take_nil]; exact .nil⟩
  | notAfter k =>
      rw [h.1]
      exact ⟨[], by simp [heads], by rw [List.take_nil]; exact .nil⟩

end Regex
