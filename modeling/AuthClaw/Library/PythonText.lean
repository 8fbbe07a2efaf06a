import Mathlib.Data.List.Dedup
import Mathlib.Data.List.Sort
import Mathlib.Data.List.TakeWhile
import Mathlib.Data.String.Basic
import Mathlib.Tactic.Common

/-!
# Python texts and JSON values

The text operations of Python that programs over JSON documents use: membership,
stripping, truth values and {lit}`str`.  What depends on the Unicode tables, on the
text of a container or on the iteration order of a set is a field of
{lit}`PyText`, with the laws its users rely on.

Main results:

- Theorem {lit}`mem_of_mapM_eq_ok`: every result of a successful map comes from an
  element of the list.
- Theorem {lit}`PyText.sortedSet_ne_nil`: a sorted set of a nonempty list is
  nonempty.
-/

namespace PythonText

/-- The exceptions a modelled function may raise. -/
inductive PyError where
  | attributeError
  | valueError
  | timeoutError
  | recursionError
  | other
deriving DecidableEq

/-- A parsed JSON value.  Numbers that are not integers carry their text. -/
inductive Json where
  | null
  | bool (b : Bool)
  | int (n : Int)
  | float (text : String) (zero : Bool)
  | str (s : String)
  | arr (items : List Json)
  | obj (members : List (String × Json))

/-- `bool(value)`. -/
def Json.truthy : Json → Bool
  | .null => false
  | .bool b => b
  | .int n => n != 0
  | .float _ zero => !zero
  | .str s => s != ""
  | .arr items => !items.isEmpty
  | .obj members => !members.isEmpty

/-- `rules.get(key)` on an object. -/
def getKey (members : List (String × Json)) (key : String) : Option Json :=
  members.lookup key

/-- `first or second` on members that may be missing. -/
def orElseJson (first second : Option Json) : Option Json :=
  match first with
  | some v => if v.truthy then some v else second
  | none => second

/-- `needle in text`. -/
def contains (needle text : String) : Bool :=
  text.toList.tails.any (fun rest => needle.toList.isPrefixOf rest)

/-- `text.replace(old, new)` for single characters. -/
def replaceChar (old new : Char) (text : String) : String :=
  String.ofList (text.toList.map (fun c => if c = old then new else c))

/-- `text.isascii()`. -/
def isAscii (text : String) : Bool :=
  text.toList.all (fun c => c.toNat < 128)

/-- `text.lower()` on ASCII. -/
def asciiLower (text : String) : String :=
  String.ofList (text.toList.map Char.toLower)

/-- `text.upper()` on ASCII. -/
def asciiUpper (text : String) : String :=
  String.ofList (text.toList.map Char.toUpper)

/-- The characters `str.isspace` accepts in ASCII. -/
def asciiSpace (c : Char) : Bool :=
  c == ' ' || (9 ≤ c.toNat && c.toNat ≤ 13) || (28 ≤ c.toNat && c.toNat ≤ 31)

/-- The operations that depend on the interpreter, and their laws. -/
structure PyText where
  /-- `str.lower`. -/
  lower : String → String
  /-- `str.upper`. -/
  upper : String → String
  /-- `str.isspace` of one character. -/
  isSpace : Char → Bool
  /-- `str` of a list or dictionary. -/
  reprContainer : Json → String
  /-- The iteration order of `set(items)`. -/
  setOrder : List String → List String
  lower_eq_empty : ∀ s, lower s = "" → s = ""
  lower_ascii : ∀ s, isAscii s = true → lower s = asciiLower s
  isSpace_ascii : ∀ c : Char, c.toNat < 128 → isSpace c = asciiSpace c
  setOrder_perm : ∀ items, (setOrder items).Perm items.dedup

namespace PyText

variable (py : PyText)

/-- `text.strip()`. -/
def strip (text : String) : String :=
  String.ofList ((text.toList.dropWhile py.isSpace).reverse.dropWhile py.isSpace).reverse

/-- A text without whitespace is its own strip. -/
theorem strip_eq_self {text : String} (h : ∀ c ∈ text.toList, py.isSpace c = false) :
    py.strip text = text := by
  have hdrop : ∀ chars : List Char, (∀ c ∈ chars, py.isSpace c = false) →
      chars.dropWhile py.isSpace = chars := by
    intro chars hchars
    cases chars with
    | nil => rfl
    | cons c rest =>
        rw [List.dropWhile_cons_of_neg]
        simpa using hchars c (by simp)
  unfold strip
  rw [hdrop _ h, hdrop, List.reverse_reverse, String.ofList_toList]
  intro c hc
  exact h c (by simpa using hc)

/-- Stripping takes whitespace off both ends. -/
theorem exists_eq_strip (text : String) :
    ∃ front back, text.toList = front ++ (py.strip text).toList ++ back ∧
      (∀ c ∈ front, py.isSpace c = true) ∧ ∀ c ∈ back, py.isSpace c = true := by
  have hsplit := List.takeWhile_append_dropWhile (p := py.isSpace) (l := text.toList)
  have hback := List.takeWhile_append_dropWhile (p := py.isSpace)
    (l := (text.toList.dropWhile py.isSpace).reverse)
  refine ⟨text.toList.takeWhile py.isSpace,
    ((text.toList.dropWhile py.isSpace).reverse.takeWhile py.isSpace).reverse, ?_, ?_, ?_⟩
  · unfold strip
    rw [String.toList_ofList, List.append_assoc, ← List.reverse_append, hback,
      List.reverse_reverse, hsplit]
  · intro c hc
    exact List.mem_takeWhile_imp hc
  · intro c hc
    exact List.mem_takeWhile_imp (List.mem_reverse.mp hc)

/-- `str(value)`. -/
def str : Json → String
  | .null => "None"
  | .bool true => "True"
  | .bool false => "False"
  | .int n => n.repr
  | .float text _ => text
  | .str s => s
  | .arr items => py.reprContainer (.arr items)
  | .obj members => py.reprContainer (.obj members)

/-- `str(value or "")` of a member that may be missing. -/
def strOrEmpty (value : Option Json) : String :=
  match value with
  | some v => if v.truthy then py.str v else ""
  | none => ""

/-- `sorted(set(items), key=key)`, stable in the iteration order of the set. -/
def sortedSet (key : String → Nat) (items : List String) : List String :=
  (py.setOrder items).insertionSort (fun a b => key a ≤ key b)

theorem mem_sortedSet (key : String → Nat) {items : List String} {s : String} :
    s ∈ py.sortedSet key items ↔ s ∈ items := by
  unfold sortedSet
  rw [List.mem_insertionSort, (py.setOrder_perm items).mem_iff, List.mem_dedup]

theorem sortedSet_ne_nil (key : String → Nat) {items : List String} (h : items ≠ []) :
    py.sortedSet key items ≠ [] := by
  rcases List.exists_mem_of_ne_nil items h with ⟨s, hs⟩
  exact List.ne_nil_of_mem ((py.mem_sortedSet key).mpr hs)

end PyText

/-- An interpreter that treats every text as ASCII, orders sets as listed and does
not spell containers out. -/
def asciiText : PyText where
  lower := asciiLower
  upper := asciiUpper
  isSpace := asciiSpace
  reprContainer := fun _ => "[...]"
  setOrder := List.dedup
  lower_eq_empty := by
    intro s h
    have hchars := congrArg String.toList h
    simpa [asciiLower] using hchars
  lower_ascii := fun _ _ => rfl
  isSpace_ascii := fun _ _ => rfl
  setOrder_perm := fun _ => List.Perm.refl _

/-- What a computation gives is mapped when it succeeds. -/
theorem map_eq_ok {ε α β : Type} {x : Except ε α} {f : α → β} {b : β}
    (h : x.map f = .ok b) : ∃ a, x = .ok a ∧ f a = b := by
  cases x with
  | error e => cases h
  | ok a =>
      cases h
      exact ⟨a, rfl, rfl⟩

/-- A sequence succeeds when both parts do. -/
theorem bind_eq_ok {ε α β : Type} {x : Except ε α} {f : α → Except ε β} {b : β}
    (h : (x >>= f) = .ok b) : ∃ a, x = .ok a ∧ f a = .ok b := by
  cases x with
  | error e => cases h
  | ok a => exact ⟨a, rfl, h⟩

/-- A sequence whose first part succeeds goes on. -/
theorem bind_ok {ε α β : Type} {x : Except ε α} {f : α → Except ε β} {a : α} (h : x = .ok a) :
    (x >>= f) = f a := by
  subst h
  rfl

/-- A sequence fails when one of its parts does. -/
theorem bind_eq_error {ε α β : Type} {x : Except ε α} {f : α → Except ε β} {e : ε}
    (h : (x >>= f) = .error e) : x = .error e ∨ ∃ a, x = .ok a ∧ f a = .error e := by
  cases x with
  | error e' =>
      cases h
      exact Or.inl rfl
  | ok a => exact Or.inr ⟨a, rfl, h⟩

/-- Every result of a successful map comes from an element of the list. -/
theorem mem_of_mapM_eq_ok {ε α β : Type} {f : α → Except ε β} {xs : List α} {ys : List β}
    (h : xs.mapM f = .ok ys) {y : β} (hy : y ∈ ys) : ∃ x ∈ xs, f x = .ok y := by
  induction xs generalizing ys with
  | nil =>
      cases h
      cases hy
  | cons x xs ih =>
      rw [List.mapM_cons] at h
      rcases bind_eq_ok h with ⟨b, hb, h⟩
      rcases bind_eq_ok h with ⟨bs, hbs, h⟩
      cases h
      rcases List.mem_cons.mp hy with rfl | hy
      · exact ⟨x, by simp, hb⟩
      · rcases ih hbs hy with ⟨a, ha, hfa⟩
        exact ⟨a, by simp [ha], hfa⟩

/-- A map fails with the failure of one of its elements. -/
theorem exists_error_of_mapM {ε α β : Type} {f : α → Except ε β} {xs : List α} {e : ε}
    (h : xs.mapM f = .error e) : ∃ x ∈ xs, f x = .error e := by
  induction xs with
  | nil => cases h
  | cons x xs ih =>
      rw [List.mapM_cons] at h
      rcases bind_eq_error h with hx | ⟨b, -, h⟩
      · exact ⟨x, by simp, hx⟩
      · rcases bind_eq_error h with hxs | ⟨bs, -, h⟩
        · rcases ih hxs with ⟨a, ha, hfa⟩
          exact ⟨a, by simp [ha], hfa⟩
        · cases h

/-- A map gives what it gives for each element. -/
theorem mapM_eq_ok_of_forall₂ {ε α β : Type} {f : α → Except ε β} {xs : List α} {ys : List β}
    (h : List.Forall₂ (fun x y => f x = .ok y) xs ys) : xs.mapM f = .ok ys := by
  induction h with
  | nil => rfl
  | cons hx _ ih =>
      rw [List.mapM_cons, bind_ok hx, bind_ok ih]
      rfl

/-- A map succeeds exactly when it does on every element. -/
theorem mapM_ok_iff {ε α β : Type} (f : α → Except ε β) (xs : List α) :
    (∃ ys, xs.mapM f = .ok ys) ↔ ∀ x ∈ xs, ∃ y, f x = .ok y := by
  induction xs with
  | nil => exact iff_of_true ⟨[], rfl⟩ (by simp)
  | cons x xs ih =>
      rw [List.forall_mem_cons, ← ih, List.mapM_cons]
      cases hx : f x with
      | error e => simp [bind, Except.bind]
      | ok y =>
          cases hxs : xs.mapM f with
          | error e => simp [bind, Except.bind]
          | ok ys => simp [bind, Except.bind, pure, Except.pure]

/-- A successful map keeps the length. -/
theorem length_of_mapM_eq_ok {ε α β : Type} {f : α → Except ε β} {xs : List α} {ys : List β}
    (h : xs.mapM f = .ok ys) : ys.length = xs.length := by
  induction xs generalizing ys with
  | nil =>
      cases h
      rfl
  | cons x xs ih =>
      rw [List.mapM_cons] at h
      rcases bind_eq_ok h with ⟨b, -, h⟩
      rcases bind_eq_ok h with ⟨bs, hbs, h⟩
      cases h
      rw [List.length_cons, List.length_cons, ih hbs]

/-- A successful map agrees with another one exactly when both do the same on each element. -/
theorem mapM_eq_mapM_iff {ε α β : Type} {f g : α → Except ε β} {xs : List α}
    (h : ∃ ys, xs.mapM f = .ok ys) :
    xs.mapM f = xs.mapM g ↔ ∀ x ∈ xs, f x = g x := by
  induction xs with
  | nil => simp
  | cons x xs ih =>
      rcases h with ⟨ys, h⟩
      rw [List.mapM_cons] at h
      rcases bind_eq_ok h with ⟨b, hb, h⟩
      rcases bind_eq_ok h with ⟨bs, hbs, -⟩
      rw [List.forall_mem_cons, ← ih ⟨bs, hbs⟩, List.mapM_cons, List.mapM_cons, hb, hbs]
      constructor
      · intro heq
        rcases bind_eq_ok heq.symm with ⟨c, hc, heq⟩
        rcases bind_eq_ok heq with ⟨cs, hcs, heq⟩
        cases heq
        exact ⟨hc.symm, hcs.symm⟩
      · rintro ⟨hx, hxs⟩
        rw [← hx, ← hxs]

/-- A successful map gives empty lists only exactly when it does so on each element. -/
theorem flatten_eq_nil_of_mapM {ε α β : Type} {f : α → Except ε (List β)} {xs : List α}
    {ys : List (List β)} (h : xs.mapM f = .ok ys) :
    ys.flatten = [] ↔ ∀ x ∈ xs, f x = .ok [] := by
  induction xs generalizing ys with
  | nil =>
      cases h
      simp
  | cons x xs ih =>
      rw [List.mapM_cons] at h
      rcases bind_eq_ok h with ⟨b, hb, h⟩
      rcases bind_eq_ok h with ⟨bs, hbs, h⟩
      cases h
      rw [List.flatten_cons, List.append_eq_nil_iff, ih hbs, List.forall_mem_cons, hb,
        Except.ok.injEq]

/-- A text contains itself. -/
theorem contains_self (text : String) : contains text text = true := by
  have hself : text.toList ∈ text.toList.tails := by
    cases text.toList with
    | nil => exact List.mem_singleton_self _
    | cons c rest => exact List.mem_cons_self
  exact List.any_eq_true.mpr
    ⟨_, hself, List.isPrefixOf_iff_prefix.mpr (List.prefix_refl _)⟩

/-- The empty text contains itself only. -/
theorem contains_empty {needle : String} (h : contains needle "" = true) : needle = "" := by
  have hchars : needle.toList = [] := by
    simpa [contains] using h
  simpa using hchars

end PythonText
