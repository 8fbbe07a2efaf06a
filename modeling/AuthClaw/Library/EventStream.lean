import Mathlib.Data.List.Basic
import Mathlib.Tactic.Common

/-!
# Event streams

Events on lines of their own behind a field name, read line by line up to an event that ends the
stream.

Main results:

- Theorem {lit}`lines_append`: a line that ends with its newline is read on its own.
- Theorem {lit}`readEvents_stream`: events that were written are read back, and nothing after the
  one that ends the stream is.
-/

namespace EventStream

variable {V : Type*}

/-! ## Lines -/

/-- The lines of a text, each with the newline that ends it. -/
def lines : List Char → List (List Char)
  | [] => []
  | c :: rest =>
      if c = '\n' then [c] :: lines rest
      else
        match lines rest with
        | [] => [[c]]
        | line :: more => (c :: line) :: more

/-- A text without the spaces at its ends. -/
def strip (isSpace : Char → Bool) (text : List Char) : List Char :=
  ((text.dropWhile isSpace).reverse.dropWhile isSpace).reverse

/-- A text that neither begins nor ends with a space, and is on one line. -/
structure Tight (isSpace : Char → Bool) (text : List Char) : Prop where
  head : ∀ c, text.head? = some c → isSpace c = false
  last : ∀ c, text.getLast? = some c → isSpace c = false
  line : '\n' ∉ text

section

variable {isSpace : Char → Bool} {text front back : List Char}

/-- A line that ends with its newline is read on its own. -/
theorem lines_append (hline : '\n' ∉ text) (rest : List Char) :
    lines (text ++ '\n' :: rest) = (text ++ ['\n']) :: lines rest := by
  induction text with
  | nil => rfl
  | cons c text ih =>
      have hc : c ≠ '\n' := fun heq => hline (heq ▸ List.mem_cons_self)
      have htext : '\n' ∉ text := fun hmem => hline (List.mem_cons_of_mem _ hmem)
      rw [List.cons_append, lines, if_neg hc, ih htext]
      rfl

theorem dropWhile_spaces (hfront : ∀ c ∈ front, isSpace c = true)
    (hhead : ∀ c, text.head? = some c → isSpace c = false) :
    (front ++ text).dropWhile isSpace = text := by
  rw [List.dropWhile_append_of_pos hfront]
  cases text with
  | nil => rfl
  | cons c text => exact List.dropWhile_cons_of_neg (by rw [hhead c rfl]; exact Bool.false_ne_true)

/-- Spaces around a text are stripped off. -/
theorem strip_spaces (hfront : ∀ c ∈ front, isSpace c = true) (hback : ∀ c ∈ back, isSpace c = true)
    (htext : text ≠ []) (htight : Tight isSpace text) :
    strip isSpace (front ++ (text ++ back)) = text := by
  have hhead : ∀ c, (text ++ back).head? = some c → isSpace c = false := by
    intro c hc
    rw [List.head?_append_of_ne_nil _ htext] at hc
    exact htight.head c hc
  have hlast : ∀ c, text.reverse.head? = some c → isSpace c = false := by
    intro c hc
    rw [List.head?_reverse] at hc
    exact htight.last c hc
  unfold strip
  rw [dropWhile_spaces hfront hhead, List.reverse_append,
    dropWhile_spaces (fun c hc => hback c (List.mem_reverse.mp hc)) hlast, List.reverse_reverse]

end

/-! ## Events -/

/-- An event: a field, a value, and an empty line. -/
def event (field value : List Char) : List Char :=
  field ++ ' ' :: (value ++ ['\n', '\n'])

/-- How reading ends. -/
inductive StreamEnd where
  /-- The event that ends the stream, or no line is left. -/
  | finished
  /-- A value could not be read. -/
  | failed
deriving DecidableEq

/-- The values that are read from lines, and how reading ends: other lines than those of the
field are passed over. -/
def readEvents (isSpace : Char → Bool) (field done : List Char) (read : List Char → Option V) :
    List (List Char) → List V × StreamEnd
  | [] => ([], .finished)
  | line :: more =>
      let line := strip isSpace line
      if field.isPrefixOf line then
        let value := strip isSpace (line.drop field.length)
        if value = done then ([], .finished)
        else
          match read value with
          | none => ([], .failed)
          | some v =>
              let after := readEvents isSpace field done read more
              (v :: after.1, after.2)
      else readEvents isSpace field done read more

section

variable {isSpace : Char → Bool} {field done value : List Char} {read : List Char → Option V}

/-- The line of an event is read as its field and its value. -/
theorem strip_event (hspace : isSpace ' ' = true) (hnewline : isSpace '\n' = true)
    (hfield : field ≠ []) (hfieldTight : Tight isSpace field) (hvalue : value ≠ [])
    (htight : Tight isSpace value) :
    strip isSpace (field ++ ' ' :: value ++ ['\n']) = field ++ ' ' :: value ∧
      strip isSpace ((field ++ ' ' :: value).drop field.length) = value := by
  have hline : Tight isSpace (field ++ ' ' :: value) := by
    refine ⟨?_, ?_, ?_⟩
    · intro c hc
      rw [List.head?_append_of_ne_nil _ hfield] at hc
      exact hfieldTight.head c hc
    · intro c hc
      rw [List.getLast?_append_of_ne_nil _ (List.cons_ne_nil _ _),
        List.getLast?_cons_of_ne_nil hvalue] at hc
      exact htight.last c hc
    · intro hmem
      rcases List.mem_append.mp hmem with hmem | hmem
      · exact hfieldTight.line hmem
      · rcases List.mem_cons.mp hmem with heq | hmem
        · exact absurd heq (by decide)
        · exact htight.line hmem
  refine ⟨?_, ?_⟩
  · have hstrip : strip isSpace ([] ++ (field ++ ' ' :: value ++ ['\n'])) = field ++ ' ' :: value :=
      strip_spaces (fun _ hc => nomatch hc) (by simpa using hnewline)
        (List.append_ne_nil_of_left_ne_nil hfield _) hline
    exact hstrip
  · rw [List.drop_left]
    have hstrip : strip isSpace ([' '] ++ (value ++ [])) = value :=
      strip_spaces (by simpa using hspace) (fun _ hc => nomatch hc) hvalue htight
    rw [List.append_nil] at hstrip
    exact hstrip

/-- The first event of a stream is read. -/
theorem readEvents_event (hspace : isSpace ' ' = true) (hnewline : isSpace '\n' = true)
    (hfield : field ≠ []) (hfieldTight : Tight isSpace field) (hvalue : value ≠ [])
    (htight : Tight isSpace value) (rest : List Char) :
    readEvents isSpace field done read (lines (event field value ++ rest)) =
      if value = done then ([], .finished)
      else
        match read value with
        | none => ([], .failed)
        | some v =>
            let after := readEvents isSpace field done read (lines rest)
            (v :: after.1, after.2) := by
  have hline : '\n' ∉ field ++ ' ' :: value := by
    intro hmem
    rcases List.mem_append.mp hmem with hmem | hmem
    · exact hfieldTight.line hmem
    · rcases List.mem_cons.mp hmem with heq | hmem
      · exact absurd heq (by decide)
      · exact htight.line hmem
  have hevent : event field value ++ rest =
      (field ++ ' ' :: value) ++ '\n' :: ([] ++ '\n' :: rest) := by
    unfold event
    simp only [List.append_assoc, List.cons_append, List.nil_append]
  rcases strip_event hspace hnewline hfield hfieldTight hvalue htight with ⟨hstrip, hdrop⟩
  rw [hevent, lines_append hline, lines_append (List.not_mem_nil), readEvents, hstrip]
  dsimp only
  rw [if_pos (List.isPrefixOf_iff_prefix.mpr (List.prefix_append _ _)), hdrop]
  -- the empty line is passed over
  have hempty : readEvents isSpace field done read (([] ++ ['\n']) :: lines rest) =
      readEvents isSpace field done read (lines rest) := by
    rw [readEvents]
    have hblank : strip isSpace ([] ++ ['\n']) = [] := by
      unfold strip
      rw [List.nil_append, List.dropWhile_cons_of_pos hnewline]
      rfl
    dsimp only
    rw [hblank, if_neg]
    intro hprefix
    exact hfield (List.prefix_nil.mp (List.isPrefixOf_iff_prefix.mp hprefix))
  rw [hempty]

/-- Events that were written are read back up to the one that ends the stream, whatever follows
it. -/
theorem readEvents_stream {events : List (List Char × V)} (hspace : isSpace ' ' = true)
    (hnewline : isSpace '\n' = true) (hfield : field ≠ []) (hfieldTight : Tight isSpace field)
    (hdone : done ≠ []) (hdoneTight : Tight isSpace done)
    (hevents : ∀ e ∈ events, e.1 ≠ [] ∧ e.1 ≠ done ∧ Tight isSpace e.1 ∧ read e.1 = some e.2)
    (rest : List Char) :
    readEvents isSpace field done read
        (lines (events.flatMap (fun e => event field e.1) ++ (event field done ++ rest))) =
      (events.map Prod.snd, .finished) := by
  induction events with
  | nil =>
      rw [List.flatMap_nil, List.nil_append,
        readEvents_event hspace hnewline hfield hfieldTight hdone hdoneTight, if_pos rfl]
      rfl
  | cons e events ih =>
      rcases hevents e List.mem_cons_self with ⟨hvalue, hne, htight, hread⟩
      rw [List.flatMap_cons, List.append_assoc,
        readEvents_event hspace hnewline hfield hfieldTight hvalue htight, if_neg hne,
        hread]
      dsimp only
      rw [ih (fun e' he' => hevents e' (List.mem_cons_of_mem _ he'))]
      rfl

end

end EventStream
