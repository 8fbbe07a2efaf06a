import AuthClaw.Library.PythonText
import Mathlib.Data.List.Infix

/-!
# Comma-separated values

Rows of fields as one text.  The writer quotes a field where one of its characters would end it,
and doubles the quotes in it.  The reader is a machine that takes the characters of a line one
after another, and then the end of the line, so that a quoted field goes on in the next line.

Main results:

- Theorem {lit}`read_write`: the reader finds the rows that were written, where it takes fields of
  their length.
-/

namespace Csv

/-! ## Dialects -/

/-- A character that ends a line. -/
def lineEnd (c : Char) : Bool :=
  c = '\r' || c = '\n'

/-- What stands between fields and around them, and how long a field may be for the reader. -/
structure Dialect where
  delimiter : Char
  quote : Char
  fieldLimit : Nat
  delimiter_ne_quote : delimiter ≠ quote
  delimiter_inline : lineEnd delimiter = false
  quote_inline : lineEnd quote = false

/-- A field. -/
abbrev Field :=
  List Char

/-- A row. -/
abbrev Row :=
  List Field

section

variable (d : Dialect)

/-- A character that means something outside quotes. -/
def special (c : Char) : Bool :=
  c = d.delimiter || c = d.quote || lineEnd c

/-! ## The writer -/

/-- The quotes of a field are doubled. -/
def doubled (field : Field) : List Char :=
  field.flatMap (fun c => if c = d.quote then [c, c] else [c])

def quoted (field : Field) : List Char :=
  d.quote :: (doubled d field ++ [d.quote])

def writeField (field : Field) : List Char :=
  if field.any (special d) then quoted d field else field

def joinFields : Row → List Char
  | [] => []
  | [field] => writeField d field
  | field :: next :: fields => writeField d field ++ d.delimiter :: joinFields (next :: fields)

/-- A row, and the end of its line.  A row of one empty field is quoted, as nothing would be
seen of it. -/
def writeRow (row : Row) : List Char :=
  (if row = [[]] then quoted d [] else joinFields d row) ++ ['\r', '\n']

def write (rows : List Row) : List Char :=
  rows.flatMap (writeRow d)

/-! ## The reader -/

/-- Where the reader is. -/
inductive ReadState where
  | startRecord
  | startField
  | inField
  | inQuotedField
  /-- After a quote in a quoted field, which ends it or is doubled. -/
  | quoteInQuotedField
  /-- After the end of a row, which ends the line. -/
  | eatLineEnd
deriving DecidableEq

/-- Why a text is not read. -/
inductive ReadError where
  /-- A line goes on after the end of its row. -/
  | newLine
  | fieldLimit
deriving DecidableEq

/-- The reader, with what it has read of a field, and the fields of the row before it. -/
structure Reader where
  state : ReadState
  field : Field
  fields : Row
deriving DecidableEq

/-- The reader at the beginning of a row. -/
def Reader.start : Reader :=
  ⟨.startRecord, [], []⟩

/-- The field ends. -/
def Reader.save (r : Reader) (state : ReadState) : Reader :=
  ⟨state, [], r.fields ++ [r.field]⟩

/-- The field goes on. -/
def Reader.add (r : Reader) (c : Char) (state : ReadState) : Except ReadError Reader :=
  if r.field.length < d.fieldLimit then .ok { r with state, field := r.field ++ [c] }
  else .error .fieldLimit

/-- The first character of a field. -/
def beginField (r : Reader) (c : Char) : Except ReadError Reader :=
  if lineEnd c then .ok (r.save .eatLineEnd)
  else if c = d.quote then .ok { r with state := .inQuotedField }
  else if c = d.delimiter then .ok (r.save .startField)
  else r.add d c .inField

/-- A character. -/
def process (r : Reader) (c : Char) : Except ReadError Reader :=
  match r.state with
  | .startRecord =>
      if lineEnd c then .ok { r with state := .eatLineEnd } else beginField d r c
  | .startField => beginField d r c
  | .inField =>
      if lineEnd c then .ok (r.save .eatLineEnd)
      else if c = d.delimiter then .ok (r.save .startField)
      else r.add d c .inField
  | .inQuotedField =>
      if c = d.quote then .ok { r with state := .quoteInQuotedField }
      else r.add d c .inQuotedField
  | .quoteInQuotedField =>
      if c = d.quote then r.add d c .inQuotedField
      else if c = d.delimiter then .ok (r.save .startField)
      else if lineEnd c then .ok (r.save .eatLineEnd)
      else r.add d c .inField
  | .eatLineEnd => if lineEnd c then .ok r else .error .newLine

/-- The end of a line. -/
def processEnd (r : Reader) : Reader :=
  match r.state with
  | .startRecord | .inQuotedField => r
  | .startField | .inField | .quoteInQuotedField => r.save .startRecord
  | .eatLineEnd => { r with state := .startRecord }

/-- The characters of a line. -/
def processAll : Reader → List Char → Except ReadError Reader
  | r, [] => .ok r
  | r, c :: line =>
      match process d r c with
      | .error e => .error e
      | .ok r => processAll r line

/-- The rows of some lines.  A quoted field that no line ends is a field. -/
def readLines : Reader → List (List Char) → Except ReadError (List Row)
  | r, [] =>
      .ok (if r.field ≠ [] ∨ r.state = .inQuotedField then [(r.save .startRecord).fields] else [])
  | r, line :: later =>
      match (processAll d r line).map processEnd with
      | .error e => .error e
      | .ok r =>
          if r.state = .startRecord then (readLines .start later).map (r.fields :: ·)
          else readLines r later

end

/-- The lines of a text, each with its line feed. -/
def lines : List Char → List (List Char)
  | [] => []
  | c :: text =>
      if c = '\n' then [c] :: lines text
      else
        match lines text with
        | [] => [[c]]
        | line :: later => (c :: line) :: later

section

variable (d : Dialect)

/-- The rest of a text, from a reader in the middle of it. -/
def readFrom (r : Reader) (text : List Char) : Except ReadError (List Row) :=
  readLines d r (lines text)

/-- The rows of a text. -/
def read (text : List Char) : Except ReadError (List Row) :=
  readFrom d .start text

end

/-! ## One character after another -/

section

variable {d : Dialect} {r r' : Reader} {c : Char} {text line : List Char} {field : Field} {row : Row}

theorem lines_ne_nil (h : text ≠ []) : lines text ≠ [] := by
  cases text with
  | nil => exact absurd rfl h
  | cons c text =>
      unfold lines
      split_ifs
      · exact List.cons_ne_nil _ _
      · split <;> exact List.cons_ne_nil _ _

theorem readLines_cons (r : Reader) (line : List Char) (later : List (List Char)) :
    readLines d r (line :: later) =
      match (processAll d r line).map processEnd with
      | .error e => .error e
      | .ok r =>
          if r.state = .startRecord then (readLines d .start later).map (r.fields :: ·)
          else readLines d r later :=
  rfl

theorem doubled_cons (c : Char) (field : Field) :
    doubled d (c :: field) = (if c = d.quote then [c, c] else [c]) ++ doubled d field :=
  rfl

theorem processAll_cons (h : process d r c = .ok r') :
    processAll d r (c :: line) = processAll d r' line := by
  rw [processAll, h]

/-- A character inside a line. -/
theorem readFrom_cons (hprocess : process d r c = .ok r') (hc : c ≠ '\n') (hmore : text ≠ []) :
    readFrom d r (c :: text) = readFrom d r' text := by
  unfold readFrom
  rw [lines, if_neg hc]
  cases hlines : lines text with
  | nil => exact absurd hlines (lines_ne_nil hmore)
  | cons line later =>
      dsimp only
      rw [readLines_cons, readLines_cons, processAll_cons hprocess]

/-- A line feed ends a line. -/
theorem readFrom_lineFeed (hprocess : process d r '\n' = .ok r') :
    readFrom d r ('\n' :: text) =
      if (processEnd r').state = .startRecord then
        (readFrom d .start text).map ((processEnd r').fields :: ·)
      else readFrom d (processEnd r') text := by
  unfold readFrom
  rw [lines, if_pos rfl, readLines_cons, processAll_cons hprocess]
  rfl

/-- The last character of a text ends a line, too. -/
theorem readFrom_last (hprocess : process d r c = .ok r') (hc : c ≠ '\n') :
    readFrom d r [c] =
      if (processEnd r').state = .startRecord then .ok [(processEnd r').fields]
      else readLines d (processEnd r') [] := by
  unfold readFrom
  rw [lines, if_neg hc, lines]
  dsimp only
  rw [readLines_cons, processAll_cons hprocess]
  rfl

/-- A text that is not read ends at the character that is not. -/
theorem readFrom_error {e : ReadError} (hprocess : process d r c = .error e) :
    readFrom d r (c :: text) = .error e := by
  have hline : ∀ line, (processAll d r (c :: line)).map processEnd = .error e := by
    intro line
    rw [processAll, hprocess]
    rfl
  unfold readFrom
  rw [lines]
  split_ifs
  · rw [readLines_cons, hline]
  · split
    · rw [readLines_cons, hline]
    · rw [readLines_cons, hline]

/-- Two readers that take the next character alike read a text alike. -/
theorem readFrom_congr (h : process d r c = process d r' c) :
    readFrom d r (c :: text) = readFrom d r' (c :: text) := by
  have hline : ∀ line, processAll d r (c :: line) = processAll d r' (c :: line) := by
    intro line
    rw [processAll, processAll, h]
  unfold readFrom
  rw [lines]
  split_ifs
  · rw [readLines_cons, readLines_cons, hline]
  · split
    · rw [readLines_cons, readLines_cons, hline]
    · rw [readLines_cons, readLines_cons, hline]

end

/-! ## What was written is read -/

section

variable {d : Dialect} {r : Reader} {c : Char} {text : List Char} {field : Field} {row : Row}

theorem add_of_lt (h : r.field.length < d.fieldLimit) (state : ReadState) :
    r.add d c state = .ok { r with state, field := r.field ++ [c] } :=
  if_pos h

theorem ne_lineFeed (h : lineEnd c = false) : c ≠ '\n' := by
  rintro rfl
  exact absurd h (by decide)

theorem special_eq_false : special d c = false ↔
    c ≠ d.delimiter ∧ c ≠ d.quote ∧ lineEnd c = false := by
  simp [special, and_assoc]

/-- A character in quotes. -/
theorem readFrom_quotedChar (hstate : r.state = .inQuotedField)
    (hroom : r.field.length < d.fieldLimit) (hmore : text ≠ []) :
    readFrom d r ((if c = d.quote then [c, c] else [c]) ++ text) =
      readFrom d { r with field := r.field ++ [c] } text := by
  cases r with
  | mk state got fields =>
      cases hstate
      split_ifs with hquote
      · subst hquote
        have hinline := ne_lineFeed d.quote_inline
        have hfirst : process d ⟨.inQuotedField, got, fields⟩ d.quote =
            .ok ⟨.quoteInQuotedField, got, fields⟩ :=
          if_pos rfl
        have hsecond : process d ⟨.quoteInQuotedField, got, fields⟩ d.quote =
            .ok ⟨.inQuotedField, got ++ [d.quote], fields⟩ := by
          unfold process
          dsimp only
          rw [if_pos rfl]
          exact add_of_lt hroom _
        rw [List.cons_append, List.singleton_append, readFrom_cons hfirst hinline
          (List.cons_ne_nil _ _), readFrom_cons hsecond hinline hmore]
      · have hadd : process d ⟨.inQuotedField, got, fields⟩ c =
            .ok ⟨.inQuotedField, got ++ [c], fields⟩ := by
          unfold process
          dsimp only
          rw [if_neg hquote]
          exact add_of_lt hroom _
        rw [List.singleton_append]
        by_cases hfeed : c = '\n'
        · subst hfeed
          rw [readFrom_lineFeed hadd]
          exact if_neg ReadState.noConfusion
        · exact readFrom_cons hadd hfeed hmore

/-- What stands in quotes is read into the field, over the ends of lines. -/
theorem readFrom_doubled (hstate : r.state = .inQuotedField)
    (hroom : r.field.length + field.length ≤ d.fieldLimit) (hmore : text ≠ []) :
    readFrom d r (doubled d field ++ text) =
      readFrom d { r with field := r.field ++ field } text := by
  induction field generalizing r with
  | nil => rw [List.append_nil]; rfl
  | cons c field ih =>
      rw [List.length_cons] at hroom
      have hrest : doubled d field ++ text ≠ [] := by
        simp [hmore]
      rw [doubled_cons, List.append_assoc,
        readFrom_quotedChar hstate (by omega) hrest]
      refine (ih (r := { r with field := r.field ++ [c] }) hstate ?_).trans ?_
      · rw [List.length_append, List.length_singleton]
        omega
      · rw [List.append_assoc, List.singleton_append]

/-- Characters that mean nothing are read into the field. -/
theorem readFrom_plain (hstate : r.state = .inField)
    (hplain : ∀ c ∈ field, special d c = false)
    (hroom : r.field.length + field.length ≤ d.fieldLimit) (hmore : text ≠ []) :
    readFrom d r (field ++ text) = readFrom d { r with field := r.field ++ field } text := by
  induction field generalizing r with
  | nil => rw [List.append_nil]; rfl
  | cons c field ih =>
      rw [List.length_cons] at hroom
      rw [List.forall_mem_cons] at hplain
      rcases special_eq_false.mp hplain.1 with ⟨hdelimiter, -, hinline⟩
      have hadd : process d r c = .ok { r with field := r.field ++ [c] } := by
        unfold process
        rw [hstate]
        dsimp only
        rw [hinline, if_neg Bool.false_ne_true, if_neg hdelimiter, add_of_lt (by omega)]
      rw [List.cons_append, readFrom_cons hadd (ne_lineFeed hinline) (by simp [hmore])]
      refine (ih (r := { r with field := r.field ++ [c] }) hstate hplain.2 ?_).trans ?_
      · rw [List.length_append, List.length_singleton]
        omega
      · rw [List.append_assoc, List.singleton_append]

/-- The reader is where a field may end. -/
structure Ends (d : Dialect) (r : Reader) : Prop where
  delimiter : process d r d.delimiter = .ok (r.save .startField)
  carriageReturn : process d r '\r' = .ok (r.save .eatLineEnd)

theorem ends_startField (got : Field) (fields : Row) : Ends d ⟨.startField, got, fields⟩ where
  delimiter := by
    simp [process, beginField, d.delimiter_inline, d.delimiter_ne_quote]
  carriageReturn := rfl

theorem ends_inField (got : Field) (fields : Row) : Ends d ⟨.inField, got, fields⟩ where
  delimiter := by
    simp [process, d.delimiter_inline]
  carriageReturn := rfl

theorem ends_quoteInQuotedField (got : Field) (fields : Row) :
    Ends d ⟨.quoteInQuotedField, got, fields⟩ where
  delimiter := by
    simp [process, d.delimiter_ne_quote]
  carriageReturn := by
    have hquote : '\r' ≠ d.quote := by
      intro h
      exact absurd (h ▸ d.quote_inline) (by decide)
    have hdelimiter : '\r' ≠ d.delimiter := by
      intro h
      exact absurd (h ▸ d.delimiter_inline) (by decide)
    simp [process, hquote, hdelimiter, lineEnd]

/-- A quoted field is read. -/
theorem readFrom_quoted (field : Field) {fields : Row}
    (hbegin : process d r d.quote = .ok ⟨.inQuotedField, [], fields⟩)
    (hroom : field.length ≤ d.fieldLimit) (hmore : text ≠ []) :
    readFrom d r (quoted d field ++ text) =
      readFrom d ⟨.quoteInQuotedField, field, fields⟩ text := by
  have hinline := ne_lineFeed d.quote_inline
  have hend : process d ⟨.inQuotedField, field, fields⟩ d.quote =
      .ok ⟨.quoteInQuotedField, field, fields⟩ :=
    if_pos rfl
  rw [quoted, List.cons_append, List.append_assoc, List.singleton_append,
    readFrom_cons hbegin hinline (by simp),
    readFrom_doubled rfl (by simpa using hroom) (List.cons_ne_nil _ _)]
  exact readFrom_cons hend hinline hmore

/-- A field is read, up to where it ends. -/
theorem readFrom_writeField (fields : Row) (hroom : field.length ≤ d.fieldLimit)
    (hmore : text ≠ []) :
    ∃ state, Ends d ⟨state, field, fields⟩ ∧
      readFrom d ⟨.startField, [], fields⟩ (writeField d field ++ text) =
        readFrom d ⟨state, field, fields⟩ text := by
  unfold writeField
  split_ifs with hspecial
  · refine ⟨.quoteInQuotedField, ends_quoteInQuotedField _ _, readFrom_quoted field ?_ hroom hmore⟩
    simp [process, beginField, d.quote_inline]
  · have hplain : ∀ c ∈ field, special d c = false := by
      simpa using hspecial
    cases field with
    | nil => exact ⟨.startField, ends_startField _ _, rfl⟩
    | cons c field =>
        rw [List.forall_mem_cons] at hplain
        rw [List.length_cons] at hroom
        rcases special_eq_false.mp hplain.1 with ⟨hdelimiter, hquote, hinline⟩
        have hbegin : process d ⟨.startField, [], fields⟩ c = .ok ⟨.inField, [c], fields⟩ := by
          unfold process beginField
          dsimp only
          rw [hinline, if_neg Bool.false_ne_true, if_neg hquote, if_neg hdelimiter]
          exact add_of_lt (by simp; omega) _
        refine ⟨.inField, ends_inField _ _, ?_⟩
        rw [List.cons_append, readFrom_cons hbegin (ne_lineFeed hinline) (by simp [hmore]),
          readFrom_plain rfl hplain.2 (by simp; omega) hmore]
        rfl

/-- The fields of a row are read, and the end of its line. -/
theorem readFrom_joinFields (done fields : Row) (field : Field)
    (hroom : ∀ f ∈ field :: fields, f.length ≤ d.fieldLimit) (text : List Char) :
    readFrom d ⟨.startField, [], done⟩ (joinFields d (field :: fields) ++ '\r' :: '\n' :: text) =
      (readFrom d .start text).map ((done ++ field :: fields) :: ·) := by
  induction fields generalizing field done with
  | nil =>
      rw [List.forall_mem_singleton] at hroom
      have hmore : '\r' :: '\n' :: text ≠ [] := List.cons_ne_nil _ _
      rcases readFrom_writeField (d := d) done hroom hmore with ⟨state, hends, hread⟩
      have hfeed : process d ((⟨state, field, done⟩ : Reader).save .eatLineEnd) '\n' =
          .ok ((⟨state, field, done⟩ : Reader).save .eatLineEnd) :=
        rfl
      rw [joinFields, hread, readFrom_cons hends.carriageReturn (by decide) (List.cons_ne_nil _ _),
        readFrom_lineFeed hfeed]
      rfl
  | cons next fields ih =>
      rw [List.forall_mem_cons] at hroom
      have hmore : d.delimiter :: (joinFields d (next :: fields) ++ '\r' :: '\n' :: text) ≠ [] :=
        List.cons_ne_nil _ _
      rcases readFrom_writeField done hroom.1 hmore with ⟨state, hends, hread⟩
      rw [joinFields, List.append_assoc, List.cons_append, hread,
        readFrom_cons hends.delimiter (ne_lineFeed d.delimiter_inline) (by simp)]
      refine (ih (done ++ [field]) next hroom.2).trans ?_
      rw [List.append_assoc, List.singleton_append]

/-- Something is seen of a row that has fields, and is not one empty field. -/
theorem joinFields_head (hrow : row ≠ []) (hempty : row ≠ [[]]) :
    ∃ c text, joinFields d row = c :: text ∧ lineEnd c = false := by
  have hwritten : ∀ c field, ∃ c' text, writeField d (c :: field) = c' :: text ∧
      lineEnd c' = false := by
    intro c field
    unfold writeField
    split_ifs with hspecial
    · exact ⟨d.quote, _, rfl, d.quote_inline⟩
    · rw [List.any_cons, Bool.or_eq_true, not_or, Bool.not_eq_true] at hspecial
      exact ⟨c, field, rfl, (special_eq_false.mp hspecial.1).2.2⟩
  match row with
  | [] => exact absurd rfl hrow
  | [[]] => exact absurd rfl hempty
  | [c :: field] => exact hwritten c field
  | [] :: next :: fields => exact ⟨d.delimiter, _, rfl, d.delimiter_inline⟩
  | (c :: field) :: next :: fields =>
      rcases hwritten c field with ⟨c', text, htext, hinline⟩
      refine ⟨c', text ++ d.delimiter :: joinFields d (next :: fields), ?_, hinline⟩
      rw [joinFields, htext, List.cons_append]

/-- A row is read. -/
theorem readFrom_writeRow (hroom : ∀ f ∈ row, f.length ≤ d.fieldLimit) (text : List Char) :
    readFrom d .start (writeRow d row ++ text) = (readFrom d .start text).map (row :: ·) := by
  have hfeed : ∀ fields, process d ⟨.eatLineEnd, [], fields⟩ '\n' =
      .ok ⟨.eatLineEnd, [], fields⟩ :=
    fun _ => rfl
  unfold writeRow
  split_ifs with hempty
  · subst hempty
    have hbegin : process d .start d.quote = .ok ⟨.inQuotedField, [], []⟩ := by
      simp [process, beginField, Reader.start, d.quote_inline]
    rw [List.append_assoc, List.cons_append, List.singleton_append,
      readFrom_quoted [] hbegin (Nat.zero_le _) (List.cons_ne_nil _ _),
      readFrom_cons (ends_quoteInQuotedField [] []).carriageReturn (by decide)
        (List.cons_ne_nil _ _)]
    exact readFrom_lineFeed (hfeed _)
  · rw [List.append_assoc, List.cons_append, List.singleton_append]
    cases row with
    | nil =>
        rw [joinFields, List.nil_append]
        have hreturn : process d .start '\r' = .ok ⟨.eatLineEnd, [], []⟩ := rfl
        rw [readFrom_cons hreturn (by decide) (List.cons_ne_nil _ _)]
        exact readFrom_lineFeed (hfeed _)
    | cons field fields =>
        rcases joinFields_head (d := d) (List.cons_ne_nil field fields) hempty with
          ⟨c, rest, hhead, hinline⟩
        have hsame : process d .start c = process d ⟨.startField, [], []⟩ c := by
          unfold process
          dsimp only [Reader.start]
          rw [hinline, if_neg Bool.false_ne_true]
          rfl
        refine Eq.trans ?_ (readFrom_joinFields [] fields field hroom text)
        rw [hhead, List.cons_append]
        exact readFrom_congr hsame

/-- The reader finds the rows that were written. -/
theorem read_write {rows : List Row} (hroom : ∀ row ∈ rows, ∀ f ∈ row, f.length ≤ d.fieldLimit) :
    read d (write d rows) = .ok rows := by
  induction rows with
  | nil => rfl
  | cons row rows ih =>
      rw [List.forall_mem_cons] at hroom
      have hrest : readFrom d .start (write d rows) = .ok rows := ih hroom.2
      rw [read, write, List.flatMap_cons, readFrom_writeRow hroom.1]
      rw [write] at hrest
      rw [hrest]
      rfl

end

/-- The dialect of a reader that takes fields of another length. -/
def Dialect.withLimit (d : Dialect) (limit : Nat) : Dialect :=
  { d with fieldLimit := limit }

theorem joinFields_withLimit (d : Dialect) (limit : Nat) :
    ∀ row, joinFields (d.withLimit limit) row = joinFields d row
  | [] => rfl
  | [_] => rfl
  | field :: next :: fields => by
      rw [joinFields, joinFields, joinFields_withLimit d limit (next :: fields)]
      rfl

/-- The writer does not know how long a field may be. -/
theorem write_withLimit (d : Dialect) (limit : Nat) (rows : List Row) :
    write (d.withLimit limit) rows = write d rows := by
  have hrow : ∀ row, writeRow (d.withLimit limit) row = writeRow d row := by
    intro row
    unfold writeRow
    rw [joinFields_withLimit]
    rfl
  unfold write
  rw [funext hrow]

end Csv
