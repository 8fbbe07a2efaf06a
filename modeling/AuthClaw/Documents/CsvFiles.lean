import AuthClaw.Documents.Spreadsheet
import AuthClaw.Exports.Ledger
import Mathlib.Tactic.Tauto

/-!
# Uploaded files of comma-separated values

{lit}`parse_csv` decodes an uploaded file, leaving out the bytes that are no text, and writes what
{lit}`csv.reader` finds in it as a table.  What cannot be read is caught: nothing is extracted
then, and the scan of the document finds nothing in it.

Main results:

- Theorem {lit}`parseCsv_auditCsv`: the table of an exported log.
- Theorem {lit}`parseCsv_shows`: what stands in a file is extracted, or nothing is.
- Theorem {lit}`parseCsv_return_hides`: a carriage return in a line hides the file.
-/

namespace AuthClaw.Documents

open AuthClaw.Exports PythonText
open Spreadsheet (escapePipes tableLine escapePipes_toList)

/-! ## Bytes -/

/-- The text of at most some bytes, without those that are no text. -/
def decodeIgnoringFrom : Nat → List UInt8 → List Char
  | 0, _ => []
  | _ + 1, [] => []
  | n + 1, b :: bytes =>
      match (ByteArray.mk (b :: bytes).toArray).utf8DecodeChar? 0 with
      | some c => c :: decodeIgnoringFrom n ((b :: bytes).drop c.utf8Size)
      | none => decodeIgnoringFrom n bytes

/-- `file_bytes.decode("utf-8", errors="ignore")`.  No continuation byte begins a character, so that
the bytes of a broken character are left out one by one. -/
def decodeIgnoring (bytes : List UInt8) : List Char :=
  decodeIgnoringFrom bytes.length bytes

theorem utf8Bytes_eq (text : List Char) : utf8Bytes text = text.flatMap String.utf8EncodeChar := by
  unfold utf8Bytes
  rw [String.toByteArray_ofList]
  simp [List.utf8Encode]

theorem utf8Bytes_cons (c : Char) (text : List Char) :
    utf8Bytes (c :: text) = String.utf8EncodeChar c ++ utf8Bytes text := by
  rw [utf8Bytes_eq, utf8Bytes_eq, List.flatMap_cons]

/-- The bytes of a text begin with its first character. -/
theorem utf8DecodeChar_utf8Bytes (c : Char) (text : List Char) :
    (ByteArray.mk (utf8Bytes (c :: text)).toArray).utf8DecodeChar? 0 = some c := by
  unfold utf8Bytes
  rw [Array.toArray_toList]
  show (String.ofList (c :: text)).toByteArray.utf8DecodeChar? 0 = some c
  rw [String.toByteArray_ofList, List.utf8DecodeChar?_utf8Encode_cons]

theorem decodeIgnoringFrom_utf8Bytes {n : Nat} {text : List Char}
    (h : (utf8Bytes text).length ≤ n) : decodeIgnoringFrom n (utf8Bytes text) = text := by
  induction text generalizing n with
  | nil => cases n <;> rfl
  | cons c text ih =>
      have hdecode := utf8DecodeChar_utf8Bytes c text
      have hlength := String.length_utf8EncodeChar c
      have hpos := c.utf8Size_pos
      rw [utf8Bytes_cons] at h hdecode ⊢
      rw [List.length_append] at h
      cases hbytes : String.utf8EncodeChar c with
      | nil =>
          rw [hbytes, List.length_nil] at hlength
          omega
      | cons b rest =>
          cases n with
          | zero =>
              rw [hbytes, List.length_cons] at h
              omega
          | succ n =>
              rw [hbytes, List.cons_append] at hdecode
              rw [List.cons_append, decodeIgnoringFrom, hdecode]
              dsimp only
              rw [← List.cons_append, ← hbytes, ← hlength, List.drop_left, ih (by omega)]

/-- What was encoded is decoded. -/
theorem decodeIgnoring_utf8Bytes (text : List Char) : decodeIgnoring (utf8Bytes text) = text :=
  decodeIgnoringFrom_utf8Bytes (le_refl _)

/-! ## The table -/

/-- `cell.strip().replace("|", "\\|")` -/
def markdownCell (py : PyText) (cell : Csv.Field) : String :=
  escapePipes (py.strip (String.ofList cell))

/-- `markdown_parts`, joined. -/
def markdownTable (py : PyText) (header : Csv.Row) (rows : List Csv.Row) : String :=
  String.intercalate "\n"
    (tableLine (header.map (markdownCell py)) :: tableLine (header.map (fun _ => "---")) ::
      rows.map (fun row => tableLine (row.map (markdownCell py))))

/-- `parse_csv` -/
def parseCsv (py : PyText) (bytes : List UInt8) : String :=
  match Csv.read excel (decodeIgnoring bytes) with
  | .error _ => ""
  | .ok [] => ""
  | .ok (header :: rows) => markdownTable py header rows

/-! ## Exported files -/

/-- No field is longer than the reader takes. -/
def rowFits (row : Csv.Row) : Bool :=
  row.all (fun field => field.length ≤ excel.fieldLimit)

theorem rowFits_iff {row : Csv.Row} :
    rowFits row = true ↔ Csv.Bounded excel.fieldLimit row := by
  simp [rowFits, Csv.Bounded]

/-- The table of a file that was written. -/
theorem parseCsv_csvBytes (py : PyText) (header : Csv.Row) (rows : List Csv.Row) :
    parseCsv py (csvBytes (header :: rows)) =
      if (header :: rows).all rowFits then markdownTable py header rows else "" := by
  unfold parseCsv csvBytes
  rw [decodeIgnoring_utf8Bytes]
  split_ifs with hfits
  · have hbounded : ∀ row ∈ header :: rows, Csv.Bounded excel.fieldLimit row :=
      fun row hrow => rowFits_iff.mp (List.all_eq_true.mp hfits row hrow)
    rw [Csv.read_write hbounded]
  · cases hread : Csv.read excel (Csv.write excel (header :: rows)) with
    | error e => rfl
    | ok rows' =>
        refine absurd (List.all_eq_true.mpr ?_) hfits
        intro row hrow
        exact rowFits_iff.mpr (Csv.read_write_iff.mp ⟨rows', hread⟩ row hrow)

/-- An exported log that is uploaded is extracted as a table of all of its columns; where one of
them is longer than the reader takes, nothing of the log is. -/
theorem parseCsv_auditCsv (py : PyText) (table : List Audit.AuditRow) (tenantId : Option Int) :
    parseCsv py (generateAuditCsv table tenantId) =
      if (Audit.selectRows table tenantId).all (fun r => rowFits (auditCells r)) then
        markdownTable py auditHeader ((Audit.selectRows table tenantId).map auditCells)
      else "" := by
  have hheader : rowFits auditHeader = true := by decide
  unfold generateAuditCsv
  rw [parseCsv_csvBytes, List.all_cons, hheader, Bool.true_and, List.all_map]
  rfl

/-! ## Files of others -/

section

variable {py : PyText} {word : String} {cell : Csv.Field}

/-- A word without blanks at its ends stays where blanks are dropped before it. -/
theorem dropWhile_append_word {p : Char → Bool} {word before after : List Char}
    (hhead : ∀ c ∈ word.head?, p c = false) (hne : word ≠ []) :
    (before ++ word ++ after).dropWhile p = before.dropWhile p ++ word ++ after := by
  induction before with
  | nil =>
      cases word with
      | nil => exact absurd rfl hne
      | cons c word =>
          have hc : p c = false := hhead c rfl
          simp [hc]
  | cons b before ih =>
      rw [List.cons_append, List.cons_append, List.dropWhile_cons, List.dropWhile_cons]
      split_ifs
      · exact ih
      · rfl

/-- A word without blanks at its ends stays in a text that is stripped. -/
theorem infix_strip (hhead : ∀ c ∈ word.toList.head?, py.isSpace c = false)
    (hlast : ∀ c ∈ word.toList.getLast?, py.isSpace c = false) (hne : word.toList ≠ [])
    (h : word.toList <:+: cell) : word.toList <:+: (py.strip (String.ofList cell)).toList := by
  rcases h with ⟨before, after, rfl⟩
  have hhead' : ∀ c ∈ word.toList.reverse.head?, py.isSpace c = false := by
    rw [List.head?_reverse]
    exact hlast
  have hne' : word.toList.reverse ≠ [] := by
    simpa using hne
  unfold PyText.strip
  rw [String.toList_ofList, String.toList_ofList, dropWhile_append_word hhead hne,
    List.reverse_append, List.reverse_append, ← List.append_assoc,
    dropWhile_append_word hhead' hne']
  refine ⟨before.dropWhile py.isSpace, (after.reverse.dropWhile py.isSpace).reverse, ?_⟩
  simp only [List.reverse_append, List.reverse_reverse, List.append_assoc]

/-- A word without pipes stays in a text whose pipes are escaped. -/
theorem infix_escapePipes {text : String} (hpipe : '|' ∉ word.toList)
    (h : word.toList <:+: text.toList) : word.toList <:+: (escapePipes text).toList := by
  rcases h with ⟨before, after, htext⟩
  have hword : word.toList.flatMap (fun c => if c = '|' then ['\\', '|'] else [c]) =
      word.toList := by
    refine (List.flatMap_congr ?_).trans (List.flatMap_singleton' _)
    intro c hc
    rw [if_neg]
    rintro rfl
    exact hpipe hc
  rw [escapePipes_toList, ← htext, List.flatMap_append, List.flatMap_append, hword]
  exact ⟨_, _, rfl⟩

/-- A text stands in what it is joined with others to. -/
theorem infix_intercalate {separator part : List Char} {parts : List (List Char)}
    (h : part ∈ parts) : part <:+: separator.intercalate parts := by
  induction parts with
  | nil => cases h
  | cons first parts ih =>
      cases parts with
      | nil =>
          rw [List.mem_singleton.mp h, List.intercalate_singleton]
      | cons next parts =>
          rw [List.intercalate_cons_cons]
          rcases List.mem_cons.mp h with rfl | h
          · exact ((List.prefix_append _ _).trans (List.prefix_append _ _)).isInfix
          · exact (ih h).trans (List.suffix_append _ _).isInfix

theorem infix_tableLine {text : String} {cells : List String} (h : text ∈ cells) :
    text.toList <:+: (tableLine cells).toList := by
  unfold tableLine
  rw [String.toList_append, String.toList_append, String.toList_intercalate]
  have hcells : text.toList <:+: " | ".toList.intercalate (cells.map String.toList) :=
    infix_intercalate (List.mem_map_of_mem h)
  exact (hcells.trans (List.suffix_append _ _).isInfix).trans (List.prefix_append _ _).isInfix

/-- Every cell stands in the table. -/
theorem infix_markdownTable {header row : Csv.Row} {rows : List Csv.Row}
    (hrow : row ∈ header :: rows) (hcell : cell ∈ row) :
    (markdownCell py cell).toList <:+: (markdownTable py header rows).toList := by
  have hline : (markdownCell py cell).toList <:+:
      (tableLine (row.map (markdownCell py))).toList :=
    infix_tableLine (List.mem_map_of_mem hcell)
  unfold markdownTable
  rw [String.toList_intercalate]
  refine hline.trans (infix_intercalate (List.mem_map_of_mem ?_))
  rcases List.mem_cons.mp hrow with rfl | hrow
  · exact List.mem_cons_self
  · exact List.mem_cons_of_mem _ (List.mem_cons_of_mem _ (List.mem_map_of_mem hrow))

theorem contains_of_infix {needle text : String} (h : needle.toList <:+: text.toList) :
    contains needle text = true := by
  rcases List.infix_iff_prefix_suffix.mp h with ⟨rest, hbegins, hends⟩
  exact List.any_eq_true.mpr
    ⟨rest, (List.mem_tails _ _).mpr hends, List.isPrefixOf_iff_prefix.mpr hbegins⟩

end

/-- What stands in a file is extracted, or nothing of the file is: a text without characters that
mean something to the reader or the table, and without blanks at its ends, is found in the table
of every file that contains it, unless a carriage return does not end its line or the file is
longer than a field may be. -/
theorem parseCsv_shows (py : PyText) (bytes : List UInt8) (word : String) (hne : word ≠ "")
    (hplain : ∀ c ∈ word.toList, Csv.special excel c = false ∧ c ≠ '|')
    (hhead : ∀ c ∈ word.toList.head?, py.isSpace c = false)
    (hlast : ∀ c ∈ word.toList.getLast?, py.isSpace c = false)
    (hword : word.toList <:+: decodeIgnoring bytes) :
    contains word (parseCsv py bytes) = true ∨
      parseCsv py bytes = "" ∧ (Csv.returnsEnd (decodeIgnoring bytes) = false ∨
        excel.fieldLimit < (decodeIgnoring bytes).length) := by
  have hne' : word.toList ≠ [] := by
    simpa using hne
  unfold parseCsv
  cases hread : Csv.read excel (decodeIgnoring bytes) with
  | error e =>
      refine .inr ⟨rfl, ?_⟩
      by_contra hnot
      rw [not_or, Bool.not_eq_false, not_lt] at hnot
      rcases Csv.read_isOk hnot.2 hnot.1 with ⟨rows, hrows⟩
      rw [hread] at hrows
      cases hrows
  | ok rows =>
      rcases Csv.read_shows (fun c hc => (hplain c hc).1) hne' hword hread with
        ⟨row, hrow, cell, hcell, hinfix⟩
      left
      cases rows with
      | nil => cases hrow
      | cons header rows =>
          refine contains_of_infix (List.IsInfix.trans ?_ (infix_markdownTable hrow hcell))
          refine infix_escapePipes ?_ (infix_strip hhead hlast hne' hinfix)
          intro hpipe
          exact (hplain '|' hpipe).2 rfl

theorem parseCsv_shows_example :
    contains "123-45-6789" (parseCsv asciiText (utf8Bytes "Ann,123-45-6789\r\n".toList)) = true ∨
      parseCsv asciiText (utf8Bytes "Ann,123-45-6789\r\n".toList) = "" ∧
        (Csv.returnsEnd (decodeIgnoring (utf8Bytes "Ann,123-45-6789\r\n".toList)) = false ∨
          excel.fieldLimit <
            (decodeIgnoring (utf8Bytes "Ann,123-45-6789\r\n".toList)).length) := by
  have hplain : "123-45-6789".toList.all
      (fun c => Csv.special excel c = false ∧ c ≠ '|') = true := by decide
  refine parseCsv_shows asciiText _ "123-45-6789" (by decide) ?_ ?_ ?_ ?_
  · intro c hc
    exact of_decide_eq_true (List.all_eq_true.mp hplain c hc)
  · intro c hc
    cases hc
    rfl
  · intro c hc
    cases hc
    rfl
  · rw [decodeIgnoring_utf8Bytes]
    exact ⟨"Ann,".toList, "\r\n".toList, by decide⟩

/-- A carriage return that ends no line, where nothing before it is quoted, hides all of the file:
nothing is extracted, whatever else the file contains. -/
theorem parseCsv_return_hides (py : PyText) (bytes : List UInt8) (before after : List Char)
    (c : Char) (hbefore : '"' ∉ before) (hc : c ≠ '\r' ∧ c ≠ '\n')
    (hbytes : decodeIgnoring bytes = before ++ '\r' :: c :: after) : parseCsv py bytes = "" := by
  have hline : Csv.lineEnd c = false := by
    simp [Csv.lineEnd, hc]
  unfold parseCsv
  rw [hbytes]
  cases hread : Csv.read excel (before ++ '\r' :: c :: after) with
  | error e => rfl
  | ok rows => exact absurd hread (Csv.read_not_ok hbefore hline)

theorem parseCsv_return_hides_example :
    parseCsv asciiText (utf8Bytes "Name,Number\rAnn,123-45-6789".toList) = "" := by
  refine parseCsv_return_hides asciiText _ "Name,Number".toList "nn,123-45-6789".toList 'A'
    (by decide) (by decide) ?_
  rw [decodeIgnoring_utf8Bytes]
  decide

end AuthClaw.Documents
