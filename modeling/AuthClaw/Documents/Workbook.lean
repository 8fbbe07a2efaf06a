import AuthClaw.Documents.Spreadsheet
import Mathlib.Data.Nat.Digits.Defs

/-!
# Workbooks and their parts

A workbook is a table of shared string items and the worksheets with their rows and cells; a
row or a cell may leave its reference out and then follows the one before it.  The parser
takes every text of the string table as an item of its own, counts every row without a
reference as the first one and every cell without a reference as column 0.

Main results:

- Theorem {lit}`sharedStrings_eq`: the strings of the parser are the texts of all items.
- Theorem {lit}`columnIndex_eq`: the letters of a reference give its column.
- Theorem {lit}`lookupCell_eq`: what the parser keeps under a row and a column is the value of
  the last cell that it counts there.
-/

namespace AuthClaw.Documents.Spreadsheet

open PythonText Rows XmlTree

/-! ## Workbooks -/

/-- A shared string item: its text, run by run, and the phonetic hints on it. -/
structure SharedItem where
  runs : List String
  phonetic : List String

/-- The text of an item. -/
def SharedItem.text (item : SharedItem) : String :=
  String.join item.runs

/-- The value of a cell. -/
inductive CellValue where
  | shared (index : Nat) (written : String)
  | plain (text : String)
  | inlined (runs : List String)

/-- The text of a value. -/
def CellValue.text (items : List SharedItem) : CellValue → String
  | shared index _ => ((items[index]?).map SharedItem.text).getD ""
  | plain text => text
  | inlined runs => String.join runs

/-- A shared value has an item. -/
def CellValue.InRange (count : Nat) : CellValue → Prop
  | shared index _ => index < count
  | _ => True

section

variable {α : Type} (position : α → Nat) (referenced : α → Bool)

/-- A position that is left out is the one after the last. -/
def Follows : Nat → List α → Prop
  | _, [] => True
  | previous, a :: rest =>
      (referenced a = false → position a = previous + 1) ∧ Follows (position a) rest

/-- Positions from 1 on, each of them once. -/
structure Positions (items : List α) : Prop where
  pos : ∀ a ∈ items, 0 < position a
  nodup : (items.map position).Nodup
  follows : Follows position referenced 0 items

end

structure Cell where
  column : Nat
  referenced : Bool
  value : CellValue

structure SheetRow where
  number : Nat
  referenced : Bool
  cells : List Cell
  positions : Positions Cell.column Cell.referenced cells

structure Sheet where
  rows : List SheetRow
  positions : Positions SheetRow.number SheetRow.referenced rows

/-- A cell of a workbook, with its row and its sheet. -/
structure Place where
  sheetFile : String
  sheet : Sheet
  row : SheetRow
  cell : Cell

/-- A workbook, with its sheets under the names of their parts. -/
structure Workbook where
  items : List SharedItem
  sheets : List (String × Sheet)
  names_nodup : (sheets.map Prod.fst).Nodup
  inRange : ∀ named ∈ sheets, ∀ row ∈ named.2.rows, ∀ cell ∈ row.cells,
    cell.value.InRange items.length

/-- The cells of a workbook. -/
structure Workbook.Has (w : Workbook) (p : Place) : Prop where
  sheet_mem : (p.sheetFile, p.sheet) ∈ w.sheets
  row_mem : p.row ∈ p.sheet.rows
  cell_mem : p.cell ∈ p.row.cells

/-! ## The parts of a workbook -/

/-- The texts of a string, without the phonetic hints. -/
def ownTexts (e : Element) : List Element :=
  e.findall (main "t") ++ (e.findall (main "r")).flatMap (fun run => run.findall (main "t"))

/-- An element is the item. -/
structure DepictsItem (e : Element) (item : SharedItem) : Prop where
  runs : (ownTexts e).map Element.textOrEmpty = item.runs
  phonetic : ((e.findall (main "rPh")).flatMap (fun hint => hint.findall (main "t"))).map
    Element.textOrEmpty = item.phonetic
  texts : e.findallDeep (main "t") =
    ownTexts e ++ (e.findall (main "rPh")).flatMap (fun hint => hint.findall (main "t"))

/-- A part is the table of the items. -/
structure DepictsItems (root : Element) (items : List SharedItem) : Prop where
  items : List.Forall₂ DepictsItem (root.findall (main "si")) items
  texts : root.findallDeep (main "t") =
    (root.findall (main "si")).flatMap (fun e => e.findallDeep (main "t"))

/-- The value of a letter in a reference. -/
def letterValue (letter : Char) : Nat :=
  letter.toNat - 64

/-- A reference names the column: letters are digits from 1 to 26 in base 26. -/
def NamesColumn (cellRef : String) (column : Nat) : Prop :=
  ∃ letters digits : List Char, cellRef.toList = letters ++ digits ∧
    (∀ c ∈ letters, c.isUpper = true) ∧ (∀ c ∈ digits, c.isDigit = true) ∧
    column = Nat.ofDigits 26 (letters.reverse.map letterValue)

section

variable (r : SheetReader)

/-- A cell element has the value. -/
def DepictsValue (e : Element) : CellValue → Prop
  | .shared index written =>
      e.get "t" = some "s" ∧ (e.find (main "v")).map Element.textOrEmpty = some written ∧
        r.intOf written = some (index : Int)
  | .plain text =>
      (e.get "t" = some "s" → e.find (main "v") = none) ∧
        (e.get "t" = some "inlineStr" → e.find (main "is") = none) ∧
        ((e.find (main "v")).map Element.textOrEmpty).getD "" = text
  | .inlined runs =>
      e.get "t" = some "inlineStr" ∧ e.find (main "v") = none ∧
        ∃ string, e.find (main "is") = some string ∧
          (ownTexts string).map Element.textOrEmpty = runs

/-- An element is the cell. -/
structure DepictsCell (e : Element) (cell : Cell) : Prop where
  reference : cell.referenced = true → ∃ cellRef, e.get "r" = some cellRef ∧
    NamesColumn cellRef cell.column
  missing : cell.referenced = false → e.get "r" = none
  value : DepictsValue r e cell.value

/-- An element is the row. -/
structure DepictsRow (e : Element) (row : SheetRow) : Prop where
  reference : row.referenced = true → ∃ text, e.get "r" = some text ∧
    r.intOf text = some (row.number : Int)
  missing : row.referenced = false → e.get "r" = none
  cells : List.Forall₂ (DepictsCell r) (e.findall (main "c")) row.cells

/-- A part is the worksheet. -/
structure DepictsSheet (root : Element) (sheet : Sheet) : Prop where
  rows : List.Forall₂ (DepictsRow r)
    ((root.findall (main "sheetData")).flatMap (fun data => data.findall (main "row"))) sheet.rows
  only : root.findallDeep (main "row") =
    (root.findall (main "sheetData")).flatMap (fun data => data.findall (main "row"))

/-- An archive holds the workbook. -/
structure Depicts (parts : Parts) (w : Workbook) : Prop where
  names_nodup : (parts.map Prod.fst).Nodup
  items : (∃ root, (sharedStringsFile, some root) ∈ parts ∧ DepictsItems root w.items) ∨
    sharedStringsFile ∉ parts.map Prod.fst ∧ w.items = []
  sheets : ∀ named ∈ w.sheets, ∃ root, (named.1, some root) ∈ parts ∧ DepictsSheet r root named.2
  sheetFiles : ∀ name ∈ sheetFiles parts, name ∈ w.sheets.map Prod.fst

end

/-! ## The string table -/

/-- All texts of the items, one after the other. -/
def itemTexts (items : List SharedItem) : List String :=
  items.flatMap (fun item => item.runs ++ item.phonetic)

theorem readPart_eq {parts : Parts} {name : String} {root : Element}
    (hnames : (parts.map Prod.fst).Nodup) (h : (name, some root) ∈ parts) :
    readPart parts name = .ok root := by
  have hlookup : parts.reverse.lookup name = some (some root) := by
    rcases List.append_of_mem (List.mem_reverse.mpr h) with ⟨before, after, hparts⟩
    refine List.lookup_eq_some_iff.mpr ⟨before, after, hparts, ?_⟩
    intro p hp
    have hreverse : (parts.reverse.map Prod.fst).Nodup := by
      rw [List.map_reverse]
      exact List.nodup_reverse.mpr hnames
    rw [hparts, List.map_append, List.map_cons] at hreverse
    refine bne_iff_ne.mpr fun hname => ?_
    refine List.disjoint_of_nodup_append hreverse (List.mem_map_of_mem hp) ?_
    rw [← hname]
    exact List.mem_cons_self
  unfold readPart
  rw [hlookup]

theorem texts_of_forall₂ {elements : List Element} {items : List SharedItem}
    (h : List.Forall₂ DepictsItem elements items) :
    elements.flatMap (fun e => (e.findallDeep (main "t")).map Element.textOrEmpty) =
      itemTexts items := by
  induction h with
  | nil => rfl
  | cons hitem _ ih =>
      rw [List.flatMap_cons, ih, hitem.texts, List.map_append, hitem.runs, hitem.phonetic]
      rfl

/-- The texts under the items are those of the items, with the phonetic hints. -/
theorem texts_of_depicts {root : Element} {items : List SharedItem}
    (h : DepictsItems root items) :
    (root.findallDeep (main "t")).map Element.textOrEmpty = itemTexts items := by
  rw [h.texts, List.map_flatMap, texts_of_forall₂ h.items]

/-- The parser takes every text of the items as a string. -/
theorem sharedStrings_eq {r : SheetReader} {parts : Parts} {w : Workbook}
    (h : Depicts r parts w) : sharedStrings parts = .ok (itemTexts w.items) := by
  unfold sharedStrings
  rcases h.items with ⟨root, hroot, hitems⟩ | ⟨hmissing, hitems⟩
  · rw [if_pos (List.mem_map_of_mem hroot), bind_ok (readPart_eq h.names_nodup hroot),
      texts_of_depicts hitems]
    rfl
  · rw [if_neg hmissing, hitems]
    rfl

section

variable {r : SheetReader}

/-- A shared value is looked up among the texts. -/
theorem sharedValue_eq {written : String} {index : Nat} (shared : List String)
    (h : r.intOf written = some (index : Int)) :
    r.sharedValue shared written = (shared[index]?).getD written := by
  unfold SheetReader.sharedValue
  simp only [h]
  by_cases hlt : index < shared.length
  · rw [if_pos (by omega), List.getD_eq_getElem?_getD, Int.toNat_natCast]
  · rw [if_neg (by omega), List.getElem?_eq_none (by omega)]
    rfl

/-! ## Rows and cells -/

theorem isUpper_iff {letter : Char} :
    letter.isUpper = true ↔ 65 ≤ letter.toNat ∧ letter.toNat ≤ 90 := by
  unfold Char.isUpper
  rw [decide_eq_true_eq]
  exact Iff.rfl

/-- A letter of a reference is the capital letter itself. -/
theorem ord_upper {letter : Char} (h : letter.isUpper = true) :
    ord (r.py.upper (String.singleton letter)) = .ok (letter.toNat : Int) := by
  have hbounds := isUpper_iff.mp h
  have hascii : isAscii (String.singleton letter) = true := by
    unfold isAscii
    rw [String.toList_singleton, List.all_cons, List.all_nil, Bool.and_true, decide_eq_true_eq]
    omega
  have hupper : letter.toUpper = letter := by
    unfold Char.toUpper
    rw [dif_neg]
    rintro ⟨hlow, -⟩
    have hlow' : 97 ≤ letter.toNat := hlow
    omega
  rw [r.upper_ascii _ hascii]
  unfold ord asciiUpper
  rw [String.toList_ofList, String.toList_singleton, List.map_cons, List.map_nil, hupper]

theorem isAlpha_of_upper {letter : Char} (h : letter.isUpper = true) : r.isAlpha letter = true := by
  have hbounds := isUpper_iff.mp h
  rw [r.isAlpha_ascii letter (by omega)]
  unfold Char.isAlpha
  rw [h, Bool.true_or]

theorem isAlpha_of_digit {digit : Char} (h : digit.isDigit = true) : r.isAlpha digit = false := by
  have hbounds : 48 ≤ digit.toNat ∧ digit.toNat ≤ 57 := by
    unfold Char.isDigit at h
    rw [Bool.and_eq_true, decide_eq_true_eq, decide_eq_true_eq] at h
    exact h
  rw [r.isAlpha_ascii digit (by omega)]
  unfold Char.isAlpha
  rw [Bool.or_eq_false_iff]
  constructor
  · rw [Bool.eq_false_iff]
    intro hupper
    have := isUpper_iff.mp hupper
    omega
  · rw [Bool.eq_false_iff]
    unfold Char.isLower
    rw [Ne, Bool.and_eq_true, decide_eq_true_eq, decide_eq_true_eq]
    rintro ⟨hlow, -⟩
    have hlow' : 97 ≤ digit.toNat := hlow
    omega

/-- The letters are the digits of the column in base 26, the highest first. -/
theorem foldlM_letters (letters : List Char) (h : ∀ c ∈ letters, c.isUpper = true) (start : Nat) :
    letters.foldlM (fun column letter => do
      let code ← ord (r.py.upper (String.singleton letter))
      return column * 26 + (code - 64)) (start : Int) =
      (.ok ((letters.foldl (fun column letter => letterValue letter + 26 * column) start : Nat) :
        Int) : Except PyError Int) := by
  induction letters generalizing start with
  | nil => rfl
  | cons letter letters ih =>
      have hletter := List.forall_mem_cons.mp h
      have hbounds := isUpper_iff.mp hletter.1
      have hstep : (start : Int) * 26 + ((letter.toNat : Int) - 64) =
          ((letterValue letter + 26 * start : Nat) : Int) := by
        unfold letterValue
        omega
      have hfirst : (do
          let code ← ord (r.py.upper (String.singleton letter))
          return (start : Int) * 26 + (code - 64) : Except PyError Int) =
          .ok ((letterValue letter + 26 * start : Nat) : Int) := by
        rw [bind_ok (ord_upper hletter.1), ← hstep]
        rfl
      rw [List.foldlM_cons, bind_ok hfirst, List.foldl_cons]
      exact ih hletter.2 _

/-- The letters of a reference give its column. -/
theorem columnIndex_eq {cellRef : String} {column : Nat} (h : NamesColumn cellRef column) :
    r.columnIndex cellRef = .ok (column : Int) := by
  rcases h with ⟨letters, digits, href, hletters, hdigits, rfl⟩
  have hfilter : cellRef.toList.filter r.isAlpha = letters := by
    rw [href, List.filter_append, List.filter_eq_self.mpr, List.filter_eq_nil_iff.mpr,
      List.append_nil]
    · intro digit hdigit
      rw [isAlpha_of_digit (hdigits digit hdigit)]
      exact Bool.false_ne_true
    · exact fun letter hletter => isAlpha_of_upper (hletters letter hletter)
  unfold SheetReader.columnIndex
  rw [hfilter, Nat.ofDigits_eq_foldr, List.map_reverse, List.foldr_reverse, List.foldl_map]
  exact foldlM_letters letters hletters 0

variable (shared : List String)

/-- What the parser reads for a value. -/
def CellValue.read : CellValue → String
  | .shared index written => (shared[index]?).getD written
  | .plain text => text
  | .inlined _ => ""

/-- The column that the parser counts a cell in. -/
def Cell.counted (cell : Cell) : Int :=
  if cell.referenced then cell.column else 0

/-- The number that the parser counts a row as. -/
def SheetRow.counted (row : SheetRow) : Int :=
  if row.referenced then row.number else 1

/-- The entry of a cell. -/
def Cell.entry (cell : Cell) : Int × String :=
  (cell.counted, cell.value.read shared)

/-- The entry of a row. -/
def SheetRow.entry (row : SheetRow) : Int × Dict String :=
  (row.counted, Table.ofRows (row.cells.map (Cell.entry shared)))

variable {shared}

theorem cellValue_eq {e : Element} {value : CellValue} (h : DepictsValue r e value) :
    r.cellValue shared e = value.read shared := by
  unfold SheetReader.cellValue
  cases value with
  | shared index written =>
      rcases h with ⟨htype, hvalue, hindex⟩
      rcases Option.map_eq_some_iff.mp hvalue with ⟨v, hv, rfl⟩
      simp only [hv]
      rw [if_pos htype, sharedValue_eq shared hindex]
      rfl
  | plain text =>
      rcases h with ⟨hshared, -, rfl⟩
      cases hv : e.find (main "v") with
      | none => rfl
      | some v =>
          have htype : e.get "t" ≠ some "s" := by
            intro htype
            rw [hshared htype] at hv
            cases hv
          simp only
          rw [if_neg htype]
          rfl
  | inlined runs =>
      rcases h with ⟨-, hv, -⟩
      simp only [hv]
      rfl

theorem readCell_eq {e : Element} {cell : Cell} (h : DepictsCell r e cell) :
    r.readCell shared e = .ok (cell.entry shared) := by
  have hcolumn : r.columnIndex ((e.get "r").getD "") = .ok cell.counted := by
    unfold Cell.counted
    cases hreferenced : cell.referenced with
    | false =>
        rw [h.missing hreferenced]
        rfl
    | true =>
        rcases h.reference hreferenced with ⟨cellRef, href, hnames⟩
        rw [href]
        exact columnIndex_eq hnames
  unfold SheetReader.readCell
  rw [bind_ok hcolumn, cellValue_eq h.value]
  rfl

theorem readRow_eq {e : Element} {row : SheetRow} (h : DepictsRow r e row) :
    r.readRow shared e = .ok (row.entry shared) := by
  have hindex : r.rowIndex e = .ok row.counted := by
    unfold SheetReader.rowIndex SheetRow.counted
    cases hreferenced : row.referenced with
    | false =>
        rw [h.missing hreferenced]
        rfl
    | true =>
        rcases h.reference hreferenced with ⟨text, htext, hint⟩
        simp only [htext, hint]
        rfl
  have hcells : (e.findall (main "c")).mapM (r.readCell shared) =
      .ok (row.cells.map (Cell.entry shared)) := by
    refine mapM_eq_ok_of_forall₂ (List.forall₂_map_right_iff.mpr ?_)
    exact h.cells.imp fun _ _ hcell => readCell_eq hcell
  unfold SheetReader.readRow
  rw [bind_ok hindex, bind_ok hcells]
  rfl

/-- The parser keeps the rows and the cells as it counts them. -/
theorem readRows_eq {root : Element} {sheet : Sheet} (h : DepictsSheet r root sheet) :
    r.readRows shared root = .ok (Table.ofRows (sheet.rows.map (SheetRow.entry shared))) := by
  have hrows : (root.findallDeep (main "row")).mapM (r.readRow shared) =
      .ok (sheet.rows.map (SheetRow.entry shared)) := by
    rw [h.only]
    refine mapM_eq_ok_of_forall₂ (List.forall₂_map_right_iff.mpr ?_)
    exact h.rows.imp fun _ _ hrow => readRow_eq hrow
  unfold SheetReader.readRows
  rw [bind_ok hrows]
  rfl

/-- The cell that stands last among those counted under a row and a column. -/
def Sheet.counted (sheet : Sheet) (row column : Int) : Option Cell :=
  (sheet.rows.reverse.find? (fun line => line.counted = row)).bind
    (fun line => line.cells.reverse.find? (fun cell => cell.counted = column))

/-- What the parser reads for that cell. -/
def Sheet.textAt (shared : List String) (sheet : Sheet) (row column : Int) : String :=
  ((sheet.counted row column).map (fun cell => cell.value.read shared)).getD ""

/-- What the parser keeps under a row and a column is what it reads for the last cell that it
counts there. -/
theorem lookupCell_eq (sheet : Sheet) (row column : Int) :
    lookupCell (Table.ofRows (sheet.rows.map (SheetRow.entry shared))) row column =
      sheet.textAt shared row column := by
  unfold lookupCell Sheet.textAt Sheet.counted
  rw [Table.find_ofRows, ← List.map_reverse, List.find?_map]
  have hline : ((fun entry : Int × Dict String => decide (entry.1 = row)) ∘
      SheetRow.entry shared) = fun line => decide (line.counted = row) := rfl
  rw [hline]
  cases sheet.rows.reverse.find? (fun line => line.counted = row) with
  | none => rfl
  | some line =>
      have hcell : (line.entry shared).2.find column =
          (line.cells.reverse.find? (fun cell => cell.counted = column)).map
            (Cell.entry shared) := by
        unfold SheetRow.entry
        rw [Table.find_ofRows, ← List.map_reverse, List.find?_map]
        rfl
      rw [Option.map_some, Option.bind_some, Option.bind_some, hcell, Option.map_map]
      rfl

end

end AuthClaw.Documents.Spreadsheet
