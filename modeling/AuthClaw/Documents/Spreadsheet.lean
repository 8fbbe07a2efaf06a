import AuthClaw.Library.Keyed
import AuthClaw.Library.PythonText
import AuthClaw.Library.XmlTree
import Mathlib.Data.List.Sort

/-!
# The XLSX parser

{lit}`parse_xlsx` reads the parts of a workbook from its archive: the shared strings, the rows
of every worksheet and the cells of every row.  Rows and cells are kept under the numbers the
parser takes from their references, and every worksheet becomes a Markdown table.

Main results:

- Theorem {lit}`entryAt_sheetTable`: what stands at a place of a table.
- Theorem {lit}`escapePipes_injective`: escaping keeps texts apart.
-/

namespace AuthClaw.Documents.Spreadsheet

open PythonText Rows XmlTree

/-- What the parser takes from the interpreter. -/
structure SheetReader where
  py : PyText
  /-- `int(text)`; `none` is a {lit}`ValueError`. -/
  intOf : String → Option Int
  /-- `str.isalpha` of one character. -/
  isAlpha : Char → Bool
  isAlpha_ascii : ∀ c : Char, c.toNat < 128 → isAlpha c = c.isAlpha
  upper_ascii : ∀ text, isAscii text = true → py.upper text = asciiUpper text

/-- A name of the namespace of the parts. -/
def main (name : String) : String :=
  "\x7bhttp://schemas.openxmlformats.org/spreadsheetml/2006/main\x7d" ++ name

/-- The parts of an archive by their names; a part that is not XML has no tree. -/
abbrev Parts := List (String × Option Element)

/-- A dictionary whose keys are row or column numbers. -/
abbrev Dict (β : Type) := Table (Prod.fst : Int × β → Int)

/-- `ord(text)` -/
def ord (text : String) : Except PyError Int :=
  match text.toList with
  | [c] => .ok c.toNat
  | _ => .error .other

/-- `text.replace("|", "\\|")` -/
def escapePipes (text : String) : String :=
  String.ofList (text.toList.flatMap (fun c => if c = '|' then ['\\', '|'] else [c]))

/-! ## Reading the parts -/

def sharedStringsFile : String :=
  "xl/sharedStrings.xml"

def sheetPrefix : String :=
  "xl/worksheets/sheet"

/-- `ET.fromstring(z.read(name))`: the last part of the name is read. -/
def readPart (parts : Parts) (name : String) : Except PyError Element :=
  match parts.reverse.lookup name with
  | some (some root) => .ok root
  | _ => .error .other

/-- `shared_strings` -/
def sharedStrings (parts : Parts) : Except PyError (List String) :=
  if sharedStringsFile ∈ parts.map Prod.fst then do
    let root ← readPart parts sharedStringsFile
    return (root.findallDeep (main "t")).map Element.textOrEmpty
  else
    return []

/-- `name.startswith("xl/worksheets/sheet")` -/
def isSheet (name : String) : Bool :=
  sheetPrefix.toList.isPrefixOf name.toList

/-- `sheet_files` -/
def sheetFiles (parts : Parts) : List String :=
  (parts.map Prod.fst).filter isSheet

/-- A worksheet that is shown. -/
structure Section where
  sheetFile : String
  table : List (List String)
deriving DecidableEq

namespace SheetReader

variable (r : SheetReader)

/-- The column of a reference; a cell without one has column 0. -/
def columnIndex (cellRef : String) : Except PyError Int :=
  (cellRef.toList.filter r.isAlpha).foldlM (fun column letter => do
    let code ← ord (r.py.upper (String.singleton letter))
    return column * 26 + (code - 64)) 0

/-- The text that the value of a cell of type `s` stands for. -/
def sharedValue (shared : List String) (val : String) : String :=
  match r.intOf val with
  | some i => if 0 ≤ i ∧ i < shared.length then shared.getD i.toNat val else val
  | none => val

/-- `val` -/
def cellValue (shared : List String) (cell : Element) : String :=
  match cell.find (main "v") with
  | none => ""
  | some v =>
      if cell.get "t" = some "s" then r.sharedValue shared v.textOrEmpty else v.textOrEmpty

/-- The column and the value of a cell. -/
def readCell (shared : List String) (cell : Element) : Except PyError (Int × String) := do
  let column ← r.columnIndex ((cell.get "r").getD "")
  return (column, r.cellValue shared cell)

/-- `int(row_el.attrib.get("r", 1))` -/
def rowIndex (row : Element) : Except PyError Int :=
  match row.get "r" with
  | none => .ok 1
  | some text =>
      match r.intOf text with
      | some index => .ok index
      | none => .error .valueError

/-- The number and the cells of a row. -/
def readRow (shared : List String) (row : Element) : Except PyError (Int × Dict String) := do
  let index ← r.rowIndex row
  let cells ← (row.findall (main "c")).mapM (r.readCell shared)
  return (index, Table.ofRows cells)

/-- `rows_dict` -/
def readRows (shared : List String) (root : Element) : Except PyError (Dict (Dict String)) := do
  let rows ← (root.findallDeep (main "row")).mapM (r.readRow shared)
  return Table.ofRows rows

end SheetReader

/-! ## The tables -/

/-- `rows_dict.get(r_idx, {}).get(c_idx, "")` -/
def lookupCell (rows : Dict (Dict String)) (row column : Int) : String :=
  (((rows.find row).bind (fun cells => cells.2.find column)).map Prod.snd).getD ""

/-- `max(d.keys())` -/
def maxKey {β : Type} (d : Dict β) : Int :=
  (d.rows.map Prod.fst).max?.getD 0

/-- `max_col` -/
def maxColumn (rows : Dict (Dict String)) : Int :=
  rows.rows.foldl (fun column row =>
    if row.2.rows.isEmpty then column else max column (maxKey row.2)) 0

namespace SheetReader

variable (r : SheetReader)

/-- The cells of the Markdown table of a worksheet, if it has any. -/
def sheetTable (rows : Dict (Dict String)) : Option (List (List String)) :=
  if rows.rows.isEmpty then none
  else if maxColumn rows = 0 then none
  else some ((List.range (maxKey rows).toNat).map (fun i : Nat =>
    (List.range (maxColumn rows).toNat).map (fun j : Nat =>
      escapePipes (r.py.strip (lookupCell rows (i + 1) (j + 1))))))

/-- The worksheet of a part. -/
def sheetSection (shared : List String) (parts : Parts) (sheetFile : String) :
    Except PyError (Option Section) := do
  let root ← readPart parts sheetFile
  let rows ← r.readRows shared root
  return (r.sheetTable rows).map (Section.mk sheetFile)

/-- The worksheets of an archive, in the order of their names. -/
def sheetSections (shared : List String) (parts : Parts) : Except PyError (List Section) := do
  let sections ← ((sheetFiles parts).insertionSort (· ≤ ·)).mapM (r.sheetSection shared parts)
  return sections.filterMap id

end SheetReader

open SheetReader

/-! ## What stands in a table -/

/-- The text at a place of a table; the places are counted from 1. -/
def entryAt (table : List (List String)) (row column : Nat) : String :=
  ((table[row - 1]?).bind (fun cells => cells[column - 1]?)).getD ""

theorem escapePipes_toList (text : String) : (escapePipes text).toList =
    text.toList.flatMap (fun c => if c = '|' then ['\\', '|'] else [c]) :=
  String.toList_ofList

/-- An escaped text does not begin with a pipe. -/
theorem escaped_ne_pipe (chars rest : List Char) :
    chars.flatMap (fun c => if c = '|' then ['\\', '|'] else [c]) ≠ '|' :: rest := by
  cases chars with
  | nil => simp
  | cons c chars =>
      by_cases hc : c = '|'
      · simp [hc]
      · simp [hc]

/-- Escaping keeps texts apart. -/
theorem escapePipes_injective {a b : String} (h : escapePipes a = escapePipes b) : a = b := by
  have hchars := congrArg String.toList h
  rw [escapePipes_toList, escapePipes_toList] at hchars
  refine String.toList_inj.mp ?_
  revert hchars
  generalize b.toList = other
  generalize a.toList = chars
  intro hchars
  induction chars generalizing other with
  | nil =>
      cases other with
      | nil => rfl
      | cons d other =>
          by_cases hd : d = '|'
          · simp [hd] at hchars
          · simp [hd] at hchars
  | cons c chars ih =>
      cases other with
      | nil =>
          by_cases hc : c = '|'
          · simp [hc] at hchars
          · simp [hc] at hchars
      | cons d other =>
          rw [List.flatMap_cons, List.flatMap_cons] at hchars
          by_cases hc : c = '|'
          · by_cases hd : d = '|'
            · rw [if_pos hc, if_pos hd] at hchars
              rw [hc, hd, ih other (List.append_cancel_left hchars)]
            · rw [if_pos hc, if_neg hd] at hchars
              exact absurd (List.cons.inj hchars).2.symm (escaped_ne_pipe other _)
          · by_cases hd : d = '|'
            · rw [if_neg hc, if_pos hd] at hchars
              exact absurd (List.cons.inj hchars).2 (escaped_ne_pipe chars _)
            · rw [if_neg hc, if_neg hd] at hchars
              have hcons := List.cons.inj hchars
              rw [hcons.1, ih other hcons.2]

theorem le_maxKey {β : Type} {d : Dict β} {entry : Int × β} (h : entry ∈ d.rows) :
    entry.1 ≤ maxKey d := by
  have hkey : entry.1 ∈ d.rows.map Prod.fst := List.mem_map_of_mem h
  unfold maxKey
  cases hmax : (d.rows.map Prod.fst).max? with
  | none => rw [List.max?_eq_none_iff.mp hmax] at hkey; cases hkey
  | some m => exact (List.max?_eq_some_iff.mp hmax).2 _ hkey

/-- No column of a row is above the last one. -/
theorem le_maxColumn {rows : Dict (Dict String)} {row : Int × Dict String} {cell : Int × String}
    (hrow : row ∈ rows.rows) (hcell : cell ∈ row.2.rows) : cell.1 ≤ maxColumn rows := by
  have hfold : ∀ (list : List (Int × Dict String)) (start : Int),
      start ≤ list.foldl (fun column row =>
        if row.2.rows.isEmpty then column else max column (maxKey row.2)) start ∧
      (row ∈ list → cell.1 ≤ list.foldl (fun column row =>
        if row.2.rows.isEmpty then column else max column (maxKey row.2)) start) := by
    intro list
    induction list with
    | nil => exact fun start => ⟨le_refl start, fun h => by cases h⟩
    | cons head list ih =>
        intro start
        rw [List.foldl_cons]
        by_cases hempty : head.2.rows.isEmpty = true
        · rw [if_pos hempty]
          refine ⟨(ih start).1, fun h => ?_⟩
          rcases List.mem_cons.mp h with rfl | h
          · rw [List.isEmpty_iff.mp hempty] at hcell
            cases hcell
          · exact (ih start).2 h
        · rw [if_neg hempty]
          refine ⟨le_trans (le_max_left _ _) (ih _).1, fun h => ?_⟩
          rcases List.mem_cons.mp h with rfl | h
          · exact le_trans (le_maxKey hcell) (le_trans (le_max_right _ _) (ih _).1)
          · exact (ih _).2 h
  exact (hfold rows.rows 0).2 hrow

/-- A place that shows something lies within the table. -/
theorem lookupCell_ne_empty {rows : Dict (Dict String)} {row column : Int}
    (h : lookupCell rows row column ≠ "") :
    rows.rows ≠ [] ∧ row ≤ maxKey rows ∧ column ≤ maxColumn rows := by
  unfold lookupCell at h
  cases hrow : rows.find row with
  | none => simp [hrow] at h
  | some cells =>
      cases hcell : cells.2.find column with
      | none => simp [hrow, hcell] at h
      | some cell =>
          have hmem := Table.find_mem hrow
          refine ⟨List.ne_nil_of_mem hmem, ?_, ?_⟩
          · rw [← Table.find_key hrow]
            exact le_maxKey hmem
          · rw [← Table.find_key hcell]
            exact le_maxColumn hmem (Table.find_mem hcell)

/-- A place of a table that is given by a function of its row and column. -/
theorem entryAt_map_range (f : Int → Int → String) (rows columns : Nat) {row column : Nat}
    (hrow : 0 < row) (hcolumn : 0 < column) :
    entryAt ((List.range rows).map (fun i : Nat =>
      (List.range columns).map (fun j : Nat => f (i + 1) (j + 1)))) row column =
      if row ≤ rows ∧ column ≤ columns then f row column else "" := by
  have hcastRow : ((row - 1 : Nat) : Int) + 1 = row := by omega
  have hcastColumn : ((column - 1 : Nat) : Int) + 1 = column := by omega
  unfold entryAt
  by_cases hrows : row ≤ rows
  · rw [List.getElem?_map, List.getElem?_range (by omega), Option.map_some, Option.bind_some]
    by_cases hcolumns : column ≤ columns
    · rw [List.getElem?_map, List.getElem?_range (by omega), Option.map_some,
        if_pos ⟨hrows, hcolumns⟩, Option.getD_some, hcastRow, hcastColumn]
    · rw [if_neg (fun h => hcolumns h.2), List.getElem?_eq_none]
      · rfl
      · rw [List.length_map, List.length_range]
        omega
  · rw [if_neg (fun h => hrows h.1), List.getElem?_eq_none]
    · rfl
    · rw [List.length_map, List.length_range]
      omega

/-- What stands at a place is what the parser keeps under its row and column. -/
theorem entryAt_sheetTable (r : SheetReader) (rows : Dict (Dict String)) {row column : Nat}
    (hrow : 0 < row) (hcolumn : 0 < column) :
    (r.sheetTable rows).elim "" (fun table => entryAt table row column) =
      escapePipes (r.py.strip (lookupCell rows row column)) := by
  have hblank : lookupCell rows row column = "" →
      "" = escapePipes (r.py.strip (lookupCell rows row column)) := fun h => by rw [h]; rfl
  unfold sheetTable
  by_cases hempty : rows.rows.isEmpty = true
  · rw [if_pos hempty]
    refine hblank (by_contra fun h => ?_)
    exact (lookupCell_ne_empty h).1 (List.isEmpty_iff.mp hempty)
  · rw [if_neg hempty]
    by_cases hzero : maxColumn rows = 0
    · rw [if_pos hzero]
      refine hblank (by_contra fun h => ?_)
      have := (lookupCell_ne_empty h).2.2
      omega
    · rw [if_neg hzero, Option.elim_some,
        entryAt_map_range (fun i j => escapePipes (r.py.strip (lookupCell rows i j))) _ _ hrow
          hcolumn]
      by_cases hin : row ≤ (maxKey rows).toNat ∧ column ≤ (maxColumn rows).toNat
      · rw [if_pos hin]
      · rw [if_neg hin]
        refine hblank (by_contra fun h => hin ?_)
        have := (lookupCell_ne_empty h).2
        omega

/-! ## The text -/

/-- A line of a Markdown table. -/
def tableLine (cells : List String) : String :=
  "| " ++ String.intercalate " | " cells ++ " |"

/-- `markdown_lines` -/
def Section.lines (s : Section) : List String :=
  let title := ((s.sheetFile.splitOn "/").getLastD "").replace ".xml" ""
  let rows := s.table.zipIdx.flatMap (fun row =>
    if row.2 = 0 then [tableLine row.1, tableLine (row.1.map (fun _ => "---"))]
    else [tableLine row.1])
  ("### Sheet: " ++ title) :: rows

/-- `"\n\n".join(all_sheets_content)` -/
def sectionsText (sections : List Section) : String :=
  String.intercalate "\n\n" (sections.map (fun s => String.intercalate "\n" s.lines))

/-- An uploaded file as `zipfile` opens it. -/
inductive UploadedFile where
  | notZip
  | broken
  | archive (parts : Parts)

/-- The `try` block of `parse_xlsx`. -/
def SheetReader.readArchive (r : SheetReader) (parts : Parts) : Except PyError String := do
  let shared ← sharedStrings parts
  if (sheetFiles parts).isEmpty then
    return "No worksheets found in Excel file."
  let sections ← r.sheetSections shared parts
  return sectionsText sections

/-- `parse_xlsx` -/
def SheetReader.parseXlsx (r : SheetReader) : UploadedFile → String
  | .notZip => "Invalid Excel file format (not a valid zip)."
  | .broken => ""
  | .archive parts =>
      match r.readArchive parts with
      | .ok text => text
      | .error _ => ""

end AuthClaw.Documents.Spreadsheet
