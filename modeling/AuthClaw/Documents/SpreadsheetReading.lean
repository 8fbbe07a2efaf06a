import AuthClaw.Documents.Workbook

/-!
# What the XLSX parser shows of a workbook

The parser shows a workbook when every cell stands in the table of its sheet at its row and
column, with the text of its value.

Main results:

- Theorem {lit}`visible_of_text`: a cell with a text that is shown is one the parser sees.
- Theorem {lit}`renders_iff_readable`: a workbook is rendered exactly when its strings stay in
  step and every cell with a text is one the parser can see.
- Theorem {lit}`rich_text_shifts`: a string of two runs hides the string after it.
-/

namespace AuthClaw.Documents.Spreadsheet

open PythonText Rows XmlTree

/-! ## What is shown -/

section

variable (r : SheetReader)

/-- What stands in the table of a worksheet at a row and a column; nothing outside. -/
def shownAt (sections : List Section) (sheetFile : String) (row column : Nat) : String :=
  (sections.find? (fun s => s.sheetFile = sheetFile)).elim ""
    (fun s => entryAt s.table row column)

/-- The parser shows the workbook: every cell at its row and column, and for every shared value
the text of its item. -/
def Renders (parts : Parts) (w : Workbook) : Prop :=
  ∃ shared sections, sharedStrings parts = .ok shared ∧
    r.sheetSections shared parts = .ok sections ∧
    (sheetFiles parts ≠ [] → r.parseXlsx (.archive parts) = sectionsText sections) ∧
    (∀ p, w.Has p → shownAt sections p.sheetFile p.row.number p.cell.column =
      escapePipes (r.py.strip (p.cell.value.text w.items))) ∧
    ∀ p index written, w.Has p → p.cell.value = .shared index written →
      r.py.strip (r.sharedValue shared written) =
        r.py.strip (p.cell.value.text w.items)

/-- What the parser sees of a cell. -/
structure Visible (p : Place) : Prop where
  sheet : isSheet p.sheetFile = true
  notInlined : ∀ runs, p.cell.value ≠ .inlined runs
  cell : p.cell.referenced = true
  row : p.row.referenced = true ∨ p.row.number = 1
  kept : p.row.number = 1 → ∃ before after, p.sheet.rows = before ++ p.row :: after ∧
    ∀ other ∈ after, other.referenced = true

/-- The text with the number of a shared value, or else the number, is the text of its item. -/
def StringsAgree (w : Workbook) : Prop :=
  ∀ p index written, w.Has p → p.cell.value = .shared index written →
    r.py.strip (((itemTexts w.items)[index]?).getD written) =
      r.py.strip (p.cell.value.text w.items)

/-- The parser can read a workbook. -/
structure Readable (w : Workbook) : Prop where
  strings : StringsAgree r w
  cells : ∀ p, w.Has p → r.py.strip (p.cell.value.text w.items) ≠ "" → Visible p

end

/-! ## The sections -/

section

variable {r : SheetReader} {shared : List String}

variable {parts : Parts} {w : Workbook}

theorem sheetSection_eq (h : Depicts r parts w) {named : String × Sheet}
    (hnamed : named ∈ w.sheets) :
    r.sheetSection shared parts named.1 =
      .ok ((r.sheetTable (Table.ofRows (named.2.rows.map (SheetRow.entry shared)))).map
        (Section.mk named.1)) := by
  rcases h.sheets named hnamed with ⟨root, hroot, hsheet⟩
  unfold SheetReader.sheetSection
  rw [bind_ok (readPart_eq h.names_nodup hroot), bind_ok (readRows_eq hsheet)]
  rfl

theorem sheetFile_of_section {name : String} {s : Section}
    (h : r.sheetSection shared parts name = .ok (some s)) : s.sheetFile = name := by
  unfold SheetReader.sheetSection at h
  rcases bind_eq_ok h with ⟨root, -, h⟩
  rcases bind_eq_ok h with ⟨rows, -, h⟩
  rcases Option.map_eq_some_iff.mp (Except.ok.inj h) with ⟨table, -, rfl⟩
  rfl

/-- Only the sections of the names are there. -/
theorem find_section_of_not_mem {names : List String} {made : List (Option Section)}
    {name : String} (h : names.mapM (r.sheetSection shared parts) = .ok made)
    (hname : name ∉ names) :
    (made.filterMap id).find? (fun s => s.sheetFile = name) = none := by
  refine List.find?_eq_none.mpr fun s hs hfile => hname ?_
  rcases List.mem_filterMap.mp hs with ⟨o, ho, rfl⟩
  rcases mem_of_mapM_eq_ok h ho with ⟨n, hn, hsection⟩
  rw [← of_decide_eq_true hfile, sheetFile_of_section hsection]
  exact hn

/-- The section of a name is what its part gives. -/
theorem find_section_of_mem {names : List String} {made : List (Option Section)}
    {name : String} {o : Option Section}
    (h : names.mapM (r.sheetSection shared parts) = .ok made) (hname : name ∈ names)
    (ho : r.sheetSection shared parts name = .ok o) :
    (made.filterMap id).find? (fun s => s.sheetFile = name) = o := by
  induction names generalizing made with
  | nil => cases hname
  | cons n names ih =>
      rw [List.mapM_cons] at h
      rcases bind_eq_ok h with ⟨first, hfirst, h⟩
      rcases bind_eq_ok h with ⟨rest, hrest, h⟩
      cases h
      by_cases hn : n = name
      · subst hn
        have hsame : first = o := Except.ok.inj (hfirst.symm.trans ho)
        subst hsame
        cases first with
        | some s =>
            rw [List.filterMap_cons_some (f := id) rfl, List.find?_cons_of_pos]
            exact decide_eq_true (sheetFile_of_section hfirst)
        | none =>
            rw [List.filterMap_cons_none rfl]
            by_cases hmem : n ∈ names
            · exact ih hrest hmem
            · exact find_section_of_not_mem hrest hmem
      · have hmem : name ∈ names := by
          rcases List.mem_cons.mp hname with heq | hmem
          · exact absurd heq.symm hn
          · exact hmem
        cases first with
        | some s =>
            rw [List.filterMap_cons_some (f := id) rfl, List.find?_cons_of_neg]
            · exact ih hrest hmem
            · rw [decide_eq_true_eq, sheetFile_of_section hfirst]
              exact hn
        | none =>
            rw [List.filterMap_cons_none rfl]
            exact ih hrest hmem

/-- The parser shows some sections. -/
theorem exists_sections (h : Depicts r parts w) (shared : List String) :
    ∃ sections, r.sheetSections shared parts = .ok sections := by
  have hmade : ∃ made, ((sheetFiles parts).insertionSort (· ≤ ·)).mapM
      (r.sheetSection shared parts) = .ok made := by
    refine (mapM_ok_iff _ _).mpr ?_
    intro name hname
    have hfile := h.sheetFiles name (List.mem_insertionSort _ |>.mp hname)
    rcases List.mem_map.mp hfile with ⟨named, hnamed, rfl⟩
    exact ⟨_, sheetSection_eq h hnamed⟩
  rcases hmade with ⟨made, hmade⟩
  refine ⟨made.filterMap id, ?_⟩
  unfold SheetReader.sheetSections
  rw [bind_ok hmade]
  rfl

/-- What stands at a place of a workbook is what the parser counts there. -/
theorem shownAt_eq (h : Depicts r parts w) {sections : List Section}
    (hsections : r.sheetSections shared parts = .ok sections) {named : String × Sheet}
    (hnamed : named ∈ w.sheets) {row column : Nat} (hrow : 0 < row) (hcolumn : 0 < column) :
    shownAt sections named.1 row column = if isSheet named.1 then
      escapePipes (r.py.strip (named.2.textAt shared row column)) else "" := by
  unfold SheetReader.sheetSections at hsections
  rcases bind_eq_ok hsections with ⟨made, hmade, hfilter⟩
  cases hfilter
  unfold shownAt
  by_cases hsheet : isSheet named.1 = true
  · rcases h.sheets named hnamed with ⟨root, hroot, -⟩
    have hname : named.1 ∈ (sheetFiles parts).insertionSort (· ≤ ·) := by
      rw [List.mem_insertionSort]
      exact List.mem_filter.mpr ⟨List.mem_map_of_mem hroot, hsheet⟩
    rw [find_section_of_mem hmade hname (sheetSection_eq h hnamed), if_pos hsheet]
    rw [← lookupCell_eq, ← entryAt_sheetTable r _ hrow hcolumn]
    cases r.sheetTable (Table.ofRows (named.2.rows.map (SheetRow.entry shared))) with
    | none => rfl
    | some table => rfl
  · have hname : named.1 ∉ (sheetFiles parts).insertionSort (· ≤ ·) := by
      rw [List.mem_insertionSort]
      exact fun hmem => hsheet (List.mem_filter.mp hmem).2
    rw [find_section_of_not_mem hmade hname, if_neg hsheet]
    rfl

end

/-! ## Which cell is shown -/

section

theorem SheetRow.counted_of_referenced {row : SheetRow} (h : row.referenced = true) :
    row.counted = row.number :=
  if_pos h

theorem SheetRow.counted_of_missing {row : SheetRow} (h : row.referenced = false) :
    row.counted = 1 := by
  unfold SheetRow.counted
  rw [h]
  rfl

/-- The cell that stands at a row and a column, for the parser. -/
structure ShownBy (sheet : Sheet) (row column : Nat) (line : SheetRow) (cell : Cell) : Prop where
  row_mem : line ∈ sheet.rows
  cell_mem : cell ∈ line.cells
  row_counted : line.counted = row
  referenced : cell.referenced = true
  column_eq : cell.column = column
  last : ∃ before after, sheet.rows = before ++ line :: after ∧
    ∀ other ∈ after, other.counted ≠ row

/-- Only cells with a reference stand in a column. -/
theorem Cell.referenced_of_counted {cell : Cell} {column : Nat} (hcolumn : 0 < column)
    (h : cell.counted = column) : cell.referenced = true ∧ cell.column = column := by
  unfold Cell.counted at h
  by_cases hreferenced : cell.referenced = true
  · rw [if_pos hreferenced] at h
    exact ⟨hreferenced, by omega⟩
  · rw [if_neg hreferenced] at h
    omega

theorem exists_shown {sheet : Sheet} {row column : Nat} {cell : Cell} (hcolumn : 0 < column)
    (h : sheet.counted row column = some cell) : ∃ line, ShownBy sheet row column line cell := by
  unfold Sheet.counted at h
  rcases Option.bind_eq_some_iff.mp h with ⟨line, hline, hcell⟩
  rcases find?_reverse_eq_some_iff.mp hline with ⟨hcounted, before, after, hrows, hafter⟩
  have hkey : cell.counted = column := by simpa using List.find?_some hcell
  have hreferenced := Cell.referenced_of_counted hcolumn hkey
  refine ⟨line, ?_, ?_, of_decide_eq_true hcounted, hreferenced.1, hreferenced.2, before, after,
    hrows, ?_⟩
  · exact List.mem_reverse.mp (List.mem_of_find?_eq_some hline)
  · exact List.mem_reverse.mp (List.mem_of_find?_eq_some hcell)
  · exact fun other hother => of_decide_eq_false (hafter other hother)

variable {w : Workbook} {p : Place}

theorem counted_row_of_visible (hvisible : Visible p) : p.row.counted = p.row.number := by
  cases hreferenced : p.row.referenced with
  | true => exact SheetRow.counted_of_referenced hreferenced
  | false =>
      rcases hvisible.row with h | hone
      · rw [hreferenced] at h
        cases h
      · rw [SheetRow.counted_of_missing hreferenced, hone]
        rfl

/-- The row of a visible cell is the last one that is counted as its number. -/
theorem find_row_of_visible (hp : w.Has p) (hvisible : Visible p) :
    p.sheet.rows.reverse.find? (fun line => line.counted = (p.row.number : Int)) =
      some p.row := by
  have hkept : ∃ before after, p.sheet.rows = before ++ p.row :: after ∧
      ∀ other ∈ after, other.referenced = true ∨ p.row.number ≠ 1 := by
    by_cases hone : p.row.number = 1
    · rcases hvisible.kept hone with ⟨before, after, hrows, hafter⟩
      exact ⟨before, after, hrows, fun other hother => Or.inl (hafter other hother)⟩
    · rcases List.append_of_mem hp.row_mem with ⟨before, after, hrows⟩
      exact ⟨before, after, hrows, fun _ _ => Or.inr hone⟩
  rcases hkept with ⟨before, after, hrows, hafter⟩
  refine find?_reverse_eq_some_iff.mpr
    ⟨decide_eq_true (counted_row_of_visible hvisible), before, after, hrows, ?_⟩
  intro other hother
  refine decide_eq_false fun hcounted => ?_
  have hnumber := key_ne_of_mem_after p.sheet.positions.nodup hrows hother
  cases hreferenced : other.referenced with
  | true =>
      rw [SheetRow.counted_of_referenced hreferenced] at hcounted
      exact hnumber (by omega)
  | false =>
      rw [SheetRow.counted_of_missing hreferenced] at hcounted
      rcases hafter other hother with h | h
      · rw [hreferenced] at h
        cases h
      · exact h (by omega)

/-- A cell with a reference is the only one that is counted in its column. -/
theorem find_cell_of_referenced (hp : w.Has p) (hreferenced : p.cell.referenced = true) :
    p.row.cells.reverse.find? (fun cell => cell.counted = (p.cell.column : Int)) =
      some p.cell := by
  rcases List.append_of_mem hp.cell_mem with ⟨before, after, hcells⟩
  refine find?_reverse_eq_some_iff.mpr
    ⟨decide_eq_true (if_pos hreferenced), before, after, hcells, ?_⟩
  intro other hother
  refine decide_eq_false fun hcounted => ?_
  have hpos := p.row.positions.pos p.cell hp.cell_mem
  exact key_ne_of_mem_after p.row.positions.nodup hcells hother
    (Cell.referenced_of_counted hpos hcounted).2

/-- A cell that the parser sees stands at its row and column. -/
theorem counted_of_visible (hp : w.Has p) (hvisible : Visible p) :
    p.sheet.counted p.row.number p.cell.column = some p.cell := by
  unfold Sheet.counted
  rw [find_row_of_visible hp hvisible, Option.bind_some,
    find_cell_of_referenced hp hvisible.cell]

/-! ## Which workbooks are rendered -/

variable {r : SheetReader} {parts : Parts}

theorem exists_of_forall₂ {α β : Type} {R : α → β → Prop} {xs : List α} {ys : List β}
    (h : List.Forall₂ R xs ys) {y : β} (hy : y ∈ ys) : ∃ x ∈ xs, R x y := by
  induction h with
  | nil => cases hy
  | cons hxy _ ih =>
      rcases List.mem_cons.mp hy with rfl | hy
      · exact ⟨_, List.mem_cons_self, hxy⟩
      · rcases ih hy with ⟨x, hx, hR⟩
        exact ⟨x, List.mem_cons_of_mem _ hx, hR⟩

/-- A shared value is written as its index. -/
theorem intOf_written (h : Depicts r parts w) (hp : w.Has p) {index : Nat} {written : String}
    (hvalue : p.cell.value = .shared index written) : r.intOf written = some (index : Int) := by
  rcases h.sheets _ hp.sheet_mem with ⟨root, -, hsheet⟩
  rcases exists_of_forall₂ hsheet.rows hp.row_mem with ⟨row, -, hrow⟩
  rcases exists_of_forall₂ hrow.cells hp.cell_mem with ⟨cell, -, hcell⟩
  have hdepicts := hcell.value
  rw [hvalue] at hdepicts
  exact hdepicts.2.2

/-- Where the strings agree, the parser reads what a cell says. -/
theorem read_agrees (hstrings : StringsAgree r w) (hp : w.Has p)
    (hvalue : ∀ runs, p.cell.value ≠ .inlined runs) :
    r.py.strip (p.cell.value.read (itemTexts w.items)) =
      r.py.strip (p.cell.value.text w.items) := by
  cases hcase : p.cell.value with
  | shared index written =>
      have := hstrings p index written hp hcase
      rwa [hcase] at this
  | plain text => rfl
  | inlined runs => exact absurd hcase (hvalue runs)

/-- What the parser shows at the place of a cell is a cell with a text, or nothing. -/
theorem exists_shown_of_textAt (hstrings : StringsAgree r w) (hp : w.Has p)
    (hat : r.py.strip (p.sheet.textAt (itemTexts w.items) p.row.number p.cell.column) ≠ "") :
    ∃ line cell, ShownBy p.sheet p.row.number p.cell.column line cell ∧
      (∀ runs, cell.value ≠ .inlined runs) ∧ r.py.strip (cell.value.text w.items) ≠ "" := by
  unfold Sheet.textAt at hat
  cases hcounted : p.sheet.counted p.row.number p.cell.column with
  | none =>
      rw [hcounted] at hat
      exact absurd rfl hat
  | some cell =>
      rw [hcounted, Option.map_some, Option.getD_some] at hat
      rcases exists_shown (p.row.positions.pos p.cell hp.cell_mem) hcounted with ⟨line, hline⟩
      have hvalue : ∀ runs, cell.value ≠ .inlined runs := by
        intro runs hruns
        rw [hruns] at hat
        exact hat rfl
      have hq : w.Has ⟨p.sheetFile, p.sheet, line, cell⟩ :=
        ⟨hp.sheet_mem, hline.row_mem, hline.cell_mem⟩
      refine ⟨line, cell, hline, hvalue, ?_⟩
      rwa [← read_agrees hstrings hq hvalue]

/-- A cell that is shown from a row of the same number is the cell itself. -/
theorem ShownBy.eq_of_number {line : SheetRow} {cell : Cell} (hp : w.Has p)
    (hline : ShownBy p.sheet p.row.number p.cell.column line cell)
    (hnumber : line.number = p.row.number) : line = p.row ∧ cell = p.cell := by
  have hrow : line = p.row :=
    eq_of_key p.sheet.positions.nodup hline.row_mem hp.row_mem hnumber
  refine ⟨hrow, eq_of_key p.row.positions.nodup ?_ hp.cell_mem hline.column_eq⟩
  rw [← hrow]
  exact hline.cell_mem

/-- Every cell with a text stands in a sheet of the parser at its row and column. -/
def TextsShown (r : SheetReader) (w : Workbook) : Prop :=
  ∀ p, w.Has p → r.py.strip (p.cell.value.text w.items) ≠ "" → isSheet p.sheetFile = true ∧
    r.py.strip (p.sheet.textAt (itemTexts w.items) p.row.number p.cell.column) =
      r.py.strip (p.cell.value.text w.items)

/-- When all texts are shown, what stands at the place of a cell with a text is from its row: a
row without a reference stands in the first row, and its own number must show it too. -/
theorem number_of_shown (hstrings : StringsAgree r w) (hshown : TextsShown r w) (hp : w.Has p)
    {line : SheetRow} {cell : Cell}
    (hline : ShownBy p.sheet p.row.number p.cell.column line cell)
    (hcell : r.py.strip (cell.value.text w.items) ≠ "") : line.number = p.row.number := by
  have hcounted := hline.row_counted
  cases hreferenced : line.referenced with
  | true =>
      rw [SheetRow.counted_of_referenced hreferenced] at hcounted
      omega
  | false =>
      rw [SheetRow.counted_of_missing hreferenced] at hcounted
      have hq : w.Has ⟨p.sheetFile, p.sheet, line, cell⟩ :=
        ⟨hp.sheet_mem, hline.row_mem, hline.cell_mem⟩
      have hat := (hshown _ hq hcell).2
      rcases exists_shown_of_textAt hstrings hq (by rwa [hat]) with ⟨other, _, hother, -, -⟩
      have hothercounted : other.counted = line.number := hother.row_counted
      cases hotherreferenced : other.referenced with
      | true =>
          rw [SheetRow.counted_of_referenced hotherreferenced] at hothercounted
          have hsame : other = line := eq_of_key p.sheet.positions.nodup hother.row_mem
            hline.row_mem (by exact_mod_cast hothercounted)
          rw [hsame, hreferenced] at hotherreferenced
          cases hotherreferenced
      | false =>
          rw [SheetRow.counted_of_missing hotherreferenced] at hothercounted
          omega

/-- When all texts are shown, the parser sees every cell with a text. -/
theorem visible_of_text (hstrings : StringsAgree r w) (hshown : TextsShown r w)
    (hp : w.Has p) (htext : r.py.strip (p.cell.value.text w.items) ≠ "") : Visible p := by
  have hat := (hshown p hp htext).2
  rcases exists_shown_of_textAt hstrings hp (by rwa [hat]) with ⟨line, cell, hline, hvalue, hcell⟩
  have hnumber := number_of_shown hstrings hshown hp hline hcell
  have hcounted := hline.row_counted
  rcases hline.eq_of_number hp hnumber with ⟨rfl, rfl⟩
  refine ⟨(hshown p hp htext).1, hvalue, hline.referenced, ?_, ?_⟩
  · cases hreferenced : p.row.referenced with
    | true => exact Or.inl rfl
    | false =>
        rw [SheetRow.counted_of_missing hreferenced] at hcounted
        exact Or.inr (by omega)
  · intro hone
    rcases hline.last with ⟨before, after, hrows, hafter⟩
    refine ⟨before, after, hrows, fun other hother => ?_⟩
    by_contra hreferenced
    rw [Bool.not_eq_true] at hreferenced
    refine hafter other hother ?_
    rw [SheetRow.counted_of_missing hreferenced, hone]
    rfl

/-- Where the strings agree and the parser sees every cell with a text, the cells are shown. -/
theorem shown_of_readable (hreadable : Readable r w) (hp : w.Has p) :
    r.py.strip (p.sheet.textAt (itemTexts w.items) p.row.number p.cell.column) =
      r.py.strip (p.cell.value.text w.items) := by
  by_cases htext : r.py.strip (p.cell.value.text w.items) = ""
  · rw [htext]
    by_contra hat
    rcases exists_shown_of_textAt hreadable.strings hp hat with ⟨line, cell, hline, -, hcell⟩
    have hq : w.Has ⟨p.sheetFile, p.sheet, line, cell⟩ :=
      ⟨hp.sheet_mem, hline.row_mem, hline.cell_mem⟩
    have hcounted : line.counted = line.number :=
      counted_row_of_visible (hreadable.cells _ hq hcell)
    rw [hline.row_counted] at hcounted
    rw [(hline.eq_of_number hp (by omega)).2] at hcell
    exact hcell htext
  · have hvisible := hreadable.cells p hp htext
    unfold Sheet.textAt
    rw [counted_of_visible hp hvisible, Option.map_some, Option.getD_some]
    exact read_agrees hreadable.strings hp hvisible.notInlined

/-- The text of the parser is that of the sections. -/
theorem parseXlsx_eq {shared : List String} {sections : List Section}
    (hshared : sharedStrings parts = .ok shared)
    (hsections : r.sheetSections shared parts = .ok sections) (hfiles : sheetFiles parts ≠ []) :
    r.parseXlsx (.archive parts) = sectionsText sections := by
  have hread : r.readArchive parts = .ok (sectionsText sections) := by
    unfold SheetReader.readArchive
    rw [bind_ok hshared, if_neg (by simpa using hfiles)]
    exact bind_ok hsections
  unfold SheetReader.parseXlsx
  simp only [hread]

/-- A workbook is rendered exactly when its strings stay in step and every cell with a text is
one that the parser sees. -/
theorem renders_iff_readable (h : Depicts r parts w) : Renders r parts w ↔ Readable r w := by
  constructor
  · rintro ⟨shared, sections, hshared, hsections, -, hcells, hvalues⟩
    have hsame : shared = itemTexts w.items :=
      Except.ok.inj (hshared.symm.trans (sharedStrings_eq h))
    subst hsame
    have hstrings : StringsAgree r w := by
      intro p index written hp hvalue
      rw [← sharedValue_eq (itemTexts w.items) (intOf_written h hp hvalue)]
      exact hvalues p index written hp hvalue
    have hshown : TextsShown r w := by
      intro p hp htext
      have hat := hcells p hp
      rw [shownAt_eq h hsections hp.sheet_mem (p.sheet.positions.pos p.row hp.row_mem)
        (p.row.positions.pos p.cell hp.cell_mem)] at hat
      by_cases hsheet : isSheet p.sheetFile = true
      · rw [if_pos hsheet] at hat
        exact ⟨hsheet, escapePipes_injective hat⟩
      · rw [if_neg hsheet] at hat
        exact absurd (escapePipes_injective (a := "") hat).symm htext
    exact ⟨hstrings, fun p hp htext => visible_of_text hstrings hshown hp htext⟩
  · intro hreadable
    rcases exists_sections h (itemTexts w.items) with ⟨sections, hsections⟩
    refine ⟨itemTexts w.items, sections, sharedStrings_eq h, hsections,
      parseXlsx_eq (sharedStrings_eq h) hsections, ?_, ?_⟩
    · intro p hp
      rw [shownAt_eq h hsections hp.sheet_mem (p.sheet.positions.pos p.row hp.row_mem)
        (p.row.positions.pos p.cell hp.cell_mem)]
      by_cases hsheet : isSheet p.sheetFile = true
      · rw [if_pos hsheet, shown_of_readable hreadable hp]
      · rw [if_neg hsheet]
        have htext : r.py.strip (p.cell.value.text w.items) = "" :=
          by_contra fun htext => hsheet (hreadable.cells p hp htext).sheet
        rw [htext]
        rfl
    · intro p index written hp hvalue
      rw [sharedValue_eq (itemTexts w.items) (intOf_written h hp hvalue)]
      exact hreadable.strings p index written hp hvalue

/-- When every item is one text without hints, the strings agree. -/
theorem stringsAgree_of_single (hsingle : ∀ item ∈ w.items, ∃ text, item = ⟨[text], []⟩) :
    StringsAgree r w := by
  have htexts : ∀ items : List SharedItem, (∀ item ∈ items, ∃ text, item = ⟨[text], []⟩) →
      itemTexts items = items.map SharedItem.text := by
    intro items
    induction items with
    | nil => exact fun _ => rfl
    | cons item items ih =>
        intro hitems
        rcases hitems item List.mem_cons_self with ⟨text, rfl⟩
        have hrest := ih fun item hitem => hitems item (List.mem_cons_of_mem _ hitem)
        unfold itemTexts at hrest ⊢
        rw [List.flatMap_cons, hrest]
        simp [SharedItem.text, String.join]
  intro p index written hp hvalue
  have hindex : index < w.items.length := by
    have hin := w.inRange _ hp.sheet_mem _ hp.row_mem _ hp.cell_mem
    rw [hvalue] at hin
    exact hin
  have htext : (CellValue.shared index written).text w.items =
      ((w.items[index]?).map SharedItem.text).getD "" := rfl
  rw [hvalue, htext, htexts w.items hsingle, List.getElem?_map, List.getElem?_eq_getElem hindex]
  rfl

end

/-! ## A string of two runs -/

/-- `int(text)` of decimal digits. -/
def decimalOf (text : String) : Option Int :=
  if text.toList ≠ [] ∧ text.toList.all Char.isDigit then
    some (text.toList.foldl (fun n c => n * 10 + (c.toNat - 48)) 0)
  else none

/-- A reader of ASCII texts. -/
def asciiReader : SheetReader where
  py := asciiText
  intOf := decimalOf
  isAlpha := Char.isAlpha
  isAlpha_ascii := fun _ _ => rfl
  upper_ascii := fun _ _ => rfl

def node (name : String) (attrib : List (String × String)) (children : List Element) : Element :=
  .mk (main name) attrib none children

def leaf (name text : String) : Element :=
  .mk (main name) [] (some text) []

/-- The element of a shared value. -/
def sharedElement (cellRef index : String) : Element :=
  node "c" [("r", cellRef), ("t", "s")] [leaf "v" index]

/-- A worksheet of one row. -/
def sheetElement (cells : List Element) : Element :=
  node "worksheet" [] [node "sheetData" [] [node "row" [("r", "1")] cells]]

/-- The cells of a name and a number next to each other. -/
def personRow : SheetRow where
  number := 1
  referenced := true
  cells := [⟨1, true, .shared 0 "0"⟩, ⟨2, true, .shared 1 "1"⟩]
  positions := ⟨by decide, by decide, by decide, by decide, trivial⟩

def personSheet : Sheet where
  rows := [personRow]
  positions := ⟨by simp [personRow], by simp, by simp [personRow], trivial⟩

/-- A workbook with the items of a name and a number. -/
def personWorkbook (name number : SharedItem) : Workbook where
  items := [name, number]
  sheets := [("xl/worksheets/sheet1.xml", personSheet)]
  names_nodup := by simp
  inRange := by simp [personSheet, personRow, CellValue.InRange]

/-- Its parts, with the elements of the items. -/
def personParts (name number : Element) : Parts :=
  [(sharedStringsFile, some (node "sst" [] [name, number])),
    ("xl/worksheets/sheet1.xml",
      some (sheetElement [sharedElement "A1" "0", sharedElement "B1" "1"]))]

@[simp]
theorem main_inj {a b : String} : main a = main b ↔ a = b :=
  String.append_right_inj _

theorem depictsCell_shared {cellRef written : String} {column index : Nat}
    (href : NamesColumn cellRef column) (hindex : decimalOf written = some (index : Int)) :
    DepictsCell asciiReader (sharedElement cellRef written)
      ⟨column, true, .shared index written⟩ where
  reference := fun _ => ⟨cellRef, rfl, href⟩
  missing := fun h => by cases h
  value := by
    refine ⟨?_, ?_, hindex⟩
    · simp [sharedElement, node, Element.get, Element.attrib, List.lookup_cons]
    · simp [sharedElement, node, leaf, Element.find, Element.children, Element.tag,
        Element.textOrEmpty, Element.text]

theorem depictsRow_person :
    DepictsRow asciiReader
      (node "row" [("r", "1")] [sharedElement "A1" "0", sharedElement "B1" "1"]) personRow where
  reference := fun _ => ⟨"1", by simp [node, Element.get, Element.attrib], by decide +kernel⟩
  missing := fun h => by cases h
  cells := by
    have hcells : (node "row" [("r", "1")]
        [sharedElement "A1" "0", sharedElement "B1" "1"]).findall (main "c") =
        [sharedElement "A1" "0", sharedElement "B1" "1"] := by
      simp [Element.findall, node, sharedElement, Element.children, Element.tag]
    have hA : NamesColumn "A1" 1 :=
      ⟨['A'], ['1'], by decide, by simp, by simp, by simp [letterValue]⟩
    have hB : NamesColumn "B1" 2 :=
      ⟨['B'], ['1'], by decide, by simp, by simp, by simp [letterValue]⟩
    rw [hcells]
    exact .cons (depictsCell_shared hA (by decide +kernel))
      (.cons (depictsCell_shared hB (by decide +kernel)) .nil)

theorem depictsSheet_person :
    DepictsSheet asciiReader
      (sheetElement [sharedElement "A1" "0", sharedElement "B1" "1"]) personSheet := by
  have hrows : ∀ cells, ((sheetElement cells).findall (main "sheetData")).flatMap
      (fun data => data.findall (main "row")) = [node "row" [("r", "1")] cells] := by
    intro cells
    simp [sheetElement, node, Element.findall, Element.children, Element.tag]
  refine ⟨?_, ?_⟩
  · rw [hrows]
    exact .cons depictsRow_person .nil
  · rw [hrows]
    simp [Element.findallDeep, Element.descendants, Element.preorder, sheetElement, sharedElement,
      node, leaf, Element.tag]

/-- The parts of a workbook with two items. -/
theorem depicts_person {name number : Element} {nameItem numberItem : SharedItem}
    (hname : DepictsItem name nameItem) (hnumber : DepictsItem number numberItem)
    (hnameTag : name.tag = main "si") (hnumberTag : number.tag = main "si") :
    Depicts asciiReader (personParts name number) (personWorkbook nameItem numberItem) where
  names_nodup := by simp [personParts, sharedStringsFile]
  items := by
    have hitems : (node "sst" [] [name, number]).findall (main "si") = [name, number] := by
      simp [Element.findall, node, Element.children, hnameTag, hnumberTag]
    refine Or.inl ⟨_, List.mem_cons_self, ?_, ?_⟩
    · rw [hitems]
      exact .cons hname (.cons hnumber .nil)
    · rw [hitems, Element.findallDeep_eq]
      simp [node, Element.children, hnameTag, hnumberTag]
  sheets := by
    intro named hnamed
    rw [List.mem_singleton.mp hnamed]
    exact ⟨_, List.mem_cons_of_mem _ List.mem_cons_self, depictsSheet_person⟩
  sheetFiles := by
    intro file hfile
    have hfiles : sheetFiles (personParts name number) = ["xl/worksheets/sheet1.xml"] := by
      have hstrings : isSheet sharedStringsFile = false := by decide +kernel
      have hsheet : isSheet "xl/worksheets/sheet1.xml" = true := by decide +kernel
      simp [sheetFiles, personParts, hstrings, hsheet]
    rw [hfiles] at hfile
    exact hfile

/-- A plain item. -/
def plainElement (text : String) : Element :=
  node "si" [] [leaf "t" text]

theorem depicts_plain (text : String) : DepictsItem (plainElement text) ⟨[text], []⟩ := by
  constructor <;> simp [plainElement, ownTexts, node, leaf, Element.findall, Element.findallDeep,
    Element.descendants, Element.preorder, Element.children, Element.tag, Element.textOrEmpty,
    Element.text]

/-- An item of two runs. -/
def richElement (first second : String) : Element :=
  node "si" [] [node "r" [] [leaf "t" first], node "r" [] [leaf "t" second]]

theorem depicts_rich (first second : String) :
    DepictsItem (richElement first second) ⟨[first, second], []⟩ := by
  constructor <;> simp [richElement, ownTexts, node, leaf, Element.findall, Element.findallDeep,
    Element.descendants, Element.preorder, Element.children, Element.tag, Element.textOrEmpty,
    Element.text]

/-- The parser sees both cells. -/
theorem visible_person {nameItem numberItem : SharedItem} {p : Place}
    (hp : (personWorkbook nameItem numberItem).Has p) : Visible p := by
  rcases p with ⟨file, sheet, row, cell⟩
  rcases hp with ⟨hsheet, hrow, hcell⟩
  cases List.mem_singleton.mp hsheet
  cases List.mem_singleton.mp hrow
  have hfile : isSheet "xl/worksheets/sheet1.xml" = true := by decide +kernel
  refine ⟨hfile, ?_, ?_, Or.inl rfl, ?_⟩
  · rcases List.mem_pair.mp hcell with rfl | rfl
    · exact fun _ h => by cases h
    · exact fun _ h => by cases h
  · rcases List.mem_pair.mp hcell with rfl | rfl
    · rfl
    · rfl
  · exact fun _ => ⟨[], [], rfl, fun _ h => by cases h⟩

/-- A workbook of plain items is shown. -/
theorem renders_plain_person :
    Renders asciiReader (personParts (plainElement "John") (plainElement "ABCDE1234F"))
      (personWorkbook ⟨["John"], []⟩ ⟨["ABCDE1234F"], []⟩) := by
  refine (renders_iff_readable
    (depicts_person (depicts_plain _) (depicts_plain _) rfl rfl)).mpr ⟨?_, ?_⟩
  · refine stringsAgree_of_single fun item hitem => ?_
    rcases List.mem_pair.mp hitem with rfl | rfl
    · exact ⟨_, rfl⟩
    · exact ⟨_, rfl⟩
  · exact fun p hp _ => visible_person hp

theorem sections_rich_person :
    asciiReader.sheetSections ["Jo", "hn", "ABCDE1234F"]
      (personParts (richElement "Jo" "hn") (plainElement "ABCDE1234F")) =
      .ok [⟨"xl/worksheets/sheet1.xml", [["Jo", "hn"]]⟩] := by
  decide +kernel

/-- A name of two runs takes the places of the name and of the number. -/
theorem rich_text_shifts :
    Depicts asciiReader (personParts (richElement "Jo" "hn") (plainElement "ABCDE1234F"))
      (personWorkbook ⟨["Jo", "hn"], []⟩ ⟨["ABCDE1234F"], []⟩) ∧
    ¬ Renders asciiReader (personParts (richElement "Jo" "hn") (plainElement "ABCDE1234F"))
      (personWorkbook ⟨["Jo", "hn"], []⟩ ⟨["ABCDE1234F"], []⟩) := by
  have hdepicts := depicts_person (depicts_rich "Jo" "hn") (depicts_plain "ABCDE1234F") rfl rfl
  refine ⟨hdepicts, ?_⟩
  rintro ⟨shared, sections, hshared, hsections, -, hcells, -⟩
  rw [Except.ok.inj (hshared.symm.trans (sharedStrings_eq hdepicts))] at hsections
  have hsame := Except.ok.inj (hsections.symm.trans sections_rich_person)
  have hnumber := hcells ⟨"xl/worksheets/sheet1.xml", personSheet, personRow,
    ⟨2, true, .shared 1 "1"⟩⟩ ⟨List.mem_cons_self, List.mem_cons_self,
      List.mem_cons_of_mem _ List.mem_cons_self⟩
  rw [hsame] at hnumber
  revert hnumber
  decide +kernel

end AuthClaw.Documents.Spreadsheet
