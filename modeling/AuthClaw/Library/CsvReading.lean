import AuthClaw.Library.Csv

/-!
# Reading comma-separated values

What a character can do to the reader, and what follows for a text that nobody has written with
the writer: it is read or not, and nothing of what is read is left out.

Main results:

- Theorem {lit}`readFrom_eq_ok`: a text is read when its first character is, and what follows.
- Theorem {lit}`read_shows`: a run of characters that mean nothing to the reader stands in a field.
- Theorems {lit}`write_injective` and {lit}`read_write_iff`: the text of some rows determines
  them, and is read when no field is too long.
- Theorems {lit}`read_isOk` and {lit}`read_not_ok`: the carriage returns with which a text is read.
-/

namespace Csv

/-! ## What the reader does -/

/-- Between fields nothing is read of a field. -/
def Settled (r : Reader) : Prop :=
  r.state ∈ [ReadState.startRecord, .startField, .eatLineEnd] → r.field = []

/-- No field is longer than it may be. -/
def Bounded (limit : Nat) (row : Row) : Prop :=
  ∀ field ∈ row, field.length ≤ limit

section

variable {d : Dialect} {r r' : Reader} {c : Char} {text word : List Char} {rows : List Row}

/-- What a character does to a reader: it ends the field, stands beside it, or goes into it. -/
inductive Step (d : Dialect) (c : Char) (r : Reader) : Reader → Prop where
  | save (state : ReadState) (hc : special d c = true)
      (hstate : state = .startField ∨ state = .eatLineEnd ∧ lineEnd c = true) :
      Step d c r (r.save state)
  | move (state : ReadState) (hc : special d c = true)
      (hstate : state = .inQuotedField ∧ c = d.quote ∨
        state = .quoteInQuotedField ∧ c = d.quote ∨
        state = .eatLineEnd ∧ lineEnd c = true ∧ (r.state = .startRecord ∨ r.state = .eatLineEnd)) :
      Step d c r { r with state }
  | add (state : ReadState)
      (hstate : state = .inField ∨
        state = .inQuotedField ∧ (r.state = .inQuotedField ∨ c = d.quote))
      (hroom : r.field.length < d.fieldLimit) :
      Step d c r { r with state, field := r.field ++ [c] }

theorem special_of_lineEnd (h : lineEnd c = true) : special d c = true := by
  rw [special, h, Bool.or_true]

theorem special_delimiter : special d d.delimiter = true := by
  rw [special, decide_eq_true rfl, Bool.true_or, Bool.true_or]

theorem special_quote : special d d.quote = true := by
  rw [special, decide_eq_true rfl, Bool.or_true, Bool.true_or]

theorem step_of_add {state : ReadState}
    (hstate : state = .inField ∨
      state = .inQuotedField ∧ (r.state = .inQuotedField ∨ c = d.quote))
    (h : r.add d c state = .ok r') : Step d c r r' := by
  unfold Reader.add at h
  split_ifs at h with hroom
  cases h
  exact .add state hstate hroom

theorem step_of_beginField (h : beginField d r c = .ok r') : Step d c r r' := by
  unfold beginField at h
  split_ifs at h with hline hquote hdelimiter
  · cases h
    exact .save _ (special_of_lineEnd hline) (.inr ⟨rfl, hline⟩)
  · cases h
    exact .move _ (hquote ▸ special_quote) (.inl ⟨rfl, hquote⟩)
  · cases h
    exact .save _ (hdelimiter ▸ special_delimiter) (.inl rfl)
  · exact step_of_add (.inl rfl) h

theorem step_of_process (h : process d r c = .ok r') : Step d c r r' := by
  unfold process at h
  split at h
  next hstate =>
    split_ifs at h with hline
    · cases h
      exact .move _ (special_of_lineEnd hline) (.inr (.inr ⟨rfl, hline, .inl hstate⟩))
    · exact step_of_beginField h
  next => exact step_of_beginField h
  next =>
    split_ifs at h with hline hdelimiter
    · cases h
      exact .save _ (special_of_lineEnd hline) (.inr ⟨rfl, hline⟩)
    · cases h
      exact .save _ (hdelimiter ▸ special_delimiter) (.inl rfl)
    · exact step_of_add (.inl rfl) h
  next hstate =>
    split_ifs at h with hquote
    · cases h
      exact .move _ (hquote ▸ special_quote) (.inr (.inl ⟨rfl, hquote⟩))
    · exact step_of_add (.inr ⟨rfl, .inl hstate⟩) h
  next =>
    split_ifs at h with hquote hdelimiter hline
    · exact step_of_add (.inr ⟨rfl, .inr hquote⟩) h
    · cases h
      exact .save _ (hdelimiter ▸ special_delimiter) (.inl rfl)
    · cases h
      exact .save _ (special_of_lineEnd hline) (.inr ⟨rfl, hline⟩)
    · exact step_of_add (.inl rfl) h
  next hstate =>
    split_ifs at h with hline
    cases h
    have hsame : Step d c r { r with state := .eatLineEnd } :=
      .move _ (special_of_lineEnd hline) (.inr (.inr ⟨rfl, hline, .inr hstate⟩))
    rw [← hstate] at hsame
    exact hsame

/-- What is read of a text when a character of it was. -/
inductive Goes (d : Dialect) (r : Reader) (c : Char) (text : List Char) (rows : List Row) :
    Prop where
  /-- It was the last of a row. -/
  | row (later : List Row) (hend : c = '\n' ∨ text = [])
      (hstate : (processEnd r).state = .startRecord) (hlater : readFrom d .start text = .ok later)
      (hrows : rows = (processEnd r).fields :: later)
  /-- It was the last of a line, and a quoted field goes on. -/
  | line (hend : c = '\n' ∨ text = []) (hstate : (processEnd r).state ≠ .startRecord)
      (hread : readFrom d (processEnd r) text = .ok rows)
  | char (hc : c ≠ '\n') (hmore : text ≠ []) (hread : readFrom d r text = .ok rows)

/-- A text is read when its first character is, and what follows. -/
theorem readFrom_eq_ok : readFrom d r (c :: text) = .ok rows ↔
    ∃ r', process d r c = .ok r' ∧ Goes d r' c text rows := by
  cases hprocess : process d r c with
  | error e =>
      rw [readFrom_error hprocess]
      simp
  | ok r' =>
      have hends : (c = '\n' ∨ text = []) → readFrom d r (c :: text) =
          if (processEnd r').state = .startRecord then
            (readFrom d .start text).map ((processEnd r').fields :: ·)
          else readFrom d (processEnd r') text := by
        intro hend
        by_cases hc : c = '\n'
        · subst hc
          exact readFrom_lineFeed hprocess
        · cases hend.resolve_left hc
          exact readFrom_last hprocess hc
      constructor
      · intro hread
        refine ⟨r', rfl, ?_⟩
        by_cases hend : c = '\n' ∨ text = []
        · rw [hends hend] at hread
          split_ifs at hread with hstate
          · rcases PythonText.map_eq_ok hread with ⟨later, hlater, hrows⟩
            exact .row later hend hstate hlater hrows.symm
          · exact .line hend hstate hread
        · rw [not_or] at hend
          rw [readFrom_cons hprocess hend.1 hend.2] at hread
          exact .char hend.1 hend.2 hread
      · rintro ⟨r'', hsame, hgoes⟩
        cases hsame
        cases hgoes with
        | row later hend hstate hlater hrows => rw [hends hend, if_pos hstate, hlater, hrows]; rfl
        | line hend hstate hread => rw [hends hend, if_neg hstate, hread]
        | char hc hmore hread => rw [readFrom_cons hprocess hc hmore, hread]

theorem settled_start : Settled .start :=
  fun _ => rfl

theorem settled_save (r : Reader) (state : ReadState) : Settled (r.save state) :=
  fun _ => rfl

theorem Step.settled (h : Step d c r r') (hr : Settled r) : Settled r' := by
  cases h with
  | save state hc hstate => exact settled_save r state
  | move state hc hstate =>
      rcases hstate with ⟨rfl, -⟩ | ⟨rfl, -⟩ | ⟨rfl, -, hfrom⟩
      · intro hmem
        exact absurd hmem (by simp)
      · intro hmem
        exact absurd hmem (by simp)
      · intro _
        refine hr ?_
        rcases hfrom with hfrom | hfrom <;> rw [hfrom] <;> decide
  | add state hstate hroom =>
      intro hmem
      rcases hstate with rfl | ⟨rfl, -⟩ <;> exact absurd hmem (by simp)

theorem settled_processEnd (hr : Settled r) : Settled (processEnd r) := by
  unfold processEnd
  split
  next => exact hr
  next => exact hr
  next => exact settled_save r _
  next => exact settled_save r _
  next => exact settled_save r _
  next hstate =>
    intro _
    exact hr (by rw [hstate]; decide)

/-! ## Nothing is left out -/

/-- A word stands in what a reader has read of a row. -/
def Shown (word : List Char) (r : Reader) : Prop :=
  word <:+: r.field ∨ ∃ field ∈ r.fields, word <:+: field

/-- A word stands in a field. -/
def Appears (word : List Char) (rows : List Row) : Prop :=
  ∃ row ∈ rows, ∃ field ∈ row, word <:+: field

theorem Shown.save (h : Shown word r) (state : ReadState) :
    ∃ field ∈ (r.save state).fields, word <:+: field := by
  rcases h with h | ⟨field, hfield, h⟩
  · exact ⟨r.field, List.mem_append_right _ List.mem_cons_self, h⟩
  · exact ⟨field, List.mem_append_left _ hfield, h⟩

theorem Step.shown (h : Step d c r r') (hr : Shown word r) : Shown word r' := by
  cases h with
  | save state hc hstate => exact .inr (hr.save state)
  | move state hc hstate => exact hr
  | add state hstate hroom =>
      refine hr.imp_left ?_
      intro hword
      exact hword.trans (List.prefix_append _ _).isInfix

/-- At the end of a line the row ends, or a quoted field goes on. -/
theorem Shown.processEnd (h : Shown word r) (hr : Settled r) (hne : word ≠ []) :
    ((processEnd r).state = .startRecord ∧ ∃ field ∈ (processEnd r).fields, word <:+: field) ∨
      processEnd r = r ∧ r.state = .inQuotedField := by
  have hempty : r.state ∈ [ReadState.startRecord, .startField, .eatLineEnd] →
      ∃ field ∈ r.fields, word <:+: field := by
    intro hmem
    refine h.resolve_left ?_
    rw [hr hmem]
    intro hword
    exact hne (List.infix_nil.mp hword)
  unfold Csv.processEnd
  split
  next hstate => exact .inl ⟨hstate, hempty (by rw [hstate]; decide)⟩
  next hstate => exact .inr ⟨rfl, hstate⟩
  next => exact .inl ⟨rfl, h.save _⟩
  next => exact .inl ⟨rfl, h.save _⟩
  next => exact .inl ⟨rfl, h.save _⟩
  next hstate => exact .inl ⟨rfl, hempty (by rw [hstate]; decide)⟩

theorem Appears.cons (row : Row) (h : Appears word rows) : Appears word (row :: rows) := by
  rcases h with ⟨row', hrow, hfield⟩
  exact ⟨row', List.mem_cons_of_mem _ hrow, hfield⟩

/-- What a reader has read stands in its rows. -/
theorem Goes.appears (h : Goes d r c text rows) (hshown : Shown word r) (hsettled : Settled r)
    (hne : word ≠ []) : Appears word rows := by
  induction text generalizing r c rows with
  | nil =>
      rcases hshown.processEnd hsettled hne with ⟨hstart, hfield⟩ | ⟨hsame, hstate⟩
      · cases h with
        | row later hend _ hlater hrows =>
            rw [hrows]
            exact ⟨_, List.mem_cons_self, hfield⟩
        | line hend hstate hread => exact absurd hstart hstate
        | char hc hmore hread => exact absurd rfl hmore
      · cases h with
        | row later hend hstart hlater hrows =>
            rw [hsame, hstate] at hstart
            cases hstart
        | line hend _ hread =>
            rw [hsame, readFrom, lines, readLines, if_pos (.inr hstate)] at hread
            cases hread
            exact ⟨_, List.mem_singleton_self _, hshown.save _⟩
        | char hc hmore hread => exact absurd rfl hmore
  | cons c' text ih =>
      have hnext : readFrom d r (c' :: text) = .ok rows → Appears word rows := by
        intro hread
        rcases readFrom_eq_ok.mp hread with ⟨r', hprocess, hgoes⟩
        have hstep := step_of_process hprocess
        exact ih hgoes (hstep.shown hshown) (hstep.settled hsettled)
      cases h with
      | row later hend hstart hlater hrows =>
          rcases hshown.processEnd hsettled hne with ⟨-, hfield⟩ | ⟨hsame, hstate⟩
          · rw [hrows]
            exact ⟨_, List.mem_cons_self, hfield⟩
          · rw [hsame, hstate] at hstart
            cases hstart
      | line hend hstate hread =>
          rcases hshown.processEnd hsettled hne with ⟨hstart, -⟩ | ⟨hsame, -⟩
          · exact absurd hstart hstate
          · exact hnext (hsame ▸ hread)
      | char hc hmore hread => exact hnext hread

/-- A word is read into a field, after what the field already ends with. -/
theorem appears_of_word (seen : List Char) (hseen : seen <:+ r.field) (hsettled : Settled r)
    (hplain : ∀ c ∈ word, special d c = false) (hne : word ≠ [])
    (hread : readFrom d r (word ++ text) = .ok rows) : Appears (seen ++ word) rows := by
  induction word generalizing r seen with
  | nil => exact absurd rfl hne
  | cons c word ih =>
      rw [List.forall_mem_cons] at hplain
      rcases readFrom_eq_ok.mp hread with ⟨r', hprocess, hgoes⟩
      have hstep := step_of_process hprocess
      have hsettled' := hstep.settled hsettled
      have hfield : r'.field = r.field ++ [c] := by
        cases hstep with
        | save state hc hstate => rw [hplain.1] at hc; cases hc
        | move state hc hstate => rw [hplain.1] at hc; cases hc
        | add state hstate hroom => rfl
      have hseen' : seen ++ [c] <:+ r'.field := by
        rw [hfield]
        rcases hseen with ⟨before, hbefore⟩
        exact ⟨before, by rw [← hbefore, List.append_assoc]⟩
      rcases eq_or_ne word [] with rfl | hword
      · exact hgoes.appears (.inl hseen'.isInfix) hsettled' (by simp)
      · have hinline := (special_eq_false.mp hplain.1).2.2
        rw [List.cons_append, readFrom_cons hprocess (ne_lineFeed hinline) (by simp [hword])]
          at hread
        have happears := ih (seen ++ [c]) hseen' hsettled' hplain.2 hword hread
        rw [List.append_assoc, List.singleton_append] at happears
        exact happears

/-- A run of characters that mean nothing to the reader stands in a field of what is read. -/
theorem read_shows (hplain : ∀ c ∈ word, special d c = false) (hne : word ≠ [])
    (hword : word <:+: text) (hread : read d text = .ok rows) : Appears word rows := by
  rcases hword with ⟨before, after, rfl⟩
  have hfrom : ∀ r rows, Settled r →
      readFrom d r (before ++ (word ++ after)) = .ok rows → Appears word rows := by
    clear hread
    induction before with
    | nil =>
        intro r rows hsettled hread
        exact appears_of_word [] List.nil_suffix hsettled hplain hne hread
    | cons c before ih =>
        intro r rows hsettled hread
        rcases readFrom_eq_ok.mp hread with ⟨r', hprocess, hgoes⟩
        have hsettled' := (step_of_process hprocess).settled hsettled
        cases hgoes with
        | row later hend hstate hlater hrows =>
            rw [hrows]
            exact (ih _ _ settled_start hlater).cons _
        | line hend hstate hread => exact ih _ _ (settled_processEnd hsettled') hread
        | char hc hmore hread => exact ih _ _ hsettled' hread
  exact hfrom _ _ settled_start (by rw [← List.append_assoc]; exact hread)

/-! ## How long a field may be -/

section

variable {limit : Nat}

/-- What has been read of a row is no longer than it may be. -/
def Reader.Fits (limit : Nat) (r : Reader) : Prop :=
  r.field.length ≤ limit ∧ Bounded limit r.fields

theorem Reader.Fits.save (h : r.Fits limit) (state : ReadState) : (r.save state).Fits limit := by
  refine ⟨Nat.zero_le _, ?_⟩
  intro field hfield
  rcases List.mem_append.mp hfield with hfield | hfield
  · exact h.2 field hfield
  · rw [List.mem_singleton.mp hfield]
    exact h.1

theorem Reader.Fits.processEnd (h : r.Fits limit) : (processEnd r).Fits limit := by
  unfold Csv.processEnd
  split
  next => exact h
  next => exact h
  next => exact h.save _
  next => exact h.save _
  next => exact h.save _
  next => exact h

theorem fits_start : Reader.start.Fits limit :=
  ⟨Nat.zero_le _, fun _ hfield => absurd hfield List.not_mem_nil⟩

theorem Step.fits (h : Step d c r r') (hr : r.Fits d.fieldLimit) : r'.Fits d.fieldLimit := by
  cases h with
  | save state hc hstate => exact hr.save state
  | move state hc hstate => exact hr
  | add state hstate hroom =>
      refine ⟨?_, hr.2⟩
      rw [List.length_append, List.length_singleton]
      exact hroom

/-- No field that is read is longer than it may be. -/
theorem bounded_of_readFrom (hr : r.Fits d.fieldLimit) (hread : readFrom d r text = .ok rows) :
    ∀ row ∈ rows, Bounded d.fieldLimit row := by
  induction text generalizing r rows with
  | nil =>
      rw [readFrom, lines, readLines] at hread
      cases hread
      split_ifs
      · rw [List.forall_mem_singleton]
        exact (hr.save _).2
      · exact List.forall_mem_nil _
  | cons c text ih =>
      rcases readFrom_eq_ok.mp hread with ⟨r', hprocess, hgoes⟩
      have hr' := (step_of_process hprocess).fits hr
      cases hgoes with
      | row later hend hstate hlater hrows =>
          rw [hrows, List.forall_mem_cons]
          exact ⟨hr'.processEnd.2, ih fits_start hlater⟩
      | line hend hstate hread => exact ih hr'.processEnd hread
      | char hc hmore hread => exact ih hr' hread

theorem add_mono (hle : d.fieldLimit ≤ limit) {state : ReadState}
    (h : r.add d c state = .ok r') : r.add (d.withLimit limit) c state = .ok r' := by
  unfold Reader.add at h
  split_ifs at h with hroom
  exact (if_pos (lt_of_lt_of_le hroom hle)).trans h

theorem beginField_mono (hle : d.fieldLimit ≤ limit) (h : beginField d r c = .ok r') :
    beginField (d.withLimit limit) r c = .ok r' := by
  unfold beginField at h
  split_ifs at h with hline hquote hdelimiter
  · exact (if_pos hline).trans h
  · exact (if_neg hline).trans ((if_pos hquote).trans h)
  · exact (if_neg hline).trans ((if_neg hquote).trans ((if_pos hdelimiter).trans h))
  · exact (if_neg hline).trans ((if_neg hquote).trans ((if_neg hdelimiter).trans (add_mono hle h)))

/-- A reader of longer fields takes what a reader of shorter ones does. -/
theorem process_mono (hle : d.fieldLimit ≤ limit) (h : process d r c = .ok r') :
    process (d.withLimit limit) r c = .ok r' := by
  unfold process at h ⊢
  split at h
  next =>
    split_ifs at h with hline
    · exact (if_pos hline).trans h
    · exact (if_neg hline).trans (beginField_mono hle h)
  next => exact beginField_mono hle h
  next =>
    split_ifs at h with hline hdelimiter
    · exact (if_pos hline).trans h
    · exact (if_neg hline).trans ((if_pos hdelimiter).trans h)
    · exact (if_neg hline).trans ((if_neg hdelimiter).trans (add_mono hle h))
  next =>
    split_ifs at h with hquote
    · exact (if_pos hquote).trans h
    · exact (if_neg hquote).trans (add_mono hle h)
  next =>
    split_ifs at h with hquote hdelimiter hline
    · exact (if_pos hquote).trans (add_mono hle h)
    · exact (if_neg hquote).trans ((if_pos hdelimiter).trans h)
    · exact (if_neg hquote).trans ((if_neg hdelimiter).trans ((if_pos hline).trans h))
    · exact (if_neg hquote).trans
        ((if_neg hdelimiter).trans ((if_neg hline).trans (add_mono hle h)))
  next => exact h

theorem readFrom_mono (hle : d.fieldLimit ≤ limit) (h : readFrom d r text = .ok rows) :
    readFrom (d.withLimit limit) r text = .ok rows := by
  induction text generalizing r rows with
  | nil => exact h
  | cons c text ih =>
      rcases readFrom_eq_ok.mp h with ⟨r', hprocess, hgoes⟩
      refine readFrom_eq_ok.mpr ⟨r', process_mono hle hprocess, ?_⟩
      cases hgoes with
      | row later hend hstate hlater hrows => exact .row later hend hstate (ih hlater) hrows
      | line hend hstate hread => exact .line hend hstate (ih hread)
      | char hc hmore hread => exact .char hc hmore (ih hread)

end

/-- Every field of some rows is as long as it may be, for some length. -/
theorem exists_bounded (rows : List Row) : ∃ limit, ∀ row ∈ rows, Bounded limit row := by
  refine ⟨rows.flatten.flatten.length, ?_⟩
  intro row hrow field hfield
  have hmem : field ∈ rows.flatten := List.mem_flatten.mpr ⟨row, hrow, hfield⟩
  exact (List.infix_of_mem_flatten hmem).length_le

/-- The text determines the rows: a reader that takes fields of any length finds them. -/
theorem write_injective (d : Dialect) : Function.Injective (write d) := by
  intro rows rows' h
  rcases exists_bounded (rows ++ rows') with ⟨limit, hroom⟩
  rw [List.forall_mem_append] at hroom
  have hread := @read_write (d.withLimit limit) rows hroom.1
  have hread' := @read_write (d.withLimit limit) rows' hroom.2
  rw [write_withLimit] at hread hread'
  rw [h, hread'] at hread
  exact (Except.ok.inj hread).symm

/-- What was written is read as it was, or not at all. -/
theorem read_write_iff : (∃ rows', read d (write d rows) = .ok rows') ↔
    ∀ row ∈ rows, Bounded d.fieldLimit row := by
  constructor
  · rintro ⟨rows', hread⟩
    rcases exists_bounded rows with ⟨limit, hlimit⟩
    have hlonger := readFrom_mono (le_max_left d.fieldLimit limit) hread
    have hwritten := @read_write (d.withLimit (max d.fieldLimit limit)) rows
      (fun row hrow field hfield => (hlimit row hrow field hfield).trans (le_max_right _ _))
    rw [write_withLimit, read, hlonger] at hwritten
    rw [← Except.ok.inj hwritten]
    exact bounded_of_readFrom fits_start hread
  · intro hroom
    exact ⟨rows, read_write hroom⟩

/-! ## What is read -/

/-- Every carriage return is followed by the end of a line, or of the text. -/
def returnsEnd : List Char → Bool
  | [] => true
  | c :: text => (c ≠ '\r' || text.head?.all lineEnd) && returnsEnd text

theorem process_isOk (hroom : r.field.length < d.fieldLimit)
    (hend : r.state = .eatLineEnd → lineEnd c = true) : ∃ r', process d r c = .ok r' := by
  have hbegin : ∃ r', beginField d r c = .ok r' := by
    unfold beginField
    split_ifs
    · exact ⟨_, rfl⟩
    · exact ⟨_, rfl⟩
    · exact ⟨_, rfl⟩
    · exact ⟨_, add_of_lt hroom _⟩
  unfold process
  split
  next =>
    split_ifs
    · exact ⟨_, rfl⟩
    · exact hbegin
  next => exact hbegin
  next =>
    split_ifs
    · exact ⟨_, rfl⟩
    · exact ⟨_, rfl⟩
    · exact ⟨_, add_of_lt hroom _⟩
  next =>
    split_ifs
    · exact ⟨_, rfl⟩
    · exact ⟨_, add_of_lt hroom _⟩
  next =>
    split_ifs
    · exact ⟨_, add_of_lt hroom _⟩
    · exact ⟨_, rfl⟩
    · exact ⟨_, rfl⟩
    · exact ⟨_, add_of_lt hroom _⟩
  next hstate => exact ⟨r, if_pos (hend hstate)⟩

theorem Step.length_le (h : Step d c r r') : r'.field.length ≤ r.field.length + 1 := by
  cases h with
  | save state hc hstate => exact Nat.zero_le _
  | move state hc hstate => exact Nat.le_succ _
  | add state hstate hroom => rw [List.length_append, List.length_singleton]

theorem Step.lineEnd (h : Step d c r r') (hstate : r'.state = .eatLineEnd) :
    lineEnd c = true := by
  cases h with
  | save state hc hsaved =>
      rcases hsaved with rfl | ⟨-, hline⟩
      · cases hstate
      · exact hline
  | move state hc hmove =>
      rcases hmove with ⟨rfl, -⟩ | ⟨rfl, -⟩ | ⟨-, hline, -⟩
      · cases hstate
      · cases hstate
      · exact hline
  | add state hadd hroom =>
      rcases hadd with rfl | ⟨rfl, -⟩ <;> cases hstate

theorem processEnd_length_le (r : Reader) : (processEnd r).field.length ≤ r.field.length := by
  unfold processEnd
  split <;> first | exact le_refl _ | exact Nat.zero_le _

theorem processEnd_ne_eatLineEnd (r : Reader) : (processEnd r).state ≠ .eatLineEnd := by
  unfold processEnd
  split
  next hstate => rw [hstate]; decide
  next hstate => rw [hstate]; decide
  all_goals exact ReadState.noConfusion

theorem readFrom_isOk (hroom : r.field.length + text.length ≤ d.fieldLimit)
    (hreturns : returnsEnd text = true)
    (hend : r.state = .eatLineEnd → text.head?.all lineEnd = true) :
    ∃ rows, readFrom d r text = .ok rows := by
  induction text generalizing r with
  | nil => exact ⟨_, rfl⟩
  | cons c text ih =>
      rw [List.length_cons] at hroom
      rw [returnsEnd, Bool.and_eq_true] at hreturns
      rcases process_isOk (d := d) (c := c) (by omega) hend with ⟨r', hprocess⟩
      have hstep := step_of_process hprocess
      have hlength := hstep.length_le
      by_cases hlast : c = '\n' ∨ text = []
      · by_cases hstate : (processEnd r').state = .startRecord
        · have hstart : Reader.start.field.length + text.length ≤ d.fieldLimit := by
            simp only [Reader.start, List.length_nil]
            omega
          rcases ih hstart hreturns.2 (by simp [Reader.start]) with ⟨later, hlater⟩
          exact ⟨_, readFrom_eq_ok.mpr ⟨r', hprocess, .row later hlast hstate hlater rfl⟩⟩
        · have hshorter := processEnd_length_le r'
          have hnot := processEnd_ne_eatLineEnd r'
          rcases ih (r := processEnd r') (by omega) hreturns.2 (by simp [hnot]) with ⟨rows, hrows⟩
          exact ⟨rows, readFrom_eq_ok.mpr ⟨r', hprocess, .line hlast hstate hrows⟩⟩
      · rw [not_or] at hlast
        have hend' : r'.state = .eatLineEnd → text.head?.all Csv.lineEnd = true := by
          intro hstate
          have hline := hstep.lineEnd hstate
          rw [Csv.lineEnd, Bool.or_eq_true, decide_eq_true_iff, decide_eq_true_iff] at hline
          simpa [hline.resolve_right hlast.1] using hreturns.1
        rcases ih (r := r') (by omega) hreturns.2 hend' with ⟨rows, hrows⟩
        exact ⟨rows, readFrom_eq_ok.mpr ⟨r', hprocess, .char hlast.1 hlast.2 hrows⟩⟩

/-- A text is read where its carriage returns end lines and no field can be too long. -/
theorem read_isOk (hroom : text.length ≤ d.fieldLimit) (hreturns : returnsEnd text = true) :
    ∃ rows, read d text = .ok rows :=
  readFrom_isOk (by simpa [Reader.start] using hroom) hreturns (by simp [Reader.start])

/-! ## What is not read -/

/-- The reader is in quotes. -/
def Reader.InQuotes (r : Reader) : Prop :=
  r.state = .inQuotedField ∨ r.state = .quoteInQuotedField

theorem not_inQuotes_start : ¬ Reader.start.InQuotes := by
  simp [Reader.InQuotes, Reader.start]

/-- Quotes begin with a quote. -/
theorem Step.not_inQuotes (h : Step d c r r') (hr : ¬ r.InQuotes) (hc : c ≠ d.quote) :
    ¬ r'.InQuotes := by
  cases h with
  | save state hspecial hstate =>
      rcases hstate with rfl | ⟨rfl, -⟩ <;> simp [Reader.InQuotes, Reader.save]
  | move state hspecial hstate =>
      rcases hstate with ⟨-, hquote⟩ | ⟨-, hquote⟩ | ⟨rfl, -⟩
      · exact absurd hquote hc
      · exact absurd hquote hc
      · simp [Reader.InQuotes]
  | add state hstate hroom =>
      rcases hstate with rfl | ⟨-, hfrom | hquote⟩
      · simp [Reader.InQuotes]
      · exact absurd (.inl hfrom) hr
      · exact absurd hquote hc

theorem not_inQuotes_processEnd (hr : ¬ r.InQuotes) : ¬ (processEnd r).InQuotes := by
  unfold processEnd
  split
  next => exact hr
  next => exact hr
  all_goals simp [Reader.InQuotes, Reader.save]

/-- Outside quotes a carriage return ends the row. -/
theorem process_return (hr : ¬ r.InQuotes) (h : process d r '\r' = .ok r') :
    r'.state = .eatLineEnd := by
  unfold process beginField at h
  split at h
  next => cases h; rfl
  next => cases h; rfl
  next => cases h; rfl
  next hstate => exact absurd (.inl hstate) hr
  next hstate => exact absurd (.inr hstate) hr
  next hstate => cases h; exact hstate

/-- A line that goes on after a carriage return, outside quotes, is not read, nor is anything
else of its text. -/
theorem read_not_ok {before after : List Char} (hbefore : d.quote ∉ before)
    (hc : lineEnd c = false) : read d (before ++ '\r' :: c :: after) ≠ .ok rows := by
  have hfrom : ∀ r rows, ¬ r.InQuotes →
      readFrom d r (before ++ '\r' :: c :: after) ≠ .ok rows := by
    induction before with
    | nil =>
        intro r rows hr hread
        rcases readFrom_eq_ok.mp hread with ⟨r', hprocess, hgoes⟩
        have hstate := process_return hr hprocess
        have hrest : readFrom d r' (c :: after) = .ok rows := by
          cases hgoes with
          | row later hend => exact absurd hend (by simp)
          | line hend => exact absurd hend (by simp)
          | char _ _ hrest => exact hrest
        have herror : process d r' c = .error .newLine := by
          unfold process
          rw [hstate]
          dsimp only
          rw [hc, if_neg Bool.false_ne_true]
        rw [readFrom_error herror] at hrest
        cases hrest
    | cons b before ih =>
        rw [List.mem_cons, not_or] at hbefore
        intro r rows hr hread
        rcases readFrom_eq_ok.mp hread with ⟨r', hprocess, hgoes⟩
        have hr' := (step_of_process hprocess).not_inQuotes hr (Ne.symm hbefore.1)
        cases hgoes with
        | row later hend hstate hlater => exact ih hbefore.2 _ _ not_inQuotes_start hlater
        | line hend hstate hrest =>
            exact ih hbefore.2 _ _ (not_inQuotes_processEnd hr') hrest
        | char _ _ hrest => exact ih hbefore.2 _ _ hr' hrest
  exact hfrom _ _ not_inQuotes_start

end

end Csv
