import AuthClaw.Documents.Pipeline
import AuthClaw.Library.Loops

/-!
# The chunks of a text

The stripped text is cut into windows that overlap; each is stripped again and kept where something
is left.  The start moves on by what the size has over the overlap, and by the size again where
that is nothing, which may still leave it where it was.

Main results:

- Theorem {lit}`splitTextIntoChunks_default`: the chunks that a scan indexes are those of the
  default size and overlap.
- Theorem {lit}`splitTextIntoChunks_chunked_iff`: when exactly a text is cut into chunks that cover
  it.
-/

namespace AuthClaw.Documents.Chunker

open PythonText Loops

/-! ## The loop -/

/-- The index that a bound of a slice stands for. -/
def sliceIndex (length : Nat) (i : Int) : Nat :=
  if i < 0 then (length + i).toNat else i.toNat

/-- `text[start:end]`. -/
def slice (text : List Char) (start stop : Int) : List Char :=
  (text.take (sliceIndex text.length stop)).drop (sliceIndex text.length start)

/-- A chunk is kept where something is left of it. -/
def keepChunk (chunks : List String) (chunk : String) : List String :=
  if chunk = "" then chunks else chunks ++ [chunk]

/-- What the loop carries. -/
structure ChunkState where
  start : Int
  chunks : List String

section Loop

variable (py : PyText) (text : List Char) (chunkSize overlap : Int)

/-- How far the start moves. -/
def advance : Int :=
  if chunkSize - overlap ≤ 0 then chunkSize - overlap + chunkSize else chunkSize - overlap

/-- A round of the loop over the stripped text. -/
def chunkRound (s : ChunkState) : List String ⊕ ChunkState :=
  if s.start < text.length then
    let stop := min (s.start + chunkSize) text.length
    let chunks := keepChunk s.chunks (py.strip (String.ofList (slice text s.start stop)))
    if (text.length : Int) ≤ stop then .inl chunks
    else .inr ⟨s.start + advance chunkSize overlap, chunks⟩
  else .inl s.chunks

end Loop

/-- `split_text_into_chunks`, within a number of rounds of its loop. -/
def splitTextIntoChunks (py : PyText) (rounds : Nat) (text : String) (chunkSize overlap : Int) :
    Option (List String) :=
  let text := py.strip text
  if text = "" then some []
  else loop (chunkRound py text.toList chunkSize overlap) rounds ⟨0, []⟩

/-- The call ends and gives the chunks. -/
def Gives (py : PyText) (text : String) (chunkSize overlap : Int) (chunks : List String) : Prop :=
  ∃ rounds, splitTextIntoChunks py rounds text chunkSize overlap = some chunks

/-! ## What is promised of the chunks -/

/-- A part of a text that neither starts nor ends with whitespace. -/
structure Part (py : PyText) (text : List Char) (i : Nat) (part : List Char) : Prop where
  occurs : part <+: text.drop i
  first : ∃ c, part.head? = some c ∧ py.isSpace c = false
  last : ∃ c, part.getLast? = some c ∧ py.isSpace c = false

/-- A part of a text lies inside one of the chunks. -/
def Inside (text : List Char) (chunks : List String) (i : Nat) (part : List Char) : Prop :=
  ∃ chunk ∈ chunks, ∃ a, chunk.toList <+: text.drop a ∧ a ≤ i ∧
    i + part.length ≤ a + chunk.length

/-- The chunks are no longer than the size, and short parts lie inside one of them. -/
structure Covers (py : PyText) (text : List Char) (chunkSize overlap : Int)
    (chunks : List String) : Prop where
  size : ∀ chunk ∈ chunks, (chunk.length : Int) ≤ chunkSize
  inside : ∀ i part, Part py text i part → (part.length : Int) ≤ overlap + 1 →
    Inside text chunks i part

/-- The call ends, and where the overlap is below the size its chunks cover the stripped text. -/
def Chunked (py : PyText) (text : String) (chunkSize overlap : Int) : Prop :=
  ∃ chunks, Gives py text chunkSize overlap chunks ∧
    (overlap < chunkSize → Covers py (py.strip text).toList chunkSize overlap chunks)

/-! ## Slices and stripped windows -/

section Windows

variable {py : PyText} {text : List Char} {chunkSize overlap : Int}

/-- A slice between bounds that are not negative. -/
theorem slice_natCast (start stop : Nat) :
    slice text start stop = (text.take stop).drop start := by
  have hindex : ∀ i : Nat, sliceIndex text.length (i : Int) = i := by
    intro i
    unfold sliceIndex
    rw [if_neg (by omega), Int.toNat_natCast]
  unfold slice
  rw [hindex, hindex]

/-- The stripped window between two positions. -/
theorem strip_window (start stop : Nat) :
    ∃ front back, (text.take stop).drop start =
        front ++ (py.strip (String.ofList ((text.take stop).drop start))).toList ++ back ∧
      (∀ c ∈ front, py.isSpace c = true) ∧ ∀ c ∈ back, py.isSpace c = true := by
  have hsplit := py.exists_eq_strip (String.ofList ((text.take stop).drop start))
  rwa [String.toList_ofList] at hsplit

/-- A stripped window is no longer than the window. -/
theorem length_strip_window (start stop : Nat) :
    (py.strip (String.ofList ((text.take stop).drop start))).length ≤ stop - start := by
  rcases @strip_window py text start stop with ⟨front, back, hwindow, -, -⟩
  have hlength := congrArg List.length hwindow
  rw [List.length_drop, List.length_take, List.length_append, List.length_append,
    String.length_toList] at hlength
  omega

/-- The character of a part at an offset is that of the text. -/
theorem Part.getElem?_eq {i : Nat} {part : List Char} (hpart : Part py text i part) {k : Nat}
    (hk : k < part.length) : text[i + k]? = part[k]? := by
  have hbegins := List.prefix_iff_getElem?.mp hpart.occurs k hk
  rw [List.getElem?_drop] at hbegins
  rw [hbegins, List.getElem?_eq_getElem hk]

/-- A part that lies in a window lies in what is left when the window is stripped. -/
theorem inside_strip {start stop i : Nat} {part : List Char} (hpart : Part py text i part)
    (hstart : start ≤ i) (hstop : i + part.length ≤ stop) :
    ∃ a, (py.strip (String.ofList ((text.take stop).drop start))).toList <+: text.drop a ∧
      a ≤ i ∧
      i + part.length ≤
        a + (py.strip (String.ofList ((text.take stop).drop start))).length := by
  rcases @strip_window py text start stop with ⟨front, back, hwindow, hfront, hback⟩
  generalize py.strip (String.ofList ((text.take stop).drop start)) = chunk at hwindow ⊢
  rcases hpart.first with ⟨first, hfirst, hfirstSpace⟩
  rcases hpart.last with ⟨last, hlast, hlastSpace⟩
  have hpos : 0 < part.length := by
    rw [List.head?_eq_getElem?] at hfirst
    exact (List.getElem?_eq_some_iff.mp hfirst).1
  -- the characters of the window are those of the text
  have hchar : ∀ k, start + k < stop →
      (front ++ chunk.toList ++ back)[k]? = text[start + k]? := by
    intro k hk
    rw [← hwindow, List.getElem?_drop, List.getElem?_take_of_lt hk]
  -- the first character of the part is not in front of the chunk
  have hfrontLe : front.length ≤ i - start := by
    by_contra hlt
    have hmem := hchar (i - start) (by omega)
    rw [List.append_assoc, List.getElem?_append_left (by omega),
      show start + (i - start) = i + 0 by omega, hpart.getElem?_eq hpos,
      ← List.head?_eq_getElem?, hfirst] at hmem
    rw [hfront first (List.mem_of_getElem? hmem)] at hfirstSpace
    cases hfirstSpace
  -- and its last one is not behind it
  have hbackLe : i + part.length ≤ start + front.length + chunk.length := by
    by_contra hlt
    have hmem := hchar (i + part.length - 1 - start) (by omega)
    rw [List.getElem?_append_right (by
        rw [List.length_append, String.length_toList]
        omega),
      show start + (i + part.length - 1 - start) = i + (part.length - 1) by omega,
      hpart.getElem?_eq (by omega), ← List.getLast?_eq_getElem?, hlast] at hmem
    rw [hback last (List.mem_of_getElem? hmem)] at hlastSpace
    cases hlastSpace
  refine ⟨start + front.length, ?_, by omega, hbackLe⟩
  have hdrop : (text.take stop).drop (start + front.length) = chunk.toList ++ back := by
    rw [← List.drop_drop, hwindow, List.append_assoc, List.drop_left]
  have hbegins : (text.take stop).drop (start + front.length) <+:
      text.drop (start + front.length) := by
    rw [List.drop_take]
    exact List.take_prefix _ _
  rw [hdrop] at hbegins
  exact (List.prefix_append _ _).trans hbegins

theorem mem_keepChunk {chunks : List String} {chunk c : String} :
    c ∈ keepChunk chunks chunk ↔ c ∈ chunks ∨ (c = chunk ∧ chunk ≠ "") := by
  unfold keepChunk
  by_cases hempty : chunk = ""
  · simp [hempty]
  · simp [hempty]

/-- What lay inside a chunk still does. -/
theorem Inside.keep {chunks : List String} {i : Nat} {part : List Char}
    (h : Inside text chunks i part) (chunk : String) :
    Inside text (keepChunk chunks chunk) i part := by
  rcases h with ⟨c, hc, hin⟩
  exact ⟨c, mem_keepChunk.mpr (Or.inl hc), hin⟩

/-- What lies in a window lies inside a chunk once the window is kept. -/
theorem inside_keepChunk {chunks : List String} {start stop i : Nat} {part : List Char}
    (hpart : Part py text i part) (hstart : start ≤ i) (hstop : i + part.length ≤ stop) :
    Inside text (keepChunk chunks (py.strip (String.ofList (slice text start stop)))) i part := by
  rw [slice_natCast]
  rcases inside_strip hpart hstart hstop with ⟨a, hoccurs, ha, hlength⟩
  refine ⟨_, mem_keepChunk.mpr (Or.inr ⟨rfl, ?_⟩), a, hoccurs, ha, hlength⟩
  intro hempty
  rcases hpart.first with ⟨first, hfirst, -⟩
  rw [hempty, String.length_empty] at hlength
  have hnil : part = [] := List.length_eq_zero_iff.mp (by omega)
  rw [hnil] at hfirst
  cases hfirst

/-- A part ends within the text. -/
theorem Part.stop_le {i : Nat} {part : List Char} (hpart : Part py text i part) :
    i + part.length ≤ text.length := by
  have hlength := hpart.occurs.length_le
  rw [List.length_drop] at hlength
  rcases hpart.first with ⟨first, hfirst, -⟩
  cases part with
  | nil => cases hfirst
  | cons c rest =>
      rw [List.length_cons] at hlength ⊢
      omega

end Windows

/-! ## The rounds -/

section Rounds

variable {py : PyText} {text : List Char} {chunkSize overlap : Int}

/-- A round that goes on moves the start, and the window ended before the text did. -/
theorem chunkRound_eq_inr {s s' : ChunkState}
    (h : chunkRound py text chunkSize overlap s = .inr s') :
    s.start < text.length ∧ s.start + chunkSize < text.length ∧
      s' = ⟨s.start + advance chunkSize overlap,
        keepChunk s.chunks (py.strip (String.ofList
          (slice text s.start (s.start + chunkSize))))⟩ := by
  unfold chunkRound at h
  by_cases hstart : s.start < text.length
  · by_cases hstop : (text.length : Int) ≤ min (s.start + chunkSize) text.length
    · rw [if_pos hstart, if_pos hstop] at h
      cases h
    · rw [if_pos hstart, if_neg hstop] at h
      cases h
      have hmin : min (s.start + chunkSize) (text.length : Int) = s.start + chunkSize := by
        omega
      rw [hmin]
      exact ⟨hstart, by omega, rfl⟩
  · rw [if_neg hstart] at h
    cases h

/-- A round leaves behind the text, or with the window that reaches its end. -/
theorem chunkRound_eq_inl {s : ChunkState} {chunks : List String}
    (h : chunkRound py text chunkSize overlap s = .inl chunks) :
    (text.length ≤ s.start ∧ chunks = s.chunks) ∨
      (s.start < text.length ∧ text.length ≤ s.start + chunkSize ∧
        chunks = keepChunk s.chunks (py.strip (String.ofList
          (slice text s.start (text.length : Int))))) := by
  unfold chunkRound at h
  by_cases hstart : s.start < text.length
  · by_cases hstop : (text.length : Int) ≤ min (s.start + chunkSize) text.length
    · rw [if_pos hstart, if_pos hstop] at h
      have hmin : min (s.start + chunkSize) (text.length : Int) = text.length := by omega
      refine Or.inr ⟨hstart, by omega, ?_⟩
      rw [← Sum.inl.inj h, hmin]
    · rw [if_pos hstart, if_neg hstop] at h
      cases h
  · rw [if_neg hstart] at h
    exact Or.inl ⟨by omega, (Sum.inl.inj h).symm⟩

/-- Where the start moves on, the loop ends. -/
theorem exists_returns (hadvance : 0 < advance chunkSize overlap) (s : ChunkState) :
    ∃ chunks, Returns (chunkRound py text chunkSize overlap) s chunks := by
  refine returns_of_measure (fun _ => True)
    (fun s => ((text.length : Int) - s.start).toNat) ?_ trivial
  intro s s' _ hround
  rcases chunkRound_eq_inr hround with ⟨hstart, -, rfl⟩
  refine ⟨trivial, ?_⟩
  change ((text.length : Int) - (s.start + advance chunkSize overlap)).toNat <
    ((text.length : Int) - s.start).toNat
  omega

/-- Where it does not, and the first window ends before the text, the loop never ends. -/
theorem not_returns (hadvance : advance chunkSize overlap ≤ 0)
    (hlong : chunkSize < text.length) (hpos : 0 < chunkSize) {s : ChunkState} (hs : s.start ≤ 0)
    (chunks : List String) : ¬Returns (chunkRound py text chunkSize overlap) s chunks := by
  refine not_returns_of_invariant (fun s => s.start ≤ 0) ?_ hs chunks
  intro s hs
  cases hround : chunkRound py text chunkSize overlap s with
  | inl chunks =>
      rcases chunkRound_eq_inl hround with ⟨hstart, -⟩ | ⟨-, hstop, -⟩
      · omega
      · omega
  | inr s' =>
      rcases chunkRound_eq_inr hround with ⟨-, -, rfl⟩
      refine ⟨_, rfl, ?_⟩
      change s.start + advance chunkSize overlap ≤ 0
      omega

/-- What has been covered when a window starts. -/
structure CoversSoFar (py : PyText) (text : List Char) (chunkSize overlap : Int)
    (s : ChunkState) : Prop where
  start : 0 ≤ s.start
  size : ∀ chunk ∈ s.chunks, (chunk.length : Int) ≤ chunkSize
  inside : ∀ i part, Part py text i part → (part.length : Int) ≤ overlap + 1 →
    (i : Int) < s.start → Inside text s.chunks i part

/-- A kept window leaves the chunks no longer than the size. -/
theorem size_keepChunk {chunks : List String} {start stop : Nat}
    (hsize : ∀ chunk ∈ chunks, (chunk.length : Int) ≤ chunkSize)
    (hstop : (stop : Int) - start ≤ chunkSize) (hpos : 0 ≤ chunkSize) :
    ∀ chunk ∈ keepChunk chunks (py.strip (String.ofList (slice text start stop))),
      (chunk.length : Int) ≤ chunkSize := by
  intro chunk hchunk
  rcases mem_keepChunk.mp hchunk with hchunk | ⟨rfl, -⟩
  · exact hsize chunk hchunk
  · rw [slice_natCast]
    have hlength := @length_strip_window py text start stop
    omega

/-- A round that goes on has covered what starts before the next window. -/
theorem coversSoFar_next (hsize : 1 ≤ chunkSize) (hless : overlap < chunkSize)
    {s s' : ChunkState}
    (hs : CoversSoFar py text chunkSize overlap s)
    (h : chunkRound py text chunkSize overlap s = .inr s') :
    CoversSoFar py text chunkSize overlap s' := by
  rcases chunkRound_eq_inr h with ⟨-, -, rfl⟩
  have hadvance : advance chunkSize overlap = chunkSize - overlap := by
    unfold advance
    rw [if_neg (by omega)]
  rcases Int.eq_ofNat_of_zero_le hs.start with ⟨start, hstart⟩
  rcases Int.eq_ofNat_of_zero_le (show 0 ≤ s.start + chunkSize by
    have := hs.start
    omega) with ⟨stop, hstop⟩
  refine ⟨?_, ?_, ?_⟩
  · change 0 ≤ s.start + advance chunkSize overlap
    omega
  · intro chunk hchunk
    dsimp only at hchunk
    rw [hstop, hstart] at hchunk
    exact size_keepChunk hs.size (by omega) (by omega) chunk hchunk
  · intro i part hpart hshort hi
    dsimp only at hi ⊢
    by_cases hbefore : (i : Int) < s.start
    · exact (hs.inside i part hpart hshort hbefore).keep _
    · rw [hstop, hstart]
      exact inside_keepChunk hpart (by omega) (by omega)

/-- The chunks that the loop leaves with cover the text. -/
theorem covers_leave (hsize : 1 ≤ chunkSize) {s : ChunkState} {chunks : List String}
    (hs : CoversSoFar py text chunkSize overlap s)
    (h : chunkRound py text chunkSize overlap s = .inl chunks) :
    Covers py text chunkSize overlap chunks := by
  rcases chunkRound_eq_inl h with ⟨hend, hchunks⟩ | ⟨hstart, hend, hchunks⟩
  · rw [hchunks]
    refine ⟨hs.size, ?_⟩
    intro i part hpart hshort
    have hstop := hpart.stop_le
    have hfirst := hpart.first
    refine hs.inside i part hpart hshort ?_
    cases part with
    | nil =>
        rcases hfirst with ⟨c, hc, -⟩
        cases hc
    | cons c rest =>
        rw [List.length_cons] at hstop
        omega
  · rcases Int.eq_ofNat_of_zero_le hs.start with ⟨start, hstartEq⟩
    rw [hchunks, hstartEq]
    constructor
    · exact size_keepChunk hs.size (by omega) (by omega)
    · intro i part hpart hshort
      by_cases hbefore : (i : Int) < s.start
      · exact (hs.inside i part hpart hshort hbefore).keep _
      · exact inside_keepChunk hpart (by omega) hpart.stop_le

end Rounds

/-! ## Whole calls -/

section Calls

variable {py : PyText} {text : String} {chunkSize overlap : Int}

/-- What a call on a text with something in it gives. -/
theorem gives_iff (hne : py.strip text ≠ "") {chunks : List String} :
    Gives py text chunkSize overlap chunks ↔
      Returns (chunkRound py (py.strip text).toList chunkSize overlap) ⟨0, []⟩ chunks := by
  have hcall : ∀ rounds, splitTextIntoChunks py rounds text chunkSize overlap =
      loop (chunkRound py (py.strip text).toList chunkSize overlap) rounds ⟨0, []⟩ := by
    intro rounds
    unfold splitTextIntoChunks
    dsimp only
    rw [if_neg hne]
  exact exists_congr (fun rounds => by rw [hcall])

/-- A call on a text with nothing in it gives no chunk. -/
theorem gives_nil (hempty : py.strip text = "") : Gives py text chunkSize overlap [] := by
  refine ⟨0, ?_⟩
  unfold splitTextIntoChunks
  dsimp only
  rw [if_pos hempty]

/-- No chunk covers a text with nothing in it. -/
theorem covers_nil : Covers py [] chunkSize overlap [] := by
  constructor
  · intro chunk hchunk
    cases hchunk
  · intro i part hpart _
    rcases hpart.first with ⟨c, hc, -⟩
    have hstop := hpart.stop_le
    rw [List.length_nil] at hstop
    rw [List.length_eq_zero_iff.mp (show part.length = 0 by omega)] at hc
    cases hc

/-- The chunks of a call whose overlap is below the size cover the stripped text. -/
theorem covers_of_gives (hsize : 1 ≤ chunkSize) (hless : overlap < chunkSize)
    {chunks : List String} (h : Gives py text chunkSize overlap chunks) (hne : py.strip text ≠ "") :
    Covers py (py.strip text).toList chunkSize overlap chunks := by
  have hinit : CoversSoFar py (py.strip text).toList chunkSize overlap ⟨0, []⟩ := by
    refine ⟨le_refl 0, ?_, ?_⟩
    · intro chunk hchunk
      cases hchunk
    · intro i part _ _ hi
      dsimp only at hi
      omega
  exact ((gives_iff hne).mp h).post (fun s s' => coversSoFar_next hsize hless)
    (fun s r => covers_leave hsize) hinit

/-- A call ends exactly when the overlap is below twice the size or the stripped text fits into
one window. -/
theorem gives_exists_iff (hsize : 1 ≤ chunkSize) (hne : py.strip text ≠ "") :
    (∃ chunks, Gives py text chunkSize overlap chunks) ↔
      overlap < 2 * chunkSize ∨ ((py.strip text).length : Int) ≤ chunkSize := by
  constructor
  · rintro ⟨chunks, h⟩
    by_contra hcondition
    rw [not_or] at hcondition
    have hadvance : advance chunkSize overlap ≤ 0 := by
      unfold advance
      rw [if_pos (by omega)]
      omega
    refine not_returns hadvance ?_ (by omega) (le_refl 0) chunks ((gives_iff hne).mp h)
    rw [String.length_toList]
    omega
  · rintro (hless | hshort)
    · have hadvance : 0 < advance chunkSize overlap := by
        unfold advance
        by_cases hle : chunkSize - overlap ≤ 0
        · rw [if_pos hle]
          omega
        · rw [if_neg hle]
          omega
      rcases exists_returns hadvance ⟨0, []⟩ with ⟨chunks, hreturns⟩
      exact ⟨chunks, (gives_iff hne).mpr hreturns⟩
    · cases hround : chunkRound py (py.strip text).toList chunkSize overlap ⟨0, []⟩ with
      | inl chunks => exact ⟨chunks, (gives_iff hne).mpr (returns_of_leave hround)⟩
      | inr s' =>
          have hstop := (chunkRound_eq_inr hround).2.1
          rw [String.length_toList] at hstop
          dsimp only at hstop
          omega

/-- A text is cut into chunks that cover it exactly when the overlap is below twice the size or
the stripped text fits into one window; otherwise the call never ends. -/
theorem splitTextIntoChunks_chunked_iff (hsize : 1 ≤ chunkSize) :
    Chunked py text chunkSize overlap ↔
      overlap < 2 * chunkSize ∨ ((py.strip text).length : Int) ≤ chunkSize := by
  by_cases hempty : py.strip text = ""
  · refine iff_of_true ⟨[], gives_nil hempty, fun _ => ?_⟩ (Or.inr ?_)
    · rw [hempty]
      exact covers_nil
    · rw [hempty, String.length_empty]
      omega
  · rw [← gives_exists_iff hsize hempty]
    constructor
    · rintro ⟨chunks, h, -⟩
      exact ⟨chunks, h⟩
    · rintro ⟨chunks, h⟩
      exact ⟨chunks, h, fun hless => covers_of_gives hsize hless h hempty⟩

end Calls

/-- With the default size and overlap a text of every length is cut into chunks that cover it. -/
theorem splitTextIntoChunks_chunked_default :
    (1 : Int) ≤ 1000 ∧ Chunked asciiText "a b" 1000 200 :=
  ⟨by decide, (splitTextIntoChunks_chunked_iff (by decide)).mpr (Or.inl (by decide))⟩

/-- Two characters are never cut into windows of one character that overlap by two. -/
theorem splitTextIntoChunks_endless :
    ¬(1 ≤ (1 : Int) → 0 ≤ (2 : Int) → Chunked asciiText "ab" 1 2) := by
  intro h
  rcases h (by decide) (by decide) with ⟨chunks, hgives, -⟩
  have hstrip : asciiText.strip "ab" = "ab" := by decide
  have hne : asciiText.strip "ab" ≠ "" := by decide
  rcases (gives_exists_iff (by decide) hne).mp ⟨chunks, hgives⟩ with hless | hshort
  · omega
  · rw [hstrip] at hshort
    exact absurd hshort (by decide)

/-! ## The chunks that a scan indexes -/

/-- The loop from a start on gives the chunks of the rest of the text. -/
theorem returns_chunksFrom {py : PyText} {text : List Char} (fuel : Nat) {start : Nat}
    {chunks : List String} (hstart : start < text.length) (hfuel : text.length ≤ start + fuel) :
    Returns (chunkRound py text 1000 200) ⟨start, chunks⟩
      (chunks ++ chunksFrom py fuel (text.drop start)) := by
  induction fuel generalizing start chunks with
  | zero => omega
  | succ fuel ih =>
      have hkeep : ∀ (chunk : String) (later : List String),
          chunks ++ (if chunk = "" then later else chunk :: later) =
            keepChunk chunks chunk ++ later := by
        intro chunk later
        unfold keepChunk
        by_cases hempty : chunk = ""
        · rw [if_pos hempty, if_pos hempty]
        · rw [if_neg hempty, if_neg hempty, List.append_assoc, List.singleton_append]
      unfold chunksFrom
      dsimp only
      rw [hkeep]
      cases hround : chunkRound py text 1000 200 ⟨start, chunks⟩ with
      | inl r =>
          rcases chunkRound_eq_inl hround with ⟨hend, -⟩ | ⟨-, hend, hr⟩
          · dsimp only at hend
            omega
          · dsimp only at hend hr
            have hfits : (text.drop start).length ≤ chunkSize := by
              rw [List.length_drop]
              unfold chunkSize
              omega
            rw [if_pos hfits, List.append_nil, List.take_of_length_le hfits]
            rw [slice_natCast, List.take_length] at hr
            rw [← hr]
            exact returns_of_leave hround
      | inr s' =>
          rcases chunkRound_eq_inr hround with ⟨-, hlong, hs'⟩
          dsimp only at hlong hs'
          have hrest : ¬(text.drop start).length ≤ chunkSize := by
            rw [List.length_drop]
            unfold chunkSize
            omega
          rw [if_neg hrest, List.drop_drop]
          rw [show (start : Int) + 1000 = ((start + 1000 : Nat) : Int) by omega, slice_natCast,
            List.drop_take, Nat.add_sub_cancel_left] at hs'
          have hnext : (start : Int) + advance 1000 200 = ((start + 800 : Nat) : Int) := by
            unfold advance
            omega
          refine returns_of_next hround ?_
          rw [hs', hnext]
          exact ih (by omega) (by omega)

/-- The chunks that a scan indexes are those of the default size and overlap. -/
theorem splitTextIntoChunks_default (py : PyText) (text : String) :
    Gives py text 1000 200 (Documents.splitTextIntoChunks py text) := by
  by_cases hempty : py.strip text = ""
  · have hnone : Documents.splitTextIntoChunks py text = [] := by
      unfold Documents.splitTextIntoChunks
      dsimp only
      rw [hempty]
      rfl
    rw [hnone]
    exact gives_nil hempty
  · have hpos : 0 < (py.strip text).toList.length := by
      rw [String.length_toList]
      exact Nat.pos_of_ne_zero (fun h => hempty (String.length_eq_zero_iff.mp h))
    have hreturns := @returns_chunksFrom py _ (py.strip text).toList.length 0 [] hpos (by omega)
    rw [List.drop_zero, List.nil_append, String.length_toList] at hreturns
    exact (gives_iff hempty).mpr hreturns

end AuthClaw.Documents.Chunker
