import AuthClaw.Redaction.GoStreaming

/-!
# The redacting response body

{lit}`redactingReadCloser.Read` hands a response on through the streaming redactor.  It
reads the source until the redactor puts something out, keeps what the caller's buffer
does not take, and ends with the placeholder when the source or the redactor fails.

A read that comes with bytes and an error has its error dropped when the redactor puts
something out for the bytes: the end of the source comes again, another error need not.

Main results:

- Theorem {lit}`bodyFrom_loopBody`: the loop puts out the outputs of the redactor, in
  order and once.
- Theorem {lit}`handsOn_read`: a read takes its bytes from the front of the body.
- Theorem {lit}`read_delivers`: every run of reads delivers the outputs of the redactor
  and then the end of the input.
-/

namespace AuthClaw.Redaction

open Streaming

/-! ## The source -/

/-- The error of a read of the source: its end, or another. -/
inductive ReadError where
  | eof
  | failed
deriving DecidableEq, Repr

/-- What one read of the source gives. -/
structure SourceRead where
  bytes : List UInt8
  err : Option ReadError
deriving DecidableEq, Repr

/-- A read at the end of the source. -/
def SourceRead.atEnd : SourceRead :=
  ⟨[], some .eof⟩

/-- The reads of a source, which is at its end after them; a source that has been at its
end stays there. -/
structure Source where
  reads : List SourceRead
  sticky : reads.Pairwise (fun read later => read.err = some .eof → later = .atEnd)

/-- The bytes of the reads. -/
def sourceBytes (reads : List SourceRead) : List UInt8 :=
  reads.flatMap SourceRead.bytes

/-! ## The body -/

/-- `streamSafePlaceholder` -/
def streamSafePlaceholder : List UInt8 :=
  encode (runes "[AuthClaw blocked unsafe stream chunk]")

/-- `StreamingRedactor` -/
structure StreamingRedactor where
  carry : List UInt8
  failForTest : Bool
deriving DecidableEq, Repr

/-- `redactingReadCloser` -/
structure RedactingReadCloser where
  source : List SourceRead
  redactor : StreamingRedactor
  pending : List UInt8
  done : Bool
deriving DecidableEq, Repr

/-- What `Read` returns: the bytes it has copied and whether with `io.EOF`. -/
structure ReadResult where
  bytes : List UInt8
  eof : Bool
deriving DecidableEq, Repr

/-- `newRedactingReadCloser`, of a redactor that fails if it is told to. -/
def newRedactingReadCloser (source : Source) (failForTest : Bool) : RedactingReadCloser :=
  { source := source.reads
    redactor := { carry := [], failForTest }
    pending := []
    done := false }

namespace RedactingReadCloser

/-- `drainPending`, into a buffer of a size. -/
def drainPending (r : RedactingReadCloser) (size : Nat) : ReadResult × RedactingReadCloser :=
  (⟨r.pending.take size, false⟩, { r with pending := r.pending.drop size })

/-- `failClosed` -/
def failClosed (r : RedactingReadCloser) : RedactingReadCloser :=
  { r with done := true, pending := streamSafePlaceholder }

end RedactingReadCloser

section

variable (unicode : GoUnicode)

/-- `Process`: what is returned, an error or none, and the redactor after it. -/
def StreamingRedactor.process (redactor : StreamingRedactor) (chunk : List UInt8)
    (final : Bool) : (List UInt8 × Option String) × StreamingRedactor :=
  if redactor.failForTest then
    ((streamSafePlaceholder, some "stream redactor forced failure"), redactor)
  else
    let (out, carry) := Redaction.process unicode redactor.carry chunk final
    ((out, none), { redactor with carry })

namespace RedactingReadCloser

/-- What `Read` does with the bytes of a read: it returns what is pending on the left and
goes on with the loop on the right. -/
def takeChunk (r : RedactingReadCloser) (chunk : List UInt8) :
    RedactingReadCloser ⊕ RedactingReadCloser :=
  if chunk = [] then .inr r
  else
    match r.redactor.process unicode chunk false with
    | ((_, some _), redactor) => .inl { r with redactor }.failClosed
    | ((out, none), redactor) =>
        if out = [] then .inr { r with redactor } else .inl { r with redactor, pending := out }

/-- What `Read` does at the end of the source. -/
def atEnd (r : RedactingReadCloser) (size : Nat) : ReadResult × RedactingReadCloser :=
  match r.redactor.process unicode [] true with
  | ((_, some _), redactor) => { r with redactor }.failClosed.drainPending size
  | ((out, none), redactor) =>
      if out = [] then (⟨[], true⟩, { r with redactor, done := true })
      else { r with redactor, done := true, pending := out }.drainPending size

/-- The loop of `Read`, on the reads left. -/
def readLoop (size : Nat) : RedactingReadCloser → List SourceRead →
    ReadResult × RedactingReadCloser
  | r, [] => { r with source := [] }.atEnd unicode size
  | r, read :: rest =>
      match { r with source := rest }.takeChunk unicode read.bytes with
      | .inl r => r.drainPending size
      | .inr r =>
          match read.err with
          | some .eof => r.atEnd unicode size
          | some .failed => r.failClosed.drainPending size
          | none => readLoop size r rest

/-- `Read`, into a buffer of a size. -/
def read (r : RedactingReadCloser) (size : Nat) : ReadResult × RedactingReadCloser :=
  if 0 < r.pending.length then r.drainPending size
  else if r.done then (⟨[], true⟩, r)
  else readLoop unicode size r r.source

/-- What reads into buffers of these sizes return. -/
def readAll (r : RedactingReadCloser) : List Nat → List ReadResult
  | [] => []
  | size :: sizes => (r.read unicode size).1 :: readAll (r.read unicode size).2 sizes

end RedactingReadCloser

/-! ## The outputs of the redactor -/

/-- The chunks that reads pass to the redactor. -/
def chunks (reads : List SourceRead) : List (List UInt8) :=
  (reads.map SourceRead.bytes).filter (· ≠ [])

/-- What the calls on chunks put out, from a carry. -/
def putOut (carry : List UInt8) (reads : List SourceRead) : List UInt8 :=
  output (fun carry chunk => process unicode carry chunk false) (fun _ => []) carry
    (chunks reads)

/-- The carry after the calls on chunks. -/
def carryAfter (carry : List UInt8) (reads : List SourceRead) : List UInt8 :=
  kept (fun carry chunk => process unicode carry chunk false) carry (chunks reads)

/-- The read after some others fails, with nothing put out for its bytes. -/
def Fails (carry : List UInt8) (before : List SourceRead) (read : SourceRead) : Prop :=
  read.err = some .failed ∧ putOut unicode (carryAfter unicode carry before) [read] = []

/-- None of the reads fails so. -/
def NoneFails (carry : List UInt8) (reads : List SourceRead) : Prop :=
  ∀ before read, before ++ [read] <+: reads → ¬ Fails unicode carry before read

/-- The outputs of the redactor on a source, from a carry. -/
inductive BodyFrom (carry : List UInt8) (reads : List SourceRead) : Bool → List UInt8 → Prop
  /-- What is put out for the chunks, and at the end for the carry. -/
  | ended (hnone : NoneFails unicode carry reads) :
      BodyFrom carry reads false
        (putOut unicode carry reads ++
          (process unicode (carryAfter unicode carry reads) [] true).1)
  /-- What is put out before the read that fails, and the placeholder for the carry. -/
  | failed {before : List SourceRead} {read : SourceRead} (hread : before ++ [read] <+: reads)
      (hnone : NoneFails unicode carry before) (hfails : Fails unicode carry before read) :
      BodyFrom carry reads false (putOut unicode carry before ++ streamSafePlaceholder)
  /-- The placeholder, when the redactor is told to fail. -/
  | forced : BodyFrom carry reads true streamSafePlaceholder

end

/-- No part of the bytes matches a pattern. -/
def NoPartMatches (bytes : List UInt8) : Prop :=
  ∀ part, part <:+: bytes → Unmatched part

/-- Reads that deliver a body, in order and once, and then the end of the input: no read
returns more than its buffer takes, only reads at the end follow the whole body, and one of
them is reached when there are more buffers that take a byte than bytes. -/
structure Delivered (body : List UInt8) (sizes : List Nat) (results : List ReadResult) :
    Prop where
  fits : List.Forall₂ (fun size result => result.bytes.length ≤ size) sizes results
  inOrder : results.flatMap ReadResult.bytes <+: body
  ended : ∀ before result after, results = before ++ result :: after → result.eof = true →
    before.flatMap ReadResult.bytes = body ∧ result.bytes = [] ∧
      ∀ later ∈ after, later = ⟨[], true⟩
  ends : body.length < sizes.countP (0 < ·) → ∃ result ∈ results, result.eof = true

/-! ## What the loop puts out -/

section

variable {unicode : GoUnicode}

/-- What the loop puts out of the reads left, when the redactor does not fail. -/
def loopBody (unicode : GoUnicode) : List UInt8 → List SourceRead → List UInt8
  | carry, [] => (process unicode carry [] true).1
  | carry, read :: rest =>
      if putOut unicode carry [read] = [] then
        match read.err with
        | some .eof => (process unicode (carryAfter unicode carry [read]) [] true).1
        | some .failed => streamSafePlaceholder
        | none => loopBody unicode (carryAfter unicode carry [read]) rest
      else putOut unicode carry [read] ++ loopBody unicode (carryAfter unicode carry [read]) rest

theorem chunks_cons (read : SourceRead) (rest : List SourceRead) :
    chunks (read :: rest) = chunks [read] ++ chunks rest := by
  unfold chunks
  rw [List.map_cons, ← List.singleton_append, List.filter_append]
  rfl

/-- The calls on no chunk put nothing out and leave the carry. -/
theorem chunks_singleton (read : SourceRead) :
    chunks [read] = if read.bytes = [] then [] else [read.bytes] := by
  unfold chunks
  rw [List.map_cons, List.map_nil, List.filter_singleton]
  by_cases hbytes : read.bytes = []
  · rw [if_pos hbytes]
    simp [hbytes]
  · rw [if_neg hbytes]
    simp [hbytes]

theorem putOut_cons (carry : List UInt8) (read : SourceRead) (rest : List SourceRead) :
    putOut unicode carry (read :: rest) =
      putOut unicode carry [read] ++ putOut unicode (carryAfter unicode carry [read]) rest := by
  unfold putOut carryAfter
  rw [chunks_cons, chunks_singleton]
  split
  · rfl
  · change _ = (_ ++ []) ++ _
    rw [List.append_nil]
    rfl

theorem carryAfter_cons (carry : List UInt8) (read : SourceRead) (rest : List SourceRead) :
    carryAfter unicode carry (read :: rest) =
      carryAfter unicode (carryAfter unicode carry [read]) rest := by
  unfold carryAfter kept
  rw [chunks_cons, List.foldl_append]

/-- The read after a first one and others fails as it does after the others alone, with the
carry that the first one leaves. -/
theorem fails_cons {carry : List UInt8} {first read : SourceRead} {before : List SourceRead} :
    Fails unicode carry (first :: before) read ↔
      Fails unicode (carryAfter unicode carry [first]) before read := by
  unfold Fails
  rw [carryAfter_cons]

theorem noneFails_cons {carry : List UInt8} {read : SourceRead} {rest : List SourceRead} :
    NoneFails unicode carry (read :: rest) ↔
      ¬ Fails unicode carry [] read ∧
        NoneFails unicode (carryAfter unicode carry [read]) rest := by
  constructor
  · intro hnone
    refine ⟨hnone [] read ⟨rest, rfl⟩, ?_⟩
    rintro before later ⟨after, hrest⟩ hfails
    refine hnone (read :: before) later ⟨after, ?_⟩ (fails_cons.mpr hfails)
    rw [← hrest]
    rfl
  · rintro ⟨hfirst, hnone⟩ before later ⟨after, hrest⟩ hfails
    cases before with
    | nil =>
        cases hrest
        exact hfirst hfails
    | cons first before =>
        cases hrest
        exact hnone before later ⟨after, rfl⟩ (fails_cons.mp hfails)

/-- What a first read puts out comes before the body of the rest. -/
theorem BodyFrom.cons {carry body : List UInt8} {read : SourceRead} {rest : List SourceRead}
    (hfirst : ¬ Fails unicode carry [] read)
    (hbody : BodyFrom unicode (carryAfter unicode carry [read]) rest false body) :
    BodyFrom unicode carry (read :: rest) false (putOut unicode carry [read] ++ body) := by
  cases hbody with
  | ended hnone =>
      rw [← List.append_assoc, ← putOut_cons, ← carryAfter_cons]
      exact .ended (noneFails_cons.mpr ⟨hfirst, hnone⟩)
  | failed hread hnone hfails =>
      rw [← List.append_assoc, ← putOut_cons]
      refine .failed ?_ (noneFails_cons.mpr ⟨hfirst, hnone⟩) (fails_cons.mpr hfails)
      rw [List.cons_append]
      exact List.cons_prefix_cons.mpr ⟨rfl, hread⟩

/-- Reads at the end of the source pass no chunk on. -/
theorem chunks_of_atEnd {reads : List SourceRead} (h : ∀ read ∈ reads, read = .atEnd) :
    chunks reads = [] := by
  unfold chunks
  rw [List.filter_eq_nil_iff]
  intro bytes hbytes
  rcases List.mem_map.mp hbytes with ⟨read, hread, rfl⟩
  rw [h read hread]
  decide

theorem noneFails_of_atEnd {carry : List UInt8} {reads : List SourceRead}
    (h : ∀ read ∈ reads, read = .atEnd) : NoneFails unicode carry reads := by
  rintro before read hread ⟨herr, -⟩
  rw [h read (hread.subset (List.mem_append_right before List.mem_cons_self))] at herr
  cases herr

/-- At the end of the source the body is what is put out for the carry. -/
theorem BodyFrom.of_atEnd {carry : List UInt8} {reads : List SourceRead}
    (h : ∀ read ∈ reads, read = .atEnd) :
    BodyFrom unicode carry reads false (process unicode carry [] true).1 := by
  have hended : BodyFrom unicode carry reads false _ := .ended (noneFails_of_atEnd h)
  unfold putOut carryAfter at hended
  rw [chunks_of_atEnd h] at hended
  exact hended

/-- The loop puts out the outputs of the redactor, in order and once; the induction is on the
reads. -/
theorem bodyFrom_loopBody {reads : List SourceRead} (carry : List UInt8)
    (hsticky : reads.Pairwise (fun read later => read.err = some .eof → later = .atEnd)) :
    BodyFrom unicode carry reads false (loopBody unicode carry reads) := by
  induction reads generalizing carry with
  | nil =>
      exact .of_atEnd (fun read hread => absurd hread List.not_mem_nil)
  | cons read rest ih =>
      rcases List.pairwise_cons.mp hsticky with ⟨hlater, hrest⟩
      rw [loopBody]
      by_cases hout : putOut unicode carry [read] = []
      · rw [if_pos hout]
        cases herr : read.err with
        | none =>
            have hreads : ¬ Fails unicode carry [] read :=
              fun hfails => by cases herr.symm.trans hfails.1
            have hcons := (ih (carryAfter unicode carry [read]) hrest).cons hreads
            rw [hout, List.nil_append] at hcons
            exact hcons
        | some err =>
            cases err with
            | eof =>
                -- nothing follows the end of the source, so all the chunks have been read
                have hend : ∀ later ∈ rest, later = .atEnd :=
                  fun later hmem => hlater later hmem herr
                have hbody : BodyFrom unicode (carryAfter unicode carry [read]) rest false _ :=
                  .of_atEnd hend
                have hcons := hbody.cons (fun hfails => by cases herr.symm.trans hfails.1)
                rw [hout, List.nil_append] at hcons
                exact hcons
            | failed =>
                have hfirst : [] ++ [read] <+: read :: rest := ⟨rest, rfl⟩
                exact .failed hfirst
                  (noneFails_of_atEnd (fun later hmem => absurd hmem List.not_mem_nil))
                  ⟨herr, hout⟩
      · rw [if_neg hout]
        exact (ih (carryAfter unicode carry [read]) hrest).cons (fun hfails => hout hfails.2)

/-! ## Reads -/

namespace RedactingReadCloser

/-- The body after its redactor has taken the bytes of a read. -/
def passed (unicode : GoUnicode) (r : RedactingReadCloser) (read : SourceRead) :
    RedactingReadCloser :=
  { r with
    redactor :=
      { carry := carryAfter unicode r.redactor.carry [read]
        failForTest := false } }

/-- What is left of the body. -/
def left (unicode : GoUnicode) (r : RedactingReadCloser) : List UInt8 :=
  r.pending ++
    if r.done then []
    else if r.redactor.failForTest then streamSafePlaceholder
    else loopBody unicode r.redactor.carry r.source

end RedactingReadCloser

/-- A read hands on the front of what is left: no more than the buffer takes, something if it
takes anything, and the end of the input only when nothing is left. -/
structure HandsOn (unicode : GoUnicode) (left : List UInt8) (size : Nat)
    (after : ReadResult × RedactingReadCloser) : Prop where
  conserves : after.1.bytes ++ after.2.left unicode = left
  fits : after.1.bytes.length ≤ size
  takes : 0 < size → after.1.eof = false → after.1.bytes ≠ []
  ended : after.1.eof = true →
    after.1.bytes = [] ∧ after.2.pending = [] ∧ after.2.done = true

theorem RedactingReadCloser.left_of_done {r : RedactingReadCloser} (h : r.done = true) :
    r.left unicode = r.pending := by
  unfold RedactingReadCloser.left
  rw [if_pos h, List.append_nil]

theorem RedactingReadCloser.left_of_forced {r : RedactingReadCloser} (hdone : r.done = false)
    (hforced : r.redactor.failForTest = true) :
    r.left unicode = r.pending ++ streamSafePlaceholder := by
  unfold RedactingReadCloser.left
  rw [hdone, if_neg Bool.false_ne_true, if_pos hforced]

theorem RedactingReadCloser.left_of_reading {r : RedactingReadCloser} (hdone : r.done = false)
    (hok : r.redactor.failForTest = false) :
    r.left unicode = r.pending ++ loopBody unicode r.redactor.carry r.source := by
  unfold RedactingReadCloser.left
  rw [hdone, hok, if_neg Bool.false_ne_true, if_neg Bool.false_ne_true]

theorem handsOn_drainPending {r : RedactingReadCloser} {left : List UInt8} (size : Nat)
    (hpending : r.pending ≠ []) (hleft : r.left unicode = left) :
    HandsOn unicode left size (r.drainPending size) where
  conserves := by
    rw [← hleft]
    change r.pending.take size ++ (r.pending.drop size ++ _) = r.pending ++ _
    rw [← List.append_assoc, List.take_append_drop]
    rfl
  fits := List.length_take_le size r.pending
  takes := by
    intro hsize _ hnil
    rcases List.take_eq_nil_iff.mp hnil with hzero | hempty
    · omega
    · exact hpending hempty
  ended := by
    intro heof
    cases heof

theorem handsOn_failClosed (r : RedactingReadCloser) (size : Nat) :
    HandsOn unicode streamSafePlaceholder size (r.failClosed.drainPending size) := by
  refine handsOn_drainPending size ?_ (RedactingReadCloser.left_of_done rfl)
  change streamSafePlaceholder ≠ []
  decide

theorem handsOn_end {r : RedactingReadCloser} (size : Nat) (hpending : r.pending = [])
    (hdone : r.done = true) : HandsOn unicode [] size (⟨[], true⟩, r) where
  conserves := by
    rw [RedactingReadCloser.left_of_done hdone, hpending]
    rfl
  fits := Nat.zero_le size
  takes := by
    intro _ heof
    cases heof
  ended := fun _ => ⟨rfl, hpending, hdone⟩

theorem handsOn_atEnd {r : RedactingReadCloser} (size : Nat) (hpending : r.pending = [])
    (hok : r.redactor.failForTest = false) :
    HandsOn unicode (process unicode r.redactor.carry [] true).1 size (r.atEnd unicode size) := by
  unfold RedactingReadCloser.atEnd StreamingRedactor.process
  rw [hok, if_neg Bool.false_ne_true]
  simp only
  split
  · rename_i hout
    rw [hout]
    exact handsOn_end size hpending rfl
  · rename_i hout
    exact handsOn_drainPending size hout (RedactingReadCloser.left_of_done rfl)

theorem handsOn_atEnd_forced {r : RedactingReadCloser} (size : Nat)
    (hforced : r.redactor.failForTest = true) :
    HandsOn unicode streamSafePlaceholder size (r.atEnd unicode size) := by
  unfold RedactingReadCloser.atEnd StreamingRedactor.process
  rw [if_pos hforced]
  exact handsOn_failClosed _ size

/-- What becomes of the bytes of a read, when the redactor does not fail. -/
theorem takeChunk_eq {r : RedactingReadCloser} (read : SourceRead)
    (hok : r.redactor.failForTest = false) :
    r.takeChunk unicode read.bytes =
      if putOut unicode r.redactor.carry [read] = [] then .inr (r.passed unicode read)
      else .inl { r.passed unicode read with
        pending := putOut unicode r.redactor.carry [read] } := by
  have hredactor : r.redactor = { carry := r.redactor.carry, failForTest := false } := by
    rw [← hok]
  unfold RedactingReadCloser.takeChunk RedactingReadCloser.passed putOut carryAfter
  rw [chunks_singleton]
  split
  · change Sum.inr r = Sum.inr { r with
      redactor := { carry := r.redactor.carry, failForTest := false } }
    rw [← hredactor]
  · change _ = if _ ++ [] = [] then _ else _
    unfold StreamingRedactor.process
    rw [hok, if_neg Bool.false_ne_true, List.append_nil]
    simp only [output, List.append_nil]
    rfl

/-- The loop hands on the front of what it puts out; the induction is on the reads left. -/
theorem handsOn_readLoop {r : RedactingReadCloser} (size : Nat) (reads : List SourceRead)
    (hpending : r.pending = []) (hdone : r.done = false)
    (hok : r.redactor.failForTest = false) :
    HandsOn unicode (loopBody unicode r.redactor.carry reads) size
      (RedactingReadCloser.readLoop unicode size r reads) := by
  induction reads generalizing r with
  | nil =>
      exact handsOn_atEnd (r := { r with source := [] }) size hpending hok
  | cons read rest ih =>
      rw [RedactingReadCloser.readLoop, loopBody]
      rw [takeChunk_eq (r := { r with source := rest }) read hok]
      by_cases hout : putOut unicode r.redactor.carry [read] = []
      · simp only [if_pos hout]
        cases read.err with
        | none => exact ih (r := { r with source := rest }.passed unicode read) hpending hdone rfl
        | some err =>
            cases err with
            | eof =>
                exact handsOn_atEnd (r := { r with source := rest }.passed unicode read) size
                  hpending rfl
            | failed => exact handsOn_failClosed _ size
      · simp only [if_neg hout]
        exact handsOn_drainPending size hout (RedactingReadCloser.left_of_reading hdone rfl)

/-- With a redactor that fails the loop hands on the placeholder. -/
theorem handsOn_readLoop_forced {r : RedactingReadCloser} (size : Nat) (reads : List SourceRead)
    (hforced : r.redactor.failForTest = true) :
    HandsOn unicode streamSafePlaceholder size
      (RedactingReadCloser.readLoop unicode size r reads) := by
  induction reads generalizing r with
  | nil => exact handsOn_atEnd_forced size hforced
  | cons read rest ih =>
      rw [RedactingReadCloser.readLoop]
      unfold RedactingReadCloser.takeChunk StreamingRedactor.process
      rw [if_pos hforced]
      by_cases hbytes : read.bytes = []
      · rw [if_pos hbytes]
        cases read.err with
        | none => exact ih hforced
        | some err =>
            cases err with
            | eof => exact handsOn_atEnd_forced size hforced
            | failed => exact handsOn_failClosed _ size
      · rw [if_neg hbytes]
        exact handsOn_failClosed _ size

/-- A read takes its bytes from the front of the body. -/
theorem handsOn_read (r : RedactingReadCloser) (size : Nat) :
    HandsOn unicode (r.left unicode) size (r.read unicode size) := by
  unfold RedactingReadCloser.read
  by_cases hpending : r.pending = []
  · have hempty : ¬ 0 < r.pending.length := by
      rw [hpending]
      exact Nat.lt_irrefl 0
    rw [if_neg hempty]
    cases hdone : r.done with
    | true =>
        rw [RedactingReadCloser.left_of_done hdone, hpending, if_pos rfl]
        exact handsOn_end size hpending hdone
    | false =>
        rw [if_neg Bool.false_ne_true]
        cases hflag : r.redactor.failForTest with
        | true =>
            rw [RedactingReadCloser.left_of_forced hdone hflag, hpending]
            exact handsOn_readLoop_forced size r.source hflag
        | false =>
            rw [RedactingReadCloser.left_of_reading hdone hflag, hpending]
            exact handsOn_readLoop size r.source hpending hdone hflag
  · rw [if_pos (List.length_pos_iff.mpr hpending)]
    exact handsOn_drainPending size hpending rfl

/-! ## Runs of reads -/

/-- After the end of the input there is nothing but the end. -/
theorem readAll_of_end {r : RedactingReadCloser} (hpending : r.pending = []) (hdone : r.done = true)
    {sizes : List Nat} {result : ReadResult} (h : result ∈ r.readAll unicode sizes) :
    result = ⟨[], true⟩ := by
  have hread (size : Nat) : r.read unicode size = (⟨[], true⟩, r) := by
    unfold RedactingReadCloser.read
    rw [hpending, hdone]
    rfl
  induction sizes with
  | nil => exact absurd h List.not_mem_nil
  | cons size sizes ih =>
      rw [RedactingReadCloser.readAll, hread] at h
      rcases List.mem_cons.mp h with hfirst | hlater
      · exact hfirst
      · exact ih hlater

/-- Every run of reads delivers what is left of the body; the induction is on the buffers. -/
theorem delivered_readAll (r : RedactingReadCloser) (sizes : List Nat) :
    Delivered (r.left unicode) sizes (r.readAll unicode sizes) := by
  induction sizes generalizing r with
  | nil =>
      refine ⟨.nil, List.nil_prefix, ?_, ?_⟩
      · intro before result after heq
        exact absurd heq (by simp [RedactingReadCloser.readAll])
      · intro hcount
        exact absurd hcount (Nat.not_lt_zero _)
  | cons size sizes ih =>
      have hhands : HandsOn unicode (r.left unicode) size _ := handsOn_read r size
      have hrest := ih (r.read unicode size).2
      rw [RedactingReadCloser.readAll]
      refine ⟨.cons hhands.fits hrest.fits, ?_, ?_, ?_⟩
      · rw [List.flatMap_cons, ← hhands.conserves]
        exact (List.prefix_append_right_inj _).mpr hrest.inOrder
      · intro before result after heq heof
        cases before with
        | nil =>
            cases heq
            rcases hhands.ended heof with ⟨hbytes, hpending, hdone⟩
            refine ⟨?_, hbytes, fun later hlater => readAll_of_end hpending hdone hlater⟩
            rw [← hhands.conserves, hbytes, RedactingReadCloser.left_of_done hdone, hpending]
            rfl
        | cons first before =>
            rw [List.cons_append] at heq
            injection heq with hfirst htail
            rcases hrest.ended before result after htail heof with ⟨hbody, hbytes, hafter⟩
            refine ⟨?_, hbytes, hafter⟩
            rw [List.flatMap_cons, hbody, ← hfirst]
            exact hhands.conserves
      · intro hcount
        cases heof : (r.read unicode size).1.eof with
        | true => exact ⟨_, List.mem_cons_self, heof⟩
        | false =>
            -- a read that does not end makes what is left shorter when its buffer takes a byte
            have hlength := congrArg List.length hhands.conserves
            rw [List.length_append] at hlength
            rw [List.countP_cons] at hcount
            have hshorter : ((r.read unicode size).2.left unicode).length <
                sizes.countP (0 < ·) := by
              by_cases hsize : 0 < size
              · have htakes := List.length_pos_iff.mpr (hhands.takes hsize heof)
                rw [if_pos (decide_eq_true hsize)] at hcount
                omega
              · rw [if_neg (by simpa using hsize)] at hcount
                omega
            rcases hrest.ends hshorter with ⟨result, hmem, hresult⟩
            exact ⟨result, List.mem_cons_of_mem _ hmem, hresult⟩

/-! ## A source no part of which matches -/

theorem flatten_chunks (reads : List SourceRead) : (chunks reads).flatten = sourceBytes reads := by
  induction reads with
  | nil => rfl
  | cons read rest ih =>
      rw [chunks_cons, chunks_singleton, List.flatten_append, ih]
      unfold sourceBytes
      rw [List.flatMap_cons]
      split
      · rename_i hbytes
        rw [hbytes]
        rfl
      · rw [List.flatten_singleton]

/-- The calls on bytes no part of which matches put out the bytes; the induction is on the
chunks. -/
theorem output_of_noPartMatches {carry : List UInt8} {pieces : List (List UInt8)}
    (h : NoPartMatches (carry ++ pieces.flatten)) :
    output (fun carry chunk => process unicode carry chunk false)
        (fun carry => (process unicode carry [] true).1) carry pieces =
      carry ++ pieces.flatten := by
  induction pieces generalizing carry with
  | nil =>
      rw [output, process_final, List.append_nil]
      rw [redactBytes_of_unmatched]
      · simp
      · exact h carry (List.prefix_append carry _).isInfix
  | cons piece rest ih =>
      rw [List.flatten_cons, ← List.append_assoc] at h
      have hnow : redactBytes unicode (carry ++ piece) = carry ++ piece :=
        redactBytes_of_unmatched (h _ (List.prefix_append _ _).isInfix)
      rw [output, process_eq, hnow]
      simp only
      have hsplit := List.take_append_drop
        (safeFlushLength (carry ++ piece) defaultCarryBytes) (carry ++ piece)
      rw [ih, ← List.append_assoc, hsplit, List.flatten_cons, List.append_assoc]
      intro part hpart
      have hkept : (carry ++ piece).drop (safeFlushLength (carry ++ piece) defaultCarryBytes) ++
          rest.flatten <:+ carry ++ piece ++ rest.flatten :=
        ⟨_, by rw [← List.append_assoc, hsplit]⟩
      exact h part (hpart.trans hkept.isInfix)

theorem putOut_append_final (carry : List UInt8) (reads : List SourceRead) :
    putOut unicode carry reads ++ (process unicode (carryAfter unicode carry reads) [] true).1 =
      output (fun carry chunk => process unicode carry chunk false)
        (fun carry => (process unicode carry [] true).1) carry (chunks reads) := by
  symm
  exact output_eq_append carry (chunks reads)

/-- Every run of reads delivers the outputs of the redactor, in order and once, and then the
end of the input; where no part of the source matches and no read fails they are the bytes of
the source. -/
theorem read_delivers (unicode : GoUnicode) (source : Source) (failForTest : Bool) :
    ∃ body, BodyFrom unicode [] source.reads failForTest body ∧
      (∀ sizes, Delivered body sizes
        ((newRedactingReadCloser source failForTest).readAll unicode sizes)) ∧
      (failForTest = false → NoneFails unicode [] source.reads →
        NoPartMatches (sourceBytes source.reads) → body = sourceBytes source.reads) := by
  refine ⟨(newRedactingReadCloser source failForTest).left unicode, ?_,
    delivered_readAll (newRedactingReadCloser source failForTest), ?_⟩
  · cases failForTest with
    | true => exact .forced
    | false => exact bodyFrom_loopBody [] source.sticky
  · intro hok hnone hclean
    subst hok
    have hbody : BodyFrom unicode [] source.reads false
        ((newRedactingReadCloser source false).left unicode) :=
      bodyFrom_loopBody [] source.sticky
    generalize (newRedactingReadCloser source false).left unicode = body at hbody
    cases hbody with
    | ended _ =>
        rw [putOut_append_final]
        rw [← flatten_chunks] at hclean ⊢
        exact output_of_noPartMatches hclean
    | failed hread _ hfails => exact absurd hfails (hnone _ _ hread)

end

end AuthClaw.Redaction
