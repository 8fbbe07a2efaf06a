import AuthClaw.Library.Streaming
import AuthClaw.Redaction.Fixpoint

/-!
# The gateway's streaming redactor

{lit}`Process` redacts a stream chunk by chunk.  It redacts what it has carried with
the new chunk, puts out a prefix and carries the rest, already redacted.  Does the
stream come out as the whole input would?

A chunk is redacted as if the input ended with it: a match that would go on, or that
needs a word to end, is replaced too early, and a cut may fall into a match.

Main results:

- Theorem {lit}`encode_decode`: a scanned string spells its bytes.
- Theorem {lit}`redactText_append`: two texts in which the patterns find what they find
  in the whole are redacted apart.
- Theorem {lit}`stream_eq_redactBytes`: a stream comes out as the whole input when each
  call has a cut that no match crosses.
- Theorem {lit}`stream_differs`: a key that goes on in the next chunk.
-/

namespace AuthClaw.Redaction

open Regex CharClass Streaming

/-! ## Strings of bytes -/

/-- The bytes of a rune. -/
def Rune.bytes : Rune → List UInt8
  | .char c => String.utf8EncodeChar c
  | .invalid b => [b]

/-- The bytes of a scanned string. -/
def encode (text : List Rune) : List UInt8 :=
  text.flatMap Rune.bytes

/-- The low bits of a continuation byte. -/
def continuation (bytes : List UInt8) (i : Nat) : Nat :=
  (bytes.getD i 0).toNat % 64

/-- The character that a leading byte announces. -/
def announced (b : UInt8) (rest : List UInt8) : Char :=
  let n := b.toNat
  Char.ofNat
    (if n < 0x80 then n
      else if n < 0xe0 then n % 0x20 * 64 + continuation rest 0
      else if n < 0xf0 then n % 0x10 * 4096 + continuation rest 0 * 64 + continuation rest 1
      else n % 0x08 * 262144 + continuation rest 0 * 4096 + continuation rest 1 * 64 +
        continuation rest 2)

/-- `utf8.DecodeRuneInString`: the first rune, which is the first byte alone where the
bytes are not the encoding of a character. -/
def decodeRune (b : UInt8) (rest : List UInt8) : Rune :=
  let c := announced b rest
  if (String.utf8EncodeChar c).isPrefixOf (b :: rest) then .char c else .invalid b

/-- The scan of at most `n` runes. -/
def decodeFrom : Nat → List UInt8 → List Rune
  | 0, _ => []
  | _ + 1, [] => []
  | n + 1, b :: rest =>
      decodeRune b rest :: decodeFrom n ((b :: rest).drop (decodeRune b rest).bytes.length)

/-- The runes of a string. -/
def decode (bytes : List UInt8) : List Rune :=
  decodeFrom bytes.length bytes

theorem decodeRune_prefix (b : UInt8) (rest : List UInt8) :
    (decodeRune b rest).bytes <+: b :: rest := by
  unfold decodeRune
  simp only
  split
  · rename_i hbegins
    exact List.isPrefixOf_iff_prefix.mp hbegins
  · exact ⟨rest, rfl⟩

theorem one_le_length_bytes (r : Rune) : 1 ≤ r.bytes.length := by
  cases r with
  | char c =>
      change 1 ≤ (String.utf8EncodeChar c).length
      rw [String.length_utf8EncodeChar]
      exact c.utf8Size_pos
  | invalid b => exact le_refl 1

theorem encode_decodeFrom {n : Nat} {bytes : List UInt8} (h : bytes.length ≤ n) :
    encode (decodeFrom n bytes) = bytes := by
  induction n generalizing bytes with
  | zero =>
      rw [List.eq_nil_of_length_eq_zero (Nat.le_zero.mp h)]
      rfl
  | succ n ih =>
      cases bytes with
      | nil => rfl
      | cons b rest =>
          rcases decodeRune_prefix b rest with ⟨later, hsplit⟩
          have hpos := one_le_length_bytes (decodeRune b rest)
          have hlater : (b :: rest).drop (decodeRune b rest).bytes.length = later := by
            rw [← hsplit, List.drop_left]
          change (decodeRune b rest).bytes ++ encode (decodeFrom n _) = b :: rest
          rw [hlater, ih, hsplit]
          have hlength := congrArg List.length hsplit
          rw [List.length_append] at hlength
          omega

/-- A scanned string spells its bytes. -/
theorem encode_decode (bytes : List UInt8) : encode (decode bytes) = bytes :=
  encode_decodeFrom (le_refl _)

theorem encode_append (left right : List Rune) :
    encode (left ++ right) = encode left ++ encode right :=
  List.flatMap_append

/-! ## The streaming redactor -/

/-- `defaultCarryBytes` -/
def defaultCarryBytes : Nat := 2048

/-- `strings.LastIndex` -/
def lastIndex (value needle : List UInt8) : Option Nat :=
  (List.range (value.length + 1)).reverse.find? (fun i => needle.isPrefixOf (value.drop i))

/-- `"\n\n"` -/
def blankLine : List UInt8 := [10, 10]

/-- `"\n"` -/
def newline : List UInt8 := [10]

/-- `safeFlushLength` -/
def safeFlushLength (value : List UInt8) (carryBytes : Nat) : Nat :=
  if value.length ≤ carryBytes then
    match lastIndex value blankLine with
    | some i => i + 2
    | none => 0
  else
    let flushLen := value.length - carryBytes
    match lastIndex (value.take flushLen) blankLine with
    | some i => i + 2
    | none =>
        match lastIndex (value.take flushLen) newline with
        | some i => i + 1
        | none => flushLen

section

variable (unicode : GoUnicode)

/-- `redactText` on the bytes of a string. -/
def redactBytes (input : List UInt8) : List UInt8 :=
  encode (redactText unicode (decode input))

/-- `Process`: what is put out, and the carry. -/
def process (carry chunk : List UInt8) (final : Bool) : List UInt8 × List UInt8 :=
  let combined := carry ++ chunk
  if combined = [] then ([], carry)
  else
    let redacted := redactBytes unicode combined
    if final then (redacted, [])
    else
      let flushLen := safeFlushLength redacted defaultCarryBytes
      if flushLen ≤ 0 then ([], redacted)
      else (redacted.take flushLen, redacted.drop flushLen)

/-- What the calls on a stream put out, the last call on `final`. -/
def streamOutput (chunks : List (List UInt8)) (final : List UInt8) : List UInt8 :=
  output (fun carry chunk => process unicode carry chunk false)
    (fun carry => (process unicode carry final true).1) [] chunks

/-! ## Matches on two sides of a cut -/

/-- What a pattern finds in its turn. -/
def turnTokens (input text : List Rune) (trigger : Trigger) : List (Token Rune) :=
  if mayMatch unicode input trigger then tokens goAccepts trigger.re text
  else text.map .skip

/-- Each pattern finds in the two texts what it finds in the two together. -/
def MatchesApart (left right : List Rune) : Prop :=
  ∀ trigger ∈ triggers,
    turnTokens unicode (left ++ right)
        (textAfter unicode trigger.before left ++ textAfter unicode trigger.before right) trigger =
      turnTokens unicode left (textAfter unicode trigger.before left) trigger ++
        turnTokens unicode right (textAfter unicode trigger.before right) trigger

/-- No rune and no match crosses the cut between the two strings. -/
structure CutBetween (left right : List UInt8) : Prop where
  runesApart : decode (left ++ right) = decode left ++ decode right
  matchesApart : MatchesApart unicode (decode left) (decode right)

/-- No pattern matches in the string. -/
def Unmatched (bytes : List UInt8) : Prop :=
  ∀ trigger ∈ triggers, ¬ Occurs goAccepts trigger.re (decode bytes)

instance (left right : List Rune) : Decidable (MatchesApart unicode left right) :=
  inferInstanceAs (Decidable (∀ trigger ∈ triggers, _))

instance (left right : List UInt8) : Decidable (CutBetween unicode left right) :=
  decidable_of_iff
    (decode (left ++ right) = decode left ++ decode right ∧
      MatchesApart unicode (decode left) (decode right))
    ⟨fun h => ⟨h.1, h.2⟩, fun h => ⟨h.runesApart, h.matchesApart⟩⟩

instance (bytes : List UInt8) : Decidable (Unmatched bytes) :=
  inferInstanceAs (Decidable (∀ trigger ∈ triggers, _))

/-- The pending string can be cut where no match crosses, now or with what is coming:
nothing matches yet after the cut, nothing after the cut is put out, and what is
carried of the part before the cut does not match again. -/
def SafeCall (pending coming : List UInt8) : Prop :=
  ∃ settled waiting, pending = settled ++ waiting ∧
    CutBetween unicode settled waiting ∧ CutBetween unicode settled (waiting ++ coming) ∧
    Unmatched waiting ∧
    safeFlushLength (redactBytes unicode settled ++ waiting) defaultCarryBytes ≤
      (redactBytes unicode settled).length ∧
    let carried := (redactBytes unicode settled).drop
      (safeFlushLength (redactBytes unicode settled ++ waiting) defaultCarryBytes)
    Unmatched carried ∧ CutBetween unicode carried (waiting ++ coming)

/-- Every call but the last is safe. -/
def SafeStream (chunks : List (List UInt8)) (final : List UInt8) : Prop :=
  Throughout id (fun carry chunk => process unicode carry chunk false)
    (fun carry chunk coming => SafeCall unicode (carry ++ chunk) (coming ++ final)) [] chunks

variable {unicode}

theorem filteredPass_eq_withPlaceholder (input text : List Rune) (trigger : Trigger) :
    filteredPass unicode input text trigger =
      withPlaceholder (runes trigger.replacement) (turnTokens unicode input text trigger) := by
  unfold filteredPass turnTokens
  split
  · rfl
  · induction text with
    | nil => rfl
    | cons r text ih => exact congrArg (r :: ·) ih

theorem withPlaceholder_append {placeholder : List Rune} (toks toks' : List (Token Rune)) :
    withPlaceholder placeholder (toks ++ toks') =
      withPlaceholder placeholder toks ++ withPlaceholder placeholder toks' :=
  List.flatMap_append

/-- Two texts in which the patterns find what they find in the whole are redacted apart;
the induction is on the patterns that have had their turn. -/
theorem textAfter_of_matchesApart {left right : List Rune}
    (h : MatchesApart unicode left right) {done : List Trigger} (hdone : done <+: triggers) :
    textAfter unicode done (left ++ right) =
      textAfter unicode done left ++ textAfter unicode done right := by
  induction done using List.reverseRecOn with
  | nil => rfl
  | append_singleton done trigger ih =>
      have hbefore := subset_before hdone
      have hapart := h trigger (mem_triggers trigger)
      rw [← hbefore] at hapart
      rw [textAfter_append, textAfter_append, textAfter_append,
        ih ((List.prefix_append done [trigger]).trans hdone), filteredPass_eq_withPlaceholder,
        filteredPass_eq_withPlaceholder, filteredPass_eq_withPlaceholder, hapart,
        withPlaceholder_append]

theorem redactText_append {left right : List Rune} (h : MatchesApart unicode left right) :
    redactText unicode (left ++ right) = redactText unicode left ++ redactText unicode right :=
  textAfter_of_matchesApart h (List.prefix_refl triggers)

theorem redactBytes_append {left right : List UInt8} (h : CutBetween unicode left right) :
    redactBytes unicode (left ++ right) =
      redactBytes unicode left ++ redactBytes unicode right := by
  unfold redactBytes
  rw [h.runesApart, redactText_append h.matchesApart, encode_append]

theorem redactBytes_of_unmatched {bytes : List UInt8} (h : Unmatched bytes) :
    redactBytes unicode bytes = bytes := by
  unfold redactBytes
  rw [redactText_of_none_occurs (fun trigger => h trigger (mem_triggers trigger)), encode_decode]

/-! ## The stream -/

theorem redactBytes_nil : redactBytes unicode [] = [] := by
  apply redactBytes_of_unmatched
  unfold Unmatched
  decide +kernel

/-- What a call that is not the last puts out, and the carry. -/
theorem process_eq (carry chunk : List UInt8) :
    process unicode carry chunk false =
      let redacted := redactBytes unicode (carry ++ chunk)
      let flushLen := safeFlushLength redacted defaultCarryBytes
      (redacted.take flushLen, redacted.drop flushLen) := by
  unfold process
  simp only
  split
  · rename_i hempty
    rw [hempty, redactBytes_nil, List.take_nil, List.drop_nil,
      (List.append_eq_nil_iff.mp hempty).1]
  · rw [if_neg Bool.false_ne_true]
    split
    · rename_i hflush
      rw [Nat.le_zero.mp hflush]
      rfl
    · rfl

theorem process_final (carry chunk : List UInt8) :
    (process unicode carry chunk true).1 = redactBytes unicode (carry ++ chunk) := by
  unfold process
  simp only
  split
  · rename_i hempty
    rw [hempty, redactBytes_nil]
  · rfl

/-- A safe call is faithful to the redaction of the whole input. -/
theorem faithful_of_safeCall {carry chunk coming final : List UInt8}
    (h : SafeCall unicode (carry ++ chunk) (coming ++ final)) :
    Faithful id (fun carry chunk => process unicode carry chunk false)
      (fun text => redactBytes unicode (text ++ final)) carry chunk coming := by
  rcases h with ⟨settled, waiting, hpending, hnow, hlater, hwaiting, hflush, hcarried, hcut⟩
  have hredacted : redactBytes unicode (carry ++ chunk) =
      redactBytes unicode settled ++ waiting := by
    rw [hpending, redactBytes_append hnow, redactBytes_of_unmatched hwaiting]
  unfold Faithful
  simp only [process_eq, hredacted, id]
  rw [List.take_append_of_le_length hflush, List.drop_append_of_le_length hflush, hpending]
  have hfaithful := faithful_of_cut (redactBytes_append hlater)
    (List.take_append_drop _ (redactBytes unicode settled)).symm
    ((redactBytes_append hcut).trans (by rw [redactBytes_of_unmatched hcarried]))
  simpa only [List.append_assoc] using hfaithful

/-- A stream comes out as the whole input when every call but the last is safe. -/
theorem stream_eq_redactBytes (unicode : GoUnicode) (chunks : List (List UInt8))
    (final : List UInt8) (h : SafeStream unicode chunks final) :
    streamOutput unicode chunks final = redactBytes unicode (chunks.flatten ++ final) := by
  have hrun := output_eq (fun carry => process_final carry final)
    (h.imp (fun _ _ _ hsafe => faithful_of_safeCall hsafe))
  have hchunks : arriving id chunks = chunks.flatten := by
    unfold arriving
    rw [List.flatMap_id]
  rw [List.nil_append, hchunks] at hrun
  exact hrun

end

/-! ## A key in two chunks -/

/-- A key that has not begun to match is carried until the rest arrives. -/
theorem split_key_redacted :
    streamOutput plainUnicode [encode (runes "partial key sk-123456")]
        (encode (runes "7890abcdefABCDEF after")) =
      redactBytes plainUnicode ([encode (runes "partial key sk-123456")].flatten ++
        encode (runes "7890abcdefABCDEF after")) := by
  apply stream_eq_redactBytes
  refine ⟨⟨encode (runes "partial key "), encode (runes "sk-123456"), ?_⟩, trivial⟩
  decide +kernel

/-- A key of sixteen characters is replaced before the rest of it arrives. -/
theorem stream_differs :
    ¬ ∀ (unicode : GoUnicode) (chunks : List (List UInt8)) (final : List UInt8),
      streamOutput unicode chunks final = redactBytes unicode (chunks.flatten ++ final) := by
  intro h
  have hdiffer : streamOutput plainUnicode [encode (runes "sk-1234567890abcdef")]
        (encode (runes "GHIJ")) ≠
      redactBytes plainUnicode ([encode (runes "sk-1234567890abcdef")].flatten ++
        encode (runes "GHIJ")) := by
    decide +kernel
  exact hdiffer (h plainUnicode _ _)

end AuthClaw.Redaction
