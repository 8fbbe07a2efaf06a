import AuthClaw.Library.EventStream
import AuthClaw.Library.JsonLines

/-!
# Completions as a stream

The stream {lit}`main.py` answers a chat completion with, in chunks of the content, and its reader
{lit}`stream_chat_completion` of the Python client.

Main results:

- Theorem {lit}`flatten_streamTextChunks`: the chunks are the content.
- Theorem {lit}`streamChatCompletion_stream`: the client yields the chunks that were sent, and
  their deltas are the content.
-/

namespace AuthClaw.Gateway

open EventStream JsonReader PythonText

/-! ## The server -/

/-- `_stream_text_chunks`. -/
def streamTextChunks (text : List Char) (chunkSize : Nat) : List (List Char) :=
  (List.range ((text.length + chunkSize - 1) / chunkSize)).map
    (fun i => (text.drop (i * chunkSize)).take chunkSize)

/-- What the chunks of a completion have in common. -/
structure Completion where
  id : String
  created : Int
  model : String
  requestId : String
  tenantId : Int

/-- The payload of a chunk. -/
def Completion.chunk (c : Completion) (trace : List (String × Json)) (delta : List (String × Json))
    (finishReason : Json) : Json :=
  .obj ([("id", .str c.id), ("object", .str "chat.completion.chunk"), ("created", .int c.created),
    ("model", .str c.model), ("request_id", .str c.requestId), ("tenant_id", .int c.tenantId)] ++
    (trace ++ [("choices", .arr [.obj [("index", .int 0), ("delta", .obj delta),
      ("finish_reason", finishReason)]])]))

/-- The payloads of a stream. -/
def Completion.payloads (c : Completion) (content : String) (trace : List Json) : List Json :=
  c.chunk [] [("role", .str "assistant")] .null ::
    ((streamTextChunks content.toList 80).map (fun chunk =>
      c.chunk [] [("content", .str (String.ofList chunk))] .null) ++
    [c.chunk [("trace", .arr trace)] [] (.str "stop")])

/-- `sse`. -/
def sse (payload : Json) : List Char :=
  event "data:".toList (dumps payload)

/-- `_openai_completion_stream`. -/
def openaiCompletionStream (c : Completion) (content : String) (trace : List Json) : List Char :=
  (c.payloads content trace).flatMap sse ++ "data: [DONE]\n\n".toList

/-! ## The client -/

/-- The loop of `stream_chat_completion` over the lines of a response. -/
def streamChatCompletion (py : PyText) (float : String → String × Bool) (response : List Char) :
    List Json × StreamEnd :=
  readEvents py.isSpace "data:".toList "[DONE]".toList (loads float) (lines response)

/-- `payload[key]`. -/
def Json.member (key : String) : Json → Option Json
  | .obj members => getKey members key
  | _ => none

/-- `chunk["choices"][0]["delta"].get("content", "")`. -/
def deltaContent (chunk : Json) : List Char :=
  match Json.member "choices" chunk with
  | some (.arr (choice :: _)) =>
      match (Json.member "delta" choice).bind (Json.member "content") with
      | some (.str text) => text.toList
      | _ => []
  | _ => []

/-! ## The round trip -/

section

variable {text : List Char} {chunkSize : Nat}

/-- Each chunk is part of the text and not too long. -/
theorem length_of_mem_streamTextChunks {chunk : List Char}
    (h : chunk ∈ streamTextChunks text chunkSize) : chunk.length ≤ chunkSize := by
  rcases List.mem_map.mp h with ⟨i, -, rfl⟩
  rw [List.length_take]
  exact Nat.min_le_left _ _

theorem flatten_chunks (text : List Char) (chunkSize n : Nat) :
    ((List.range n).map (fun i => (text.drop (i * chunkSize)).take chunkSize)).flatten =
      text.take (n * chunkSize) := by
  induction n with
  | zero => simp
  | succ n ih =>
      rw [List.range_succ, List.map_append, List.flatten_append, ih, List.map_singleton,
        List.flatten_singleton, Nat.succ_mul, List.take_add]

/-- The chunks are the text. -/
theorem flatten_streamTextChunks (h : 0 < chunkSize) :
    (streamTextChunks text chunkSize).flatten = text := by
  unfold streamTextChunks
  rw [flatten_chunks]
  refine List.take_of_length_le ?_
  have hdiv := Nat.lt_div_mul_add h (a := text.length + chunkSize - 1)
  have := Nat.div_add_mod (text.length + chunkSize - 1) chunkSize
  have hmod := Nat.mod_lt (text.length + chunkSize - 1) h
  rw [Nat.mul_comm] at this
  omega

end

section

variable {float : String → String × Bool} {py : PyText} {c : Completion} {members : List (String × Json)}

theorem isSpace_of_printable {c : Char} (h : printable c = true) (hc : c ≠ ' ') :
    py.isSpace c = false := by
  unfold printable at h
  rw [Bool.and_eq_true, decide_eq_true_iff, decide_eq_true_iff] at h
  rw [py.isSpace_ascii c (by omega)]
  have hne : c.toNat ≠ 32 := fun heq => hc (Char.toNat_inj.mp heq)
  unfold asciiSpace
  rw [Bool.or_eq_false_iff, Bool.or_eq_false_iff]
  refine ⟨⟨beq_eq_false_iff_ne.mpr hc, ?_⟩, ?_⟩ <;>
    rw [Bool.and_eq_false_iff, decide_eq_false_iff_not, decide_eq_false_iff_not] <;> omega

/-- The text of an object is an event. -/
theorem tight_dumps_obj (h : IsJson float (.obj members)) :
    Tight py.isSpace (dumps (.obj members)) where
  head := by
    intro c hc
    rw [head?_dumps_obj] at hc
    cases hc
    exact isSpace_of_printable (by decide) (by decide)
  last := by
    intro c hc
    rw [getLast?_dumps_obj] at hc
    cases hc
    exact isSpace_of_printable (by decide) (by decide)
  line := by
    intro hmem
    exact absurd (printable_dumps h '\n' hmem) (by decide)

theorem dumps_obj_ne (h : text.head? ≠ some '{') : dumps (.obj members) ≠ text := by
  intro heq
  exact h (heq ▸ head?_dumps_obj members)

/-- A chunk is a value of JSON. -/
theorem isJson_chunk {trace delta : List (String × Json)} {finishReason : Json}
    (htrace : trace = [] ∨ ∃ items, trace = [("trace", .arr items)] ∧
      ∀ item ∈ items, IsJson float item)
    (hdelta : IsJson float (.obj delta)) (hfinish : IsJson float finishReason) :
    IsJson float (c.chunk trace delta finishReason) := by
  have hchoices : IsJson float (.arr [.obj [("index", .int 0), ("delta", .obj delta),
      ("finish_reason", finishReason)]]) := by
    refine .arr (List.forall_mem_singleton.mpr (.obj ?_ ?_))
    · show ["index", "delta", "finish_reason"].Nodup
      decide
    · simp only [List.forall_mem_cons]
      exact ⟨.int 0, hdelta, hfinish, fun _ hm => nomatch hm⟩
  unfold Completion.chunk
  rcases htrace with rfl | ⟨items, rfl, hitems⟩
  · refine .obj ?_ ?_
    · show ["id", "object", "created", "model", "request_id", "tenant_id", "choices"].Nodup
      decide
    · simp only [List.cons_append, List.nil_append, List.forall_mem_cons]
      exact ⟨.str _, .str _, .int _, .str _, .str _, .int _, hchoices, fun _ hm => nomatch hm⟩
  · refine .obj ?_ ?_
    · show ["id", "object", "created", "model", "request_id", "tenant_id", "trace",
        "choices"].Nodup
      decide
    · simp only [List.cons_append, List.nil_append, List.forall_mem_cons]
      exact ⟨.str _, .str _, .int _, .str _, .str _, .int _, .arr hitems, hchoices,
        fun _ hm => nomatch hm⟩

/-- The payloads of a stream are values of JSON. -/
theorem isJson_payloads {content : String} {trace : List Json}
    (htrace : ∀ item ∈ trace, IsJson float item) :
    ∀ payload ∈ c.payloads content trace, ∃ members, payload = .obj members ∧
      IsJson float payload := by
  have hdelta : ∀ (key : String) (text : String), IsJson float (.obj [(key, .str text)]) :=
    fun key text => .obj (List.nodup_singleton key) (List.forall_mem_singleton.mpr (.str text))
  intro payload hpayload
  rcases List.mem_cons.mp hpayload with rfl | hpayload
  · exact ⟨_, rfl, isJson_chunk (Or.inl rfl) (hdelta _ _) .null⟩
  · rcases List.mem_append.mp hpayload with hpayload | hpayload
    · rcases List.mem_map.mp hpayload with ⟨text, -, rfl⟩
      exact ⟨_, rfl, isJson_chunk (Or.inl rfl) (hdelta _ _) .null⟩
    · rw [List.mem_singleton.mp hpayload]
      exact ⟨_, rfl, isJson_chunk (Or.inr ⟨trace, rfl, htrace⟩)
        (.obj List.nodup_nil (fun _ hm => nomatch hm)) (.str "stop")⟩

/-- The deltas of a stream are the content. -/
theorem deltaContent_payloads (content : String) (trace : List Json) :
    (c.payloads content trace).flatMap deltaContent = content.toList := by
  have hchunks : ∀ chunks : List (List Char), (chunks.map (fun chunk =>
      c.chunk [] [("content", .str (String.ofList chunk))] .null)).flatMap deltaContent =
        chunks.flatten := by
    intro chunks
    induction chunks with
    | nil => rfl
    | cons chunk chunks ih =>
        rw [List.map_cons, List.flatMap_cons, ih, List.flatten_cons]
        exact congrArg (fun text => text ++ chunks.flatten) String.toList_ofList
  unfold Completion.payloads
  rw [List.flatMap_cons, List.flatMap_append, hchunks, flatten_streamTextChunks (by decide)]
  exact List.append_nil _

end

/-- The client yields the payloads of a stream as they were sent, whatever follows the stream; no
delta is longer than a chunk, and together they are the content. -/
theorem streamChatCompletion_stream (py : PyText) {float : String → String × Bool} (c : Completion)
    (content : String) {trace : List Json} (htrace : ∀ item ∈ trace, IsJson float item)
    (rest : List Char) :
    ∃ chunks, streamChatCompletion py float (openaiCompletionStream c content trace ++ rest) =
        (chunks, .finished) ∧
      chunks = c.payloads content trace ∧ chunks.flatMap deltaContent = content.toList ∧
      ∀ chunk ∈ chunks, (deltaContent chunk).length ≤ 80 := by
  refine ⟨c.payloads content trace, ?_, rfl, deltaContent_payloads content trace, ?_⟩
  · have hspace : py.isSpace ' ' = true := py.isSpace_ascii ' ' (by decide)
    have hnewline : py.isSpace '\n' = true := py.isSpace_ascii '\n' (by decide)
    have htight : ∀ text : List Char, text.all printable = true → ' ' ∉ text →
        Tight py.isSpace text := by
      intro text hprintable hblank
      have hspaces : ∀ d ∈ text, py.isSpace d = false := fun d hd =>
        isSpace_of_printable (List.all_eq_true.mp hprintable d hd) (fun heq => hblank (heq ▸ hd))
      refine ⟨fun d hd => hspaces d (List.mem_of_head? hd),
        fun d hd => hspaces d (List.mem_of_getLast? hd), ?_⟩
      intro hmem
      exact absurd (List.all_eq_true.mp hprintable _ hmem) (by decide)
    have hstream := @readEvents_stream _ py.isSpace "data:".toList "[DONE]".toList (loads float)
      ((c.payloads content trace).map (fun payload => (dumps payload, payload))) hspace hnewline
      (by decide) (htight _ (by decide) (by decide)) (by decide)
      (htight _ (by decide) (by decide)) ?_ rest
    · rw [List.flatMap_map, List.map_map] at hstream
      unfold streamChatCompletion openaiCompletionStream
      rw [List.append_assoc]
      exact hstream.trans (congrArg (fun chunks => (chunks, StreamEnd.finished)) (List.map_id _))
    · intro e he
      rcases List.mem_map.mp he with ⟨payload, hpayload, rfl⟩
      rcases isJson_payloads htrace payload hpayload with ⟨members, rfl, hjson⟩
      exact ⟨dumps_obj_ne (by decide), dumps_obj_ne (by decide), tight_dumps_obj hjson,
        loads_dumps hjson⟩
  · intro chunk hchunk
    rcases List.mem_cons.mp hchunk with rfl | hchunk
    · exact Nat.zero_le _
    · rcases List.mem_append.mp hchunk with hchunk | hchunk
      · rcases List.mem_map.mp hchunk with ⟨text, htext, rfl⟩
        show (String.ofList text).toList.length ≤ 80
        rw [String.toList_ofList]
        exact length_of_mem_streamTextChunks htext
      · rw [List.mem_singleton.mp hchunk]
        exact Nat.zero_le _

theorem streamChatCompletion_example :
    ∃ chunks, streamChatCompletion asciiText (fun text => (text, false))
        (openaiCompletionStream ⟨"chatcmpl-1", 1700000000, "authclaw-gateway", "req-1", 7⟩ "Hello" []
          ++ []) = (chunks, .finished) ∧ chunks.flatMap deltaContent = "Hello".toList := by
  rcases @streamChatCompletion_stream asciiText (fun text => (text, false))
    ⟨"chatcmpl-1", 1700000000, "authclaw-gateway", "req-1", 7⟩ "Hello" []
    (fun _ hitem => nomatch hitem) [] with ⟨chunks, hread, -, hcontent, -⟩
  exact ⟨chunks, hread, hcontent⟩

end AuthClaw.Gateway
