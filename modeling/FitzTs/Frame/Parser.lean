import FitzTs.Frame.Codec
/-!
# FitzTs.Frame.Parser

`createFrameParser` of `frame/codec.ts`: messages out of the chunks of a transport.

The parser keeps what it has received of the current message. A chunk may be a part of a message,
but not of two. `expected` says what the chunks of a message yield (nothing, and the frame with the
chunk that brings the last byte), and `feed_message` that the parser yields it, however the message
is split and however the limit changes meanwhile.
-/

namespace FitzTs.FrameCodec

open BigEndian ArrayBuffer

/-- The variables of `createFrameParser`. -/
structure FrameParser where
  buffer : Bytes := []
  maxMessageBytes : Nat := defaultMaxMessageBytes

/-- `PendingFrameInfo["state"]`. -/
inductive PendingState
  | type
  | length
  | payload
  deriving DecidableEq, Repr

structure PendingFrameInfo where
  hasPending : Bool
  bufferedBytes : Nat
  state : PendingState
  messageType : Option Nat := none
  payloadLength : Option Nat := none
  payloadBytesRead : Option Nat := none
  payloadBytesRemaining : Option Nat := none
  deriving DecidableEq, Repr

namespace FrameParser

def limitError (p : FrameParser) : CodecError :=
  ⟨s!"Message exceeds negotiated limit of {p.maxMessageBytes} bytes"⟩

/-- `parseFrames`, behind the copy of the chunk to the buffer. -/
def parseBuffer (p : FrameParser) : Except CodecError (List Frame) × FrameParser :=
  if p.buffer.length < headerLength then (.ok [], p)
  else
    let payloadLength := getUint p.buffer 11 4
    let frameLength := headerLength + payloadLength
    if frameLength > p.maxMessageBytes then (.error p.limitError, p)
    else if p.buffer.length < frameLength then (.ok [], p)
    else if p.buffer.length > frameLength then
      (.error ⟨"Transport frame contains more than one message"⟩, p)
    else
      ((decodeFrame p.buffer p.maxMessageBytes).map fun frame => [frame], { p with buffer := [] })

/-- What a call returns or throws, and the parser after it. -/
def parseFrames (p : FrameParser) (data : Bytes) : Except CodecError (List Frame) × FrameParser :=
  if data.length > 0 then
    if p.buffer.length + data.length > p.maxMessageBytes then (.error p.limitError, p)
    else parseBuffer { p with buffer := p.buffer ++ data }
  else p.parseBuffer

def getPendingFrameInfo (p : FrameParser) : PendingFrameInfo :=
  let bufferedBytes := p.buffer.length
  if bufferedBytes = 0 then { hasPending := false, bufferedBytes, state := .type }
  else if bufferedBytes < headerLength then
    { hasPending := true, bufferedBytes
      state := if bufferedBytes < 2 then .type else .length
      messageType := if bufferedBytes ≥ 2 then some (getUint p.buffer 0 2) else none }
  else
    let payloadLength := getUint p.buffer 11 4
    let payloadBytesRead := bufferedBytes - headerLength
    { hasPending := true, bufferedBytes, state := .payload
      messageType := some (getUint p.buffer 0 2)
      payloadLength := some payloadLength
      payloadBytesRead := some payloadBytesRead
      payloadBytesRemaining := some (payloadLength - payloadBytesRead) }

def reset (p : FrameParser) : FrameParser := { p with buffer := [] }

def setMaxMessageBytes (p : FrameParser) (value : JsNumber) :
    Except CodecError Unit × FrameParser :=
  match value with
  | .integer limit =>
    if limit < headerLength then (.error ⟨s!"Invalid max_message_bytes value: {value.text}"⟩, p)
    else (.ok (), { p with maxMessageBytes := limit.toNat })
  | .other _ => (.error ⟨s!"Invalid max_message_bytes value: {value.text}"⟩, p)

/-- A call of the parser, as its connection makes them. -/
inductive Input
  /-- `parseFrames(data)`. -/
  | chunk (data : Bytes)
  /-- `setMaxMessageBytes(value)`. -/
  | limit (value : JsNumber)

/-- What the calls of `parseFrames` return or throw, and the parser after them. -/
def feed (p : FrameParser) : List Input → List (Except CodecError (List Frame)) × FrameParser
  | [] => ([], p)
  | .chunk data :: inputs =>
    let (result, p) := p.parseFrames data
    let (results, p) := feed p inputs
    (result :: results, p)
  | .limit value :: inputs => feed (p.setMaxMessageBytes value).2 inputs

/-! ### Splitting a message -/

/-- The bytes the inputs bring. -/
def data : List Input → Bytes
  | [] => []
  | .chunk data :: inputs => data ++ FrameParser.data inputs
  | .limit _ :: inputs => FrameParser.data inputs

/-- The limits in force when the parser is called, starting with that of `p`. -/
def limits (p : FrameParser) : List Input → List Nat
  | [] => [p.maxMessageBytes]
  | .chunk _ :: inputs => limits p inputs
  | .limit value :: inputs => p.maxMessageBytes :: limits (p.setMaxMessageBytes value).2 inputs

/-- What the chunks of a message of `frame` yield: the one that brings its last byte the frame,
the others nothing. -/
def expected (frame : Frame) : List Input → List (Except CodecError (List Frame))
  | [] => []
  | .chunk bytes :: inputs =>
    .ok (if bytes ≠ [] ∧ data inputs = [] then [frame] else []) :: expected frame inputs
  | .limit _ :: inputs => expected frame inputs

/-- The parser after the inputs, as far as its limit goes. -/
def afterLimits (p : FrameParser) : List Input → FrameParser
  | [] => p
  | .chunk _ :: inputs => afterLimits p inputs
  | .limit value :: inputs => afterLimits (p.setMaxMessageBytes value).2 inputs

/-- Each message, split into inputs, is one that `decodeFrame` accepts under the limits in force
while it is fed. -/
def Accepted (p : FrameParser) : List (List Input × Frame) → Prop
  | [] => True
  | (inputs, frame) :: messages =>
    (∀ limit ∈ p.limits inputs, decodeFrame (data inputs) limit = .ok frame) ∧
      Accepted (p.afterLimits inputs) messages

variable {p q : FrameParser} {f : Frame} {message bytes : Bytes} {inputs : List Input}

/-! ### One chunk -/

/-- A part of a message yields nothing. -/
theorem parseBuffer_part (hdecode : decodeFrame message p.maxMessageBytes = .ok f)
    (hpart : p.buffer ++ bytes = message) (hmore : bytes ≠ []) : p.parseBuffer = (.ok [], p) := by
  obtain ⟨hvalid, hmax, rfl⟩ := decodeFrame_eq_ok.mp hdecode
  have hlength := f.length_bytes
  have hbytes := List.length_pos_iff.mpr hmore
  rw [← hpart, List.length_append] at hlength
  unfold parseBuffer
  split
  · rfl
  · rename_i hheader
    have hdeclared : getUint p.buffer 11 4 = f.payload.length := by
      unfold headerLength at hheader
      rw [← hvalid.getUint_length, ← hpart, getUint_append_left (by omega)]
    dsimp only
    rw [hdeclared, if_neg (by omega), if_pos (by omega)]

/-- A whole message yields its frame. -/
theorem parseBuffer_whole (hdecode : decodeFrame p.buffer p.maxMessageBytes = .ok f) :
    p.parseBuffer = (.ok [f], { p with buffer := [] }) := by
  obtain ⟨hvalid, hmax, hbuffer⟩ := decodeFrame_eq_ok.mp hdecode
  have hlength := f.length_bytes
  have hdeclared : getUint p.buffer 11 4 = f.payload.length := hbuffer ▸ hvalid.getUint_length
  rw [← hbuffer] at hlength
  unfold parseBuffer
  rw [if_neg (by omega)]
  dsimp only
  rw [hdeclared, if_neg (by omega), if_neg (by omega), if_neg (by omega), hdecode]
  rfl

/-- A chunk within the limit is put behind what has been received. -/
theorem parseFrames_eq (hmax : p.buffer.length + bytes.length ≤ p.maxMessageBytes) :
    p.parseFrames bytes = parseBuffer { p with buffer := p.buffer ++ bytes } := by
  unfold parseFrames
  split
  · rw [if_neg (by omega)]
  · rename_i hempty
    obtain rfl := List.eq_nil_of_length_eq_zero (Nat.eq_zero_of_not_pos hempty)
    rw [List.append_nil]

theorem parseFrames_empty (hbuffer : p.buffer = []) : p.parseFrames [] = (.ok [], p) := by
  unfold parseFrames parseBuffer
  rw [if_neg (by simp), if_pos (by simp [hbuffer, headerLength])]

theorem parseBuffer_maxMessageBytes (p : FrameParser) :
    p.parseBuffer.2.maxMessageBytes = p.maxMessageBytes := by
  unfold parseBuffer
  dsimp only
  repeat' split
  all_goals rfl

theorem parseFrames_maxMessageBytes (p : FrameParser) (bytes : Bytes) :
    (p.parseFrames bytes).2.maxMessageBytes = p.maxMessageBytes := by
  unfold parseFrames
  split
  · split
    · rfl
    · exact parseBuffer_maxMessageBytes _
  · exact parseBuffer_maxMessageBytes p

/-! ### The limits -/

theorem setMaxMessageBytes_buffer (p : FrameParser) (value : JsNumber) :
    (p.setMaxMessageBytes value).2.buffer = p.buffer := by
  unfold setMaxMessageBytes
  split
  · split <;> rfl
  · rfl

/-- The limit a call leaves behind does not depend on what has been received. -/
theorem setMaxMessageBytes_congr (h : p.maxMessageBytes = q.maxMessageBytes) (value : JsNumber) :
    (p.setMaxMessageBytes value).2.maxMessageBytes =
      (q.setMaxMessageBytes value).2.maxMessageBytes := by
  unfold setMaxMessageBytes
  split
  · split
    · exact h
    · rfl
  · exact h

theorem limits_congr (h : p.maxMessageBytes = q.maxMessageBytes) :
    p.limits inputs = q.limits inputs := by
  induction inputs generalizing p q with
  | nil => rw [limits, limits, h]
  | cons input inputs ih =>
      cases input with
      | chunk => exact ih h
      | limit value => rw [limits, limits, h, ih (setMaxMessageBytes_congr h value)]

theorem mem_limits (p : FrameParser) (inputs : List Input) :
    p.maxMessageBytes ∈ p.limits inputs := by
  induction inputs with
  | nil => exact List.mem_singleton_self _
  | cons input inputs ih =>
      cases input with
      | chunk => exact ih
      | limit => exact List.mem_cons_self

theorem afterLimits_congr (h : p.maxMessageBytes = q.maxMessageBytes) :
    (p.afterLimits inputs).maxMessageBytes = (q.afterLimits inputs).maxMessageBytes := by
  induction inputs generalizing p q with
  | nil => exact h
  | cons input inputs ih =>
      cases input with
      | chunk => exact ih h
      | limit value => exact ih (setMaxMessageBytes_congr h value)

theorem feed_maxMessageBytes (p : FrameParser) (inputs : List Input) :
    (p.feed inputs).2.maxMessageBytes = (p.afterLimits inputs).maxMessageBytes := by
  induction inputs generalizing p with
  | nil => rfl
  | cons input inputs ih =>
      cases input with
      | chunk bytes => exact (ih _).trans (afterLimits_congr (parseFrames_maxMessageBytes p bytes))
      | limit value => exact ih _

theorem Accepted.congr {messages : List (List Input × Frame)}
    (h : p.maxMessageBytes = q.maxMessageBytes) (ha : p.Accepted messages) :
    q.Accepted messages := by
  induction messages generalizing p q with
  | nil => trivial
  | cons message messages ih =>
      exact ⟨limits_congr h ▸ ha.1, ih (afterLimits_congr h) ha.2⟩

/-! ### A message in any number of chunks -/

theorem feed_chunk (p : FrameParser) (bytes : Bytes) (inputs : List Input) :
    p.feed (.chunk bytes :: inputs) =
      ((p.parseFrames bytes).1 :: ((p.parseFrames bytes).2.feed inputs).1,
        ((p.parseFrames bytes).2.feed inputs).2) := rfl

theorem feed_append (p : FrameParser) (inputs inputs' : List Input) :
    p.feed (inputs ++ inputs') =
      ((p.feed inputs).1 ++ ((p.feed inputs).2.feed inputs').1,
        ((p.feed inputs).2.feed inputs').2) := by
  induction inputs generalizing p with
  | nil => rfl
  | cons input inputs ih =>
      cases input with
      | chunk bytes =>
          rw [List.cons_append, feed_chunk, feed_chunk, ih]
          rfl
      | limit value => exact ih _

/-- Empty chunks yield nothing between two messages. -/
theorem feed_nothing (hbuffer : p.buffer = []) (hdata : data inputs = []) :
    (p.feed inputs).1 = expected f inputs ∧ (p.feed inputs).2.buffer = [] := by
  induction inputs generalizing p with
  | nil => exact ⟨rfl, hbuffer⟩
  | cons input inputs ih =>
      cases input with
      | chunk bytes =>
          obtain ⟨rfl, hrest⟩ := List.append_eq_nil_iff.mp hdata
          obtain ⟨hresults, hafter⟩ := ih hbuffer hrest
          rw [feed_chunk, parseFrames_empty hbuffer, expected, if_neg (by simp)]
          exact ⟨congrArg _ hresults, hafter⟩
      | limit value => exact ih ((setMaxMessageBytes_buffer p value).trans hbuffer) hdata

/-- The rest of a message yields its frame, with the last byte. -/
theorem feed_message (hmessage : p.buffer ++ data inputs = message)
    (hdecode : ∀ limit ∈ p.limits inputs, decodeFrame message limit = .ok f)
    (hmore : data inputs ≠ []) :
    (p.feed inputs).1 = expected f inputs ∧ (p.feed inputs).2.buffer = [] := by
  induction inputs generalizing p with
  | nil => exact absurd rfl hmore
  | cons input inputs ih =>
      cases input with
      | chunk bytes =>
          have hlimit := hdecode p.maxMessageBytes (mem_limits p inputs)
          have hpart : (p.buffer ++ bytes) ++ data inputs = message :=
            (List.append_assoc ..).trans hmessage
          obtain ⟨-, hmax, hlength⟩ := decodeFrame_eq_ok.mp hlimit
          have hfits : p.buffer.length + bytes.length ≤ p.maxMessageBytes := by
            have hle := congrArg List.length hpart
            rw [hlength, f.length_bytes, List.length_append, List.length_append] at hle
            omega
          rw [feed_chunk, parseFrames_eq hfits, expected]
          by_cases hrest : data inputs = []
          · have hwhole : p.buffer ++ bytes = message := by rwa [hrest, List.append_nil] at hpart
            have hbytes : bytes ≠ [] := by
              rintro rfl
              exact hmore hrest
            rw [parseBuffer_whole (p := { p with buffer := p.buffer ++ bytes })
              (hwhole ▸ hlimit), if_pos ⟨hbytes, hrest⟩]
            obtain ⟨hresults, hafter⟩ :=
              feed_nothing (p := { p with buffer := [] }) (f := f) rfl hrest
            exact ⟨congrArg _ hresults, hafter⟩
          · have hsame : limits { p with buffer := p.buffer ++ bytes } inputs = p.limits inputs :=
              limits_congr rfl
            rw [parseBuffer_part (p := { p with buffer := p.buffer ++ bytes }) hlimit hpart hrest,
              if_neg fun h => hrest h.2]
            obtain ⟨hresults, hafter⟩ := ih (p := { p with buffer := p.buffer ++ bytes }) hpart
              (fun limit hl => hdecode limit (hsame ▸ hl)) hrest
            exact ⟨congrArg _ hresults, hafter⟩
      | limit value =>
          refine ih ((congrArg (· ++ data inputs) (setMaxMessageBytes_buffer p value)).trans
            hmessage)
            (fun limit hl => hdecode limit (List.mem_cons_of_mem _ hl)) hmore

/-! ### What is refused -/

/-- Bytes behind the end of the message are refused. -/
theorem parseFrames_beyond {extra : Bytes} (hparts : p.buffer ++ bytes = message ++ extra)
    (hheader : headerLength ≤ message.length)
    (hmessage : headerLength + getUint message 11 4 = message.length) (hextra : extra ≠ []) :
    ∃ e, (p.parseFrames bytes).1 = .error e := by
  have hmore := List.length_pos_iff.mpr hextra
  have buffered : ∀ q : FrameParser, q.buffer = message ++ extra →
      ∃ e, q.parseBuffer.1 = .error e := by
    intro q hq
    have hdeclared : getUint q.buffer 11 4 = getUint message 11 4 := by
      unfold headerLength at hheader
      rw [hq, getUint_append_left (by omega)]
    have hlength : q.buffer.length = message.length + extra.length := by
      rw [hq, List.length_append]
    unfold parseBuffer
    rw [if_neg (by omega)]
    dsimp only
    rw [hdeclared]
    split
    · exact ⟨_, rfl⟩
    · rw [if_neg (by omega), if_pos (by omega)]
      exact ⟨_, rfl⟩
  unfold parseFrames
  split
  · split
    · exact ⟨_, rfl⟩
    · exact buffered _ hparts
  · rename_i hempty
    obtain rfl := List.eq_nil_of_length_eq_zero (Nat.eq_zero_of_not_pos hempty)
    exact buffered p ((List.append_nil _).symm.trans hparts)

/-- A chunk that pushes the buffer over the limit is refused. -/
theorem parseFrames_over (hbytes : bytes ≠ [])
    (hmax : p.buffer.length + bytes.length > p.maxMessageBytes) :
    ∃ e, (p.parseFrames bytes).1 = .error e := by
  unfold parseFrames
  rw [if_pos (List.length_pos_iff.mpr hbytes), if_pos hmax]
  exact ⟨_, rfl⟩

theorem parseBuffer_within {frames : List Frame} (h : p.parseBuffer.1 = .ok frames) :
    ∀ f ∈ frames, headerLength + f.payload.length ≤ p.maxMessageBytes := by
  have empty : ∀ {q : FrameParser}, (Except.ok [], q).1 = (Except.ok frames : Except CodecError _) →
      ∀ f ∈ frames, headerLength + f.payload.length ≤ p.maxMessageBytes := by
    intro q h f hf
    obtain rfl := Except.ok.inj h
    cases hf
  unfold parseBuffer at h
  split at h
  · exact empty h
  · dsimp only at h
    split at h
    · cases h
    · split at h
      · exact empty h
      · split at h
        · cases h
        · cases hdecode : decodeFrame p.buffer p.maxMessageBytes with
          | error e =>
              rw [hdecode] at h
              cases h
          | ok frame =>
              rw [hdecode] at h
              obtain rfl := Except.ok.inj h
              intro f hf
              obtain rfl := List.mem_singleton.mp hf
              exact (decodeFrame_eq_ok.mp hdecode).2.1

/-- No frame over the limit is returned. -/
theorem parseFrames_within {frames : List Frame} (h : (p.parseFrames bytes).1 = .ok frames) :
    ∀ f ∈ frames, headerLength + f.payload.length ≤ p.maxMessageBytes := by
  unfold parseFrames at h
  split at h
  · split at h
    · cases h
    · exact parseBuffer_within (p := { p with buffer := p.buffer ++ bytes }) h
  · exact parseBuffer_within h

/-! ### Chunk independence -/

theorem feed_messages {messages : List (List Input × Frame)} (hbuffer : p.buffer = [])
    (ha : p.Accepted messages) :
    (p.feed (messages.flatMap (·.1))).1 = messages.flatMap (fun m => expected m.2 m.1) ∧
      (p.feed (messages.flatMap (·.1))).2.buffer = [] := by
  induction messages generalizing p with
  | nil => exact ⟨rfl, hbuffer⟩
  | cons message messages ih =>
      obtain ⟨inputs, f⟩ := message
      obtain ⟨hdecode, ha⟩ := ha
      have hmore : data inputs ≠ [] := by
        intro hnone
        obtain ⟨-, -, hbytes⟩ := decodeFrame_eq_ok.mp (hdecode _ (mem_limits p inputs))
        have hlength := f.length_bytes
        rw [← hbytes, hnone, List.length_nil] at hlength
        unfold headerLength at hlength
        omega
      obtain ⟨hresults, hafter⟩ := feed_message
        ((congrArg (· ++ data inputs) hbuffer).trans (List.nil_append _)) hdecode hmore
      obtain ⟨hrest, hlast⟩ := ih hafter (ha.congr (feed_maxMessageBytes p inputs).symm)
      rw [List.flatMap_cons, List.flatMap_cons, feed_append]
      exact ⟨by rw [hresults, hrest], hlast⟩

end FrameParser

open FrameParser

/-- However the messages are split into chunks, and however the limit changes between them, the
parser yields what the decoder makes of each message. Chunks with bytes beyond the current message
or over the limit are refused, and no frame over the limit is returned. -/
theorem parser_chunk_independence :
    (∀ (p : FrameParser) (messages : List (List Input × Frame)), p.buffer = [] →
      p.Accepted messages →
        (p.feed (messages.flatMap (·.1))).1 = messages.flatMap (fun m => expected m.2 m.1) ∧
        (p.feed (messages.flatMap (·.1))).2.getPendingFrameInfo =
          { hasPending := false, bufferedBytes := 0, state := .type }) ∧
    (∀ (p : FrameParser) (chunk message extra : Bytes), p.buffer ++ chunk = message ++ extra →
      headerLength ≤ message.length → headerLength + getUint message 11 4 = message.length →
      extra ≠ [] → ∃ e, (p.parseFrames chunk).1 = .error e) ∧
    (∀ (p : FrameParser) (chunk : Bytes), chunk ≠ [] →
      p.buffer.length + chunk.length > p.maxMessageBytes →
        ∃ e, (p.parseFrames chunk).1 = .error e) ∧
    (∀ (p : FrameParser) (chunk : Bytes) (frames : List Frame),
      (p.parseFrames chunk).1 = .ok frames →
        ∀ f ∈ frames, headerLength + f.payload.length ≤ p.maxMessageBytes) := by
  refine ⟨fun p messages hbuffer ha => ?_,
    fun p chunk message extra hparts hheader hmessage hextra =>
    parseFrames_beyond hparts hheader hmessage hextra, fun p chunk hbytes hmax =>
    parseFrames_over hbytes hmax, fun p chunk frames h => parseFrames_within h⟩
  obtain ⟨hresults, hafter⟩ := feed_messages hbuffer ha
  refine ⟨hresults, ?_⟩
  unfold getPendingFrameInfo
  rw [hafter]
  rfl

/-- A message in three chunks, one of them empty, with a lower limit in between. -/
theorem parser_chunk_independence_split :
    (feed {} [.chunk [0, 7, 2, 0, 0, 0, 0, 0], .chunk [], .limit (.integer 20),
      .chunk [0, 0, 9, 0, 0, 0, 2, 5, 6]]).1 = [.ok [], .ok [], .ok [⟨7, 2, 9, [5, 6]⟩]] := by
  have haccepted : Accepted {} [([.chunk [0, 7, 2, 0, 0, 0, 0, 0], .chunk [], .limit (.integer 20),
      .chunk [0, 0, 9, 0, 0, 0, 2, 5, 6]], ⟨7, 2, 9, [5, 6]⟩)] := by
    refine ⟨fun limit hlimit => ?_, trivial⟩
    have hcases : limit = defaultMaxMessageBytes ∨ limit = 20 := by
      simpa [limits, setMaxMessageBytes, headerLength] using hlimit
    rcases hcases with rfl | rfl <;> decide +kernel
  exact (parser_chunk_independence.1 {} _ rfl haccepted).1

end FitzTs.FrameCodec
