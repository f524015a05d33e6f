import MarlinspikeDpi.Engine.SessionKeys
import MarlinspikeDpi.Smb2.Decoder

/-!
# Two streams in one buffer

Client and server of a connection each send a stream of messages, cut into chunks.

* `frames_of_streams`: both streams are recovered if the sides take turns.
-/

namespace MarlinspikeDpi.Smb2

open Engine List HashOrder Smb2Decoder

/-! ## Connections -/

inductive Side where
  | client
  | server
deriving DecidableEq

def Side.other : Side → Side
  | client => server
  | server => client

structure Endpoint where
  ip : IpAddr
  port : UInt16

structure Connection where
  endpoint : Side → Endpoint

namespace Connection

def sessionKey (c : Connection) : String :=
  makeIpSessionKey (c.endpoint .client).ip (c.endpoint .server).ip (c.endpoint .client).port
    (c.endpoint .server).port "tcp"

end Connection

/-- A chunk that one side sends, with the session key that the engine gives it. -/
structure Segment (c : Connection) where
  side : Side
  chunk : StreamChunk
  src : chunk.context.srcIp = (c.endpoint side).ip ∧ chunk.context.srcPort = (c.endpoint side).port
  dst : chunk.context.dstIp = (c.endpoint side.other).ip ∧
    chunk.context.dstPort = (c.endpoint side.other).port
  keyed : chunk.sessionKey = makeIpSessionKey chunk.context.srcIp chunk.context.dstIp
    chunk.context.srcPort chunk.context.dstPort "tcp"

lemma Segment.sessionKey_eq {c : Connection} (s : Segment c) :
    s.chunk.sessionKey = c.sessionKey := by
  obtain ⟨side, chunk, src, dst, keyed⟩ := s
  rw [keyed, src.1, src.2, dst.1, dst.2]
  cases side with
  | client => rfl
  | server => exact makeIpSessionKey_comm _ _ _ _ _

inductive Input (c : Connection) where
  | segment (s : Segment c)
  | other (chunk : StreamChunk) (h : chunk.sessionKey ≠ c.sessionKey)

open Input

namespace Input

variable {c : Connection}

def chunk : Input c → StreamChunk
  | segment s => s.chunk
  | other chunk _ => chunk

def sent (side : Side) : Input c → List UInt8
  | segment s => if s.side = side then s.chunk.payload else []
  | other _ _ => []

end Input

/-! ## The buffer of a session -/

def bufferOf (d : Smb2Decoder) (key : String) : List UInt8 := (d.buffers.lookup key).getD []

lemma receive_fst (d : Smb2Decoder) (chunk : StreamChunk) :
    (d.receive chunk).1 = (netbios.drain (bufferOf d chunk.sessionKey ++ chunk.payload)).1 := rfl

section

variable [HashOrder]

lemma buffers_onStreamChunk (d : Smb2Decoder) (chunk : StreamChunk) :
    (d.onStreamChunk chunk).2.buffers = d.buffers.insert chunk.sessionKey
      (netbios.drain (bufferOf d chunk.sessionKey ++ chunk.payload)).2 :=
  Mealy.view_run_eq _ _ (buffers_decodeFrame chunk) _ _

lemma bufferOf_onStreamChunk_self (d : Smb2Decoder) (chunk : StreamChunk) :
    bufferOf (d.onStreamChunk chunk).2 chunk.sessionKey =
      (netbios.drain (bufferOf d chunk.sessionKey ++ chunk.payload)).2 := by
  rw [bufferOf, buffers_onStreamChunk, AList.lookup_insert]
  rfl

lemma bufferOf_onStreamChunk_of_ne (d : Smb2Decoder) {chunk : StreamChunk} {key : String}
    (hkey : chunk.sessionKey ≠ key) : bufferOf (d.onStreamChunk chunk).2 key = bufferOf d key := by
  rw [bufferOf, buffers_onStreamChunk, AList.lookup_insert_ne (Ne.symm hkey)]
  rfl

end

/-! ## Streams -/

section

variable {c : Connection}

def sentBy (side : Side) (inputs : List (Input c)) : List UInt8 := inputs.flatMap (Input.sent side)

/-- Every chunk of the connection that brings bytes comes when the other side has no message half
sent; `sofar` is what each side has sent before. -/
def takesTurns : (Side → List UInt8) → List (Input c) → Bool
  | _, [] => true
  | sofar, input :: inputs =>
    (match input with
      | .segment s => s.chunk.payload.isEmpty || (netbios.drain (sofar s.side.other)).2.isEmpty
      | .other _ _ => true) &&
      takesTurns (fun side => sofar side ++ input.sent side) inputs

variable [HashOrder]

def decodedFrames (side : Side) : Smb2Decoder → List (Input c) → List (List UInt8)
  | _, [] => []
  | d, input :: inputs =>
    (match input with
      | .segment s => if s.side = side then (d.receive s.chunk).1 else []
      | .other _ _ => []) ++
      decodedFrames side (d.onStreamChunk input.chunk).2 inputs

/-- One side may have a message half sent; the buffer has this half. -/
def Holds (d : Smb2Decoder) (c : Connection) (sofar : Side → List UInt8) : Prop :=
  ∃ speaker : Side, (netbios.drain (sofar speaker.other)).2 = [] ∧
    bufferOf d c.sessionKey = (netbios.drain (sofar speaker)).2

variable {d : Smb2Decoder} {sofar : Side → List UInt8}

omit [HashOrder] in
lemma Holds.eq_of_turn {side : Side} (hholds : Holds d c sofar)
    (hturn : (netbios.drain (sofar side.other)).2 = []) :
    bufferOf d c.sessionKey = (netbios.drain (sofar side)).2 := by
  obtain ⟨speaker, hquiet, hbuffer⟩ := hholds
  rw [hbuffer]
  cases speaker <;> cases side <;> simp_all [Side.other]

omit [HashOrder] in
lemma Holds.drain_buffer (hholds : Holds d c sofar) :
    netbios.drain (bufferOf d c.sessionKey) = ([], bufferOf d c.sessionKey) := by
  obtain ⟨speaker, -, hbuffer⟩ := hholds
  rw [hbuffer]
  exact netbios.drain_drain_snd _

lemma Holds.segment (hholds : Holds d c sofar) (s : Segment c)
    (hturn : s.chunk.payload = [] ∨ (netbios.drain (sofar s.side.other)).2 = []) :
    Holds (d.onStreamChunk s.chunk).2 c (fun side => sofar side ++ sent side (.segment s)) := by
  have hafter : bufferOf (d.onStreamChunk s.chunk).2 c.sessionKey =
      (netbios.drain (bufferOf d c.sessionKey ++ s.chunk.payload)).2 := by
    rw [← s.sessionKey_eq, bufferOf_onStreamChunk_self]
  rw [Holds, hafter]
  rcases hturn with hempty | hturn
  · have hsent : ∀ side, sent side (.segment s) = [] := by
      intro side
      rw [sent, hempty, ite_self]
    rw [hempty, append_nil, hholds.drain_buffer]
    simp only [hsent, append_nil]
    exact hholds
  · have hother : s.side ≠ s.side.other := by cases s.side <;> decide
    refine ⟨s.side, ?_, ?_⟩
    · rw [sent, if_neg hother, append_nil, hturn]
    · rw [sent, if_pos rfl, hholds.eq_of_turn hturn, netbios.drain_append (sofar s.side)]

omit [HashOrder] in
lemma Holds.receive (hholds : Holds d c sofar) (s : Segment c)
    (hturn : s.chunk.payload = [] ∨ (netbios.drain (sofar s.side.other)).2 = []) :
    (netbios.drain (sofar s.side ++ s.chunk.payload)).1 =
      (netbios.drain (sofar s.side)).1 ++ (d.receive s.chunk).1 := by
  rw [receive_fst, s.sessionKey_eq]
  rcases hturn with hempty | hturn
  · rw [hempty, append_nil, append_nil, hholds.drain_buffer, append_nil]
  · rw [hholds.eq_of_turn hturn, netbios.drain_append (sofar s.side)]

lemma Holds.other (hholds : Holds d c sofar) {chunk : StreamChunk}
    (h : chunk.sessionKey ≠ c.sessionKey) :
    Holds (d.onStreamChunk chunk).2 c (fun side => sofar side ++ sent side (.other chunk h)) := by
  rw [Holds, bufferOf_onStreamChunk_of_ne d h]
  simp only [sent, append_nil]
  exact hholds

lemma drain_append_decodedFrames (side : Side) (inputs : List (Input c)) (d : Smb2Decoder)
    (sofar : Side → List UInt8) (hholds : Holds d c sofar)
    (hturns : takesTurns sofar inputs = true) :
    (netbios.drain (sofar side)).1 ++ decodedFrames side d inputs =
      (netbios.drain (sofar side ++ sentBy side inputs)).1 := by
  induction inputs generalizing d sofar with
  | nil => simp [decodedFrames, sentBy]
  | cons input inputs ih =>
    obtain ⟨hturn, hrest⟩ := Bool.and_eq_true_iff.1 hturns
    have hsent : sofar side ++ sentBy side (input :: inputs) =
        sofar side ++ input.sent side ++ sentBy side inputs := by
      rw [sentBy, flatMap_cons, append_assoc, sentBy]
    rw [hsent]
    cases input with
    | segment s =>
      have hturn' : s.chunk.payload = [] ∨ (netbios.drain (sofar s.side.other)).2 = [] :=
        (Bool.or_eq_true_iff.1 hturn).imp isEmpty_iff.1 isEmpty_iff.1
      rw [← ih _ _ (hholds.segment s hturn') hrest, decodedFrames]
      dsimp only [sent, chunk]
      by_cases hside : s.side = side
      · subst hside
        rw [if_pos rfl, if_pos rfl, hholds.receive s hturn', append_assoc]
      · rw [if_neg hside, if_neg hside, append_nil, nil_append]
    | other chunk h =>
      rw [← ih _ _ (hholds.other h) hrest, decodedFrames]
      simp [Input.sent, Input.chunk]

end

/-! ## Messages -/

structure NetbiosMessage where
  type : UInt8
  body : List UInt8
  fits : body.length < 2 ^ 24

open NetbiosMessage

namespace NetbiosMessage

def encode (m : NetbiosMessage) : List UInt8 := m.type :: Bytes.toBe 3 m.body.length ++ m.body

lemma next_encode (m : NetbiosMessage) (rest : List UInt8) :
    netbios.next (m.encode ++ rest) = some (m.body, rest) := by
  have hheader : (m.type :: Bytes.toBe 3 m.body.length).length = 4 := by
    rw [length_cons, Bytes.length_toBe]
  have hlength : readU24Be (m.encode ++ rest) = m.body.length := by
    have hslice : Bytes.slice (m.encode ++ rest) 1 3 = Bytes.toBe 3 m.body.length := by
      rw [encode, cons_append, cons_append]
      exact Bytes.slice_append_self (Bytes.length_toBe 3 _)
    rw [readU24Be, hslice, Bytes.beNat_toBe m.fits]
  have htotal : m.encode.length = 4 + m.body.length := by rw [encode, length_append, hheader]
  have hlong : m.encode.length ≤ (m.encode ++ rest).length := by
    rw [length_append]
    exact Nat.le_add_right _ _
  have hfour : ¬ (m.encode ++ rest).length < 4 := by omega
  have hwhole : ¬ (m.encode ++ rest).length < 4 + m.body.length := by omega
  rw [netbios_next, netbiosNext, if_neg hfour, hlength]
  rw [if_neg hwhole, ← htotal, take_left, drop_left, encode, drop_left' hheader]

end NetbiosMessage

/-- Each side sends whole messages, in any chunks. -/
theorem frames_of_streams [HashOrder] {c : Connection} (d : Smb2Decoder) (inputs : List (Input c))
    (messages : Side → List NetbiosMessage) (hfresh : bufferOf d c.sessionKey = [])
    (hstreams : ∀ side, sentBy side inputs = (messages side).flatMap NetbiosMessage.encode)
    (hturns : takesTurns (fun _ => []) inputs = true) :
    ∀ side, decodedFrames side d inputs = (messages side).map NetbiosMessage.body := by
  intro side
  have hholds : Holds d c (fun _ => []) := by
    exact ⟨.client, by rw [Framing.drain_nil], by rw [hfresh, Framing.drain_nil]⟩
  have hframes := drain_append_decodedFrames side inputs d (fun _ => []) hholds hturns
  calc
    decodedFrames side d inputs
        = (netbios.drain (sentBy side inputs)).1 := by
          simpa only [Framing.drain_nil, nil_append] using hframes
    _ = (messages side).map body := by
          rw [hstreams side, netbios.drain_encoded _ _ next_encode]

/-! ## A connection of a workstation -/

def Connection.chunk (c : Connection) (side : Side) (payload : List UInt8) : StreamChunk :=
  let src := c.endpoint side
  let dst := c.endpoint side.other
  let plain := hostChunk 1 .tcp src.port dst.port payload
  { plain with
    context := { plain.context with srcIp := src.ip, dstIp := dst.ip }
    sessionKey := makeIpSessionKey src.ip dst.ip src.port dst.port "tcp" }

def Connection.segment (c : Connection) (side : Side) (payload : List UInt8) : Input c :=
  .segment ⟨side, c.chunk side payload, ⟨rfl, rfl⟩, ⟨rfl, rfl⟩, rfl⟩

def workstation : Connection where
  endpoint
    | .client => ⟨.v4 ⟨10, 0, 0, 1⟩, 49152⟩
    | .server => ⟨.v4 ⟨10, 0, 0, 2⟩, 445⟩

lemma three_fits : [1, 2, 3].length < 2 ^ 24 := by decide

lemma one_fits : [9].length < 2 ^ 24 := by decide

def workstationMessages : Side → List NetbiosMessage
  | .client => [⟨0, [1, 2, 3], three_fits⟩]
  | .server => [⟨0, [9], one_fits⟩]

/-- The message of the client in two chunks, then that of the server. -/
def inTurn : List (Input workstation) :=
  [workstation.segment .client [0, 0, 0, 3, 1], workstation.segment .client [2, 3],
    workstation.segment .server [0, 0, 0, 1, 9]]

def interleaved : List (Input workstation) :=
  [workstation.segment .client [0, 0, 0, 3, 1], workstation.segment .server [0, 0, 0, 1, 9],
    workstation.segment .client [2, 3]]

lemma sentBy_inTurn (side : Side) :
    sentBy side inTurn = (workstationMessages side).flatMap encode := by
  cases side <;> decide

theorem inTurn_frames :
    letI : HashOrder := sample
    (takesTurns (fun _ => []) inTurn = true ∧
      ∀ side, sentBy side inTurn = (workstationMessages side).flatMap encode) ∧
    ∀ side, decodedFrames side default inTurn = (workstationMessages side).map body := by
  have hturns : takesTurns (fun _ => []) inTurn = true := by decide
  let : HashOrder := sample
  exact ⟨⟨hturns, sentBy_inTurn⟩,
    frames_of_streams default inTurn workstationMessages rfl sentBy_inTurn hturns⟩

/-- On the server's chunk a message of bytes of both sides is decoded, and the client's message
never is. -/
theorem interleaved_frames_mixed :
    letI : HashOrder := sample
    (∀ side, sentBy side interleaved = (workstationMessages side).flatMap encode) ∧
      decodedFrames .server default interleaved = [[1, 0, 0]] ∧
      decodedFrames .client default interleaved = [] := by
  refine ⟨?_, ?_, ?_⟩
  · intro side
    cases side <;> decide
  · decide
  · decide

end MarlinspikeDpi.Smb2
