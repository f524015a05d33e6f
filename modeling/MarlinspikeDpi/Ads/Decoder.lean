import MarlinspikeDpi.Engine.Decoder
import MarlinspikeDpi.Foundation.Framing
import MarlinspikeDpi.Foundation.Mealy
import MarlinspikeDpi.Foundation.Table

/-!
# AMS frames on port 48898

The payloads are collected in one buffer, and whole frames are cut out of it.
-/

namespace MarlinspikeDpi.Ads

open Engine Bytes Text List

def adsMaxDataLen : Nat := 16 * 1024 * 1024

def adsPendingCap : Nat := 1024

def amsTcpHdr : Nat := 6

def amsPktHdr : Nat := 32

def adsMinFrame : Nat := amsTcpHdr + amsPktHdr

/-! ## Frames -/

def u16At (data : List UInt8) (i : Nat) : UInt16 := UInt16.ofNat (leNat (slice data i 2))

def u32At (data : List UInt8) (i : Nat) : UInt32 := UInt32.ofNat (leNat (slice data i 4))

def totalLen (buf : List UInt8) : Nat := amsTcpHdr + (u32At buf 2).toNat

/-- The frame at the front of the buffer. Nothing is cut out of fewer bytes than a frame with an
empty body has. -/
def nextFrame (buf : List UInt8) : Option (List UInt8 × List UInt8) :=
  if buf.length < adsMinFrame then none
  else if buf.length < totalLen buf then none
  else some (buf.take (totalLen buf), buf.drop (totalLen buf))

lemma nextFrame_eq_some {buf frame rest : List UInt8} : nextFrame buf = some (frame, rest) ↔
      adsMinFrame ≤ buf.length ∧ totalLen buf ≤ buf.length ∧ frame = buf.take (totalLen buf) ∧
        rest = buf.drop (totalLen buf) := by
  rw [nextFrame]
  by_cases hmin : buf.length < adsMinFrame
  · rw [if_pos hmin]
    exact iff_of_false nofun fun h => absurd h.1 (Nat.not_le.2 hmin)
  · rw [if_neg hmin]
    by_cases htotal : buf.length < totalLen buf
    · rw [if_pos htotal]
      exact iff_of_false nofun fun h => absurd h.2.1 (Nat.not_le.2 htotal)
    · rw [if_neg htotal, Option.some_inj, Prod.mk.injEq]
      constructor
      · rintro ⟨rfl, rfl⟩
        exact ⟨Nat.not_lt.1 hmin, Nat.not_lt.1 htotal, rfl, rfl⟩
      · rintro ⟨-, -, rfl, rfl⟩
        exact ⟨rfl, rfl⟩

lemma totalLen_append {buf : List UInt8} (hmin : adsMinFrame ≤ buf.length) (more : List UInt8) :
    totalLen (buf ++ more) = totalLen buf := by
  have hfront : 2 + 4 ≤ buf.length := le_trans (by decide) hmin
  rw [totalLen, totalLen, u32At, u32At, slice_append_left hfront]

lemma nextFrame_shrinks {buf frame rest : List UInt8} (h : nextFrame buf = some (frame, rest)) :
    rest.length < buf.length := by
  obtain ⟨hmin, hle, -, rfl⟩ := nextFrame_eq_some.1 h
  have hpos : 0 < totalLen buf := Nat.add_pos_left (by decide) _
  rw [length_drop]
  omega

lemma nextFrame_append {buf frame rest : List UInt8} (more : List UInt8)
    (h : nextFrame buf = some (frame, rest)) :
      nextFrame (buf ++ more) = some (frame, rest ++ more) := by
  obtain ⟨hmin, hle, rfl, rfl⟩ := nextFrame_eq_some.1 h
  rw [nextFrame_eq_some, totalLen_append hmin, length_append, take_append_of_le_length hle,
    drop_append_of_le_length hle]
  exact ⟨Nat.le_add_right_of_le hmin, Nat.le_add_right_of_le hle, rfl, rfl⟩

def frames : Framing UInt8 := ⟨nextFrame, nextFrame_shrinks, nextFrame_append⟩

/-! ## The header of a frame -/

def fmtNetid (b : List UInt8) : String := ".".intercalate (b.map fun byte => toString byte.toNat)

structure AmsHeader where
  targetNetid : String
  targetPort : UInt16
  sourceNetid : String
  (sourcePort cmdId stateFlags : UInt16)
  (dataLen errorCode invokeId : UInt32)

def amsHeader (h : List UInt8) : AmsHeader :=
  { targetNetid := fmtNetid (slice h 0 6), targetPort := u16At h 6,
    sourceNetid := fmtNetid (slice h 8 6), sourcePort := u16At h 14, cmdId := u16At h 16,
    stateFlags := u16At h 18, dataLen := u32At h 20, errorCode := u32At h 24,
    invokeId := u32At h 28 }

def cmdOperation (id : UInt16) : String :=
  match id with
  | 1 => "ads_read_device_info"
  | 2 => "ads_read"
  | 3 => "ads_write"
  | 4 => "ads_read_state"
  | 5 => "ads_write_control"
  | 6 => "ads_add_device_notification"
  | 7 => "ads_delete_device_notification"
  | 8 => "ads_device_notification"
  | 9 => "ads_read_write"
  | _ => "ads_unknown_" ++ toString id.toNat

def AmsHeader.attributes (h : AmsHeader) : OrderedMap String String :=
  OrderedMap.empty.extend
    [("target_netid", h.targetNetid), ("target_port", toString h.targetPort.toNat),
      ("source_netid", h.sourceNetid), ("source_port", toString h.sourcePort.toNat),
      ("invoke_id", toString h.invokeId.toNat), ("error_code", toString h.errorCode.toNat),
      ("state_flags_hex", "0x" ++ hexPad 4 h.stateFlags.toNat)]

/-! ## Events -/

def envelope (chunk : StreamChunk) : EventEnvelope :=
  buildEnvelope chunk.context chunk.toFrameInfo .tcp (some "ads") chunk.sessionKey

def anomaly (chunk : StreamChunk) (severity reason : String) (frame : List UInt8) : BronzeEvent :=
  parseAnomalyEvent chunk.captureId (envelope chunk) "ads" severity reason frame

def runtimeAsset (chunk : StreamChunk) (netid : String) : BronzeEvent :=
  newEvent chunk.captureId (envelope chunk) (.assetObservation
    { assetKey := netid, role := some "beckhoff_runtime", protocols := ["ads"],
      identifiers := OrderedMap.empty.insert "ams_netid" netid })

structure Pending where
  captureId : String
  envelope : EventEnvelope
  operation : String
  attributes : OrderedMap String String

def unpairedTx (p : Pending) (status : String) : BronzeEvent :=
  newEvent p.captureId p.envelope (.protocolTransaction
    { operation := p.operation, status, attributes := p.attributes })

def parked (chunk : StreamChunk) (h : AmsHeader) : Pending :=
  { captureId := chunk.captureId, envelope := envelope chunk, operation := cmdOperation h.cmdId,
    attributes := h.attributes }

def pendingKey (sessionKey netid : String) (invokeId : UInt32) : String :=
  sessionKey ++ "|" ++ netid ++ "|" ++ toString invokeId.toNat

/-! ## The decoder -/

structure AdsDecoder where
  buf : List UInt8
  pending : Table String Pending
  seenNetids : List String

namespace AdsDecoder

def default : AdsDecoder := ⟨[], ∅, []⟩

variable (d : AdsDecoder)

def meet (chunk : StreamChunk) (h : AmsHeader) : List BronzeEvent × AdsDecoder :=
  if h.sourceNetid ∈ d.seenNetids then ([], d)
  else ([runtimeAsset chunk h.sourceNetid], { d with seenNetids := h.sourceNetid :: d.seenNetids })

def onResponse (chunk : StreamChunk) (h : AmsHeader) : List BronzeEvent × AdsDecoder :=
  let status := if h.errorCode = 0 then "ok" else "ads_error_0x" ++ hexPad 8 h.errorCode.toNat
  let key := pendingKey chunk.sessionKey h.targetNetid h.invokeId
  match d.pending.lookup key with
  | some p => ([unpairedTx p status], { d with pending := d.pending.erase key })
  | none => ([unpairedTx (parked chunk h) "response_only"], d)

/-- If there are too many requests one of them is forgotten; which one, the source leaves to the
hash map. -/
def makeRoom (pending : Table String Pending) : Table String Pending :=
  if adsPendingCap ≤ pending.entries.length then
    match pending.keys.head? with
    | some key => pending.erase key
    | none => pending
  else pending

def onRequest (chunk : StreamChunk) (h : AmsHeader) : AdsDecoder :=
  { d with
    pending := (makeRoom d.pending).insert (pendingKey chunk.sessionKey h.sourceNetid h.invokeId)
      (parked chunk h) }

def onPacket (chunk : StreamChunk) (frame : List UInt8) (h : AmsHeader) :
  List BronzeEvent × AdsDecoder := let unknown :=
    if 1 ≤ h.cmdId ∧ h.cmdId ≤ 9 then []
    else [anomaly chunk "low" ("unknown ADS command ID 0x" ++ hexPad 4 h.cmdId.toNat) frame]
  let met := d.meet chunk h
  if h.stateFlags &&& 0x0001 ≠ 0 then
    (unknown ++ met.1 ++ (met.2.onResponse chunk h).1, (met.2.onResponse chunk h).2)
  else (unknown ++ met.1, met.2.onRequest chunk h)

def process (chunk : StreamChunk) (frame : List UInt8) : List BronzeEvent × AdsDecoder :=
  let reserved :=
    if u16At frame 0 ≠ 0 then [anomaly chunk "medium" "AMS/TCP reserved field non-zero" frame]
      else []
  let h := frame.drop amsTcpHdr
  if h.length < amsPktHdr
    then (reserved ++ [anomaly chunk "medium" "AMS packet header truncated" frame], d)
  else if adsMaxDataLen < (amsHeader h).dataLen.toNat then
    (reserved ++ [anomaly chunk "high" "AMS data_len exceeds 16 MiB — likely malformed" frame], d)
  else
    (reserved ++ (d.onPacket chunk frame (amsHeader h)).1, (d.onPacket chunk frame (amsHeader h)).2)

/-- The frames that are whole when a chunk has been appended, and what is left. Processing a frame
leaves the buffer alone, so that all frames can be cut out first. -/
def drained (chunk : StreamChunk) : List (List UInt8) × List UInt8 :=
  frames.drain (d.buf ++ chunk.payload)

def onStreamChunk (chunk : StreamChunk) : List BronzeEvent × AdsDecoder :=
  Mealy.run (fun d frame => d.process chunk frame) { d with buf :=
    (d.drained chunk).2 } (d.drained chunk).1

def onIdleFlush (_timestamp : DateTime) : List BronzeEvent × AdsDecoder :=
  (d.pending.entries.map fun entry => unpairedTx entry.2 "request_only", { d with pending := ∅ })

instance : SessionDecoder AdsDecoder where
  name _ := "ads"
  interest _ := [.tcpPort 48898]
  onStreamChunk
  onIdleFlush

end AdsDecoder

end MarlinspikeDpi.Ads
