import MarlinspikeDpi.Engine.Stream
import MarlinspikeDpi.Foundation.Records

/-!
# Capture files

`readCapturePackets` reads a classic pcap or a pcapng file and hands every packet to a callback.

* `capturePackets_front`: a file that has grown has the same packets at its front.
* `processSegment_eq_runSegment`: a segment is the run of its packets.
-/

namespace MarlinspikeDpi.Capture

open Bytes Engine RecordReader Source

/-! ## Formats -/

inductive PcapFlavor where
  | littleMicro
  | bigMicro
  | littleNano
  | bigNano
deriving DecidableEq, Repr

namespace PcapFlavor

def isLittleEndian : PcapFlavor → Bool
  | littleMicro | littleNano => true
  | bigMicro | bigNano => false

def timestampUnitNanos : PcapFlavor → Nat
  | littleMicro | bigMicro => 1000
  | littleNano | bigNano => 1

/-- `u16::from_le_bytes` or `u16::from_be_bytes`, and the same for `u32`. -/
def readUint (flavor : PcapFlavor) (bytes : List UInt8) : Nat :=
  if flavor.isLittleEndian then leNat bytes else beNat bytes

end PcapFlavor

inductive CaptureFormat where
  | pcapng
  | pcap (flavor : PcapFlavor)
deriving DecidableEq, Repr

def captureFormat : List UInt8 → Except DpiError CaptureFormat
  | [0x0A, 0x0D, 0x0D, 0x0A] => .ok .pcapng
  | [0xD4, 0xC3, 0xB2, 0xA1] => .ok (.pcap .littleMicro)
  | [0xA1, 0xB2, 0xC3, 0xD4] => .ok (.pcap .bigMicro)
  | [0x4D, 0x3C, 0xB2, 0xA1] => .ok (.pcap .littleNano)
  | [0xA1, 0xB2, 0x3C, 0x4D] => .ok (.pcap .bigNano)
  | _ => .error (.invalidCapture "unrecognized capture magic bytes")

def unexpectedEof : DpiError := .io "unexpected eof while reading capture header"

/-- The error of `read_exact` of the standard library. -/
def unfilledBuffer : DpiError := .io "failed to fill whole buffer"

/-- Look at the magic bytes; the source is back at the start afterwards. -/
def detectCaptureFormat (src : Source) : Except DpiError CaptureFormat × Source :=
  let start := src.pos
  match src.readExactOrEof unexpectedEof 4 with
  | (.error e, src) => (.error e, src)
  | (.ok none, src) => (.error (.invalidCapture "capture file is empty"), src)
  | (.ok (some magic), src) => (captureFormat magic, src.seek start)

/-! ## Classic pcap -/

variable (flavor : PcapFlavor)

def parsePcapGlobalHeader (header : List UInt8) : Except DpiError LinkType :=
  let versionMajor := flavor.readUint (slice header 4 2)
  let versionMinor := flavor.readUint (slice header 6 2)
  if versionMajor ≠ 2 ∨ versionMinor ≠ 4 then
    .error (.invalidCapture "unsupported classic pcap version (expected 2.4)")
  else
    match LinkType.fromDlt (flavor.readUint (slice header 20 4)) with
    | some linktype => .ok linktype
    | none => .error (.invalidCapture "unsupported classic pcap linktype")

def readPcapGlobalHeader (src : Source) : Except DpiError LinkType × Source :=
  match src.readExact unfilledBuffer 24 with
  | (.error e, src) => (.error e, src)
  | (.ok header, src) => (parsePcapGlobalHeader flavor header, src)

structure PcapPacketHeader where
  timestamp : DateTime
  inclLen : Nat
  origLen : UInt32

variable [External] (flavor : PcapFlavor)

def parsePcapPacketHeader (header : List UInt8) : Except DpiError PcapPacketHeader :=
  let tsSec := flavor.readUint (slice header 0 4)
  let tsFrac := flavor.readUint (slice header 4 4)
  let inclLen := flavor.readUint (slice header 8 4)
  let origLen := flavor.readUint (slice header 12 4)
  let nanosTotal := tsFrac * flavor.timestampUnitNanos
  if 2 ^ 64 ≤ nanosTotal then
    .error (.invalidCapture "classic pcap timestamp overflow")
  else
    match External.timestampOpt ((tsSec : Int) + (nanosTotal / 1000000000 : Nat))
        (nanosTotal % 1000000000) with
    | none => .error (.invalidCapture "classic pcap timestamp out of range")
    | some timestamp => .ok { timestamp, inclLen, origLen := UInt32.ofNat origLen }

variable (linktype : LinkType)

/-- A packet of a classic capture: a header of sixteen bytes, then the captured bytes. -/
def pcapPacket : Framed PcapPacketHeader PacketRecord DpiError :=
  { headerLen := 16
    headerLen_pos := by decide
    parseHeader := parsePcapPacketHeader flavor
    bodyLen := PcapPacketHeader.inclLen
    build := fun header data =>
      { interfaceId := 0
        linktype
        timestamp := header.timestamp
        capturedLen := header.inclLen
        origLen := header.origLen
        data }
    cutHeader := unexpectedEof
    cutBody := unfilledBuffer }

def readPcapPacket : RecordReader PacketRecord DpiError := (pcapPacket flavor linktype).reader

/-! ## pcapng -/

def pcapngBlockLen (header : List UInt8) : Nat := leNat (slice header 4 4)

def pcapngBlock : Framed (List UInt8) (List UInt8) DpiError :=
  { headerLen := 8
    headerLen_pos := by decide
    parseHeader := fun header =>
      if pcapngBlockLen header < 12 then
        .error (.invalidCapture "pcapng block smaller than minimum")
      else
        .ok header
    bodyLen := fun header => pcapngBlockLen header - 8
    build := fun header rest => header ++ rest
    -- the trailing length is read as part of the body and never compared
    cutHeader := unexpectedEof
    cutBody := unfilledBuffer }

def readPcapngBlock : RecordReader (List UInt8) DpiError := pcapngBlock.reader

/-- The link type of an Interface Description Block, `none` for any other block. -/
def pcapngInterfaceLinktype (block : List UInt8) : Option LinkType :=
  if block.length < 12 then none
  else if leNat (slice block 0 4) ≠ 0x00000001 then none
  else some ((LinkType.fromDlt (leNat (slice block 8 2))).getD .ethernet)

/-- The packet of an Enhanced Packet Block, `none` for any other block.  The time is in
microseconds; one that is out of range is replaced by the wall clock. -/
def pcapngPacketRecord (now : DateTime) (block : List UInt8) (interfaces : List LinkType) :
    Except DpiError (Option PacketRecord) :=
  if block.length < 12 then
    .error (.invalidCapture "pcapng block shorter than header")
  else if leNat (slice block 0 4) ≠ 0x00000006 then .ok none
  else if block.length < 32 then
    .error (.invalidCapture "enhanced packet block shorter than minimum")
  else
    let interfaceId := leNat (slice block 8 4)
    let tsHigh := leNat (slice block 12 4)
    let tsLow := leNat (slice block 16 4)
    let capturedLen := leNat (slice block 20 4)
    let origLen := leNat (slice block 24 4)
    let timestampUs := tsHigh * 2 ^ 32 + tsLow
    let timestamp :=
      (External.timestampOpt (timestampUs / 1000000 : Nat) (timestampUs % 1000000 * 1000)).getD now
    if block.length - 4 < 28 + capturedLen then
      .error (.invalidCapture "enhanced packet block length exceeds packet data")
    else
      .ok (some
        { interfaceId := UInt32.ofNat interfaceId,
          linktype := (interfaces[interfaceId]?).getD .ethernet, timestamp, capturedLen,
          origLen := UInt32.ofNat origLen, data := slice block 28 capturedLen })

/-! ## The loop -/

section

variable {β : Type}

/-- The body of the loop over blocks: the link types of the interfaces seen so far and the state of
the callback. -/
def onPcapngBlock (now : DateTime) (onPacket : β → PacketRecord → Except DpiError Unit × β) :
    List LinkType × β → List UInt8 → Except DpiError Unit × (List LinkType × β)
  | (interfaces, b), block =>
    match pcapngInterfaceLinktype block with
    | some linktype => (.ok (), (interfaces ++ [linktype], b))
    | none =>
      match pcapngPacketRecord now block interfaces with
      | .error e => (.error e, (interfaces, b))
      | .ok none => (.ok (), (interfaces, b))
      | .ok (some packet) =>
        let (result, b) := onPacket b packet
        (result, (interfaces, b))

/-- Read a capture and hand every packet to the callback, until one of both fails. -/
def readCapturePackets (now : DateTime) (onPacket : β → PacketRecord → Except DpiError Unit × β)
    (b : β) (src : Source) : Except DpiError Unit × β :=
  let start := src.pos
  match detectCaptureFormat src with
  | (.error e, _) => (.error e, b)
  | (.ok format, src) =>
    let src := src.seek start
    match format with
    | .pcapng =>
      -- one list of interfaces for the whole file
      let (result, (_, b)) := readPcapngBlock.forEach (onPcapngBlock now onPacket) ([], b) src
      (result, b)
    | .pcap flavor =>
      match readPcapGlobalHeader flavor src with
      | (.error e, _) => (.error e, b)
      | (.ok linktype, src) => (readPcapPacket flavor linktype).forEach onPacket b src

/-! ## The packets of a file -/

/-- The packets among some blocks, given the interfaces seen before; `outcome` is how the sequence
of blocks ends. -/
def blockPackets (now : DateTime) (outcome : Except DpiError Unit) :
    List LinkType → List (List UInt8) → List PacketRecord × Except DpiError Unit
  | _, [] => ([], outcome)
  | interfaces, block :: blocks =>
    match pcapngInterfaceLinktype block with
    | some linktype => blockPackets now outcome (interfaces ++ [linktype]) blocks
    | none =>
      match pcapngPacketRecord now block interfaces with
      | .error e => ([], .error e)
      | .ok none => blockPackets now outcome interfaces blocks
      | .ok (some packet) =>
        let (packets, outcome) := blockPackets now outcome interfaces blocks
        (packet :: packets, outcome)

section

variable {now : DateTime} {outcome : Except DpiError Unit} {interfaces : List LinkType}
  {block : List UInt8} {blocks : List (List UInt8)}

lemma blockPackets_interface {linktype : LinkType}
    (h : pcapngInterfaceLinktype block = some linktype) :
    blockPackets now outcome interfaces (block :: blocks) =
      blockPackets now outcome (interfaces ++ [linktype]) blocks := by
  simp only [blockPackets, h]

lemma blockPackets_packet {packet : PacketRecord} (h : pcapngInterfaceLinktype block = none)
    (hpacket : pcapngPacketRecord now block interfaces = .ok (some packet)) :
    blockPackets now outcome interfaces (block :: blocks) =
      (packet :: (blockPackets now outcome interfaces blocks).1,
        (blockPackets now outcome interfaces blocks).2) := by
  simp only [blockPackets, h, hpacket]

lemma blockPackets_skip (h : pcapngInterfaceLinktype block = none)
    (hpacket : pcapngPacketRecord now block interfaces = .ok none) :
    blockPackets now outcome interfaces (block :: blocks) =
      blockPackets now outcome interfaces blocks := by
  simp only [blockPackets, h, hpacket]

end

variable (now : DateTime)

/-- The packets of a file and how reading it ends, as a function of its bytes. -/
def capturePackets (bytes : List UInt8) : List PacketRecord × Except DpiError Unit :=
  if bytes = [] then ([], .error (.invalidCapture "capture file is empty"))
  else if bytes.length < 4 then ([], .error unexpectedEof)
  else
    match captureFormat (bytes.take 4) with
    | .error e => ([], .error e)
    | .ok .pcapng => blockPackets now (readPcapngBlock.items bytes).2 []
      (readPcapngBlock.items bytes).1
    | .ok (.pcap flavor) =>
      if bytes.length < 24 then ([], .error unfilledBuffer)
      else
        match parsePcapGlobalHeader flavor (bytes.take 24) with
        | .error e => ([], .error e)
        | .ok linktype => (readPcapPacket flavor linktype).items (bytes.drop 24)

lemma blockPackets_front (outcome outcome' : Except DpiError Unit) (interfaces : List LinkType)
    {blocks blocks' : List (List UInt8)} (h : blocks <+: blocks') :
    (blockPackets now outcome interfaces blocks).1 <+:
      (blockPackets now outcome' interfaces blocks').1 := by
  obtain ⟨more, rfl⟩ := h
  induction blocks generalizing interfaces with
  | nil => exact List.nil_prefix
  | cons block blocks ih =>
    rw [List.cons_append]
    simp only [blockPackets]
    split
    · exact ih _
    · split
      · exact List.nil_prefix
      · exact ih interfaces
      · exact List.cons_prefix_cons.2 ⟨rfl, ih interfaces⟩

/-- Whatever the bytes, a file that has grown has the same packets at its front. -/
theorem capturePackets_front (bytes more : List UInt8) :
    (capturePackets now bytes).1 <+: (capturePackets now (bytes ++ more)).1 := by
  by_cases hshort : bytes.length < 4
  · have hnone : (capturePackets now bytes).1 = [] := by
      simp only [capturePackets, hshort, if_true]
      split <;> rfl
    rw [hnone]
    exact List.nil_prefix
  · have hfour := Nat.le_of_not_lt hshort
    have hne : bytes ≠ [] := by
      rintro rfl
      exact hshort (by decide)
    simp only [capturePackets, if_neg hne, if_neg hshort, List.take_append_of_le_length hfour]
    rw [if_neg (by simp [hne]), if_neg (by simp; omega)]
    cases captureFormat (bytes.take 4) with
    | error e => exact List.nil_prefix
    | ok format =>
      cases format with
      | pcapng =>
        exact blockPackets_front now _ _ [] (items_front pcapngBlock.next_append bytes more)
      | pcap flavor =>
        dsimp only
        split
        · exact List.nil_prefix
        · next hheader =>
          have hle := Nat.le_of_not_lt hheader
          rw [if_neg (by simp; omega), List.take_append_of_le_length hle,
            List.drop_append_of_le_length hle]
          cases parsePcapGlobalHeader flavor (bytes.take 24) with
          | error e => exact List.nil_prefix
          | ok linktype => exact items_front (pcapPacket flavor linktype).next_append _ more

variable (onPacket : β → PacketRecord → Except DpiError Unit × β)

lemma feed_blocks (outcome : Except DpiError Unit) (interfaces : List LinkType) (b : β)
    (blocks : List (List UInt8)) :
    let fed := feed (onPcapngBlock now onPacket) (interfaces, b) blocks outcome
    (fed.1, fed.2.2) = feed onPacket b (blockPackets now outcome interfaces blocks).1
        (blockPackets now outcome interfaces blocks).2 := by
  -- both sides consume the blocks; only a packet reaches the callback
  induction blocks generalizing interfaces b with
  | nil => rfl
  | cons block blocks ih =>
    simp only [feed, onPcapngBlock, blockPackets]
    cases pcapngInterfaceLinktype block with
    | some linktype => exact ih _ b
    | none =>
      cases pcapngPacketRecord now block interfaces with
      | error e => rfl
      | ok found =>
        cases found with
        | none => exact ih interfaces b
        | some packet =>
          simp only [feed]
          rcases onPacket b packet with ⟨result, b'⟩
          cases result with
          | error e => rfl
          | ok _ => exact ih interfaces b'

omit [External] in
lemma detectCaptureFormat_eq (src : Source) : (detectCaptureFormat src).1 =
        (if src.rest = [] then .error (.invalidCapture "capture file is empty")
          else if src.rest.length < 4 then .error unexpectedEof
          else captureFormat (src.rest.take 4)) ∧
      ((detectCaptureFormat src).2.seek src.pos).rest = src.rest := by
  have hmagic := src.readExactOrEof_fst unexpectedEof (by decide : 0 < 4)
  have hdata := src.readExactOrEof_data unexpectedEof 4
  unfold detectCaptureFormat
  generalize src.readExactOrEof unexpectedEof 4 = found at hmagic hdata ⊢
  rcases found with ⟨result, src'⟩
  dsimp only at hmagic hdata
  subst hmagic
  have hrest : (src'.seek src.pos).rest = src.rest := by
    rw [seek_rest, hdata]
    rfl
  by_cases hnil : src.rest = []
  · simp only [hnil, if_true]
    exact ⟨trivial, hrest.trans hnil⟩
  · by_cases hshort : src.rest.length < 4
    · simp only [hnil, hshort, if_true, if_false]
      exact ⟨trivial, hrest⟩
    · simp only [hnil, hshort, if_false]
      exact ⟨trivial, hrest⟩

omit [External] in
lemma readPcapGlobalHeader_eq (flavor : PcapFlavor) (src : Source) :
        (readPcapGlobalHeader flavor src).1 = (if src.rest.length < 24 then .error unfilledBuffer
          else parsePcapGlobalHeader flavor (src.rest.take 24)) ∧
      (readPcapGlobalHeader flavor src).2.rest = src.rest.drop 24 := by
  have hheader := src.readExact_fst unfilledBuffer 24
  have hbehind := src.readExact_rest unfilledBuffer 24
  unfold readPcapGlobalHeader
  generalize src.readExact unfilledBuffer 24 = read at hheader hbehind ⊢
  rcases read with ⟨result, src'⟩
  dsimp only at hheader hbehind
  subst hheader
  by_cases hcut : src.rest.length < 24
  · simp only [hcut, if_true]
    exact ⟨trivial, hbehind⟩
  · simp only [hcut, if_false]
    exact ⟨trivial, hbehind⟩

lemma readCapturePackets_eq (b : β) (src : Source) : readCapturePackets now onPacket b src =
      feed onPacket b (capturePackets now src.rest).1 (capturePackets now src.rest).2 := by
  rcases detectCaptureFormat_eq src with ⟨hformat, hrest⟩
  unfold readCapturePackets capturePackets
  generalize detectCaptureFormat src = detected at hformat hrest ⊢
  rcases detected with ⟨result, src'⟩
  subst hformat
  -- the two guards of the format detection come first
  by_cases hnil : src.rest = []
  · simp only [hnil, if_true]
    rfl
  · by_cases hshort : src.rest.length < 4
    · simp only [hnil, hshort, if_true, if_false]
      rfl
    · simp only [hnil, hshort, if_false]
      cases captureFormat _ with
      | error e => rfl
      | ok format =>
        cases format with
        | pcapng =>
          dsimp only
          rw [forEach_eq, hrest]
          exact feed_blocks now onPacket _ [] b _
        | pcap flavor =>
          rcases readPcapGlobalHeader_eq flavor _ with ⟨hheader, hbehind⟩
          rw [hrest] at hheader hbehind
          dsimp only
          generalize readPcapGlobalHeader flavor _ = read at hheader hbehind ⊢
          rcases read with ⟨result, src''⟩
          subst hheader
          by_cases hcut : src.rest.length < 24
          · simp only [hcut, if_true]
            rfl
          · simp only [hcut, if_false]
            cases parsePcapGlobalHeader flavor _ with
            | error e => rfl
            | ok linktype =>
              dsimp only
              rw [forEach_eq, hbehind]

end

/-! ## The file path of the engine -/

section

variable {δ μ σ : Type} [SessionDecoder δ] [FrameMonitors μ] [BronzeSink σ]

/-- The hash of everything behind the current position; the source is moved back there. -/
def computeSegmentHash (src : Source) : String × Source :=
  let start := src.pos
  let (bytes, src) := (src.seek start).readAll (64 * 1024)
  (hashText bytes, src.seek start)

variable (engine : DpiEngine δ μ) (now : DateTime) (info : SegmentMeta) (src : Source)

def processSegment (sink : σ) : Except DpiError SegmentCheckpoint × Stream δ μ σ :=
  let (segmentHash, src) := computeSegmentHash src
  match readCapturePackets now (fun s packet => ingestFrame info s (segmentHash, packet))
      (Stream.start engine now sink) src with
  | (.error e, s) => (.error e, s)
  | (.ok _, s) => finalizeStream info segmentHash s

lemma computeSegmentHash_eq :
    (computeSegmentHash src).1 = hashText src.rest ∧
      (computeSegmentHash src).2.rest = src.rest := by
  have hbytes : ((src.seek src.pos).readAll (64 * 1024)).1 = src.rest := readAll_bytes (by decide) _
  have hdata : ((src.seek src.pos).readAll (64 * 1024)).2.data = src.data := readAll_data _ _
  constructor
  · simp only [computeSegmentHash, hbytes]
  · simp only [computeSegmentHash, seek_rest, hdata]
    rfl

lemma feed_ingestFrame (segmentHash : String)
    (outcome : Except DpiError Unit) (s : Stream δ μ σ) (packets : List PacketRecord) :
    feed (fun s packet => ingestFrame info s (segmentHash, packet)) s packets outcome =
      (match ingestUntilError info s (packets.map fun packet => (segmentHash, packet)) with
        | (.error e, s) => (.error e, s)
        | (.ok _, s) => (outcome, s)) := by
  induction packets generalizing s with
  | nil => rfl
  | cons packet packets ih =>
    simp only [feed, List.map_cons, ingestUntilError]
    rcases ingestFrame info s _ with ⟨result, s'⟩
    cases result with
    | error e => rfl
    | ok _ => exact ih s'

def captureSegment (bytes : List UInt8) : Segment :=
  { info
    inputs := (capturePackets now bytes).1.map fun packet => (hashText bytes, packet)
    sourceEnd := (capturePackets now bytes).2
    finalHash := hashText bytes }

theorem processSegment_eq_runSegment (sink : σ) :
    processSegment engine now info src sink = runSegment engine now sink
      (captureSegment now info src.rest) := by
  rcases computeSegmentHash_eq src with ⟨hhash, hrest⟩
  simp only [processSegment, runSegment, captureSegment]
  rw [hhash, readCapturePackets_eq, hrest, feed_ingestFrame]
  rcases ingestUntilError info _
    ((capturePackets now _).1.map fun packet => (hashText src.rest, packet)) with ⟨result, s⟩
  cases result with
  | error e => rfl
  | ok _ =>
    cases (capturePackets now _).2 with
    | error e => rfl
    | ok _ => rfl

end

end MarlinspikeDpi.Capture
