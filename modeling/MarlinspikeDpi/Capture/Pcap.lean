import MarlinspikeDpi.Capture.Reader

/-!
# Reading back a classic pcap file

A classic capture is a global header of twenty-four bytes followed by packets, in one of four
flavors: two byte orders, microsecond or nanosecond fractions.

* `pcap_read_back`: what was written is read back, in every flavor.
-/

namespace MarlinspikeDpi.Capture

open Bytes Engine List External RecordReader

/-! ## Writing -/

namespace PcapFlavor

def order : PcapFlavor → ByteOrder
  | littleMicro | littleNano => .little
  | bigMicro | bigNano => .big

variable (flavor : PcapFlavor)

lemma readUint_eq : flavor.readUint = flavor.order.decode := by
  cases flavor <;> rfl

def writeUint (w n : Nat) : List UInt8 := flavor.order.encode w n

@[simp] lemma length_writeUint (w n : Nat) : (flavor.writeUint w n).length = w :=
  ByteOrder.length_encode _ w n

lemma readUint_writeUint {w n : Nat} (h : n < 256 ^ w) :
    flavor.readUint (flavor.writeUint w n) = n := by
  rw [readUint_eq]
  exact ByteOrder.decode_encode _ h

def magic : List UInt8 :=
  match flavor with
  | littleMicro | bigMicro => flavor.writeUint 4 0xA1B2C3D4
  | littleNano | bigNano => flavor.writeUint 4 0xA1B23C4D

@[simp] lemma length_magic : flavor.magic.length = 4 := by
  cases flavor <;> rfl

lemma captureFormat_magic : captureFormat flavor.magic = .ok (.pcap flavor) := by
  cases flavor <;> decide

end PcapFlavor

/-- A global header of version 2.4 with a supported link type; the reader ignores the rest. -/
structure PcapHeader where
  (thiszone sigfigs snaplen : UInt32)
  linktype : LinkType

open PcapHeader

/-- A packet as it is stored.  The fraction is in units of the flavor and less than a second, and
the captured bytes fit the length field. -/
structure PcapPacket (flavor : PcapFlavor) where
  (seconds fraction origLen : UInt32)
  data : List UInt8
  fraction_lt : fraction.toNat * flavor.timestampUnitNanos < 1000000000
  length_lt : data.length < 2 ^ 32

open PcapPacket

def PcapHeader.encode (flavor : PcapFlavor) (header : PcapHeader) : List UInt8 :=
  flavor.magic ++ (flavor.writeUint 2 2 ++ (flavor.writeUint 2 4 ++
    (flavor.writeUint 4 header.thiszone.toNat ++ (flavor.writeUint 4 header.sigfigs.toNat ++
      (flavor.writeUint 4 header.snaplen.toNat ++ flavor.writeUint 4 header.linktype.dlt)))))

def PcapPacket.encodeHeader {flavor : PcapFlavor} (packet : PcapPacket flavor) : List UInt8 :=
  flavor.writeUint 4 packet.seconds.toNat ++ (flavor.writeUint 4 packet.fraction.toNat ++
    (flavor.writeUint 4 packet.data.length ++ flavor.writeUint 4 packet.origLen.toNat))

def pcapFile {flavor : PcapFlavor} (header : PcapHeader) (packets : List (PcapPacket flavor)) :
    List UInt8 :=
  header.encode flavor ++ packets.flatMap fun packet => packet.encodeHeader ++ packet.data

def PcapPacket.record {flavor : PcapFlavor} (linktype : LinkType) (packet : PcapPacket flavor) :
    PacketRecord :=
  { interfaceId := 0, linktype,
    timestamp :=
      ⟨packet.seconds.toNat * 1000000000 +
        (packet.fraction.toNat * flavor.timestampUnitNanos : Nat)⟩,
    capturedLen := packet.data.length, origLen := packet.origLen, data := packet.data }

/-! ## Reading -/

lemma PcapHeader.length_encode (flavor : PcapFlavor) (header : PcapHeader) :
    (header.encode flavor).length = 24 := by
  simp [encode]

lemma parsePcapGlobalHeader_encode {flavor : PcapFlavor} (header : PcapHeader) :
    parsePcapGlobalHeader flavor (header.encode flavor) = .ok header.linktype := by
  have hmajor : slice (header.encode flavor) 4 2 = flavor.writeUint 2 2 := by
    simp [encode, slice_append_right, slice_append_self]
  have hminor : slice (header.encode flavor) 6 2 = flavor.writeUint 2 4 := by
    simp [encode, slice_append_right, slice_append_self]
  have hnetwork : slice (header.encode flavor) 20 4 = flavor.writeUint 4 header.linktype.dlt := by
    simp [encode, slice_append_right, slice_self]
  have hdlt : header.linktype.dlt < 256 ^ 4 := by cases header.linktype <;> decide
  simp only [parsePcapGlobalHeader, hmajor, hminor, hnetwork]
  rw [flavor.readUint_writeUint (by decide : 2 < 256 ^ 2),
    flavor.readUint_writeUint (by decide : 4 < 256 ^ 2), flavor.readUint_writeUint hdlt]
  simp

section

variable [External]

lemma capturePackets_pcap {flavor : PcapFlavor} (now : DateTime) (header : PcapHeader)
    (bytes : List UInt8) :
    capturePackets now (header.encode flavor ++ bytes) =
      (readPcapPacket flavor header.linktype).items bytes := by
  have hlen := header.length_encode flavor
  have hlong : 24 ≤ (header.encode flavor ++ bytes).length := by
    rw [length_append]
    omega
  have hne : header.encode flavor ++ bytes ≠ [] := by
    intro hnil
    rw [hnil] at hlong
    cases hlong
  have hmagic : (header.encode flavor ++ bytes).take 4 = flavor.magic := by
    rw [encode, append_assoc, ← flavor.length_magic, take_left]
  have hheader : (header.encode flavor ++ bytes).take 24 = header.encode flavor := by
    rw [← hlen, take_left]
  have hpackets : (header.encode flavor ++ bytes).drop 24 = bytes := by rw [← hlen, drop_left]
  unfold capturePackets
  rw [if_neg hne, if_neg (by omega), hmagic, flavor.captureFormat_magic]
  dsimp only
  rw [if_neg (by omega), hheader, hpackets, parsePcapGlobalHeader_encode]

def PcapPacket.parsed {flavor : PcapFlavor} (packet : PcapPacket flavor) : PcapPacketHeader :=
  { timestamp :=
    ⟨packet.seconds.toNat * 1000000000 + (packet.fraction.toNat * flavor.timestampUnitNanos : Nat)⟩
    inclLen := packet.data.length
    origLen := packet.origLen }

lemma parsePcapPacketHeader_encodeHeader {flavor : PcapFlavor} (hunix : External.ConvertsUnixTime)
    (packet : PcapPacket flavor) :
    parsePcapPacketHeader flavor packet.encodeHeader = .ok packet.parsed := by
  have hsec : slice packet.encodeHeader 0 4 = flavor.writeUint 4 packet.seconds.toNat := by
    simp [encodeHeader, slice_append_self]
  have hfrac : slice packet.encodeHeader 4 4 = flavor.writeUint 4 packet.fraction.toNat := by
    simp [encodeHeader, slice_append_right, slice_append_self]
  have hincl : slice packet.encodeHeader 8 4 = flavor.writeUint 4 packet.data.length := by
    simp [encodeHeader, slice_append_right, slice_append_self]
  have horig : slice packet.encodeHeader 12 4 = flavor.writeUint 4 packet.origLen.toNat := by
    simp [encodeHeader, slice_append_right, slice_self]
  have hfits : ∀ x : UInt32, x.toNat < 256 ^ 4 := fun x => x.toNat_lt
  have hfraction := packet.fraction_lt
  simp only [parsePcapPacketHeader, hsec, hfrac, hincl, horig]
  rw [flavor.readUint_writeUint (hfits packet.seconds),
    flavor.readUint_writeUint (hfits _), flavor.readUint_writeUint packet.length_lt,
    flavor.readUint_writeUint (hfits _)]
  -- the fraction is below a second, so no second is carried over
  have hcarry := Nat.div_eq_of_lt hfraction
  have hnanos := Nat.mod_eq_of_lt hfraction
  have hseconds := packet.seconds.toNat_lt
  have htime := hunix packet.seconds.toNat _ (Int.natCast_nonneg _)
    (by simp only [maxSeconds]; omega) hfraction
  rw [if_neg (by omega), hcarry, hnanos, Int.natCast_zero, Int.add_zero, htime]
  simp [parsed]

def pcapEncoder (hunix : External.ConvertsUnixTime) (flavor : PcapFlavor) (linktype : LinkType) :
    (pcapPacket flavor linktype).Encoder (PcapPacket flavor) :=
  { header := PcapPacket.encodeHeader
    body := PcapPacket.data
    parsed := PcapPacket.parsed
    length_header := by
      intro packet
      simp [PcapPacket.encodeHeader, pcapPacket]
    parseHeader_header := parsePcapPacketHeader_encodeHeader hunix
    bodyLen_parsed := fun _ => rfl }

def pcapCodec (hunix : External.ConvertsUnixTime) (flavor : PcapFlavor) (linktype : LinkType) :
    Codec (readPcapPacket flavor linktype) (PcapPacket flavor) :=
      (pcapEncoder hunix flavor linktype).codec

lemma pcapFile_eq (hunix : External.ConvertsUnixTime) (flavor : PcapFlavor) (header : PcapHeader)
    (packets : List (PcapPacket flavor)) : pcapFile header packets =
      header.encode flavor ++ (pcapCodec hunix flavor header.linktype).file packets := rfl

lemma length_pcapFile_take (hunix : External.ConvertsUnixTime) (flavor : PcapFlavor)
    (header : PcapHeader) (packets : List (PcapPacket flavor)) (k : Nat) :
    (pcapFile header (packets.take k)).length =
      24 + (pcapCodec hunix flavor header.linktype).boundary packets k := by
  rw [pcapFile_eq, length_append, header.length_encode]
  rfl

/-- For each flavor, every list of packets and every schedule of reads: the reader hands exactly the
written packets to the callback. -/
theorem pcap_read_back (hunix : External.ConvertsUnixTime) (flavor : PcapFlavor)
    (header : PcapHeader) (packets : List (PcapPacket flavor)) (now : DateTime) (src : Source) :
    (src.rest = pcapFile header packets →
      readCapturePackets now RecordReader.collect [] src =
        (.ok (), packets.map (PcapPacket.record header.linktype))) ∧
    ∀ n, 24 ≤ n → n < (pcapFile header packets).length →
      src.rest = (pcapFile header packets).take n →
        ∃ k ≤ packets.length, (pcapFile header (packets.take k)).length ≤ n ∧
          (∀ j ≤ packets.length, (pcapFile header (packets.take j)).length ≤ n → j ≤ k) ∧
          (readCapturePackets now RecordReader.collect [] src).2 =
            (packets.take k).map (PcapPacket.record header.linktype) ∧
          ((readCapturePackets now RecordReader.collect [] src).1.isOk = true ↔
            ∃ j ≤ packets.length, n = (pcapFile header (packets.take j)).length) := by
  have hlen := header.length_encode flavor
  simp only [readCapturePackets_eq, feed_collect, nil_append, length_pcapFile_take hunix]
  refine ⟨?_, ?_⟩
  · intro hrest
    have hitems := (pcapCodec hunix flavor header.linktype).items_file packets
    rw [hrest, pcapFile_eq hunix, capturePackets_pcap, hitems]
    rfl
  · intro n hlow hhigh hrest
    -- the cut, counted from the end of the global header
    rcases Nat.exists_eq_add_of_le hlow with ⟨m, rfl⟩
    rw [pcapFile_eq hunix, length_append, hlen] at hhigh
    have hcut : src.rest = header.encode flavor ++
        ((pcapCodec hunix flavor header.linktype).file packets).take m := by
      rw [hrest, pcapFile_eq hunix, ← hlen, take_length_add_append]
    rw [hcut, capturePackets_pcap]
    have hm := Nat.le_of_lt (Nat.lt_of_add_lt_add_left hhigh)
    rcases Codec.exists_cutAt packets m hm with ⟨k, hk, hbefore, hmaximal, hitems, houtcome⟩
    refine ⟨k, hk, Nat.add_le_add_left hbefore 24, ?_, hitems, ?_⟩
    · intro j hj hle
      exact hmaximal j hj (Nat.le_of_add_le_add_left hle)
    · refine houtcome.trans ⟨?_, ?_⟩
      · rintro ⟨j, hj, rfl⟩
        exact ⟨j, hj, rfl⟩
      · rintro ⟨j, hj, heq⟩
        exact ⟨j, hj, Nat.add_left_cancel heq⟩

end

def twoBytePacket : PcapPacket .bigMicro :=
  { seconds := 1
    fraction := 500000
    origLen := 60
    data := [0x45, 0x00]
    fraction_lt := by decide
    length_lt := by decide }

def rawIpHeader : PcapHeader :=
  { thiszone := 0, sigfigs := 0, snaplen := 65535, linktype := .rawIp }

/-- A file with one packet, read byte by byte, whole and without its last byte. -/
theorem twoBytePacket_read_back :
    letI : External := sample
    readCapturePackets ⟨0⟩ collect []
        ⟨pcapFile rawIpHeader [twoBytePacket], 0, fun _ => 1, 0⟩ =
      (.ok (), [twoBytePacket.record .rawIp]) ∧
    (readCapturePackets ⟨0⟩ collect []
        ⟨(pcapFile rawIpHeader [twoBytePacket]).take 41, 0, fun _ => 1, 0⟩).1.isOk = false := by
  let _ : External := sample
  constructor
  · exact (pcap_read_back sample_convertsUnixTime .bigMicro rawIpHeader [twoBytePacket]
      ⟨0⟩ ⟨pcapFile rawIpHeader [twoBytePacket], 0, fun _ => 1, 0⟩).1 rfl
  · rcases (pcap_read_back sample_convertsUnixTime .bigMicro rawIpHeader [twoBytePacket]
      ⟨0⟩ ⟨(pcapFile rawIpHeader [twoBytePacket]).take 41, 0, fun _ => 1, 0⟩).2 41 (by decide)
      (by decide) rfl with ⟨k, _, _, _, _, houtcome⟩
    rw [Bool.eq_false_iff, Ne, houtcome]
    decide

end MarlinspikeDpi.Capture
