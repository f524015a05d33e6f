import Mathlib.Data.Set.List
import MarlinspikeDpi.Capture.Reader

/-!
# Reading back a pcapng file

A pcapng file is a sequence of sections, each with its own byte order and its own interfaces.

* `pcapng_read_back`: which files are read back.
-/

namespace MarlinspikeDpi.Capture

open Bytes Engine ByteOrder List External RecordReader

/-! ## Files -/

def padding (n : Nat) : List UInt8 := List.replicate ((4 - n % 4) % 4) 0

structure NgOption where
  code : UInt16
  value : List UInt8
  code_ne_zero : code ≠ 0
  length_lt : value.length < 2 ^ 16

variable (order : ByteOrder)

def NgOption.encode (o : NgOption) : List UInt8 :=
  order.encode 2 o.code.toNat ++
    (order.encode 2 o.value.length ++ (o.value ++ padding o.value.length))

/-- A list of options, closed by the option with code zero; no options take up no space. -/
def encodeOptions (options : List NgOption) : List UInt8 :=
  if options = [] then [] else options.flatMap (NgOption.encode order) ++ order.encode 4 0

structure NgInterface where
  dlt : UInt16
  snaplen : UInt32
  options : List NgOption

open NgInterface

namespace NgInterface

def linktype (i : NgInterface) : LinkType := (LinkType.fromDlt i.dlt.toNat).getD .ethernet

/-- The resolution option `if_tsresol`. -/
def tsresol (i : NgInterface) : Option UInt8 :=
  (i.options.find? fun o => o.code = 9).bind fun o => o.value.head?

/-- Ticks per second: a power of ten, a power of two if the highest bit is set, microseconds if the
option is absent. -/
def ticksPerSecond (i : NgInterface) : Nat :=
  match i.tsresol with
  | none => 10 ^ 6
  | some r => if r.toNat < 128 then 10 ^ r.toNat else 2 ^ (r.toNat - 128)

end NgInterface

structure NgPacket where
  interfaceId : UInt32
  ticks : UInt64
  origLen : UInt32
  data : List UInt8
  options : List NgOption

/-- A block of any other type than those the reader looks into. -/
structure NgOther where
  blockType : UInt32
  body : List UInt8
  aligned : body.length % 4 = 0
  not_interface : blockType ≠ 1
  not_packet : blockType ≠ 6
  not_section : blockType ≠ 0x0A0D0D0A

inductive NgBlock where
  | interface (i : NgInterface)
  | packet (p : NgPacket)
  | other (o : NgOther)

open NgBlock

namespace NgBlock

def blockType : NgBlock → Nat
  | interface _ => 1
  | packet _ => 6
  | other o => o.blockType.toNat

def body (order : ByteOrder) : NgBlock → List UInt8
  | interface i =>
    order.encode 2 i.dlt.toNat ++ (order.encode 2 0 ++ (order.encode 4 i.snaplen.toNat ++
      encodeOptions order i.options))
  | packet p =>
    order.encode 4 p.interfaceId.toNat ++ (order.encode 4 (p.ticks.toNat / 2 ^ 32) ++
      (order.encode 4 (p.ticks.toNat % 2 ^ 32) ++ (order.encode 4 p.data.length ++
        (order.encode 4 p.origLen.toNat ++
          (p.data ++ (padding p.data.length ++ encodeOptions order p.options))))))
  | other o => o.body

/-- Every packet names an interface that is declared before it; `n` of them are already. -/
def NamesDeclared : Nat → List NgBlock → Prop
  | _, [] => True
  | n, interface _ :: blocks => NamesDeclared (n + 1) blocks
  | n, packet p :: blocks => p.interfaceId.toNat < n ∧ NamesDeclared n blocks
  | n, other _ :: blocks => NamesDeclared n blocks

end NgBlock

def encodeBlock (blockType : Nat) (body : List UInt8) : List UInt8 :=
  order.encode 4 blockType ++
    (order.encode 4 (12 + body.length) ++ (body ++ order.encode 4 (12 + body.length)))

def NgBlock.encode (block : NgBlock) : List UInt8 :=
  encodeBlock order block.blockType (block.body order)

/-- The body of a Section Header Block: byte-order magic, version 1.0, length of the section. -/
def sectionHeader (sectionLength : UInt64) (options : List NgOption) : List UInt8 :=
  order.encode 4 0x1A2B3C4D ++ (order.encode 2 1 ++ (order.encode 2 0 ++
    (order.encode 8 sectionLength.toNat ++ encodeOptions order options)))

/-- A well-formed section: its blocks fit their length fields, and its packets name interfaces that
the section has declared. -/
structure NgSection where
  order : ByteOrder
  sectionLength : UInt64
  options : List NgOption
  blocks : List NgBlock
  header_fits : 12 + (sectionHeader order sectionLength options).length < 2 ^ 32
  blocks_fit : ∀ block ∈ blocks, 12 + (block.body order).length < 2 ^ 32
  namesDeclared : NgBlock.NamesDeclared 0 blocks

open NgSection

namespace NgSection

def encodedBlocks (s : NgSection) : List (List UInt8) :=
  encodeBlock s.order 0x0A0D0D0A (sectionHeader s.order s.sectionLength s.options) ::
    s.blocks.map (NgBlock.encode s.order)

end NgSection

def pcapngFile (sections : List NgSection) : List UInt8 :=
  (sections.flatMap NgSection.encodedBlocks).flatten

/-! ## The packets of a file -/

/-- The packet on its interface: link type and time are those of the interface. -/
def NgPacket.record (p : NgPacket) (i : Option NgInterface) : PacketRecord :=
  { interfaceId := p.interfaceId, linktype := (i.map NgInterface.linktype).getD .ethernet,
    timestamp := ⟨p.ticks.toNat * 1000000000 / (i.map NgInterface.ticksPerSecond).getD (10 ^ 6)⟩,
    capturedLen := p.data.length, origLen := p.origLen, data := p.data }

/-- The packets among some blocks, given the interfaces that were declared before. -/
def NgBlock.packets : List NgInterface → List NgBlock → List PacketRecord
  | _, [] => []
  | interfaces, interface i :: blocks => packets (interfaces ++ [i]) blocks
  | interfaces, packet p :: blocks => p.record interfaces[p.interfaceId.toNat]? ::
    packets interfaces blocks
  | interfaces, other _ :: blocks => packets interfaces blocks

def NgSection.packets (s : NgSection) : List PacketRecord := NgBlock.packets [] s.blocks

/-! ## Single blocks -/

section

@[simp] lemma length_encodeBlock {blockType : Nat} {body : List UInt8} (order : ByteOrder) :
    (encodeBlock order blockType body).length = 12 + body.length := by
  simp only [encodeBlock, length_append, length_encode]
  omega

lemma encodeBlock_blockType {blockType : Nat} {body : List UInt8} (htype : blockType < 2 ^ 32) :
    leNat (slice (encodeBlock .little blockType body) 0 4) = blockType := by
  rw [encodeBlock, slice_append_self (length_encode _ _ _)]
  exact leNat_toLe htype

lemma slice_encodeBlock {blockType : Nat} {body : List UInt8} {k n : Nat} (hk : 8 ≤ k)
    (hn : k - 8 + n ≤ body.length) :
    slice (encodeBlock .little blockType body) k n = slice body (k - 8) n := by
  have htype : (little.encode 4 blockType).length = 4 := length_encode _ _ _
  have hlen : (little.encode 4 (12 + body.length)).length = 4 := length_encode _ _ _
  have hskip : k - 4 - 4 = k - 8 := by omega
  rw [encodeBlock, slice_append_right (by omega), slice_append_right (by omega), htype, hlen, hskip,
    slice_append_left hn]

lemma pcapngInterfaceLinktype_other {blockType : Nat} {body : List UInt8}
    (htype : blockType < 2 ^ 32) (hne : blockType ≠ 1) :
    pcapngInterfaceLinktype (encodeBlock .little blockType body) = none := by
  have hshort : ¬ (encodeBlock .little blockType body).length < 12 := by
    rw [length_encodeBlock]
    omega
  unfold pcapngInterfaceLinktype
  rw [if_neg hshort, encodeBlock_blockType htype, if_pos hne]

lemma pcapngInterfaceLinktype_interface (i : NgInterface) :
    pcapngInterfaceLinktype (encodeBlock .little 1 ((interface i).body .little)) =
      some i.linktype := by
  have hshort : ¬ (encodeBlock .little 1 ((interface i).body .little)).length < 12 := by
    rw [length_encodeBlock]
    omega
  have hdlt : slice (encodeBlock .little 1 ((interface i).body .little)) 8 2 =
      toLe 2 i.dlt.toNat := by
    rw [slice_encodeBlock (by decide) (by simp [body])]
    exact slice_append_self (length_encode _ _ _)
  have hfits : i.dlt.toNat < 256 ^ 2 := i.dlt.toNat_lt
  unfold pcapngInterfaceLinktype
  rw [if_neg hshort, encodeBlock_blockType (by decide), hdlt, leNat_toLe hfits]
  rfl

end

section

variable [External] (block : RawBlock)

lemma pcapngPacketRecord_other (now : DateTime) {blockType : Nat} {body : List UInt8}
    (interfaces : List LinkType) (htype : blockType < 2 ^ 32) (hne : blockType ≠ 6) :
    pcapngPacketRecord now (encodeBlock .little blockType body) interfaces = .ok none := by
  have hshort : ¬ (encodeBlock .little blockType body).length < 12 := by
    rw [length_encodeBlock]
    omega
  unfold pcapngPacketRecord
  rw [if_neg hshort, encodeBlock_blockType htype, if_pos hne]

omit [External] in
lemma NgPacket.length_body (p : NgPacket) :
    20 + p.data.length ≤ ((packet p).body .little).length := by
  simp only [body, length_append, length_encode]
  omega

lemma timestampOpt_micros (hunix : External.ConvertsUnixTime) {ticks : Nat}
    (hrange : ticks / 1000000 ≤ 8210266876799) :
    timestampOpt (ticks / 1000000 : Nat) (ticks % 1000000 * 1000) =
      some ⟨(ticks : Int) * 1000000000 / 10 ^ 6⟩ := by
  have hnanos : ticks % 1000000 * 1000 < 1000000000 := by omega
  have hseconds : ((ticks / 1000000 : Nat) : Int) ≤ maxSeconds := by
    simp only [maxSeconds]
    omega
  rw [hunix _ _ (Int.natCast_nonneg _) hseconds hnanos]
  congr 2
  omega

omit [External] in
lemma NgPacket.fields (p : NgPacket) (hfits : 12 + ((packet p).body .little).length < 2 ^ 32) :
    let block := encodeBlock .little 6 ((packet p).body .little)
    leNat (slice block 8 4) = p.interfaceId.toNat ∧
      leNat (slice block 12 4) = p.ticks.toNat / 2 ^ 32 ∧
      leNat (slice block 16 4) = p.ticks.toNat % 2 ^ 32 ∧
      leNat (slice block 20 4) = p.data.length ∧
      leNat (slice block 24 4) = p.origLen.toNat ∧
      slice block 28 p.data.length = p.data := by
  intro block
  have hbody := p.length_body
  -- all fields lie in the first twenty bytes of the body, the data behind them
  have hfield : ∀ k n value, 8 ≤ k → k - 8 + n ≤ 20 → value < 256 ^ n →
      slice ((packet p).body .little) (k - 8) n = toLe n value →
      leNat (slice block k n) = value := by
    intro k n value hk hn hvalue hslice
    have hblock : slice block k n = slice ((packet p).body .little) (k - 8) n :=
      slice_encodeBlock hk (by omega)
    rw [hblock, hslice, leNat_toLe hvalue]
  have hticks := p.ticks.toNat_lt
  have hdata : slice block 28 p.data.length = slice ((packet p).body .little) 20 p.data.length :=
    slice_encodeBlock (by decide) hbody
  refine ⟨hfield 8 4 _ (by decide) (by decide) p.interfaceId.toNat_lt ?_,
    hfield 12 4 _ (by decide) (by decide) (by omega) ?_, hfield 16 4 _ (by decide) (by decide)
      (by omega) ?_,
    hfield 20 4 _ (by decide) (by decide) (by omega) ?_,
    hfield 24 4 _ (by decide) (by decide) p.origLen.toNat_lt ?_, hdata.trans ?_⟩
  all_goals simp [body, ByteOrder.encode, slice_append_right, slice_append_self]

lemma pcapngPacketRecord_packet (hunix : External.ConvertsUnixTime) (now : DateTime)
    (interfaces : List NgInterface) (p : NgPacket)
    (hfits : 12 + ((packet p).body .little).length < 2 ^ 32)
    (hmicro : ∀ i ∈ interfaces, i.ticksPerSecond = 10 ^ 6)
    (hrange : p.ticks.toNat / 1000000 ≤ 8210266876799) :
    pcapngPacketRecord now (encodeBlock .little 6 ((packet p).body .little))
      (interfaces.map linktype) = .ok (some (p.record interfaces[p.interfaceId.toNat]?)) := by
  have hbody := p.length_body
  have hlength : (encodeBlock .little 6 ((packet p).body .little)).length =
      12 + ((packet p).body .little).length := length_encodeBlock .little
  have hresolution : ((interfaces[p.interfaceId.toNat]?).map ticksPerSecond).getD (10 ^ 6) =
      10 ^ 6 := by
    cases hi : interfaces[p.interfaceId.toNat]? with
    | none => rfl
    | some i => exact hmicro i (mem_of_getElem? hi)
  have hticks : p.ticks.toNat / 2 ^ 32 * 2 ^ 32 + p.ticks.toNat % 2 ^ 32 = p.ticks.toNat :=
    Nat.div_add_mod' _ _
  rcases p.fields hfits with ⟨hid, hhigh, hlow, hcaptured, horig, hdata⟩
  unfold pcapngPacketRecord
  rw [if_neg (by omega), encodeBlock_blockType (by decide), if_neg (by decide), if_neg (by omega)]
  dsimp only
  rw [hid, hhigh, hlow, hcaptured, horig, hdata, hticks, timestampOpt_micros hunix hrange,
    if_neg (by omega), getElem?_map]
  rw [NgPacket.record, hresolution]
  simp

/-! ## Sections -/

def NgBlock.interfaces : List NgBlock → List NgInterface
  | [] => []
  | interface i :: blocks => i :: interfaces blocks
  | packet _ :: blocks => interfaces blocks
  | other _ :: blocks => interfaces blocks

/-- What the reader can follow in a block: a little-endian block of fitting length, microsecond
times in the range of the calendar. -/
structure NgBlock.Plain (block : NgBlock) : Prop where
  fits : 12 + (block.body .little).length < 2 ^ 32
  micro : ∀ i, block = interface i → i.ticksPerSecond = 10 ^ 6
  inRange : ∀ p, block = packet p → p.ticks.toNat / 1000000 ≤ 8210266876799

lemma blockPackets_blocks (hunix : External.ConvertsUnixTime) (now : DateTime)
    (outcome : Except DpiError Unit) (known : List NgInterface) (blocks : List NgBlock)
    (tail : List (List UInt8)) (hknown : ∀ i ∈ known, i.ticksPerSecond = 10 ^ 6)
    (hplain : ∀ block ∈ blocks, block.Plain) :
    blockPackets now outcome (known.map linktype) (blocks.map (NgBlock.encode .little) ++ tail) =
      (NgBlock.packets known blocks ++
        (blockPackets now outcome ((known ++ interfaces blocks).map linktype) tail).1,
        (blockPackets now outcome ((known ++ interfaces blocks).map linktype) tail).2) := by
  -- an interface block extends what is known, a packet block uses it, others change nothing
  induction blocks generalizing known with
  | nil => simp [NgBlock.packets, NgBlock.interfaces]
  | cons block blocks ih =>
    have hblock := hplain block mem_cons_self
    have hrest : ∀ b ∈ blocks, b.Plain := fun b hb => hplain b (mem_cons_of_mem _ hb)
    rw [map_cons, cons_append]
    cases block with
    | interface i =>
      have hknown' : ∀ j ∈ known ++ [i], j.ticksPerSecond = 10 ^ 6 := by
        intro j hj
        rcases mem_append.1 hj with hold | hnew
        · exact hknown j hold
        · exact mem_singleton.1 hnew ▸ hblock.micro i rfl
      have hnext := ih _ hknown' hrest
      rw [map_append, append_assoc] at hnext
      have hinterface : pcapngInterfaceLinktype ((interface i).encode .little) =
          some i.linktype := pcapngInterfaceLinktype_interface i
      rw [blockPackets_interface hinterface]
      exact hnext
    | packet p =>
      have hinterface : pcapngInterfaceLinktype ((packet p).encode .little) = none :=
        pcapngInterfaceLinktype_other (by decide : 6 < 2 ^ 32) (by decide : 6 ≠ 1)
      have hpacket := pcapngPacketRecord_packet hunix now known p hblock.fits hknown
        (hblock.inRange p rfl)
      rw [blockPackets_packet hinterface hpacket, ih known hknown hrest]
      rfl
    | other o =>
      have htype : o.blockType.toNat < 2 ^ 32 := o.blockType.toNat_lt
      have hinterface : pcapngInterfaceLinktype ((other o).encode .little) = none :=
        pcapngInterfaceLinktype_other htype fun h => o.not_interface (UInt32.toNat_inj.1 h)
      have hpacket : pcapngPacketRecord now ((other o).encode .little) (known.map linktype) =
        .ok none :=
        pcapngPacketRecord_other now _ htype fun h => o.not_packet (UInt32.toNat_inj.1 h)
      rw [blockPackets_skip hinterface hpacket, ih known hknown hrest]
      rfl

omit [External] in
lemma NgBlock.mem_interfaces {blocks : List NgBlock} {i : NgInterface} (h : i ∈ interfaces blocks) :
    interface i ∈ blocks := by
  induction blocks with
  | nil => cases h
  | cons block blocks ih =>
    cases block with
    | interface j =>
      rcases mem_cons.1 h with rfl | hrest
      · exact mem_cons_self
      · exact mem_cons_of_mem _ (ih hrest)
    | packet p => exact mem_cons_of_mem _ (ih h)
    | other o => exact mem_cons_of_mem _ (ih h)

/-- The reader numbers the interfaces of all sections in one list. With `known` from earlier
sections and `own` from this one, each packet's number gives the link type there that it has in its
section. -/
def NgBlock.SameLink (known : List NgInterface) : List NgInterface → List NgBlock → Prop
  | _, [] => True
  | own, interface i :: blocks => SameLink known (own ++ [i]) blocks
  | own, packet p :: blocks =>
    (known ++ own)[p.interfaceId.toNat]?.map linktype = own[p.interfaceId.toNat]?.map linktype ∧
      SameLink known own blocks
  | own, other _ :: blocks => SameLink known own blocks

/-- The same for the sections that follow some known interfaces. -/
def NgSection.SameLinks : List NgInterface → List NgSection → Prop
  | _, [] => True
  | known, s :: sections =>
    NgBlock.SameLink known [] s.blocks ∧ SameLinks (known ++ NgBlock.interfaces s.blocks) sections

omit [External] in
lemma NgPacket.record_congr (p : NgPacket) {i j : Option NgInterface}
    (hlink : i.map linktype = j.map linktype)
    (hi : ∀ k ∈ i, k.ticksPerSecond = 10 ^ 6) (hj : ∀ k ∈ j, k.ticksPerSecond = 10 ^ 6) :
    p.record i = p.record j := by
  cases i <;> cases j <;> simp_all [NgPacket.record]

omit [External] in
lemma NgBlock.packets_of_sameLink {blocks : List NgBlock} {known own : List NgInterface}
    (hlink : SameLink known own blocks) (hmicro : ∀ i ∈ known ++ own, i.ticksPerSecond = 10 ^ 6)
    (hblocks : ∀ i, interface i ∈ blocks → i.ticksPerSecond = 10 ^ 6) :
    packets (known ++ own) blocks = packets own blocks := by
  induction blocks generalizing own with
  | nil => rfl
  | cons block blocks ih =>
    have hrest : ∀ i, interface i ∈ blocks → i.ticksPerSecond = 10 ^ 6 :=
      fun i hi => hblocks i (mem_cons_of_mem _ hi)
    cases block with
    | interface i =>
      rw [packets, packets, append_assoc]
      refine ih hlink ?_ hrest
      rw [← append_assoc]
      exact forall_mem_append.2 ⟨hmicro, by simpa using hblocks i mem_cons_self⟩
    | packet p =>
      have hrecord := p.record_congr hlink.1 (fun k hk => hmicro k (mem_of_getElem? hk))
        (fun k hk => hmicro k (mem_append_right _ (mem_of_getElem? hk)))
      rw [packets, packets, hrecord, ih hlink.2 hmicro hrest]
    | other o => exact ih hlink hmicro hrest

/-- Files that the reader can follow: little-endian sections and microsecond times in the range of
the calendar. -/
structure PlainFile (sections : List NgSection) : Prop where
  little : ∀ s ∈ sections, s.order = .little
  micro : ∀ s ∈ sections, ∀ i, NgBlock.interface i ∈ s.blocks → i.ticksPerSecond = 10 ^ 6
  inRange : ∀ s ∈ sections, ∀ p, NgBlock.packet p ∈ s.blocks →
    p.ticks.toNat / 1000000 ≤ 8210266876799

omit [External] in
lemma PlainFile.tail {s : NgSection} {sections : List NgSection} (h : PlainFile (s :: sections)) :
    PlainFile sections where
  little := fun s' hs => h.little s' (mem_cons_of_mem _ hs)
  micro := fun s' hs => h.micro s' (mem_cons_of_mem _ hs)
  inRange := fun s' hs => h.inRange s' (mem_cons_of_mem _ hs)

omit [External] in
lemma PlainFile.plain {s : NgSection} {sections : List NgSection} (h : PlainFile (s :: sections)) :
    ∀ block ∈ s.blocks, block.Plain := by
  intro block hblock
  refine ⟨?_, ?_, ?_⟩
  · have hfits := s.blocks_fit block hblock
    rw [h.little s mem_cons_self] at hfits
    exact hfits
  · rintro i rfl
    exact h.micro s mem_cons_self i hblock
  · rintro p rfl
    exact h.inRange s mem_cons_self p hblock

lemma blockPackets_sectionHeader (now : DateTime) (outcome : Except DpiError Unit)
    (interfaces : List LinkType) (body : List UInt8) (blocks : List (List UInt8)) :
    blockPackets now outcome interfaces (encodeBlock .little 0x0A0D0D0A body :: blocks) =
      blockPackets now outcome interfaces blocks :=
  blockPackets_skip (pcapngInterfaceLinktype_other (by decide) (by decide))
    (pcapngPacketRecord_other now interfaces (by decide) (by decide))

/-- The blocks of a plain file, read with the interfaces of earlier sections still known. -/
theorem blockPackets_sections (hunix : External.ConvertsUnixTime) (now : DateTime)
    (known : List NgInterface) (sections : List NgSection) (hplain : PlainFile sections)
    (hlinks : NgSection.SameLinks known sections)
    (hknown : ∀ i ∈ known, i.ticksPerSecond = 10 ^ 6) :
    blockPackets now (.ok ()) (known.map linktype) (sections.flatMap encodedBlocks) =
      (sections.flatMap packets, .ok ()) := by
  induction sections generalizing known with
  | nil => rfl
  | cons s sections ih =>
    have hlittle := hplain.little s mem_cons_self
    have hblocks := blockPackets_blocks hunix now (.ok ()) known _ (sections.flatMap encodedBlocks)
      hknown hplain.plain
    have hmicro := hplain.micro s mem_cons_self
    have hall : ∀ i ∈ known ++ interfaces s.blocks, i.ticksPerSecond = 10 ^ 6 :=
      forall_mem_append.2 ⟨hknown, fun i hi => hmicro i (mem_interfaces hi)⟩
    have hown : NgBlock.packets known s.blocks = s.packets := by
      have hsame := packets_of_sameLink hlinks.1 (by simpa using hknown) hmicro
      rwa [append_nil] at hsame
    rw [flatMap_cons, encodedBlocks, hlittle, cons_append, blockPackets_sectionHeader, hblocks,
      flatMap_cons, hown, ih _ hplain.tail hlinks.2 hall]

/-! ## The file -/

structure RawBlock where
  blockType : UInt32
  body : List UInt8
  fits : 12 + body.length < 2 ^ 32

omit [External] in
lemma pcapngBlockLen_header :
    pcapngBlockLen (toLe 4 block.blockType.toNat ++ toLe 4 (12 + block.body.length)) =
      12 + block.body.length := by
  rw [pcapngBlockLen, slice_append_right (by simp), length_toLe, slice_self (by simp),
    leNat_toLe block.fits]

def RawBlock.header (block : RawBlock) : List UInt8 :=
  toLe 4 block.blockType.toNat ++ toLe 4 (12 + block.body.length)

omit [External] in
lemma RawBlock.length_header : block.header.length = pcapngBlock.headerLen := by
  rw [RawBlock.header, length_append, length_toLe, length_toLe]
  rfl

omit [External] in
lemma RawBlock.parseHeader_header : pcapngBlock.parseHeader block.header = .ok block.header := by
  have hlen : ¬ pcapngBlockLen block.header < 12 := by
    rw [RawBlock.header, pcapngBlockLen_header]
    omega
  exact if_neg hlen

omit [External] in
lemma RawBlock.bodyLen_header :
    pcapngBlock.bodyLen block.header = (block.body ++ toLe 4 (12 + block.body.length)).length := by
  have hlen : pcapngBlockLen block.header = 12 + block.body.length := pcapngBlockLen_header block
  simp only [pcapngBlock, hlen, length_append, length_toLe]
  omega

def pcapngEncoder : pcapngBlock.Encoder RawBlock :=
  { header := RawBlock.header
    body := fun block => block.body ++ toLe 4 (12 + block.body.length)
    parsed := RawBlock.header
    length_header := RawBlock.length_header
    parseHeader_header := RawBlock.parseHeader_header
    bodyLen_parsed := RawBlock.bodyLen_header }

omit [External] in
lemma pcapngEncoder_encode :
    pcapngEncoder.codec.encode block = encodeBlock .little block.blockType.toNat block.body := by
  calc
    pcapngEncoder.codec.encode block
        = toLe 4 block.blockType.toNat ++ toLe 4 (12 + block.body.length) ++
            (block.body ++ toLe 4 (12 + block.body.length)) := rfl
    _ = encodeBlock .little block.blockType.toNat block.body := append_assoc _ _ _

omit [External] in
lemma encodedBlocks_mem_range {s : NgSection} (hlittle : s.order = .little) {bytes : List UInt8}
    (h : bytes ∈ s.encodedBlocks) : bytes ∈ Set.range pcapngEncoder.codec.encode := by
  have hheader := s.header_fits
  have hblocks := s.blocks_fit
  rw [encodedBlocks, hlittle] at h
  rw [hlittle] at hheader hblocks
  rcases mem_cons.1 h with rfl | hblock
  · -- the section header
    exact ⟨⟨0x0A0D0D0A, _, hheader⟩, pcapngEncoder_encode _⟩
  · rcases mem_map.1 hblock with ⟨block, hmem, rfl⟩
    have htype : (UInt32.ofNat block.blockType).toNat = block.blockType := by
      cases block with
      | interface i => rfl
      | packet p => rfl
      | other o => exact UInt32.toNat_ofNat_of_lt' o.blockType.toNat_lt
    refine ⟨⟨UInt32.ofNat block.blockType, block.body .little, hblocks block hmem⟩, ?_⟩
    rw [pcapngEncoder_encode, htype]
    rfl

omit [External] in
lemma items_pcapngFile {sections : List NgSection} (hlittle : ∀ s ∈ sections, s.order = .little) :
    readPcapngBlock.items (pcapngFile sections) = (sections.flatMap encodedBlocks, .ok ()) := by
  have hrange : sections.flatMap encodedBlocks ∈
      Set.range (List.map pcapngEncoder.codec.encode) := by
    rw [Set.range_list_map]
    intro bytes hbytes
    rcases mem_flatMap.1 hbytes with ⟨s, hs, hmem⟩
    exact encodedBlocks_mem_range (hlittle s hs) hmem
  rcases hrange with ⟨blocks, hblocks⟩
  have hitems := pcapngEncoder.codec.items_file blocks
  have hvalue : blocks.map pcapngEncoder.codec.value = blocks.map pcapngEncoder.codec.encode := rfl
  rw [hvalue, Codec.file, flatMap_def, hblocks] at hitems
  exact hitems

/-- A little-endian file whose times are in microseconds, and in which no packet's number gives
another link type when the interfaces of all sections are counted together, is read back: exactly
its Enhanced Packet Blocks are delivered, in order, each with the link type of its interface within
its section and with its time, whatever the schedule of reads. -/
theorem pcapng_read_back (hunix : External.ConvertsUnixTime) (first : NgSection)
    (more : List NgSection) (hplain : PlainFile (first :: more))
    (hlinks : NgSection.SameLinks [] (first :: more)) (now : DateTime) (src : Source)
    (hrest : src.rest = pcapngFile (first :: more)) :
    readCapturePackets now RecordReader.collect [] src =
      (.ok (), (first :: more).flatMap NgSection.packets) := by
  have hblocks := blockPackets_sections hunix now [] (first :: more) hplain hlinks
    (fun i hi => absurd hi (not_mem_nil))
  have hitems := items_pcapngFile hplain.little
  -- the file begins with the block type of a section header
  have hmagic : ∃ tail, pcapngFile (first :: more) = 0x0A :: 0x0D :: 0x0D :: 0x0A :: tail := by
    rw [pcapngFile, flatMap_cons, encodedBlocks, hplain.little first mem_cons_self]
    exact ⟨_, rfl⟩
  have hpackets : capturePackets now (pcapngFile (first :: more)) =
      blockPackets now (readPcapngBlock.items (pcapngFile (first :: more))).2 []
        (readPcapngBlock.items (pcapngFile (first :: more))).1 := by
    rcases hmagic with ⟨tail, htail⟩
    rw [htail]
    simp [capturePackets, captureFormat]
  rw [readCapturePackets_eq, feed_collect, hrest, hpackets, hitems]
  simp only [nil_append]
  rw [map_nil] at hblocks
  rw [hblocks]

end

/-! ## Resolutions that the reader does not know -/

def nanoInterface : NgInterface :=
  { dlt := 101
    snaplen := 0
    options := [⟨9, [9], by decide, by decide⟩] }

def microInterface : NgInterface :=
  { dlt := 101, snaplen := 0, options := [] }

def packetAt (ticks : UInt64) : NgPacket :=
  { interfaceId := 0, ticks, origLen := 1, data := [0x45], options := [] }

def sectionOn (i : NgInterface) (hfits : 12 + ((NgBlock.interface i).body .little).length < 2 ^ 32)
    (ticks : UInt64) : NgSection :=
  { order := .little
    sectionLength := 0
    options := []
    blocks := [.interface i, .packet (packetAt ticks)]
    header_fits := by decide
    blocks_fit := by
      intro block hblock
      rcases mem_pair.1 hblock with rfl | rfl
      · exact hfits
      · simp [NgBlock.body, packetAt, padding, encodeOptions]
    namesDeclared := ⟨Nat.zero_lt_one, trivial⟩ }

def twoSections : List NgSection :=
  [sectionOn microInterface (by decide) 1500000, sectionOn microInterface (by decide) 2500000]

/-- Two sections with an interface with microsecond times in each, read byte by byte. -/
theorem twoSections_read_back :
    letI : External := sample
    readCapturePackets ⟨0⟩ collect [] ⟨pcapngFile twoSections, 0, fun _ => 1, 0⟩ =
      (.ok (), [rawIpFrame ⟨1500000000⟩ [0x45], rawIpFrame ⟨2500000000⟩ [0x45]]) := by
  let _ : External := sample
  have hplain : PlainFile twoSections := by
    refine ⟨?_, ?_, ?_⟩
    · intro s hs
      rcases mem_pair.1 hs with rfl | rfl <;> rfl
    · intro s hs i hi
      rcases mem_pair.1 hs with rfl | rfl <;>
        (rcases mem_pair.1 hi with heq | heq <;> cases heq; decide)
    · intro s hs p hp
      rcases mem_pair.1 hs with rfl | rfl <;>
        (rcases mem_pair.1 hp with heq | heq <;> cases heq; decide)
  exact pcapng_read_back sample_convertsUnixTime _ _ hplain
    ⟨⟨rfl, trivial⟩, ⟨rfl, trivial⟩, trivial⟩ ⟨0⟩ ⟨pcapngFile twoSections, 0, fun _ => 1, 0⟩ rfl

/-- The reader takes every time in microseconds: a packet at one and a half seconds on an interface
with nanosecond times is delivered at one thousand and five hundred seconds. -/
theorem pcapng_resolution_ignored :
    letI : External := sample
    ¬ ∀ (first : NgSection) (more : List NgSection) (now : DateTime) (src : Source),
      src.rest = pcapngFile (first :: more) →
        readCapturePackets now collect [] src = (.ok (), (first :: more).flatMap packets) := by
  let _ : External := sample
  intro h
  have hread := h (sectionOn nanoInterface (by decide) 1500000000) [] ⟨0⟩
    ⟨pcapngFile [sectionOn nanoInterface (by decide) 1500000000], 0, fun _ => 1, 0⟩ rfl
  rw [readCapturePackets_eq, feed_collect] at hread
  revert hread
  decide

end MarlinspikeDpi.Capture
