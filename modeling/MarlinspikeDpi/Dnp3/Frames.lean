import MarlinspikeDpi.Dnp3.Dissector

/-!
# What the dissector makes of link frames

The link layer of DNP3 cuts the user data of a frame into blocks of 16 bytes and puts a checksum
behind each of them.

* `decoded_iff`: which chunks are decoded as they were sent.
-/

namespace MarlinspikeDpi.Dnp3

open Engine Bytes Text List

/-! ## Frames -/

/-- One bit of the checksum, whose polynomial is written with its lowest power first. -/
def crcRound (c : UInt16) : UInt16 := if c &&& 1 = 1 then (c >>> 1) ^^^ 0xA6BC else c >>> 1

def crcByte (c : UInt16) (b : UInt8) : UInt16 := crcRound^[8] (c ^^^ b.toUInt16)

def crc (bytes : List UInt8) : UInt16 := bytes.foldl crcByte 0 ^^^ 0xFFFF

def crcBytes (bytes : List UInt8) : List UInt8 := toLe 2 (crc bytes).toNat

lemma length_crcBytes (bytes : List UInt8) : (crcBytes bytes).length = 2 := length_toLe 2 _

def withCrcs : Nat → List UInt8 → List UInt8
  | 0, _ => []
  | rounds + 1, data =>
    if data = [] then []
    else data.take 16 ++ crcBytes (data.take 16) ++ withCrcs rounds (data.drop 16)

def userBlocks (data : List UInt8) : List UInt8 := withCrcs data.length data

lemma length_withCrcs {rounds : Nat} {data : List UInt8} (h : data.length ≤ 16 * rounds) :
    (withCrcs rounds data).length = data.length + 2 * ((data.length + 15) / 16) := by
  induction rounds generalizing data with
  | zero =>
    have hnil : data = [] := length_eq_zero_iff.1 (by omega)
    subst hnil
    rfl
  | succ rounds ih =>
    by_cases hnil : data = []
    · subst hnil
      rfl
    · have hpos : 0 < data.length := length_pos_of_ne_nil hnil
      have hshort : (data.drop 16).length ≤ 16 * rounds := by
        rw [length_drop]
        omega
      have hrest := ih hshort
      simp only [withCrcs, if_neg hnil, length_append, length_take, length_crcBytes, hrest,
        length_drop]
      omega

lemma length_userBlocks (data : List UInt8) :
    (userBlocks data).length = data.length + 2 * ((data.length + 15) / 16) :=
  length_withCrcs (by omega)

/-- A frame of the link layer with the user data of a transport segment. -/
structure Frame where
  control : UInt8
  (destination source : UInt16)
  transport : UInt8
  /-- The bytes of the application layer that the segment carries. -/
  fragment : List UInt8
  fits : fragment.length ≤ 249

namespace Frame

def userData (f : Frame) : List UInt8 := f.transport :: f.fragment

/-- The length counts the control byte, the addresses and the user data. -/
def header (f : Frame) : List UInt8 :=
  [0x05, 0x64, UInt8.ofNat (5 + f.userData.length), f.control] ++ toLe 2 f.destination.toNat ++
    toLe 2 f.source.toNat

def encode (f : Frame) : List UInt8 := f.header ++ crcBytes f.header ++ userBlocks f.userData

def applicationData (f : Frame) : List UInt8 :=
  if f.fragment[1]?.any isResponse then f.fragment.drop 4 else f.fragment.drop 2

end Frame

variable (f : Frame)

lemma Frame.encode_append (rest : List UInt8) :
    f.encode ++ rest = (f.header ++ crcBytes f.header) ++ (userBlocks f.userData ++ rest) := by
  rw [encode, append_assoc]

lemma Frame.length_header : (f.header ++ crcBytes f.header).length = 10 := by
  simp [header, length_crcBytes]

/-! ## What the dissector finds -/

lemma userBlocks_cons (transport : UInt8) (fragment : List UInt8) :
    ∃ more, userBlocks (transport :: fragment) =
      transport :: (fragment.take 15 ++ crcBytes (transport :: fragment.take 15) ++ more) :=
  ⟨withCrcs _ _, rfl⟩

lemma userBlocks_of_length_le {data : List UInt8} (hpos : data ≠ []) (hfits : data.length ≤ 16) :
    userBlocks data = data ++ crcBytes data := by
  cases data with
  | nil => exact absurd rfl hpos
  | cons transport fragment =>
    have hshort : fragment.length ≤ 15 := Nat.le_of_succ_le_succ hfits
    have hdone : fragment.drop 15 = [] := drop_of_length_le hshort
    have hblock : fragment.take 15 = fragment := take_of_length_le hshort
    have hend : ∀ rounds, withCrcs rounds [] = [] := by
      intro rounds
      cases rounds <;> rfl
    have hcons : userBlocks (transport :: fragment) =
        transport :: (fragment.take 15 ++ crcBytes (transport :: fragment.take 15) ++
          withCrcs fragment.length (fragment.drop 15)) := rfl
    rw [hcons, hdone, hblock, hend, append_nil, cons_append]

/-- What the dissector takes for the application data, in the bytes behind the link header. -/
def behindHeader (body : List UInt8) : List UInt8 :=
  body.drop (if isResponse (byteAt body 2) then 5 else 3)

lemma ofNat_leNat_toLe (n : UInt16) : UInt16.ofNat (leNat (toLe 2 n.toNat)) = n := by
  rw [leNat_toLe n.toNat_lt, UInt16.ofNat_toNat]

/-- The dissector on a chunk that begins with a frame: of the link and the transport layer it finds
what the frame has, whatever follows. -/
theorem parse_encode (rest : List UInt8) : ∃ fields, parse (f.encode ++ rest) = some fields ∧
      fields.sourceAddress = f.source ∧ fields.destinationAddress = f.destination ∧
      fields.dllControl = f.control ∧ fields.transportSeq = f.transport &&& 0x3F ∧
      fields.transportFir = (f.transport &&& 0x40 != 0) ∧
        fields.transportFin = (f.transport &&& 0x80 != 0) ∧
      fields.applicationData = behindHeader (userBlocks f.userData ++ rest) := by
  obtain ⟨more, hblock⟩ := userBlocks_cons f.transport f.fragment
  have hfirst : byteAt (userBlocks f.userData ++ rest) 0 = f.transport := by
    rw [Frame.userData, hblock]
    rfl
  have hlong : 3 ≤ (userBlocks f.userData ++ rest).length := by
    rw [length_append, length_userBlocks, Frame.userData, length_cons]
    omega
  rw [f.encode_append]
  generalize userBlocks f.userData ++ rest = body at hfirst hlong ⊢
  -- the header has ten bytes, so every read falls into it or into what follows
  have hat : ∀ i, byteAt (f.header ++ crcBytes f.header ++ body) (10 + i) = byteAt body i :=
    fun i => by
    rw [← f.length_header, byteAt_append_right]
  have hlength : (f.header ++ crcBytes f.header ++ body).length = 10 + body.length := by
    rw [length_append, f.length_header]
  have hdrop : ∀ n, (f.header ++ crcBytes f.header ++ body).drop (10 + n) = body.drop n :=
    fun n => by
    rw [← f.length_header, drop_length_add_append]
  have hparse : parse (f.header ++ crcBytes f.header ++ body) =
      some (messageFields (f.header ++ crcBytes f.header ++ body)) := by
    rw [parse, if_neg, if_neg (by omega), if_neg (by omega)]
    rintro (hshort | hstart | hstart)
    · omega
    · exact hstart rfl
    · exact hstart rfl
  have htransport : byteAt (f.header ++ crcBytes f.header ++ body) 10 = f.transport :=
    (hat 0).trans hfirst
  refine ⟨_, hparse, ofNat_leNat_toLe f.source, ofNat_leNat_toLe f.destination, rfl, ?_, ?_, ?_, ?_⟩
  · exact congrArg (· &&& 0x3F) htransport
  · exact congrArg (· &&& 0x40 != 0) htransport
  · exact congrArg (· &&& 0x80 != 0) htransport
  · have hdata : ∀ data, (messageFields data).applicationData =
        data.drop (if isResponse (byteAt data (10 + 2)) then 10 + 5 else 10 + 3) := fun data => rfl
    rw [hdata, behindHeader, hat 2]
    split
    · exact hdrop 5
    · exact hdrop 3

/-! ## What the decoder reports -/

def isTransaction (event : BronzeEvent) : Bool :=
  match event.family with
  | .protocolTransaction _ => true
  | _ => false

lemma length_transactions [External] (f : Frame) (rest : List UInt8) (chunk : StreamChunk) :
    ((onStreamChunk { chunk with payload := f.encode ++ rest }).filter isTransaction).length =
      1 := by
  obtain ⟨fields, hparse, -⟩ := parse_encode f rest
  simp only [onStreamChunk, hparse]
  generalize ({ chunk with payload := f.encode ++ rest } : StreamChunk) = chunk
  have hartifacts : (artifacts chunk fields).filter isTransaction = [] := by
    unfold artifacts
    split <;> rfl
  have hroles : (dnp3RoleObservations chunk fields).filter isTransaction = [] := rfl
  rw [cons_append, filter_cons_of_pos rfl, filter_append, hartifacts]
  rfl

/-- The fragment is without application data, and what the dissector finds in its place happens to
be nothing. -/
def Frame.Bare : Prop :=
  match f.fragment with
  | [] => True
  | [_] => isResponse (byteAt (crcBytes f.userData) 0) = true
  | [_, functionCode] => isResponse functionCode = true
  | _ => False

lemma crcBytes_eq (bytes : List UInt8) : ∃ low high, crcBytes bytes = [low, high] := ⟨_, _, rfl⟩

lemma behindHeader_userBlocks_iff : behindHeader (userBlocks f.userData) = f.applicationData ↔
    f.Bare := by
  obtain ⟨control, destination, source, transport, fragment, fits⟩ := f
  obtain ⟨low, high, hcrc⟩ := crcBytes_eq (transport :: fragment)
  simp only [Frame.userData, Frame.applicationData, Frame.Bare]
  rcases fragment with _ | ⟨appControl, _ | ⟨functionCode, _ | ⟨first, more⟩⟩⟩
  · rw [userBlocks_of_length_le (by simp) (by simp), hcrc]
    -- three bytes, and the header that is taken for granted has as many
    simp only [behindHeader]
    split <;> simp
  · rw [userBlocks_of_length_le (by simp) (by simp), hcrc]
    have hcode : byteAt ([transport, appControl] ++ [low, high]) 2 = low := rfl
    rw [behindHeader, hcode]
    by_cases hresponse : isResponse low = true <;> simp [hresponse, byteAt]
  · rw [userBlocks_of_length_le (by simp) (by simp), hcrc]
    have hcode : byteAt ([transport, appControl, functionCode] ++ [low, high]) 2 =
      functionCode := rfl
    rw [behindHeader, hcode]
    by_cases hresponse : isResponse functionCode = true <;> simp [hresponse]
  · -- the checksums make what is found longer than the application data
    obtain ⟨rest, hblock⟩ := userBlocks_cons transport (appControl :: functionCode :: first :: more)
    have hcode : byteAt (userBlocks (transport :: appControl :: functionCode :: first :: more)) 2 =
        functionCode := by
      rw [hblock]
      rfl
    have hlength := length_userBlocks (transport :: appControl :: functionCode :: first :: more)
    simp only [length_cons] at hlength
    rw [behindHeader, hcode]
    constructor
    · intro hsame
      have hlengths := congrArg List.length hsame
      by_cases hresponse : isResponse functionCode = true
      · simp [hresponse, hlength] at hlengths
        omega
      · simp [hresponse, hlength] at hlengths
        omega
    · exact False.elim

/-- For a chunk with one or more frames, the application data is that of the first and there is a
transaction for each of them if and only if there is one frame, without application data, and what
the dissector finds in the place of it happens to be nothing. -/
theorem decoded_iff [External] (f : Frame) (more : List Frame) (chunk : StreamChunk) :
    let payload := (f :: more).flatMap Frame.encode
    ((parse payload).map Dnp3Fields.applicationData = some f.applicationData ∧
        ((onStreamChunk { chunk with payload }).filter isTransaction).length = (f :: more).length) ↔
      more = [] ∧ f.Bare := by
  intro payload
  simp only [payload]
  rw [flatMap_cons, length_transactions, length_cons]
  cases more with
  | nil =>
    obtain ⟨fields, hparse, -, -, -, -, -, -, hdata⟩ := parse_encode f []
    rw [flatMap_nil, hparse, Option.map_some, hdata, append_nil, Option.some.injEq,
      behindHeader_userBlocks_iff]
    simp
  | cons second more => simp

def readFrame : Frame := ⟨0xC4, 1, 1024, 0xC0, [0xC0, 0x01, 0x3C, 0x02, 0x06], by decide⟩

/-- The checksum of the block is taken for application data. -/
theorem readFrame_misread :
    readFrame.applicationData = [0x3C, 0x02, 0x06] ∧
      (parse readFrame.encode).map Dnp3Fields.applicationData =
        some [0x3C, 0x02, 0x06, 0x54, 0xE0] := by
  decide +kernel

end MarlinspikeDpi.Dnp3
