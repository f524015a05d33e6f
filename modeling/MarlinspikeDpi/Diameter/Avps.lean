import MarlinspikeDpi.Diameter.Message

/-!
# Which AVP a field of the message comes from

On the encoding of a list of AVPs the walk stays on the borders between them
(`parseAvpsLoop_encode`), and keeps for each code the data of the first AVP with it
(`lookup_foldl_keep`).

* `fields_base_iff`: when the fields come from AVPs without a vendor id.
-/

namespace MarlinspikeDpi.Diameter

open Bytes Text List Nat Checked

/-! ## AVPs on the wire -/

/-- The V bit of the flags tells whether there is a vendor id. -/
structure Avp where
  code : UInt32
  flags : UInt8
  vendor : Option UInt32
  (data pad : List UInt8)
  vendorBit : vendor.isSome = true ↔ flags &&& 0x80 ≠ 0
  fits : (if vendor.isSome then 12 else 8) + data.length < 2 ^ 24
  padded : pad.length = Diameter.padded ((if vendor.isSome then 12 else 8) + data.length) -
      ((if vendor.isSome then 12 else 8) + data.length)

open Avp

namespace Avp

variable (a : Avp)

def headerLen : Nat := if a.vendor.isSome then 12 else 8

/-- The length in the header, which counts the header and not the padding. -/
def length : Nat := a.headerLen + a.data.length

def header : List UInt8 := toBe 4 a.code.toNat ++ a.flags :: toBe 3 a.length ++ a.vendor.elim
    [] fun v => toBe 4 v.toNat

def encode : List UInt8 := a.header ++ (a.data ++ a.pad)

lemma length_header : a.header.length = a.headerLen := by
  rw [header, headerLen]
  cases a.vendor <;> simp

lemma length_encode : a.encode.length = Diameter.padded a.length := by
  have hpad : a.pad.length = Diameter.padded a.length - a.length := a.padded
  have hle := le_padded a.length
  have hlength : a.length = a.headerLen + a.data.length := rfl
  rw [encode, length_append, length_append, a.length_header]
  omega

lemma eight_le_length : 8 ≤ a.length := by
  rw [length, headerLen]
  split <;> omega

variable (rest : List UInt8)

lemma u32At_encode : u32At (a.encode ++ rest) 0 = a.code := by
  have hbytes : slice (a.encode ++ rest) 0 4 = toBe 4 a.code.toNat := rfl
  rw [u32At, hbytes, beNat_toBe a.code.toNat_lt, UInt32.ofNat_toNat]

lemma readU24Be_encode : readU24Be (a.encode ++ rest) 5 = a.length := by
  have hbytes : slice (a.encode ++ rest) 5 3 = toBe 3 a.length := rfl
  rw [readU24Be, hbytes, beNat_toBe a.fits]

lemma avpDataOffset_encode : avpDataOffset (a.encode ++ rest) = a.headerLen := by
  have hflags : byteAt (a.encode ++ rest) 4 = a.flags := rfl
  rw [avpDataOffset, hflags, headerLen]
  by_cases hvendor : a.vendor.isSome = true
  · rw [if_pos hvendor, if_pos (a.vendorBit.1 hvendor)]
  · rw [if_neg hvendor, if_neg (mt a.vendorBit.2 hvendor)]

lemma length_le : a.length ≤ (a.encode ++ rest).length := by
  have hle := le_padded a.length
  rw [length_append, a.length_encode]
  omega

lemma subslice_encode : subslice (a.encode ++ rest) a.headerLen a.length = .ok a.data := by
  have hsplit : a.encode ++ rest = (a.header ++ a.data) ++ (a.pad ++ rest) := by
    rw [encode, append_assoc, append_assoc, append_assoc]
  have hlength : (a.header ++ a.data).length = a.length := by
    rw [length_append, a.length_header, length]
  have horder : a.headerLen ≤ a.length := le_add_right _ _
  rw [subslice_eq_ok horder (a.length_le rest), hsplit, take_left' hlength,
    drop_left' a.length_header]

def keep (avps : Avps) (a : Avp) : Avps :=
  if (avps.lookup a.code).isSome then avps else avps.insert a.code a.data

lemma keepAvp_encode (avps : Avps) : keepAvp (a.encode ++ rest) avps = .ok (keep avps a) := by
  have hoffset : a.headerLen ≤ a.length := le_add_right _ _
  rw [keepAvp, avpDataOffset_encode, readU24Be_encode, u32At_encode, subslice_encode]
  exact if_pos hoffset

end Avp

/-! ## The walk over a list of AVPs -/

lemma parseAvpsLoop_encode_append (rounds : Nat) (a : Avp) (rest : List UInt8) (avps : Avps) :
    parseAvpsLoop (rounds + 1) (a.encode ++ rest) avps = parseAvpsLoop rounds rest
      (a.keep avps) := by
  have height := a.eight_le_length
  have hle := a.length_le rest
  have hpadded : padded a.length ≤ (a.encode ++ rest).length := by
    rw [length_append, a.length_encode]
    exact le_add_right _ _
  have hrest : subslice (a.encode ++ rest) (padded a.length) (a.encode ++ rest).length =
      .ok rest := by
    rw [subslice_eq_ok hpadded le_rfl, take_length, drop_left' a.length_encode]
  have hshort : ¬ (a.encode ++ rest).length < 8 := by omega
  have hbad : ¬ (a.length < 8 ∨ (a.encode ++ rest).length < a.length) := by omega
  simp only [parseAvpsLoop, if_neg hshort, readU24Be_encode, if_neg hbad, keepAvp_encode]
  refine (if_neg (not_lt.2 hpadded)).trans ?_
  rw [hrest]
  rfl

variable (list : List Avp)

lemma parseAvpsLoop_encode (rounds : Nat) (avps : Avps) (hrounds : list.length < rounds) :
    parseAvpsLoop rounds (list.flatMap encode) avps = .ok (list.foldl keep avps) := by
  induction list generalizing rounds avps with
  | nil =>
    obtain ⟨rounds, rfl⟩ := exists_eq_add_one_of_ne_zero (ne_of_gt hrounds)
    rw [parseAvpsLoop]
    rfl
  | cons a list ih =>
    obtain ⟨rounds, rfl⟩ := exists_eq_add_one_of_ne_zero (ne_zero_of_lt hrounds)
    rw [flatMap_cons, parseAvpsLoop_encode_append, ih rounds _ (lt_of_succ_lt_succ hrounds),
      foldl_cons]

lemma length_le_length_flatMap : list.length ≤ (list.flatMap encode).length := by
  induction list with
  | nil => exact le_rfl
  | cons a list ih =>
    have height := a.eight_le_length
    have hle := le_padded a.length
    rw [flatMap_cons, length_append, a.length_encode, length_cons]
    omega

lemma parseAvps_encode : parseAvps (list.flatMap encode) = .ok (list.foldl keep ∅) := by
  -- one round more than there are bytes makes no difference, and is more than there are AVPs
  rw [parseAvps, ← parseAvpsLoop_rounds ∅ (le_succ _),
    parseAvpsLoop_encode list _ ∅ (lt_succ_of_le (length_le_length_flatMap list))]

/-- The data of the first AVP with the code, with or without a vendor id. -/
def firstData (code : UInt32) : Option (List UInt8) :=
  (list.find? fun a => a.code == code).map Avp.data

lemma lookup_foldl_keep (avps : Avps) (code : UInt32) :
    (list.foldl keep avps).lookup code = (avps.lookup code).or (firstData list code) := by
  induction list generalizing avps with
  | nil => simp [firstData]
  | cons a list ih =>
    rw [foldl_cons, ih, firstData, firstData, find?_cons]
    by_cases hcode : a.code = code
    · -- the AVP is the first with its code, unless there is one in the table
      subst hcode
      cases hlookup : avps.lookup a.code with
      | none => simp [keep, hlookup]
      | some data => simp [keep, hlookup]
    · have hkeep : (a.keep avps).lookup code = avps.lookup code := by
        rw [keep]
        split
        · rfl
        · exact AList.lookup_insert_ne (Ne.symm hcode)
      rw [hkeep, beq_false_of_ne hcode]

/-! ## Messages on the wire -/

structure WireMessage where
  commandFlags : UInt8
  commandCode : Fin (2 ^ 24)
  (applicationId hopByHopId endToEndId : UInt32)
  avps : List Avp
  fits : diameterHeaderLen + (avps.flatMap Avp.encode).length < 2 ^ 24

namespace WireMessage

def body (m : WireMessage) : List UInt8 := m.avps.flatMap Avp.encode

def encode (m : WireMessage) : List UInt8 :=
  1 :: toBe 3 (diameterHeaderLen + m.body.length) ++ m.commandFlags :: toBe 3 m.commandCode.val ++
    toBe 4 m.applicationId.toNat ++ toBe 4 m.hopByHopId.toNat ++ toBe 4 m.endToEndId.toNat ++ m.body

lemma messageLength_encode (m : WireMessage) (more : List UInt8) :
    messageLength (m.encode ++ more) = diameterHeaderLen + m.body.length := by
  have hbytes : slice (m.encode ++ more) 1 3 = toBe 3 (diameterHeaderLen + m.body.length) := rfl
  rw [messageLength, readU24Be, hbytes, beNat_toBe m.fits]

lemma length_encode (m : WireMessage) : m.encode.length = diameterHeaderLen + m.body.length := by
  simp only [encode, length_append, length_cons, length_toBe]
  rfl

lemma avpRegion_encode (m : WireMessage) (more : List UInt8) :
    avpRegion (m.encode ++ more) = m.body := by
  rw [avpRegion, messageLength_encode, take_left' m.length_encode]
  rfl

lemma parseDiameter_encode (m : WireMessage) (more : List UInt8) :
    parseDiameter (m.encode ++ more) =
      .ok (some (readMessage (m.encode ++ more) (m.avps.foldl keep ∅))) := by
  have hheader : diameterHeaderLen ≤ (m.encode ++ more).length := by
    rw [length_append, m.length_encode]
    omega
  have hlength : diameterHeaderLen ≤ messageLength (m.encode ++ more) := by
    rw [messageLength_encode]
    exact le_add_right _ _
  obtain ⟨avps, havps, hparse⟩ := parseDiameter_of_le hheader hlength
  rw [avpRegion_encode, body, parseAvps_encode] at havps
  cases havps
  exact hparse

end WireMessage

/-! ## Fields and vendors -/

def baseData (list : List Avp) (code : UInt32) : Option (List UInt8) :=
  (list.find? fun a => a.code == code && a.vendor.isNone).map Avp.data

def readResultCode (data : List UInt8) : Option UInt32 :=
  if 4 ≤ data.length then some (u32At data 0) else none

/-- The fields of the message are those of the AVPs of the base protocol. -/
structure FieldsFromBase (list : List Avp) (msg : DiameterMessage) : Prop where
  userName : msg.avpUserName = (baseData list 1).bind utf8Strict
  sessionId : msg.avpSessionId = (baseData list 263).bind utf8Strict
  originHost : msg.avpOriginHost = (baseData list 264).bind utf8Strict
  originRealm : msg.avpOriginRealm = (baseData list 296).bind utf8Strict
  resultCode : msg.avpResultCode = (baseData list 268).bind readResultCode

/-- The first AVP with the code reads as the first without a vendor id does. -/
def Undisturbed {α : Type} (list : List Avp) (code : UInt32) (read : List UInt8 → Option α) :
  Prop := (firstData list code).bind read = (baseData list code).bind read

/-- Every message is read, and its fields are those of the first AVPs without a vendor id if and
only if no AVP with a vendor id that reads otherwise comes before them. -/
theorem fields_base_iff (m : WireMessage) (more : List UInt8) :
    ∃ msg, parseDiameter (m.encode ++ more) = .ok (some msg) ∧
      (FieldsFromBase m.avps msg ↔
        (∀ code ∈ [(1 : UInt32), 263, 264, 296], Undisturbed m.avps code utf8Strict) ∧
          Undisturbed m.avps 268 readResultCode) := by
  refine ⟨_, m.parseDiameter_encode more, ?_⟩
  have hlookup : ∀ code, (m.avps.foldl keep ∅).lookup code = firstData m.avps code := by
    intro code
    rw [lookup_foldl_keep, AList.lookup_empty, Option.none_or]
  constructor
  · rintro ⟨huser, hsession, hhost, hrealm, hresult⟩
    simp only [readMessage, hlookup] at huser hsession hhost hrealm hresult
    refine ⟨?_, hresult⟩
    simp only [forall_mem_cons]
    exact ⟨huser, hsession, hhost, hrealm, by simp⟩
  · rintro ⟨htexts, hresult⟩
    simp only [forall_mem_cons] at htexts
    obtain ⟨huser, hsession, hhost, hrealm, -⟩ := htexts
    constructor <;> simp only [readMessage, hlookup]
    · exact huser
    · exact hsession
    · exact hhost
    · exact hrealm
    · exact hresult

/-- The code of User-Name, used by the vendor 10415 for something else. -/
def vendorAvp : Avp :=
  { code := 1
    flags := 0xC0
    vendor := some 10415
    data := [0x61, 0x62]
    pad := [0, 0]
    vendorBit := by decide
    fits := by decide
    padded := by decide }

def vendorMessage : WireMessage :=
  { commandFlags := 0x80
    commandCode := 271
    applicationId := 3
    hopByHopId := 7
    endToEndId := 9
    avps := [vendorAvp]
    fits := by decide }

theorem vendorMessage_userName :
    (parseDiameter vendorMessage.encode).map (fun msg => msg.map DiameterMessage.avpUserName) =
        .ok (some (some "ab")) ∧
      baseData vendorMessage.avps 1 = none := by
  refine ⟨?_, rfl⟩
  have hparse := vendorMessage.parseDiameter_encode []
  rw [append_nil] at hparse
  rw [hparse]
  decide

end MarlinspikeDpi.Diameter
