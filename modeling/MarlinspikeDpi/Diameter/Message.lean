import MarlinspikeDpi.Foundation.Bytes
import MarlinspikeDpi.Foundation.Checked
import MarlinspikeDpi.Foundation.Table
import MarlinspikeDpi.Foundation.Text

/-!
# The header and the AVPs behind it

A message has a header of twenty bytes, and then AVPs, each with its own length.
-/

namespace MarlinspikeDpi.Diameter

open Bytes Text List Nat Checked

def diameterHeaderLen : Nat := 20

variable (buf : List UInt8)

/-- An unsigned number of 24 bits, most significant byte first. -/
def readU24Be (i : Nat) : Nat := beNat (slice buf i 3)

def u32At (i : Nat) : UInt32 := UInt32.ofNat (beNat (slice buf i 4))

/-! ## AVPs -/

abbrev Avps : Type := Table UInt32 (List UInt8)

def avpDataOffset : Nat := if byteAt buf 4 &&& 0x80 ≠ 0 then 12 else 8

/-- The data of the AVP at the front of the buffer is kept, unless there is some under its code. -/
def keepAvp (avps : Avps) : Checked Avps := do
  let avpLength := readU24Be buf 5
  if avpDataOffset buf ≤ avpLength then
    let data ← Checked.subslice buf (avpDataOffset buf) avpLength
    let avpCode := u32At buf 0
    return if (avps.lookup avpCode).isSome then avps else avps.insert avpCode data
  else
    return avps

/-- The length of an AVP with the bytes that fill it up to a multiple of four. -/
def padded (avpLength : Nat) : Nat := (avpLength + 3) / 4 * 4

def parseAvpsLoop : Nat → List UInt8 → Avps → Checked Avps
  | 0, _, avps => .ok avps
  | rounds + 1, buf, avps =>
    if buf.length < 8 then .ok avps
    else
      let avpLength := readU24Be buf 5
      if avpLength < 8 ∨ buf.length < avpLength then .ok avps
      else do
        let avps ← keepAvp buf avps
        if buf.length < padded avpLength then return avps
        else
          let rest ← Checked.subslice buf (padded avpLength) buf.length
          parseAvpsLoop rounds rest avps

def parseAvps : Checked Avps := parseAvpsLoop buf.length buf ∅

lemma exists_keepAvp (avps : Avps) {buf : List UInt8} (hfits : readU24Be buf 5 ≤ buf.length) :
    ∃ avps', keepAvp buf avps = .ok avps' := by
  unfold keepAvp
  by_cases hdata : avpDataOffset buf ≤ readU24Be buf 5
  · simp only [if_pos hdata, subslice_eq_ok hdata hfits]
    exact ⟨_, rfl⟩
  · simp only [if_neg hdata]
    exact ⟨_, rfl⟩

lemma le_padded (n : Nat) : n ≤ padded n := by
  unfold padded
  omega

lemma parseAvpsLoop_succ (avps : Avps) :
    (∃ avps', ∀ n, parseAvpsLoop (n + 1) buf avps = .ok avps') ∨
      8 ≤ padded (readU24Be buf 5) ∧ padded (readU24Be buf 5) ≤ buf.length ∧
        ∃ avps', ∀ n, parseAvpsLoop (n + 1) buf avps =
          parseAvpsLoop n (buf.drop (padded (readU24Be buf 5))) avps' := by
  by_cases hshort : buf.length < 8
  · refine .inl ⟨avps, fun n => ?_⟩
    rw [parseAvpsLoop, if_pos hshort]
  by_cases hbad : readU24Be buf 5 < 8 ∨ buf.length < readU24Be buf 5
  · refine .inl ⟨avps, fun n => ?_⟩
    simp only [parseAvpsLoop, if_neg hshort, if_pos hbad]
  obtain ⟨hheader, hfits⟩ := not_or.1 hbad
  obtain ⟨avps', hkeep⟩ := exists_keepAvp avps (not_lt.1 hfits)
  by_cases hlast : buf.length < padded (readU24Be buf 5)
  · refine .inl ⟨avps', fun n => ?_⟩
    simp only [parseAvpsLoop, if_neg hshort, if_neg hbad, hkeep]
    exact if_pos hlast
  · have hle := not_lt.1 hlast
    have height : 8 ≤ padded (readU24Be buf 5) := (not_lt.1 hheader).trans (le_padded _)
    refine .inr ⟨height, hle, avps', fun n => ?_⟩
    simp only [parseAvpsLoop, if_neg hshort, if_neg hbad, hkeep]
    refine (if_neg hlast).trans ?_
    rw [subslice_eq_ok hle le_rfl, take_length]
    rfl

lemma exists_parseAvpsLoop (rounds : Nat) (buf : List UInt8) (avps : Avps) :
    ∃ avps', parseAvpsLoop rounds buf avps = .ok avps' := by
  induction rounds generalizing buf avps with
  | zero => exact ⟨avps, rfl⟩
  | succ rounds ih =>
    rcases parseAvpsLoop_succ buf avps with ⟨avps', hover⟩ | ⟨-, -, avps', hon⟩
    · exact ⟨avps', hover rounds⟩
    · rw [hon]
      exact ih _ _

lemma exists_parseAvps : ∃ avps, parseAvps buf = .ok avps := exists_parseAvpsLoop _ _ _

lemma parseAvpsLoop_rounds (avps : Avps) {rounds : Nat} {buf : List UInt8}
    (hrounds : buf.length ≤ rounds) :
    parseAvpsLoop rounds buf avps = parseAvpsLoop buf.length buf avps := by
  induction rounds using Nat.strongRecOn generalizing buf avps with
  | ind rounds ih =>
    cases buf with
    | nil =>
      cases rounds with
      | zero => rfl
      | succ rounds =>
        rw [parseAvpsLoop]
        rfl
    | cons b bs =>
      obtain ⟨n, rfl⟩ : ∃ n, rounds = n + 1 := exists_eq_add_one_of_ne_zero (by
        rw [length_cons] at hrounds
        omega)
      rw [length_cons] at hrounds ⊢
      rcases parseAvpsLoop_succ _ avps with ⟨avps', hover⟩ | ⟨height, hle, avps', hon⟩
      · rw [hover, hover]
      · rw [hon, hon]
        have hrest : ((b :: bs).drop (padded (readU24Be (b :: bs) 5))).length ≤ bs.length := by
          rw [length_drop, length_cons]
          omega
        rw [ih n (lt_succ_self n) avps' (hrest.trans (le_of_succ_le_succ hrounds)),
          ih _ (by omega) avps' hrest]

/-! ## Messages -/

structure DiameterMessage where
  messageLength : Nat
  commandFlags : UInt8
  commandCode : Nat
  (applicationId hopByHopId endToEndId : UInt32)
  (avpUserName avpSessionId avpOriginHost avpOriginRealm : Option String)
  avpResultCode : Option UInt32
deriving DecidableEq

namespace DiameterMessage

def isRequest (msg : DiameterMessage) : Bool := msg.commandFlags &&& 0x80 != 0

def isError (msg : DiameterMessage) : Bool := msg.commandFlags &&& 0x20 != 0

end DiameterMessage

variable (data : List UInt8)

/-- The length that the header claims for the message, header included. -/
def messageLength : Nat := readU24Be data 1

def readMessage (avps : Avps) : DiameterMessage :=
  let text (code : UInt32) := (avps.lookup code).bind utf8Strict
  { messageLength := messageLength data, commandFlags := byteAt data 4,
    commandCode := readU24Be data 5, applicationId := u32At data 8, hopByHopId := u32At data 12,
    endToEndId := u32At data 16, avpUserName := text 1, avpSessionId := text 263,
    avpOriginHost := text 264, avpOriginRealm := text 296,
    avpResultCode := (avps.lookup 268).bind fun b => if 4 ≤ b.length then some (u32At b 0)
      else none }

/-- `none` if there are not enough bytes for a header. -/
def parseDiameter : Checked (Option DiameterMessage) :=
  if data.length < diameterHeaderLen then .ok none
  else do
    let avpDataEnd := min (messageLength data) data.length
    let avpData ← Checked.subslice data diameterHeaderLen avpDataEnd
    let avps ← parseAvps avpData
    return some (readMessage data avps)

def avpRegion : List UInt8 := (data.take (messageLength data)).drop diameterHeaderLen

lemma parseDiameter_of_lt {data : List UInt8} (hheader : diameterHeaderLen ≤ data.length)
    (hshort : messageLength data < diameterHeaderLen) :
    parseDiameter data = .error (.sliceOrder diameterHeaderLen (messageLength data)) := by
  have hend := min_eq_left (le_of_lt (hshort.trans_le hheader))
  rw [parseDiameter, if_neg (not_lt.2 hheader)]
  simp only [hend, subslice_of_lt hshort]
  rfl

lemma parseDiameter_of_le {data : List UInt8} (hheader : diameterHeaderLen ≤ data.length)
    (hlength : diameterHeaderLen ≤ messageLength data) :
    ∃ avps, parseAvps (avpRegion data) = .ok avps ∧
      parseDiameter data = .ok (some (readMessage data avps)) := by
  obtain ⟨avps, havps⟩ := exists_parseAvps (avpRegion data)
  refine ⟨avps, havps, ?_⟩
  have hregion : subslice data diameterHeaderLen (min (messageLength data) data.length) =
      .ok (avpRegion data) := by
    rw [subslice_eq_ok (le_min hlength hheader) (min_le_right _ _), avpRegion]
    congr 2
    exact take_eq_take_min.symm
  rw [parseDiameter, if_neg (not_lt.2 hheader)]
  simp only [hregion]
  change (do let avps ← parseAvps (avpRegion data); return some (readMessage data avps)) = _
  rw [havps]
  rfl

/-! ## What is read lies within the message -/

variable {data}

lemma readMessage_eq_of_take_eq {data' : List UInt8} {n : Nat} (hsame : data.take n = data'.take n)
    (hn : diameterHeaderLen ≤ n) (avps : Avps) :
      readMessage data avps = readMessage data' avps := by
  have htwenty : 20 ≤ n := hn
  have hslice : ∀ i len, i + len ≤ 20 → slice data i len = slice data' i len :=
    fun i len hwithin => slice_eq_of_take_eq hsame (hwithin.trans htwenty)
  simp only [readMessage, messageLength, readU24Be, u32At, hslice 1 3 (by decide),
    hslice 5 3 (by decide),
    hslice 8 4 (by decide), hslice 12 4 (by decide), hslice 16 4 (by decide),
    byteAt_eq_of_take_eq hsame (show 4 < n by omega)]

lemma parseDiameter_eq_of_take_eq {data' : List UInt8} (hheader : diameterHeaderLen ≤ data.length)
    (hlength : diameterHeaderLen ≤ messageLength data)
    (hsame : data.take (messageLength data) = data'.take (messageLength data)) :
    parseDiameter data' = parseDiameter data := by
  have htwenty : 20 ≤ messageLength data := hlength
  have hlength' : messageLength data' = messageLength data :=
    congrArg beNat (slice_eq_of_take_eq hsame (show 1 + 3 ≤ _ by omega)).symm
  have hheader' : diameterHeaderLen ≤ data'.length := by
    have hlen := congrArg List.length hsame
    rw [length_take, length_take] at hlen
    omega
  have hregion : avpRegion data' = avpRegion data := by rw [avpRegion, avpRegion, hlength', hsame]
  obtain ⟨avps, havps, hparse⟩ := parseDiameter_of_le hheader hlength
  obtain ⟨avps', havps', hparse'⟩ := parseDiameter_of_le hheader' (hlength'.symm ▸ hlength)
  rw [hregion, havps] at havps'
  cases havps'
  rw [hparse, hparse', readMessage_eq_of_take_eq hsame hlength]

end MarlinspikeDpi.Diameter
