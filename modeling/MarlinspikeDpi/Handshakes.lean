import MarlinspikeDpi.Foundation.Utf8
import MarlinspikeDpi.Markers
import MarlinspikeDpi.Rdp.Decoder
import MarlinspikeDpi.Vnc.Decoder

/-!
# Connections of RDP and VNC

The decoders of RDP and VNC are staged readers with one buffer and one state for all connections.

* `handshakes_served_iff`: each connection has its transaction exactly if there is only one.
-/

namespace MarlinspikeDpi

open Engine Bytes Text List Nat Rdp UInt8

def sessionBytes (key : String) (chunks : List StreamChunk) : List UInt8 :=
  (chunks.filter fun chunk => chunk.sessionKey = key).flatMap StreamChunk.payload

lemma eq_of_markerOf_eq_some {operation : String} {event : BronzeEvent} {key key' : String}
    (hsession : event.envelope.sessionKey = key) (h : markerOf operation event = some key') :
      key' = key := by
  rw [markerOf] at h
  split at h
  · split at h
    · rw [← Option.some.inj h, hsession]
    · cases h
  · cases h

lemma take_eq_of_part {part bytes : List UInt8} (hpart : part <+: bytes) {n : Nat}
    (hlong : n ≤ part.length) : part.take n = bytes.take n := by
  obtain ⟨rest, rfl⟩ := hpart
  rw [take_append_of_le_length hlong]

/-! ## RDP -/

namespace Rdp

def isConnect (event : BronzeEvent) : Bool := (markerOf "rdp_connect" event).isSome

lemma filter_clientAsset (chunk : StreamChunk) (users : List String) :
    (users.map (clientAsset chunk)).filter isConnect = [] := by
  rw [filter_eq_nil_iff]
  intro event hevent
  obtain ⟨user, -, rfl⟩ := mem_map.1 hevent
  exact Bool.noConfusion

lemma onTpdu_single (chunk : StreamChunk) (state : State) (tpdu rest : List UInt8) :
    (onTpdu chunk state tpdu rest).Single State.isDone isConnect := by
  unfold onTpdu
  split
  · split
    · exact filter_clientAsset chunk _
    · rfl
  · split
    · cases parseCc tpdu with
      | none => exact .inl rfl
      | some cc => exact .inr ⟨rfl, rfl⟩
    · rfl
  · rfl

lemma checkTpkt_filter (chunk : StreamChunk) (data : List UInt8) :
    (checkTpkt chunk data).1.filter isConnect = [] := by
  unfold checkTpkt
  split
  · rfl
  · split
    · rfl
    · dsimp only
      split <;> rfl

lemma single : Staged.Single reader isConnect := by
  intro chunk state buf
  change (move chunk state buf).Single State.isDone isConnect
  have hfilter := checkTpkt_filter chunk buf
  unfold move
  split
  · rename_i events hcheck
    rw [hcheck] at hfilter
    exact hfilter
  · dsimp only
    split
    · exact .inl rfl
    · exact onTpdu_single chunk state _ _

lemma sessionKey_move (chunk : StreamChunk) (state : State) (buf : List UInt8) :
    ∀ event ∈ (move chunk state buf).events, event.envelope.sessionKey = chunk.sessionKey := by
  have hcheck : ∀ event ∈ (checkTpkt chunk buf).1, event.envelope.sessionKey =
      chunk.sessionKey := by
    unfold checkTpkt
    split
    · exact forall_mem_nil _
    · split
      · exact forall_mem_singleton.2 rfl
      · dsimp only
        split <;> exact forall_mem_nil _
  have htpdu : ∀ tpdu rest, ∀ event ∈ (onTpdu chunk state tpdu rest).events,
      event.envelope.sessionKey = chunk.sessionKey := by
    intro tpdu rest
    unfold onTpdu
    split
    · split
      · exact forall_mem_map.2 fun user _ => rfl
      · exact forall_mem_nil _
    · split
      · exact forall_mem_map.2 fun cc _ => rfl
      · exact forall_mem_nil _
    · exact forall_mem_nil _
  unfold move
  split
  · rename_i events heq
    rw [heq] at hcheck
    exact hcheck
  · dsimp only
    split
    · exact forall_mem_nil _
    · exact htpdu _ _

/-- A request or a confirmation in its TPKT. The length indicator covers the fixed part of the
header, and does not go beyond the TPDU. -/
structure ConnectionTpdu where
  (reserved lengthIndicator : UInt8)
  content : List UInt8
  long : 6 ≤ lengthIndicator.toNat
  covered : lengthIndicator.toNat ≤ content.length + 1
  fits : 6 + content.length < 2 ^ 16

namespace ConnectionTpdu

variable (t : ConnectionTpdu) (code : UInt8)

def tpdu : List UInt8 := t.lengthIndicator :: code :: t.content

def encode : List UInt8 := [tpktVersion, t.reserved] ++ toBe 2 (6 + t.content.length) ++ t.tpdu code

lemma length_encode : (t.encode code).length = 6 + t.content.length := by
  simp only [encode, tpdu, length_append, length_cons, length_nil, length_toBe]
  omega

lemma total_encode (more : List UInt8) : beNat (slice (t.encode code ++ more) 2 2) =
    (t.encode code).length := by
  have hbytes : slice (t.encode code ++ more) 2 2 = toBe 2 (6 + t.content.length) := rfl
  rw [hbytes, beNat_toBe t.fits, length_encode]

lemma checkTpkt_encode (chunk : StreamChunk) (more : List UInt8) :
    checkTpkt chunk (t.encode code ++ more) = ([], some (t.encode code).length) := by
  have hlength := t.length_encode code
  have hversion : byteAt (t.encode code ++ more) 0 = tpktVersion := rfl
  have hheader : ¬ (t.encode code ++ more).length < tpktHeaderLen := by
    rw [length_append, tpktHeaderLen]
    omega
  have hwhole : ¬ ((t.encode code).length < tpktHeaderLen ∨
      (t.encode code ++ more).length < (t.encode code).length) := by
    rw [length_append, tpktHeaderLen]
    omega
  simp only [checkTpkt, if_neg hheader, hversion, ne_eq, not_true_eq_false, if_false, total_encode,
    if_neg hwhole]

lemma checkTpkt_part (chunk : StreamChunk) {part : List UInt8} (hpart : part <+: t.encode code)
    (hne : part ≠ t.encode code) : checkTpkt chunk part = ([], none) := by
  have hless : part.length < (t.encode code).length :=
    lt_of_le_of_ne hpart.length_le fun heq => hne (hpart.eq_of_length heq)
  rw [checkTpkt]
  by_cases hheader : part.length < tpktHeaderLen
  · rw [if_pos hheader]
  · have htake := take_eq_of_part hpart (not_lt.1 hheader)
    have hversion : byteAt part 0 = tpktVersion := byteAt_eq_of_take_eq htake (by decide)
    have htotal : beNat (slice part 2 2) = (t.encode code).length := by
      have hwhole := t.total_encode code []
      rw [append_nil] at hwhole
      rw [slice_eq_of_take_eq htake (by decide), hwhole]
    have hmissing : beNat (slice part 2 2) < tpktHeaderLen ∨
        part.length < beNat (slice part 2 2) := by
      rw [htotal]
      exact .inr hless
    simp only [if_neg hheader, hversion, ne_eq, not_true_eq_false, if_false, if_pos hmissing]

lemma move_encode (chunk : StreamChunk) (state : State) (more : List UInt8) :
    move chunk state (t.encode code ++ more) = onTpdu chunk state (t.tpdu code) more := by
  have htpdu : (t.encode code).drop tpktHeaderLen = t.tpdu code := rfl
  have hlong : ¬ (t.tpdu code).length < 2 := by
    simp only [tpdu, length_cons]
    omega
  simp only [move, checkTpkt_encode, take_left, htpdu, drop_left, if_neg hlong]

lemma move_part (chunk : StreamChunk) {part : List UInt8} (state : State)
    (hpart : part <+: t.encode code)
    (hne : part ≠ t.encode code) : move chunk state part = .wait [] := by
  simp only [move, t.checkTpkt_part code chunk hpart hne]

lemma checks : ¬ (t.tpdu code).length < 7 ∧
    ¬ ((byteAt (t.tpdu code) 0).toNat < 6 ∨
      (t.tpdu code).length < (byteAt (t.tpdu code) 0).toNat + 1) := by
  have hlong := t.long
  have hcovered := t.covered
  have hindicator : byteAt (t.tpdu code) 0 = t.lengthIndicator := rfl
  rw [hindicator]
  simp only [tpdu, length_cons]
  omega

lemma exists_parseCr : ∃ cr, parseCr (t.tpdu code) = some cr := by
  obtain ⟨hseven, hcovered⟩ := t.checks code
  rw [parseCr, if_neg hseven, if_neg hcovered]
  exact ⟨_, rfl⟩

lemma exists_parseCc : ∃ cc, parseCc (t.tpdu code) = some cc := by
  obtain ⟨hseven, hcovered⟩ := t.checks code
  rw [parseCc, if_neg hseven, if_neg hcovered]
  dsimp only
  split
  · exact ⟨_, rfl⟩
  · split
    · exact ⟨_, rfl⟩
    · split <;> exact ⟨_, rfl⟩

end ConnectionTpdu

/-- A request, its confirmation, and anything behind them. -/
structure Exchange where
  (request confirm : ConnectionTpdu)
  behind : List UInt8

def Exchange.handshake (x : Exchange) : List UInt8 :=
  x.request.encode x224Cr ++ x.confirm.encode x224Cc

def Exchange.encode (x : Exchange) : List UInt8 := x.handshake ++ x.behind

lemma reads_exchange (x : Exchange) : Staged.Reads reader isConnect 1 .awaitingCr x.handshake := by
  obtain ⟨cr, hcr⟩ := x.request.exists_parseCr x224Cr
  obtain ⟨cc, hcc⟩ := x.confirm.exists_parseCc x224Cc
  have hrequest : byteAt (x.request.tpdu x224Cr) 1 = x224Cr := rfl
  have hconfirm : byteAt (x.confirm.tpdu x224Cc) 1 = x224Cc := rfl
  have hwaits : ∀ (t : ConnectionTpdu) code state, state.isDone = false →
      Staged.Waits reader isConnect state (t.encode code) := fun t code _ hnew =>
    ⟨hnew, fun chunk _ hpart hne => ⟨[], t.move_part code chunk _ hpart hne, rfl⟩⟩
  have hmove : ∀ chunk more, reader.move chunk (.awaitingCc cr) (x.confirm.encode x224Cc ++ more) =
      .halt [transaction chunk cr cc] .done more := by
    intro chunk more
    refine (x.confirm.move_encode x224Cc chunk _ more).trans ?_
    simp only [onTpdu, hconfirm, if_true, hcc]
    rfl
  have hstage : Staged.Stage reader isConnect .awaitingCr (.awaitingCc cr)
      (x.request.encode x224Cr) := by
    refine ⟨hwaits _ _ _ rfl, cons_ne_nil _ _, fun chunk more => ?_⟩
    have hgo : reader.move chunk .awaitingCr (x.request.encode x224Cr ++ more) =
        .go (cr.mstshash.toList.map (clientAsset chunk)) (.awaitingCc cr) more := by
      refine (x.request.move_encode x224Cr chunk _ more).trans ?_
      simp only [onTpdu, hrequest, if_true, hcr]
    exact ⟨_, hgo, single.go hgo⟩
  -- the request leads to the confirmation, which is the last piece
  refine hstage.reads ⟨_, _, ⟨hwaits _ _ _ rfl, fun chunk more => ⟨_, _, _, hmove chunk more, rfl⟩⟩,
    .here, ?_⟩
  intro chunk more
  rw [hmove]
  rfl

end Rdp

/-! ## VNC -/

namespace Vnc

def isConnect (event : BronzeEvent) : Bool := (markerOf "vnc_connect" event).isSome

variable {select : BronzeEvent → Bool}

lemma filter_emitHandshake (chunk : StreamChunk) (h : Handshake) :
    ((emitHandshake chunk h).filter isConnect).length = 1 := rfl

lemma reader_move (chunk : StreamChunk) (state : State) (buf : List UInt8) :
    reader.move chunk state buf = move chunk state buf := rfl

lemma single : Staged.Single reader isConnect := by
  intro chunk state buf
  change (move chunk state buf).Single State.isDone isConnect
  unfold move
  split
  · split
    · rfl
    · split
      · exact .inl rfl
      · rfl
  · split <;> rfl
  · split
    · split
      · rfl
      · exact .inr ⟨rfl, rfl⟩
    · split
      · rfl
      · split
        · rfl
        · exact .inr ⟨rfl, rfl⟩
  · rfl

lemma forall_mem_move {P : BronzeEvent → Prop} {chunk : StreamChunk}
    (hanomaly : ∀ banner, P (bannerAnomaly chunk banner))
    (hemit : ∀ h, P (connectTransaction chunk h) ∧ P (serverAsset chunk h)) (state : State)
    (buf : List UInt8) :
    ∀ event ∈ (move chunk state buf).events, P event := by
  have hevents : ∀ h, ∀ event ∈ emitHandshake chunk h, P event := by
    intro h event hevent
    rcases mem_pair.1 hevent with rfl | rfl
    · exact (hemit h).1
    · exact (hemit h).2
  unfold move
  split
  · split
    · exact forall_mem_nil _
    · split
      · exact forall_mem_singleton.2 (hanomaly _)
      · exact forall_mem_nil _
  · split <;> exact forall_mem_nil _
  · split
    · split
      · exact forall_mem_nil _
      · exact hevents _
    · split
      · exact forall_mem_nil _
      · split
        · exact forall_mem_nil _
        · exact hevents _
  · exact forall_mem_nil _

lemma sessionKey_move (chunk : StreamChunk) (state : State) (buf : List UInt8) :
    ∀ event ∈ (move chunk state buf).events, event.envelope.sessionKey = chunk.sessionKey :=
  forall_mem_move (fun _ => rfl) (fun _ => ⟨rfl, rfl⟩) state buf

lemma versionNumber_threeDigitBytes {n : Nat} (h : n < 1000) :
    versionNumber (threeDigitBytes n) = if n < 256 then some n else none := by
  have hspace : ∀ d < 10, isWhiteSpace (Nat.digitChar d) = false := by decide
  have htrim : trimMatches isWhiteSpace (String.ofList (threeDigits n)) =
      String.ofList (threeDigits n) := by
    apply trimMatches_of_none
    simp [threeDigits, hspace (n / 100) (by omega), hspace (n / 10 % 10) (by omega),
      hspace (n % 10) (by omega)]
  rw [versionNumber, utf8Strict_threeDigitBytes h, Option.bind_some, htrim,
    parseUnsigned_threeDigits h]

/-- A version on the wire: two numbers of three digits. -/
structure Banner where
  (major minor : Nat)
  majorFits : major < 1000
  minorFits : minor < 1000

open Banner

namespace Banner

variable (b : Banner)

def encode : List UInt8 :=
  utf8 "RFB " ++ threeDigitBytes b.major ++ [0x2E] ++ threeDigitBytes b.minor ++ [0x0A]

lemma length_encode : b.encode.length = bannerLen := rfl

/-- Both numbers of the version fit into a byte. -/
def Readable : Prop := b.major < 256 ∧ b.minor < 256

instance : Decidable b.Readable := inferInstanceAs (Decidable (_ ∧ _))

lemma parseBanner_encode : parseBanner b.encode =
      if b.Readable then some (b.major, b.minor, toString b.major ++ "." ++ toString b.minor)
        else none := by
  have hmajor : slice b.encode 4 3 = threeDigitBytes b.major := rfl
  have hminor : slice b.encode 8 3 = threeDigitBytes b.minor := rfl
  have hstart : (utf8 "RFB ").isPrefixOf b.encode = true := rfl
  have hmarks : ¬ (byteAt b.encode 7 ≠ 0x2E ∨ byteAt b.encode 11 ≠ 0x0A) := by
    rintro (h | h) <;> exact h rfl
  rw [parseBanner, b.length_encode, if_neg (not_not.2 hstart), if_neg hmarks, hmajor, hminor,
    versionNumber_threeDigitBytes b.majorFits, versionNumber_threeDigitBytes b.minorFits]
  by_cases hfirst : b.major < 256
  · by_cases hsecond : b.minor < 256 <;> simp [Readable, hfirst, hsecond]
  · simp [Readable, hfirst]

end Banner

/-- The security types of the server: one that it has chosen, or a list of them. -/
inductive Security where
  | direct (type : Fin 3)
  | offered (types : List UInt8) (fits : types.length < 2 ^ 8)

def Security.encode : Security → List UInt8
  | direct type => toBe 4 type
  | offered types _ => UInt8.ofNat types.length :: types

/-- The messages that every RFB session starts with. A server of version 3.3 chooses the type
itself. -/
structure RfbHandshake where
  (server client : Banner)
  security : Security
  behind : List UInt8
  chosen : server.major = 3 ∧ server.minor ≤ 3 → ∃ type, security = .direct type

namespace RfbHandshake

def encode (h : RfbHandshake) : List UInt8 :=
  h.server.encode ++ h.client.encode ++ h.security.encode ++ h.behind

end RfbHandshake

variable {b : Banner} {major minor : Nat}

lemma Banner.length_part {part : List UInt8} (hpart : part <+: b.encode) (hne : part ≠ b.encode) :
    part.length < bannerLen := by
  have hle := hpart.length_le
  exact lt_of_le_of_ne hle fun heq => hne (hpart.eq_of_length (heq.trans b.length_encode.symm))

lemma Banner.move_part {part : List UInt8} (hpart : part <+: b.encode) (hne : part ≠ b.encode)
    (chunk : StreamChunk) :
    reader.move chunk .awaitingServerBanner part = .wait [] ∧ ∀ serverVersion major minor,
        reader.move chunk (.awaitingClientBanner serverVersion major minor) part = .wait [] := by
  have hshort := length_part hpart hne
  constructor
  · rw [reader_move, move, if_pos hshort]
  · intro serverVersion major minor
    rw [reader_move, move, if_pos hshort]

lemma Banner.not_short (b : Banner) (more : List UInt8) :
    ¬ (b.encode ++ more).length < bannerLen := by
  rw [length_append]
  exact not_lt.2 (le_add_right _ _)

lemma move_direct {serverVersion clientVersion : String} (hold : major = 3 ∧ minor ≤ 3)
    (chunk : StreamChunk) (buf : List UInt8) :
    reader.move chunk (.awaitingSecurityTypes serverVersion clientVersion major minor) buf =
      if buf.length < 4 then .wait []
      else .halt (emitHandshake chunk (directHandshake serverVersion clientVersion buf)) .done
        (buf.drop 4) := by
  rw [reader_move]
  exact if_pos hold

lemma move_toBe {serverVersion clientVersion : String} (hold : major = 3 ∧ minor ≤ 3)
    (type : Fin 3) (chunk : StreamChunk) (more : List UInt8) :
    reader.move chunk (.awaitingSecurityTypes serverVersion clientVersion major minor)
      (toBe 4 type ++ more) =
      .halt
        (emitHandshake chunk (directHandshake serverVersion clientVersion (toBe 4 type ++ more)))
          .done
        ((toBe 4 type ++ more).drop 4) := by
  have hlong : ¬ (toBe 4 type ++ more).length < 4 := by
    rw [length_append]
    exact not_lt.2 (le_add_right _ _)
  rw [move_direct hold, if_neg hlong]

lemma last_direct {serverVersion clientVersion : String} (hold : major = 3 ∧ minor ≤ 3)
    (type : Fin 3) :
    Staged.Last reader select (.awaitingSecurityTypes serverVersion clientVersion major minor)
      (toBe 4 type) := by
  refine ⟨⟨rfl, ?_⟩, fun chunk more => ⟨_, .done, _, move_toBe hold type chunk more, rfl⟩⟩
  intro chunk part hpart hne
  have hle := hpart.length_le
  have hshort : part.length < 4 :=
    lt_of_le_of_ne hle fun heq => hne (hpart.eq_of_length (heq.trans (length_toBe 4 _).symm))
  exact ⟨[], by rw [move_direct hold, if_pos hshort], rfl⟩

lemma move_offered {serverVersion clientVersion : String} (hnew : ¬ (major = 3 ∧ minor ≤ 3))
    (types : List UInt8) (hfits : types.length < 2 ^ 8) (chunk : StreamChunk) (more : List UInt8) :
    reader.move chunk (.awaitingSecurityTypes serverVersion clientVersion major minor)
        (ofNat types.length :: types ++ more) =
      .halt (emitHandshake chunk (offeredHandshake serverVersion clientVersion types more).1) .done
        (offeredHandshake serverVersion clientVersion types more).2 := by
  have hcount : (ofNat types.length).toNat = types.length := toNat_ofNat_of_lt hfits
  have hlong : ¬ (types ++ more).length < types.length := by
    rw [length_append]
    exact not_lt.2 (le_add_right _ _)
  rw [reader_move, cons_append, move, if_neg hnew]
  rw [hcount, if_neg hlong, take_left, drop_left]

lemma last_offered {serverVersion clientVersion : String} (hnew : ¬ (major = 3 ∧ minor ≤ 3))
    (types : List UInt8) (hfits : types.length < 2 ^ 8) :
    Staged.Last reader select (.awaitingSecurityTypes serverVersion clientVersion major minor)
      (ofNat types.length :: types) := by
  have hcount : (ofNat types.length).toNat = types.length := toNat_ofNat_of_lt hfits
  refine ⟨⟨rfl, ?_⟩, fun chunk more => ⟨_, .done, _, move_offered hnew types hfits chunk more, rfl⟩⟩
  intro chunk part hpart hne
  refine ⟨[], ?_, rfl⟩
  rw [reader_move]
  cases part with
  | nil => rw [move, if_neg hnew]
  | cons count behind =>
    obtain ⟨rfl, hbehind⟩ := cons_prefix_cons.1 hpart
    have hshort : behind.length < types.length :=
      lt_of_le_of_ne hbehind.length_le fun heq => hne (by rw [hbehind.eq_of_length heq])
    rw [move, if_neg hnew, hcount, if_pos hshort]

lemma reads_direct {serverVersion clientVersion : String} (hold : major = 3 ∧ minor ≤ 3)
    (type : Fin 3) :
    Staged.Reads reader isConnect 1 (.awaitingSecurityTypes serverVersion clientVersion major minor)
      (toBe 4 type) := by
  refine ⟨_, _, last_direct hold type, .here, ?_⟩
  intro chunk more
  rw [move_toBe hold]
  exact filter_emitHandshake chunk _

lemma reads_offered {serverVersion clientVersion : String} (hnew : ¬ (major = 3 ∧ minor ≤ 3))
    (types : List UInt8) (hfits : types.length < 2 ^ 8) :
    Staged.Reads reader isConnect 1 (.awaitingSecurityTypes serverVersion clientVersion major minor)
      (ofNat types.length :: types) := by
  refine ⟨_, _, last_offered hnew types hfits, .here, ?_⟩
  intro chunk more
  rw [move_offered hnew types hfits]
  exact filter_emitHandshake chunk _

/-- The bytes of the security types that the decoder reads, which are all of them, or the first one
only. -/
theorem Security.reads (security : Security) (serverVersion clientVersion : String)
    (hchosen : major = 3 ∧ minor ≤ 3 → ∃ type, security = .direct type) :
    ∃ bytes tail, security.encode = bytes ++ tail ∧
      Staged.Reads reader isConnect 1
        (.awaitingSecurityTypes serverVersion clientVersion major minor) bytes := by
  -- what is read depends on the version of the server only
  by_cases hold : major = 3 ∧ minor ≤ 3
  · obtain ⟨type, rfl⟩ := hchosen hold
    exact ⟨_, [], (append_nil _).symm, reads_direct hold type⟩
  · cases security with
    | offered types fits => exact ⟨_, [], (append_nil _).symm, reads_offered hold types fits⟩
    | direct type =>
      -- its first byte is read as an empty list of types
      refine ⟨[0], (toBe 4 type).tail, ?_, reads_offered hold [] (by decide)⟩
      have hfirst : ∀ type : Fin 3, toBe 4 type = [0] ++ (toBe 4 type).tail := by decide
      exact hfirst type

lemma Banner.move_unreadable (h : ¬ b.Readable) (chunk : StreamChunk) (more : List UInt8) :
    reader.move chunk .awaitingServerBanner (b.encode ++ more) =
      .halt [bannerAnomaly chunk b.encode] .done (b.encode ++ more) := by
  rw [reader_move, move, if_neg (b.not_short more), ← b.length_encode, take_left,
    b.parseBanner_encode, if_neg h]

lemma Banner.last_unreadable (h : ¬ b.Readable) :
    Staged.Last reader select .awaitingServerBanner b.encode :=
  ⟨⟨rfl, fun chunk _ hpart hne => ⟨[], (move_part hpart hne chunk).1, rfl⟩⟩,
    fun chunk more => ⟨_, .done, _, move_unreadable h chunk more, rfl⟩⟩

lemma Banner.stage_client (b : Banner) (serverVersion : String) (major minor : Nat) :
    Staged.Stage reader select (.awaitingClientBanner serverVersion major minor)
      (.awaitingSecurityTypes serverVersion (clientVersion b.encode) major minor) b.encode := by
  refine ⟨⟨rfl, fun chunk part hpart hne => ⟨[], (move_part hpart hne chunk).2 _ _ _, rfl⟩⟩,
    cons_ne_nil _ _, ?_⟩
  intro chunk more
  refine ⟨[], ?_, rfl⟩
  rw [reader_move, move, if_neg (b.not_short more), ← b.length_encode, take_left, drop_left]

lemma Banner.stage_server (h : b.Readable) : Staged.Stage reader select .awaitingServerBanner
      (.awaitingClientBanner (toString b.major ++ "." ++ toString b.minor) b.major b.minor)
        b.encode := by
  refine ⟨⟨rfl, fun chunk part hpart hne => ⟨[], (move_part hpart hne chunk).1, rfl⟩⟩,
    cons_ne_nil _ _, ?_⟩
  intro chunk more
  refine ⟨[], ?_, rfl⟩
  rw [reader_move, move, if_neg (b.not_short more), ← b.length_encode, take_left, drop_left,
    b.parseBanner_encode, if_pos h]

lemma RfbHandshake.reads (h : RfbHandshake) : ∃ bytes tail, bytes ≠ [] ∧ h.encode = bytes ++ tail ∧
      Staged.Reads reader isConnect (if h.server.Readable then 1
        else 0) .awaitingServerBanner bytes := by
  by_cases hreadable : h.server.Readable
  · rw [if_pos hreadable]
    obtain ⟨bytes, tail, hsecurity, hreads⟩ := h.security.reads
      _ (clientVersion _) h.chosen
    refine ⟨h.server.encode ++ (h.client.encode ++ bytes), tail ++ h.behind, cons_ne_nil _ _, ?_,
      ?_⟩
    · simp only [encode, hsecurity, append_assoc]
    · exact (stage_server hreadable).reads ((h.client.stage_client _ _ _).reads hreads)
  · rw [if_neg hreadable]
    refine ⟨h.server.encode, h.client.encode ++ h.security.encode ++ h.behind, cons_ne_nil _ _, ?_,
      ⟨_, _, last_unreadable hreadable, .here, fun chunk more => ?_⟩⟩
    · simp only [encode, append_assoc]
    · rw [move_unreadable hreadable]
      rfl

end Vnc

/-! ## Several connections -/

lemma keyed_of_sessionKey {σ : Type} {R : Staged.Reader StreamChunk σ UInt8 BronzeEvent}
    (h : ∀ chunk s buf, ∀ event ∈ (R.move chunk s buf).events, event.envelope.sessionKey =
      chunk.sessionKey)
    (operation : String) : Staged.Keyed R (markerOf operation) StreamChunk.sessionKey := by
  intro p chunk event hevent key hkey
  exact eq_of_markerOf_eq_some (R.forall_mem_feed h p chunk event hevent) hkey

/-- All chunks are of one connection. -/
def OneSession (chunks : List StreamChunk) : Prop :=
  ∀ chunk ∈ chunks, ∀ chunk' ∈ chunks, chunk.sessionKey = chunk'.sessionKey

/-- Every connection has one transaction, the one that it has if it is alone. -/
def Rdp.Served (chunks : List StreamChunk) : Prop :=
  Staged.Served Rdp.RdpDecoder.onStreamChunk
    (markerOf "rdp_connect") StreamChunk.sessionKey .default chunks

@[inherit_doc Rdp.Served]
def Vnc.Served (chunks : List StreamChunk) : Prop :=
  Staged.Served Vnc.VncDecoder.onStreamChunk
    (markerOf "vnc_connect") StreamChunk.sessionKey .default chunks

/-- Every connection carries a handshake, cut and mixed with the others in any way. Each has its own
transaction exactly if there is one connection. -/
theorem handshakes_served_iff (chunks : List StreamChunk) :
    (∀ exchange : String → Rdp.Exchange,
      (∀ chunk ∈ chunks, sessionBytes chunk.sessionKey chunks =
        (exchange chunk.sessionKey).encode) → (Rdp.Served chunks ↔ OneSession chunks)) ∧
    (∀ handshake : String → Vnc.RfbHandshake,
      (∀ chunk ∈ chunks, sessionBytes chunk.sessionKey chunks =
        (handshake chunk.sessionKey).encode) →
        (Vnc.Served chunks ↔ OneSession chunks ∧
          ∀ chunk ∈ chunks, (handshake chunk.sessionKey).server.Readable)) := by
  constructor
  · intro exchange hbytes
    refine (Staged.served_iff single (keyed_of_sessionKey sessionKey_move _) .awaitingCr
      (fun _ => 1) chunks ?_).trans (and_iff_left fun _ _ => rfl)
    intro chunk hchunk
    exact ⟨(exchange chunk.sessionKey).handshake, (exchange chunk.sessionKey).behind,
      cons_ne_nil _ _, reads_exchange _, hbytes chunk hchunk⟩
  · intro handshake hbytes
    have hserved :=
      Staged.served_iff Vnc.single (keyed_of_sessionKey Vnc.sessionKey_move _) .awaitingServerBanner
      (fun key => if (handshake key).server.Readable then 1 else 0) chunks (by
        intro chunk hchunk
        obtain ⟨bytes, tail, hne, hencode, hreads⟩ := (handshake chunk.sessionKey).reads
        exact ⟨bytes, tail, hne, hreads, (hbytes chunk hchunk).trans hencode⟩)
    refine hserved.trans (and_congr_right fun _ => forall₂_congr fun chunk _ => ?_)
    split <;> simp_all

def smallExchange : Rdp.Exchange :=
  let tpdu : Rdp.ConnectionTpdu := ⟨0, 6, [0, 0, 0x12, 0x34, 0], by decide, by decide, by decide⟩
  ⟨tpdu, tpdu, []⟩

def Vnc.rfb38 : Vnc.Banner := ⟨3, 8, by decide, by decide⟩

/-- Version 3.8 on both sides; the server offers VNC authentication. -/
def smallHandshake : Vnc.RfbHandshake :=
  ⟨Vnc.rfb38, Vnc.rfb38, .offered [2] (by decide), [], fun h => absurd h.2 (by decide)⟩

def rdpConnections (keys : List String) : List StreamChunk :=
  keys.map fun key => sessionChunk key .tcp 3389 smallExchange.encode

def vncConnections (keys : List String) : List StreamChunk :=
  keys.map fun key => sessionChunk key .tcp 5900 smallHandshake.encode

theorem oneConnection_served : Rdp.Served (rdpConnections ["a"]) ∧
    Vnc.Served (vncConnections ["a"]) := by
  have hone : ∀ chunk : StreamChunk, OneSession [chunk] := by
    intro chunk c hc c' hc'
    rw [mem_singleton.1 hc, mem_singleton.1 hc']
  constructor
  · exact ((handshakes_served_iff (rdpConnections ["a"])).1 (fun _ => smallExchange)
      (forall_mem_singleton.2 (by decide))).2 (hone _)
  · refine ((handshakes_served_iff (vncConnections ["a"])).2 (fun _ => smallHandshake)
      (forall_mem_singleton.2 (by decide))).2 ⟨hone _, fun _ _ => ?_⟩
    decide

/-- The second connection has no transaction. -/
theorem secondConnection_silent :
    (∀ key ∈ ["a", "b"], sessionBytes key (rdpConnections ["a", "b"]) = smallExchange.encode ∧
        sessionBytes key (vncConnections ["a", "b"]) = smallHandshake.encode) ∧
      ¬ Rdp.Served (rdpConnections ["a", "b"]) ∧ ¬ Vnc.Served (vncConnections ["a", "b"]) := by
  refine ⟨by decide, ?_, ?_⟩
  · intro h
    obtain ⟨event, hevent, -⟩ := h (sessionChunk "b" .tcp 3389 smallExchange.encode)
      (mem_cons_of_mem _ (mem_singleton_self _))
    have hnone :
      (Mealy.run Rdp.RdpDecoder.onStreamChunk .default (rdpConnections ["a", "b"])).1.filter
        (fun e => markerOf "rdp_connect" e = some "b") = [] := rfl
    cases hnone.symm.trans hevent
  · intro h
    obtain ⟨event, hevent, -⟩ := h (sessionChunk "b" .tcp 5900 smallHandshake.encode)
      (mem_cons_of_mem _ (mem_singleton_self _))
    have hnone :
      (Mealy.run Vnc.VncDecoder.onStreamChunk .default (vncConnections ["a", "b"])).1.filter
        (fun e => markerOf "vnc_connect" e = some "b") = [] := rfl
    cases hnone.symm.trans hevent

end MarlinspikeDpi
