import MarlinspikeDpi.Foundation.Ber
import MarlinspikeDpi.Foundation.Framing
import MarlinspikeDpi.Ldap.Decoder

/-!
# Messages do not depend on where the stream is cut

The loop over the buffer of a session is the draining of a framing (`drainBuffer_eq`), with one exit
more: bytes that do not begin a SEQUENCE are thrown away.

* `parsed_eq_whole`: the messages do not depend on the cuts.
-/

namespace MarlinspikeDpi.Ldap

open Engine Bytes LdapDecoder List Nat Ber.LengthForm Mealy

/-! ## The framing -/

lemma decodeBerLength_append {buf : List UInt8} {found : Nat × Nat} (more : List UInt8)
    (h : decodeBerLength buf = some found) : decodeBerLength (buf ++ more) = some found := by
  cases buf with
  | nil => cases h
  | cons first rest =>
    rw [cons_append]
    simp only [decodeBerLength] at h ⊢
    by_cases hshort : first &&& 0x80 = 0
    · rw [if_pos hshort] at h ⊢
      exact h
    · rw [if_neg hshort] at h ⊢
      by_cases hbad : (first &&& 0x7F).toNat = 0 ∨ 4 < (first &&& 0x7F).toNat ∨
        rest.length < (first &&& 0x7F).toNat
      · rw [if_pos hbad] at h
        cases h
      · rw [if_neg hbad] at h
        push Not at hbad
        obtain ⟨hzero, hfour, hlen⟩ := hbad
        have hgood : ¬ ((first &&& 0x7F).toNat = 0 ∨ 4 < (first &&& 0x7F).toNat ∨
            (rest ++ more).length < (first &&& 0x7F).toNat) := by
          rw [length_append]
          omega
        rw [if_neg hgood, take_append_of_le_length hlen]
        exact h

def sequenceNext (buf : List UInt8) : Option (List UInt8 × List UInt8) :=
  (outerSequenceTotalLen buf).bind fun total =>
    if buf.length < total then none else some (buf.take total, buf.drop total)

variable {frame rest : List UInt8} {buf : List UInt8}

lemma sequenceNext_eq_some : sequenceNext buf = some (frame, rest) ↔
      ∃ total, outerSequenceTotalLen buf = some total ∧ total ≤ buf.length ∧
        frame = buf.take total ∧ rest = buf.drop total := by
  rw [sequenceNext, Option.bind_eq_some_iff]
  refine exists_congr fun total => and_congr_right fun _ => ?_
  by_cases hshort : buf.length < total
  · rw [if_pos hshort]
    exact iff_of_false nofun fun h => absurd h.1 (not_le.2 hshort)
  · rw [if_neg hshort]
    constructor
    · intro h
      cases h
      exact ⟨not_lt.1 hshort, rfl, rfl⟩
    · rintro ⟨-, rfl, rfl⟩
      rfl

lemma outerSequenceTotalLen_eq_some {total : Nat} : outerSequenceTotalLen buf = some total ↔
      ∃ rest vlen llen, buf = tagSequence :: rest ∧ decodeBerLength rest = some (vlen, llen) ∧
        total = 1 + llen + vlen := by
  cases buf with
  | nil => simp [outerSequenceTotalLen]
  | cons tag rest =>
    have htag : byteAt (tag :: rest) 0 = tag := rfl
    by_cases hsequence : tag = tagSequence
    · subst hsequence
      simp only [outerSequenceTotalLen, htag, drop_one, tail_cons]
      constructor
      · simp only [reduceCtorEq, ne_eq, not_true_eq_false, or_self, if_false,
          Option.map_eq_some_iff]
        rintro ⟨⟨vlen, llen⟩, hlength, rfl⟩
        exact ⟨rest, vlen, llen, rfl, hlength, rfl⟩
      · rintro ⟨rest', vlen, llen, hrest, hlength, rfl⟩
        cases hrest
        simp [hlength]
    · refine iff_of_false ?_ ?_
      · simp [outerSequenceTotalLen, htag, hsequence]
      · rintro ⟨rest', vlen, llen, hrest, -⟩
        cases hrest
        exact hsequence rfl

variable (key : String)

lemma outerSequenceTotalLen_append {total : Nat} (more : List UInt8)
    (h : outerSequenceTotalLen buf = some total) :
      outerSequenceTotalLen (buf ++ more) = some total := by
  obtain ⟨rest, vlen, llen, rfl, hlength, rfl⟩ := outerSequenceTotalLen_eq_some.1 h
  exact outerSequenceTotalLen_eq_some.2
    ⟨rest ++ more, vlen, llen, rfl, decodeBerLength_append more hlength, rfl⟩

lemma two_le_of_outerSequenceTotalLen {total : Nat} (h : outerSequenceTotalLen buf = some total) :
    2 ≤ total := by
  obtain ⟨rest, vlen, llen, -, hlength, rfl⟩ := outerSequenceTotalLen_eq_some.1 h
  have hllen : 1 ≤ llen := by
    cases rest with
    | nil => cases hlength
    | cons first rest =>
      simp only [decodeBerLength] at hlength
      split at hlength
      · cases hlength
        exact le_rfl
      · split at hlength
        · cases hlength
        · cases hlength
          exact le_add_right 1 _
  omega

lemma sequenceNext_shrinks (h : sequenceNext buf = some (frame, rest)) :
    rest.length < buf.length := by
  obtain ⟨total, htotal, hle, -, rfl⟩ := sequenceNext_eq_some.1 h
  have htwo := two_le_of_outerSequenceTotalLen htotal
  rw [length_drop]
  omega

lemma sequenceNext_append (more : List UInt8) (h : sequenceNext buf = some (frame, rest)) :
    sequenceNext (buf ++ more) = some (frame, rest ++ more) := by
  obtain ⟨total, htotal, hle, rfl, rfl⟩ := sequenceNext_eq_some.1 h
  refine sequenceNext_eq_some.2 ⟨total, outerSequenceTotalLen_append more htotal, ?_, ?_, ?_⟩
  · rw [length_append]
    omega
  · rw [take_append_of_le_length hle]
  · rw [drop_append_of_le_length hle]

def sequences : Framing UInt8 := ⟨sequenceNext, sequenceNext_shrinks, sequenceNext_append⟩

/-! ## The loop drains the framing -/

def isForeign (buf : List UInt8) : Bool := 2 ≤ buf.length && byteAt buf 0 != tagSequence

lemma sequenceNext_of_isForeign (h : isForeign buf = true) : sequenceNext buf = none := by
  obtain ⟨hlen, htag⟩ := Bool.and_eq_true_iff.1 h
  have hnone : outerSequenceTotalLen buf = none := by
    rw [outerSequenceTotalLen, if_pos (.inr (bne_iff_ne.1 htag))]
  rw [sequenceNext, hnone]
  rfl

def leave (buf : List UInt8) : List DrainResult × List UInt8 :=
  if isForeign buf then ([.invalidTag buf], []) else ([], buf)

lemma drainLoop_of_sequenceNext_eq_none (fuel : Nat) (hnone : sequenceNext buf = none) :
    drainLoop (fuel + 1) buf = leave buf := by
  rw [drainLoop, leave]
  by_cases hshort : buf.length < 2
  · have hforeign : isForeign buf = false := by simp [isForeign, not_le.2 hshort]
    rw [if_pos hshort, hforeign]
    rfl
  · rw [if_neg hshort]
    by_cases htag : byteAt buf 0 = tagSequence
    · have hforeign : isForeign buf = false := by simp [isForeign, htag]
      rw [if_neg (not_not.2 htag), hforeign]
      rw [sequenceNext] at hnone
      cases htotal : outerSequenceTotalLen buf with
      | none => rfl
      | some total =>
        rw [htotal, Option.bind_some] at hnone
        have hlong : buf.length < total := by
          by_contra hle
          rw [if_neg hle] at hnone
          cases hnone
        exact if_pos hlong
    · have hforeign : isForeign buf = true := by simp [isForeign, htag, not_lt.1 hshort]
      rw [if_pos htag, hforeign]
      rfl

lemma drainLoop_of_sequenceNext_eq_some (fuel : Nat)
    (hsome : sequenceNext buf = some (frame, rest)) :
    drainLoop (fuel + 1) buf = (parseFrame frame :: (drainLoop fuel rest).1,
      (drainLoop fuel rest).2) := by
  obtain ⟨total, htotal, hle, rfl, rfl⟩ := sequenceNext_eq_some.1 hsome
  have htwo := two_le_of_outerSequenceTotalLen htotal
  obtain ⟨tail, vlen, llen, htag, -⟩ := outerSequenceTotalLen_eq_some.1 htotal
  have hsequence : byteAt buf 0 = tagSequence := by
    rw [htag]
    rfl
  have hlen : ¬ buf.length < 2 := by omega
  rw [drainLoop, if_neg hlen, if_neg (not_not.2 hsequence), htotal]
  exact if_neg (not_lt.2 hle)

lemma drainLoop_eq {fuel : Nat} (hfuel : buf.length ≤ fuel) : drainLoop fuel buf =
      ((sequences.drain buf).1.map parseFrame ++ (leave (sequences.drain buf).2).1,
        (leave (sequences.drain buf).2).2) := by
  induction fuel generalizing buf with
  | zero =>
    have hnil : buf = [] := length_eq_zero_iff.1 (le_zero.1 hfuel)
    subst hnil
    rfl
  | succ fuel ih =>
    cases hnext : sequenceNext buf with
    | none =>
      have hdrain : sequences.drain buf = ([], buf) := sequences.drain_of_next_eq_none hnext
      rw [drainLoop_of_sequenceNext_eq_none fuel hnext, hdrain]
      rfl
    | some found =>
      obtain ⟨frame, rest⟩ := found
      have hdrain := sequences.drain_of_next_eq_some hnext
      have hshorter := sequenceNext_shrinks hnext
      have hrest : rest.length ≤ fuel := by omega
      rw [drainLoop_of_sequenceNext_eq_some fuel hnext, ih hrest, hdrain]
      rfl

lemma drainBuffer_eq (buf : List UInt8) : drainBuffer buf =
      ((sequences.drain buf).1.map parseFrame ++ (leave (sequences.drain buf).2).1,
        (leave (sequences.drain buf).2).2) := drainLoop_eq le_rfl

lemma drainBuffer_of_completed {buf more : List UInt8}
    (hwhole : (sequences.drain (buf ++ more)).2 = []) :
    drainBuffer buf = ((sequences.drain buf).1.map parseFrame, (sequences.drain buf).2) := by
  have hforeign : isForeign (sequences.drain buf).2 = false := by
    by_contra hforeign
    rw [Bool.not_eq_false] at hforeign
    set rest := (sequences.drain buf).2 with hrest
    obtain ⟨hlen, htag⟩ := Bool.and_eq_true_iff.1 hforeign
    have htwo : 2 ≤ rest.length := of_decide_eq_true hlen
    -- with more bytes behind them they are no more the beginning of a message than before
    have hhead : byteAt (rest ++ more) 0 = byteAt rest 0 := by
      cases hrest' : rest with
      | nil => simp [hrest'] at htwo
      | cons b bs => rfl
    have hforeign' : isForeign (rest ++ more) = true := by
      rw [isForeign, hhead, htag, Bool.and_true, length_append]
      exact decide_eq_true (by omega)
    have hnone := sequences.drain_of_next_eq_none (sequenceNext_of_isForeign hforeign')
    rw [sequences.drain_append, hnone] at hwhole
    have hempty : rest = [] := (append_eq_nil_iff.1 hwhole).1
    rw [hempty] at htwo
    exact absurd htwo (by decide)
  rw [drainBuffer_eq, leave, hforeign]
  simp

/-! ## Streams in chunks -/

def streamOf (key : String) (chunks : List StreamChunk) : List UInt8 :=
  chunks.flatMap fun chunk => if chunk.sessionKey = key then chunk.payload else []

lemma streamOf_cons_self (chunk : StreamChunk) (chunks : List StreamChunk) :
    streamOf chunk.sessionKey (chunk :: chunks) =
      chunk.payload ++ streamOf chunk.sessionKey chunks := by
  rw [streamOf, flatMap_cons, if_pos rfl]
  rfl

lemma streamOf_cons_of_ne {key : String} {chunk : StreamChunk} (hkey : chunk.sessionKey ≠ key)
    (chunks : List StreamChunk) : streamOf key (chunk :: chunks) = streamOf key chunks := by
  rw [streamOf, flatMap_cons, if_neg hkey]
  rfl

/-- What the loop finds in the chunks of a session, one after the other. -/
def parsed (key : String) : LdapDecoder → List StreamChunk → List DrainResult
  | _, [] => []
  | d, chunk :: chunks =>
    (if chunk.sessionKey = key ∧ ¬ isLdaps chunk then (d.drained chunk).1 else []) ++
      parsed key (d.onStreamChunk chunk).2 chunks

/-- On the chunks of a stream that ends with a whole message the loop finds the messages of the
stream. -/
theorem parsed_of_completed (chunks : List StreamChunk) (d : LdapDecoder)
    (hplain : ∀ chunk ∈ chunks, chunk.sessionKey = key → isLdaps chunk = false)
    (hbuffer : sequences.next (d.bufferOf key) = none)
    (hwhole : (sequences.drain (d.bufferOf key ++ streamOf key chunks)).2 = []) :
    parsed key d chunks = (sequences.drain (d.bufferOf key ++ streamOf key chunks)).1.map
      parseFrame ∧ (run onStreamChunk d chunks).2.bufferOf key = [] := by
  induction chunks generalizing d with
  | nil =>
    rw [streamOf, flatMap_nil, append_nil, sequences.drain_of_next_eq_none hbuffer] at *
    exact ⟨rfl, hwhole⟩
  | cons chunk chunks ih =>
    obtain ⟨hchunk, hchunks⟩ := forall_mem_cons.1 hplain
    rw [parsed, run_cons]
    by_cases hkey : chunk.sessionKey = key
    · subst hkey
      have hplaintext := hchunk rfl
      have hstep : d.onStreamChunk chunk = d.handleLdapPlaintext chunk := by
        rw [onStreamChunk, hplaintext]
        rfl
      rw [streamOf_cons_self, ← append_assoc] at hwhole ⊢
      -- the chunk is drained as far as it goes, and the rest is completed by the later chunks
      have hdrained : d.drained chunk =
          ((sequences.drain (d.bufferOf chunk.sessionKey ++ chunk.payload)).1.map parseFrame,
            (sequences.drain (d.bufferOf chunk.sessionKey ++ chunk.payload)).2) :=
        drainBuffer_of_completed hwhole
      have hafter : (d.onStreamChunk chunk).2.bufferOf chunk.sessionKey =
          (sequences.drain (d.bufferOf chunk.sessionKey ++ chunk.payload)).2 := by
        rw [hstep, bufferOf_handleLdapPlaintext, hdrained]
      have hnext := sequences.next_drain_snd (d.bufferOf chunk.sessionKey ++ chunk.payload)
      rw [sequences.drain_append] at hwhole ⊢
      rw [← hafter] at hnext hwhole ⊢
      obtain ⟨hparsed, hend⟩ := ih _ hchunks hnext hwhole
      refine ⟨?_, hend⟩
      rw [hparsed, hdrained, if_pos ⟨rfl, by simp [hplaintext]⟩, map_append]
    · -- a chunk of another session changes nothing
      have hafter : (d.onStreamChunk chunk).2.bufferOf key = d.bufferOf key := by
        rw [bufferOf, d.session_onStreamChunk_of_ne hkey, bufferOf]
      rw [streamOf_cons_of_ne hkey] at hwhole ⊢
      rw [← hafter] at hbuffer hwhole ⊢
      obtain ⟨hparsed, hend⟩ := ih _ hchunks hbuffer hwhole
      refine ⟨?_, hend⟩
      rw [hparsed, if_neg fun h => hkey h.1, nil_append]

/-! ## Messages -/

/-- The definite forms of a length: one byte, or one to four bytes after the byte that counts
them. -/
inductive LengthForm where
  | short
  | long (more : Fin 4)

namespace LengthForm

def capacity : LengthForm → Nat
  | .short => 128
  | .long more => 256 ^ (more.val + 1)

def encode : LengthForm → Nat → List UInt8
  | .short, n => [UInt8.ofNat n]
  | .long more, n => UInt8.ofNat (0x80 + (more.val + 1)) :: toBe (more.val + 1) n

lemma decodeBerLength_encode (form : LengthForm) {n : Nat} (hn : n < form.capacity)
    (rest : List UInt8) :
    decodeBerLength (form.encode n ++ rest) = some (n, (form.encode n).length) := by
  cases form with
  | short =>
    obtain ⟨hlow, hbyte⟩ := first_short hn
    simp only [encode, cons_append, nil_append, decodeBerLength, if_pos hlow, hbyte]
    rfl
  | long more =>
    have hmore := more.isLt
    obtain ⟨hhigh, hcount⟩ := first_long (succ_pos _) hmore
    have hgood : ¬ (more.val + 1 = 0 ∨ 4 < more.val + 1 ∨
        (toBe (more.val + 1) n ++ rest).length < more.val + 1) := by
      rw [length_append, length_toBe]
      omega
    simp only [encode, cons_append, decodeBerLength, if_neg hhigh, hcount, if_neg hgood]
    rw [take_left' (length_toBe _ _), beNat_toBe hn, length_cons, length_toBe, add_comm]

end LengthForm

/-- An LDAPMessage on the wire, with any content. -/
structure LdapPdu where
  form : LengthForm
  content : List UInt8
  fits : content.length < form.capacity

open LdapPdu

namespace LdapPdu

def encode (m : LdapPdu) : List UInt8 :=
  tagSequence :: (m.form.encode m.content.length ++ m.content)

lemma next_encode (m : LdapPdu) (rest : List UInt8) :
    sequences.next (m.encode ++ rest) = some (m.encode, rest) := by
  have htotal : outerSequenceTotalLen (m.encode ++ rest) = some m.encode.length := by
    refine outerSequenceTotalLen_eq_some.2
      ⟨m.form.encode _ ++ (m.content ++ rest), m.content.length,
        (m.form.encode _).length, ?_, m.form.decodeBerLength_encode m.fits _, ?_⟩
    · rw [encode, cons_append, append_assoc]
    · rw [encode, length_cons, length_append]
      omega
  refine sequenceNext_eq_some.2 ⟨m.encode.length, htotal, ?_, ?_, ?_⟩
  · rw [length_append]
    exact le_add_right _ _
  · rw [take_left]
  · rw [drop_left]

def result (m : LdapPdu) : DrainResult := parseFrame m.encode

end LdapPdu

/-- In a stream of messages, wherever it is cut and whatever other sessions send in between, the
loop finds the messages, and nothing is left. -/
theorem parsed_of_stream (messages : List LdapPdu) (d : LdapDecoder)
    (hbuffer : d.bufferOf key = []) (chunks : List StreamChunk)
    (hplain : ∀ chunk ∈ chunks, chunk.sessionKey = key → isLdaps chunk = false)
    (hcut : streamOf key chunks = messages.flatMap encode) :
    parsed key d chunks = messages.map result ∧
      (run onStreamChunk d chunks).2.bufferOf key = [] := by
  have hdrain : sequences.drain (d.bufferOf key ++ streamOf key chunks) =
      (messages.map encode, []) := by
    rw [hbuffer, hcut, nil_append]
    exact sequences.drain_encoded encode encode next_encode messages
  have hempty : sequences.next (d.bufferOf key) = none := by
    rw [hbuffer]
    exact sequences.next_nil
  obtain ⟨hparsed, hend⟩ := parsed_of_completed key chunks d hplain hempty (by rw [hdrain])
  rw [hdrain, map_map] at hparsed
  exact ⟨hparsed, hend⟩

structure InOneChunk (key : String) (messages : List LdapPdu) (whole : StreamChunk) : Prop where
  onSession : whole.sessionKey = key
  plain : isLdaps whole = false
  payload : whole.payload = messages.flatMap LdapPdu.encode

namespace InOneChunk

variable {key} {messages : List LdapPdu} {whole : StreamChunk} (h : InOneChunk key messages whole)

include h

lemma plain_of_mem : ∀ chunk ∈ [whole], chunk.sessionKey = key → isLdaps chunk = false := by
  intro chunk hchunk _
  rw [mem_singleton.1 hchunk]
  exact h.plain

lemma streamOf_eq : streamOf key [whole] = messages.flatMap encode := by
  rw [streamOf, flatMap_singleton, if_pos h.onSession, h.payload]

end InOneChunk

/-- A stream of messages gives the same messages wherever it is cut, with chunks of any other
sessions in between, and nothing of it is left. -/
theorem parsed_eq_whole (key : String) (messages : List LdapPdu) (d : LdapDecoder)
    (hbuffer : d.bufferOf key = []) (chunks : List StreamChunk)
    (hplain : ∀ chunk ∈ chunks, chunk.sessionKey = key → isLdaps chunk = false)
    (hcut : streamOf key chunks = messages.flatMap LdapPdu.encode) (whole : StreamChunk)
    (hwhole : InOneChunk key messages whole) :
    parsed key d chunks = parsed key d [whole] ∧
      parsed key d [whole] = messages.map LdapPdu.result ∧
      (Mealy.run onStreamChunk d chunks).2.bufferOf key = [] ∧
      (Mealy.run onStreamChunk d [whole]).2.bufferOf key = [] := by
  obtain ⟨hparsed, hend⟩ := parsed_of_stream key messages d hbuffer chunks hplain hcut
  obtain ⟨hparsed', hend'⟩ :=
    parsed_of_stream key messages d hbuffer [whole] hwhole.plain_of_mem hwhole.streamOf_eq
  exact ⟨hparsed.trans hparsed'.symm, hparsed', hend, hend'⟩

def unbindShort : LdapPdu := ⟨.short, [0x02, 0x01, 0x03, 0x42, 0x00], by decide⟩

def unbindLong : LdapPdu := ⟨.long 1, [0x02, 0x01, 0x04, 0x42, 0x00], by decide⟩

def unbindChunks : List StreamChunk :=
  [hostChunk 0 .tcp 49152 389 [0x30, 0x05, 0x02, 0x01, 0x03, 0x42, 0x00, 0x30, 0x82],
    hostChunk 1 .tcp 49152 389 [0x00, 0x05, 0x02],
      hostChunk 2 .tcp 49152 389 [0x01, 0x04, 0x42, 0x00]]

def unbindWhole : StreamChunk :=
  hostChunk 0 .tcp 49152 389 ([unbindShort, unbindLong].flatMap LdapPdu.encode)

theorem unbind_parsed_eq_whole :
    (LdapDecoder.default.bufferOf "" = [] ∧
      (∀ chunk ∈ unbindChunks, chunk.sessionKey = "" → isLdaps chunk = false) ∧
      streamOf "" unbindChunks = [unbindShort, unbindLong].flatMap LdapPdu.encode ∧
      InOneChunk "" [unbindShort, unbindLong] unbindWhole) ∧
    parsed "" LdapDecoder.default unbindChunks = parsed "" LdapDecoder.default [unbindWhole] ∧
      parsed "" LdapDecoder.default [unbindWhole] = [unbindShort, unbindLong].map LdapPdu.result ∧
      (Mealy.run onStreamChunk LdapDecoder.default unbindChunks).2.bufferOf "" = [] ∧
      (Mealy.run onStreamChunk LdapDecoder.default [unbindWhole]).2.bufferOf "" = [] := by
  have hplain : ∀ chunk ∈ unbindChunks, chunk.sessionKey = "" → isLdaps chunk = false := by decide
  have hcut : streamOf "" unbindChunks = [unbindShort, unbindLong].flatMap encode := by decide
  have hwhole : InOneChunk "" [unbindShort, unbindLong] unbindWhole := ⟨rfl, rfl, rfl⟩
  exact ⟨⟨rfl, hplain, hcut, hwhole⟩,
    parsed_eq_whole "" [unbindShort, unbindLong] LdapDecoder.default rfl unbindChunks hplain hcut
      unbindWhole hwhole⟩

end MarlinspikeDpi.Ldap
