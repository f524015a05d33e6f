import MarlinspikeDpi.Smtp.Decoder

/-!
# When the decoder returns

Only lines of the server are cut. `Sliceable` says that the offsets 3 and 4, as far as a line is cut
there, are not within a character.

* `returns_iff`: on which payloads the decoder never panics.
-/

namespace MarlinspikeDpi.Smtp

open Engine Text Checked List SmtpDecoder

/-- A line that is long enough is cut at offset 3, and that of a banner at offset 4. -/
def Sliceable (line : List Char) : Prop :=
  byteLen line < 3 ∨ ∃ digits behind, splitAtByte line 3 = some (digits, behind) ∧
    (parseUnsigned 65536 (String.ofList digits) = some 220 → behind.head? ≠ some '-' →
      4 < byteLen line → ∃ halves, splitAtByte line 4 = some halves)

/-- All lines of the payload can be cut. -/
def SafePayload (payload : List UInt8) : Prop :=
  ∀ lines, linesOf payload = some lines → ∀ raw ∈ lines, Sliceable (trimCr raw)

lemma splitText_eq_ok {line : List Char} {n : Nat} {halves : List Char × List Char} :
    splitText line n = .ok halves ↔ splitAtByte line n = some halves := by
  unfold splitText
  cases splitAtByte line n with
  | none => exact ⟨fun h => (nomatch h), fun h => (nomatch h)⟩
  | some found => exact ⟨fun h => congrArg some (Except.ok.inj h),
    fun h => congrArg Except.ok (Option.some.inj h)⟩

lemma bannerText_returns_iff {line : List Char} :
    (∃ rest, bannerText line = .ok rest) ↔
      (4 < byteLen line → ∃ halves, splitAtByte line 4 = some halves) := by
  unfold bannerText
  split
  · rename_i hlong
    constructor
    · rintro ⟨rest, h⟩ -
      cases hsplit : splitAtByte line 4 with
      | none =>
        rw [splitText, hsplit] at h
        cases h
      | some halves => exact ⟨halves, rfl⟩
    · intro h
      obtain ⟨halves, hsplit⟩ := h hlong
      rw [splitText_eq_ok.2 hsplit]
      exact ⟨_, rfl⟩
  · rename_i hshort
    exact ⟨fun _ hlong => absurd hlong hshort, fun _ => ⟨[], rfl⟩⟩

variable {chunk : StreamChunk}

lemma onServerLine_of_split {session : SmtpSession} {line digits behind : List Char}
    (hlong : ¬ byteLen line < 3) (hsplit : splitAtByte line 3 = some (digits, behind)) :
    onServerLine chunk session line =
      match parseUnsigned 65536 (String.ofList digits) with
      | none => .ok ([emitAnomaly chunk line], session)
      | some code =>
        if behind.head? = some '-' then .ok ([], session)
        else if session.awaitingStarttls220 ∧ code = 220 then
          .ok ([], { session with awaitingStarttls220 := false, tlsActive := true })
        else if code = 220 then
          (bannerText line).map fun rest =>
            (bannerEvents chunk (String.ofList rest), { session with awaitingStarttls220 := false })
        else .ok ([], { session with awaitingStarttls220 := false }) := by
  rw [onServerLine, if_neg hlong, splitText_eq_ok.2 hsplit]
  rfl

lemma onServerLine_of_sliceable {line : List Char} (h : Sliceable line) (chunk : StreamChunk)
    (session : SmtpSession) : ∃ result, onServerLine chunk session line = .ok result := by
  by_cases hlong : byteLen line < 3
  · exact ⟨_, if_pos hlong⟩
  · obtain ⟨digits, behind, hsplit, hbanner⟩ := h.resolve_left hlong
    rw [onServerLine_of_split hlong hsplit]
    cases hcode : parseUnsigned 65536 _ with
    | none => exact ⟨_, rfl⟩
    | some code =>
      dsimp only
      split
      · exact ⟨_, rfl⟩
      · rename_i hdash
        split
        · exact ⟨_, rfl⟩
        · split
          · rename_i h220
            obtain ⟨rest, hrest⟩ := bannerText_returns_iff.2 (hbanner (h220 ▸ hcode) hdash)
            rw [hrest]
            exact ⟨_, rfl⟩
          · exact ⟨_, rfl⟩

/-- In a session that does not wait for the answer to `STARTTLS` both cuts are made, and the session
stays as it is. -/
theorem sliceable_of_onServerLine {session : SmtpSession} {events : List BronzeEvent}
    {mid : SmtpSession} {line : List Char} (hawaiting : session.awaitingStarttls220 = false)
    (h : onServerLine chunk session line = .ok (events, mid)) : Sliceable line ∧ mid = session := by
  by_cases hlong : byteLen line < 3
  · rw [onServerLine, if_pos hlong] at h
    cases h
    exact ⟨.inl hlong, rfl⟩
  · cases hsplit : splitAtByte line 3 with
    | none =>
      rw [onServerLine, if_neg hlong, splitText, hsplit] at h
      cases h
    | some halves =>
      obtain ⟨digits, behind⟩ := halves
      have hsame : { session with awaitingStarttls220 := false } = session := by rw [← hawaiting]
      rw [onServerLine_of_split hlong hsplit, hsame] at h
      suffices hbanner : (parseUnsigned 65536 _ = some 220 → behind.head? ≠ some '-' →
          4 < byteLen line → ∃ halves, splitAtByte line 4 = some halves) ∧ mid = session from
        ⟨.inr ⟨digits, behind, hsplit, hbanner.1⟩, hbanner.2⟩
      cases hcode : parseUnsigned 65536 _ with
      | none =>
        rw [hcode] at h
        cases h
        exact ⟨fun h220 => (nomatch h220), rfl⟩
      | some code =>
        rw [hcode] at h
        dsimp only at h
        split at h
        · rename_i hdash
          cases h
          exact ⟨fun _ hnone => absurd hdash hnone, rfl⟩
        · -- no answer is awaited, so a code 220 is that of a banner
          rw [hawaiting, if_neg (fun hboth => Bool.false_ne_true hboth.1)] at h
          split at h
          · cases hbanner : bannerText line with
            | error panic =>
              rw [hbanner] at h
              cases h
            | ok rest =>
              rw [hbanner] at h
              cases h
              exact ⟨fun _ _ => bannerText_returns_iff.1 ⟨rest, hbanner⟩, rfl⟩
          · rename_i hother
            cases h
            exact ⟨fun h220 => absurd (Option.some.inj h220) hother, rfl⟩

lemma onLine_of_sliceable {raw : List Char} {fromServer : Bool}
    (h : fromServer = true → Sliceable (trimCr raw))
    (chunk : StreamChunk) (session : SmtpSession) :
      ∃ result, onLine chunk fromServer session raw = .ok result := by
  unfold onLine
  split
  · exact ⟨_, rfl⟩
  · dsimp only
    split
    · exact ⟨_, rfl⟩
    · split
      · rename_i hserver
        exact onServerLine_of_sliceable (h hserver) chunk session
      · exact ⟨_, rfl⟩

lemma sliceable_nil : Sliceable [] := .inl (by decide)

lemma sliceable_of_onLine {session : SmtpSession} {events : List BronzeEvent} {mid : SmtpSession}
    {raw : List Char} (hquiet : session.isQuiet = false)
    (hawaiting : session.awaitingStarttls220 = false)
    (h : onLine chunk true session raw = .ok (events, mid)) : Sliceable (trimCr raw) ∧
      mid = session := by
  unfold onLine at h
  rw [hquiet, if_neg Bool.false_ne_true] at h
  dsimp only at h
  split at h
  · rename_i hempty
    cases h
    exact ⟨hempty ▸ sliceable_nil, rfl⟩
  · rw [if_pos rfl] at h
    exact sliceable_of_onServerLine hawaiting h

lemma sliceable_of_run {session : SmtpSession} (hquiet : session.isQuiet = false)
    (hawaiting : session.awaitingStarttls220 = false) {lines : List (List Char)}
    {result : List BronzeEvent × SmtpSession}
    (h : run (onLine chunk true) session lines = .ok result) :
    ∀ raw ∈ lines, Sliceable (trimCr raw) := by
  induction lines generalizing result with
  | nil => exact forall_mem_nil _
  | cons raw lines ih =>
    obtain ⟨out, mid, outs, last, hline, hrest, rfl⟩ := (run_cons_eq_ok _).1 h
    obtain ⟨hsliceable, rfl⟩ := sliceable_of_onLine hquiet hawaiting hline
    exact forall_mem_cons.2 ⟨hsliceable, ih hrest⟩

/-! ## Chunks -/

/-- The chunks that the decoder cuts into replies. -/
def ReadsReplies (chunk : StreamChunk) : Prop := isSmtps chunk = false ∧ fromServer chunk = true

lemma onStreamChunk_returns (h : ReadsReplies chunk → SafePayload chunk.payload)
    (d : SmtpDecoder) : ∃ result, d.onStreamChunk chunk = .ok result := by
  have hsession : ∀ session, ∃ result, onSession chunk session = .ok result := by
    intro session
    unfold onSession
    split
    · split <;> exact ⟨_, rfl⟩
    · rename_i hplain
      split
      · exact ⟨_, rfl⟩
      · split
        · exact ⟨_, rfl⟩
        · rename_i lines hlines
          apply exists_run_eq_ok
          intro session raw hraw
          refine onLine_of_sliceable (fun hserver => ?_) chunk session
          exact h ⟨Bool.eq_false_iff.2 hplain, hserver⟩ lines hlines raw hraw
  unfold onStreamChunk
  split
  · exact ⟨_, rfl⟩
  · obtain ⟨result, hresult⟩ := hsession (d.session _)
    rw [hresult]
    exact ⟨_, rfl⟩

def serverChunk (payload : List UInt8) : StreamChunk := hostChunk 0 .tcp 25 49152 payload

lemma safePayload_of_returns {payload : List UInt8} {result : List BronzeEvent × SmtpDecoder}
    (h : default.onStreamChunk (serverChunk payload) = .ok result) : SafePayload payload := by
  intro lines hlines
  by_cases hempty : payload = []
  · cases hempty
    cases hlines
    exact forall_mem_singleton.2 sliceable_nil
  · have hsession : onSession (serverChunk payload) .default =
        run (onLine (serverChunk payload) true) .default lines := by
      have hpayload : linesOf (serverChunk payload).payload = some lines := hlines
      unfold onSession
      rw [hpayload]
      rfl
    have hchunk : (serverChunk payload).payload ≠ [] := hempty
    have hfresh : default.session (serverChunk payload).sessionKey = .default := rfl
    rw [onStreamChunk, if_neg hchunk, hfresh, hsession] at h
    cases hrun : run (onLine _ true) _ lines with
    | error panic =>
      rw [hrun] at h
      cases h
    | ok found => exact sliceable_of_run rfl rfl hrun

/-- Let servers send these payloads, and clients anything. The decoder returns on all sequences of
chunks, of any sessions in any order, exactly if the lines of these payloads can be cut. -/
theorem returns_iff (Sent : List UInt8 → Prop) :
    (∀ chunks : List StreamChunk, (∀ chunk ∈ chunks, ReadsReplies chunk → Sent chunk.payload) →
      ∃ result, Checked.run SmtpDecoder.onStreamChunk .default chunks = .ok result) ↔
    ∀ payload, Sent payload → SafePayload payload := by
  constructor
  · intro hreturns payload hsent
    -- one chunk in a fresh session is enough
    obtain ⟨result, hrun⟩ := hreturns [serverChunk payload] (forall_mem_singleton.2 fun _ => hsent)
    obtain ⟨out, mid, outs, last, hchunk, -, -⟩ := (run_cons_eq_ok _).1 hrun
    exact safePayload_of_returns hchunk
  · intro hsafe chunks hchunks
    apply exists_run_eq_ok
    intro d chunk hchunk
    exact onStreamChunk_returns (fun hreads => hsafe _ (hchunks chunk hchunk hreads)) d

/-- Lines with an accent at offset 2 or 3, `22é` and `220é`. -/
theorem accents_panic :
    Checked.run SmtpDecoder.onStreamChunk .default
        [serverChunk [0x32, 0x32, 0xC3, 0xA9, 0x0D, 0x0A]] = .error (.charBoundary 3) ∧
      Checked.run SmtpDecoder.onStreamChunk .default
        [serverChunk [0x32, 0x32, 0x30, 0xC3, 0xA9, 0x0D, 0x0A]] = .error (.charBoundary 4) :=
  ⟨rfl, rfl⟩

end MarlinspikeDpi.Smtp
