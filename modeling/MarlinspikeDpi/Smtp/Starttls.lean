import MarlinspikeDpi.Smtp.Dialogue

/-!
# Silence after the answer to `STARTTLS`

One flag stands for the awaited answer, and any reply takes it away, also one to an earlier command.

* `silent_after_starttls_iff`: when an upgraded session is silent.
-/

namespace MarlinspikeDpi.Smtp

open Engine Text List Checked SmtpDecoder

/-! ## Dialogues that go over to TLS -/

/-- What the server has to answer, and whether the client sends a message. -/
structure Owed where
  answers : List String
  content : Bool
deriving DecidableEq

def Owed.next (owed : Owed) : Item → Option Owed
  | .line l =>
    if owed.content then some (if l.bytes = [0x2E] then ⟨owed.answers ++ ["."], false⟩ else owed)
    else some ⟨owed.answers ++ [verbOf l.text], false⟩
  | .reply r =>
    match owed.answers with
    | [] => none
    | verb :: answers => some (if r.isLast then ⟨answers, verb == "DATA" && r.code == 354⟩
      else owed)

/-- The turns of a session up to the reply 220 to `STARTTLS`, with one reply to each command in
their order. -/
structure Upgrade where
  key : String
  turns : List Turn
  items : List Item
  reply : Reply
  oneSession : ∀ turn ∈ turns, turn.chunk.sessionKey = key
  said : turns.flatMap Turn.items = items ++ [.reply reply]
  -- the greeting comes first
  inOrder : items.foldlM Owed.next ⟨["greeting"], false⟩ = some ⟨["STARTTLS"], false⟩
  accepted : reply.code = 220 ∧ reply.isLast = true

/-- Nothing more is reported of the session. -/
def Silent (d : SmtpDecoder) (key : String) : Prop :=
  ∀ later : List StreamChunk, (∀ chunk ∈ later, chunk.sessionKey = key ∧ isSmtps chunk = false) →
    ∃ d', Checked.run SmtpDecoder.onStreamChunk d later = .ok ([], d')

/-! ## When the answer is recognised -/

/-- A line of the client that the decoder reads as this command. -/
def Reads (verb : String) : Turn × Item → Prop
  | (turn, .line l) => turn.isText = true ∧ verbOf l.text = verb
  | (_, .reply _) => False

def isFinal : Turn × Item → Bool
  | (turn, .reply r) => turn.isText && r.isLast
  | (_, .line _) => false

def is220 : Turn × Item → Bool
  | (_, .reply r) => r.code == 220
  | (_, .line _) => false

/-- The next final reply is a 220. -/
def Answered (rest : List (Turn × Item)) : Prop := (rest.find? isFinal).any is220 = true

/-- A line `QUIT` is read, or a line `STARTTLS` for which the next reply is a 220. -/
def Recognised (rest : List (Turn × Item)) : Prop :=
  (∃ x ∈ rest, Reads "QUIT" x) ∨ ∃ x after, x :: after <:+ rest ∧ Reads "STARTTLS" x ∧
    Answered after

lemma answered_cons_of_not_final {x : Turn × Item} (h : isFinal x = false)
    (rest : List (Turn × Item)) : Answered (x :: rest) ↔ Answered rest := by
  rw [Answered, Answered, find?_cons_of_neg (by rw [h]; exact Bool.false_ne_true)]

lemma answered_cons_of_final {x : Turn × Item} (h : isFinal x = true) (rest : List (Turn × Item)) :
    Answered (x :: rest) ↔ is220 x = true := by
  rw [Answered, find?_cons_of_pos h, Option.any_some]

lemma recognised_cons (x : Turn × Item) (rest : List (Turn × Item)) :
    Recognised (x :: rest) ↔ Reads "QUIT" x ∨ Reads "STARTTLS" x ∧ Answered rest ∨
      Recognised rest := by
  simp only [Recognised, mem_cons, suffix_cons_iff]
  constructor
  · rintro (⟨y, rfl | hy, hquit⟩ | ⟨y, after, heq | hsuffix, hstarttls⟩)
    · exact .inl hquit
    · exact .inr (.inr (.inl ⟨y, hy, hquit⟩))
    · obtain ⟨rfl, rfl⟩ := List.cons.inj heq
      exact .inr (.inl hstarttls)
    · exact .inr (.inr (.inr ⟨y, after, hsuffix, hstarttls⟩))
  · rintro (hquit | hstarttls | ⟨y, hy, hquit⟩ | ⟨y, after, hsuffix, hstarttls⟩)
    · exact .inl ⟨x, .inl rfl, hquit⟩
    · exact .inr ⟨x, rest, .inl rfl, hstarttls⟩
    · exact .inl ⟨y, .inr hy, hquit⟩
    · exact .inr ⟨y, after, .inr hsuffix, hstarttls⟩

lemma run_onItem_of_quiet {session : SmtpSession} (hquiet : session.isQuiet = true)
    (rest : List (Turn × Item)) : run onItem session rest = .ok ([], session) := by
  induction rest with
  | nil => rfl
  | cons x rest ih => exact (run_cons_eq_ok _).2 ⟨[], session, [], session,
    onItem_of_quiet hquiet x, ih, rfl⟩

/-- The flag and the items ahead decide whether the session gets quiet. -/
theorem quiet_run_iff {rest : List (Turn × Item)}
    (hspeaker : ∀ x ∈ rest, x.2.isReply = x.1.fromServer)
    {session last : SmtpSession} (hlive : session.isQuiet = false) {events : List BronzeEvent}
    (hrun : run onItem session rest = .ok (events, last)) :
    last.isQuiet = true ↔ session.awaitingStarttls220 = true ∧ Answered rest ∨ Recognised rest := by
  induction rest generalizing session events with
  | nil =>
    cases hrun
    simp [hlive, Answered, Recognised]
  | cons x rest ih =>
    obtain ⟨turn, item⟩ := x
    obtain ⟨hfrom, hspeakers⟩ := forall_mem_cons.1 hspeaker
    obtain ⟨out, mid, outs, last', hstep, hrest, heq⟩ := (run_cons_eq_ok _).1 hrun
    cases heq
    rw [recognised_cons]
    -- once the session is quiet it stays so
    have hstays : mid.isQuiet = true → last.isQuiet = true := by
      intro hquiet
      cases hrest.symm.trans (run_onItem_of_quiet hquiet rest)
      exact hquiet
    cases item with
    | line l =>
      obtain ⟨_, _, hitem, -, hquiet, hawaiting⟩ := onItem_line hlive hfrom.symm l
      cases hstep.symm.trans hitem
      have hreads (verb : String) : Reads verb (turn, .line l) ↔
        turn.isText = true ∧ verbOf l.text = verb := Iff.rfl
      rw [answered_cons_of_not_final rfl, hreads, hreads, ← hquiet]
      by_cases hmid : mid.isQuiet = true
      · exact iff_of_true (hstays hmid) (.inr (.inl hmid))
      · rw [ih hspeakers (Bool.eq_false_iff.2 hmid) hrest, hawaiting, or_iff_right hmid,
          or_and_right, or_assoc]
    | reply r =>
      obtain ⟨_, _, hitem, -, hawaiting, hquiet⟩ := onItem_reply session hfrom.symm r
      cases hstep.symm.trans hitem
      have hreads (verb : String) : ¬ Reads verb (turn, .reply r) := id
      simp only [hreads, false_and, false_or]
      simp only [hlive, Bool.false_eq_true, false_or] at hawaiting hquiet
      by_cases hfinal : isFinal (turn, .reply r) = true
      · have hlast : turn.isText = true ∧ r.isLast = true := by simpa [isFinal] using hfinal
        have hcode : is220 (turn, .reply r) = true ↔ r.code = 220 := by simp [is220]
        rw [answered_cons_of_final hfinal, hcode]
        by_cases hmid : mid.isQuiet = true
        · exact iff_of_true (hstays hmid) (.inl ⟨(hquiet.1 hmid).1, (hquiet.1 hmid).2.1⟩)
        · have hother : ¬ (session.awaitingStarttls220 = true ∧ r.code = 220) :=
            fun h => hmid (hquiet.2 ⟨h.1, h.2, hlast⟩)
          rw [ih hspeakers (Bool.eq_false_iff.2 hmid) hrest, hawaiting, or_iff_right hother,
            or_iff_right fun h => h.1.2 hlast]
      · have hnot : ¬ (turn.isText = true ∧ r.isLast = true) := by simpa [isFinal] using hfinal
        rw [answered_cons_of_not_final (Bool.eq_false_iff.2 hfinal)]
        rw [ih hspeakers (Bool.eq_false_iff.2 fun h => hnot (hquiet.1 h).2.2) hrest, hawaiting,
          and_iff_left hnot]

/-! ## Silence -/

def recordChunk (key : String) : StreamChunk :=
  { hostChunk 0 .tcp 49152 25 [0x16, 0x03, 0x01, 0x00, 0xFF] with sessionKey := key }

lemma silent_iff (d : SmtpDecoder) (key : String) : Silent d key ↔
    (d.session key).isQuiet = true := by
  constructor
  · intro hsilent
    obtain ⟨d', hrun⟩ := hsilent [recordChunk key] (forall_mem_singleton.2 ⟨rfl, rfl⟩)
    obtain ⟨out, mid, outs, last, hstep, -, heq⟩ := (run_cons_eq_ok _).1 hrun
    obtain ⟨rfl, -⟩ := append_eq_nil_iff.1 (congrArg Prod.fst heq).symm
    by_contra hlive
    have hsession : onSession (recordChunk key) (d.session key) =
        .ok ([nonUtf8Anomaly (recordChunk key)], d.session key) := by
      rw [onSession, if_neg hlive]
      rfl
    cases hstep.symm.trans (onStreamChunk_of_onSession (cons_ne_nil _ _) hsession)
  · intro hquiet later hlater
    induction later generalizing d with
    | nil => exact ⟨d, rfl⟩
    | cons chunk later ih =>
      obtain ⟨⟨rfl, hplain⟩, hrest⟩ := forall_mem_cons.1 hlater
      have hsession : onSession chunk (d.session chunk.sessionKey) =
          .ok ([], d.session chunk.sessionKey) := by
        rw [onSession, hplain, if_neg Bool.false_ne_true, if_pos hquiet]
      have hchunk : ∃ next, d.onStreamChunk chunk = .ok ([], next) ∧
          (next.session chunk.sessionKey).isQuiet = true := by
        rw [onStreamChunk]
        split
        · exact ⟨d, rfl, hquiet⟩
        · rw [hsession]
          refine ⟨_, rfl, ?_⟩
          rwa [session, AList.lookup_insert]
      obtain ⟨next, hstep, hnext⟩ := hchunk
      obtain ⟨d', hrun⟩ := ih next hnext hrest
      exact ⟨d', (run_cons_eq_ok _).2 ⟨[], next, [], d', hstep, hrun, rfl⟩⟩

/-- After the answer to `STARTTLS` the session is silent exactly if the answer was recognised, or a
`QUIT` before. -/
theorem silent_after_starttls_iff (d : SmtpDecoder) (x : Upgrade)
    (hfresh : d.session x.key = .default) :
    ∃ events d', Checked.run SmtpDecoder.onStreamChunk d (x.turns.map Turn.chunk) =
      .ok (events, d') ∧ (Silent d' x.key ↔ Recognised (said x.turns)) := by
  have hspeaker := speaker_said x.turns
  obtain ⟨⟨events, last⟩, hrun⟩ := exists_run_eq_ok onItem
    (fun session y hy => onItem_returns session (hspeaker y hy)) (d.session x.key)
  obtain ⟨events', d', hdecoder, -, hlast⟩ := run_turns x.oneSession hrun
  refine ⟨events', d', hdecoder, ?_⟩
  rw [hfresh] at hrun
  rw [silent_iff, hlast, quiet_run_iff hspeaker rfl hrun]
  exact or_iff_right fun h => absurd h.1 Bool.noConfusion

def starttlsLine : Line := ⟨utf8 "STARTTLS", by decide⟩

def upgradeTurns (before : List Turn) : List Turn :=
  serverTurn ready :: before ++ [serverTurn ready]

def plainUpgrade : Upgrade where
  key := ""
  turns := upgradeTurns [clientTurn [starttlsLine]]
  items := [.reply ready, .line starttlsLine]
  reply := ready
  oneSession := by decide
  said := rfl
  inOrder := by decide
  accepted := by decide

theorem plainUpgrade_silent : SmtpDecoder.default.session plainUpgrade.key = .default ∧
    ∃ events d', Checked.run SmtpDecoder.onStreamChunk .default
      (plainUpgrade.turns.map Turn.chunk) = .ok (events, d') ∧ Silent d' plainUpgrade.key := by
  obtain ⟨events, d', hrun, hiff⟩ := silent_after_starttls_iff .default plainUpgrade rfl
  refine ⟨rfl, events, d', hrun, hiff.2 (.inr ?_)⟩
  exact ⟨_, _, suffix_cons _ _, .intro (by decide) (by decide), rfl⟩

/-- The client sends `EHLO` and `STARTTLS` at once. -/
def pipelinedUpgrade : Upgrade where
  key := ""
  turns := upgradeTurns [clientTurn [ehloLine, starttlsLine], serverTurn okay]
  items := [.reply ready, .line ehloLine, .line starttlsLine, .reply okay]
  reply := ready
  oneSession := by decide
  said := rfl
  inOrder := by decide
  accepted := by decide

theorem pipelinedUpgrade_not_silent :
    ∃ events d', Checked.run SmtpDecoder.onStreamChunk .default
      (pipelinedUpgrade.turns.map Turn.chunk) =
      .ok (events, d') ∧ ¬ Silent d' pipelinedUpgrade.key := by
  refine ⟨_, _, rfl, ?_⟩
  rw [silent_iff]
  decide

end MarlinspikeDpi.Smtp
