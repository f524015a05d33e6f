import MarlinspikeDpi.Smtp.Robustness

/-!
# Commands and messages

In a dialogue the client sends commands, and after a `DATA` that the server accepts with 354 the
lines of a message, up to a line with a single dot.

* `commands_separated_iff`: when only the commands are reported.
-/

namespace MarlinspikeDpi.Smtp

open Engine Text List Checked SmtpDecoder SmtpSession

/-! ## Dialogues -/

structure Line where
  bytes : List UInt8
  noLineFeed : 10 ∉ bytes

def Line.text (l : Line) : List Char := trimCr (utf8LossyFrom none l.bytes)

/-- A line of a reply.  A dash behind the code announces more lines. -/
structure Reply where
  code : Nat
  tail : List UInt8
  codeFits : code < 1000
  separated : ∀ b ∈ tail.head?, b = 0x20 ∨ b = 0x2D
  noLineFeed : 10 ∉ tail

def Reply.isLast (r : Reply) : Bool := r.tail.head? != some 0x2D

inductive Item where
  | line (l : Line)
  | reply (r : Reply)

namespace Item

def bytes : Item → List UInt8
  | line l => l.bytes
  | reply r => threeDigitBytes r.code ++ r.tail

def isReply : Item → Bool
  | line _ => false
  | reply _ => true

end Item

/-- What is expected from the client: a command, an answer of the server to its `DATA`, or a
message. -/
inductive Phase where
  | command
  | asked
  | content
deriving DecidableEq

def Phase.next (phase : Phase) : Item → Phase
  | .line l =>
    -- a message ends with a single dot
    if phase = .content then if l.bytes = [0x2E] then .command else .content
    else if verbOf l.text = "DATA" then .asked
    else .command
  | .reply r => if phase = .asked ∧ r.code = 354 ∧ r.isLast then .content else phase

/-- A chunk, with the items that it carries. The server is at port 25 or 587, and the client at
another one. -/
structure Turn where
  chunk : StreamChunk
  fromServer : Bool
  items : List Item
  carries : chunk.payload = terminated (items.map Item.bytes)
  speaker : ∀ item ∈ items, item.isReply = fromServer
  serverPort : (if fromServer then chunk.context.srcPort else chunk.context.dstPort) ∈ [25, 587]
  clientPort : (if fromServer then chunk.context.dstPort else chunk.context.srcPort) ∉
    [25, 465, 587]

def Item.commands (verb : String) (phase : Phase) : Item → Bool
  | line l => phase != .content && verbOf l.text == verb
  | reply _ => false

/-- Does the item end the dialogue in plaintext? The client takes its leave, or the server sends 220
to a client that has asked for TLS. -/
def Item.ends (tlsAsked : Bool) (phase : Phase) : Item → Bool
  | line l => (line l).commands "QUIT" phase
  | reply r => tlsAsked && r.code == 220 && r.isLast

def Plain (tlsAsked : Bool) (phase : Phase) : List Item → Prop
  | [] => True
  | item :: items =>
    (item.ends tlsAsked phase = true → ∀ later ∈ items, later.isReply = true) ∧
      Plain (tlsAsked || item.commands "STARTTLS" phase) (phase.next item) items

instance decidablePlain (tlsAsked : Bool) (phase : Phase) :
    (items : List Item) → Decidable (Plain tlsAsked phase items)
  | [] => inferInstanceAs (Decidable True)
  | item :: items =>
    have := decidablePlain (tlsAsked || item.commands "STARTTLS" phase) (phase.next item) items
    inferInstanceAs (Decidable (_ ∧ _))

structure Dialogue where
  key : String
  turns : List Turn
  oneSession : ∀ turn ∈ turns, turn.chunk.sessionKey = key
  plain : Plain false .command (turns.flatMap Turn.items)

/-- An item, the turn in which it is said, and the phase of the dialogue. -/
structure Place where
  phase : Phase
  turn : Turn
  item : Item

def place : Phase → List (Turn × Item) → List Place
  | _, [] => []
  | phase, (turn, item) :: rest => ⟨phase, turn, item⟩ :: place (phase.next item) rest

def said (turns : List Turn) : List (Turn × Item) :=
  turns.flatMap fun turn => turn.items.map fun item => (turn, item)

def Dialogue.places (x : Dialogue) : List Place := place .command (said x.turns)

/-! ## Reports -/

def commandOf (event : BronzeEvent) : Option (String × String) :=
  match event.family with
  | .protocolTransaction t => t.requestSummary.map fun line => (t.operation, line)
  | _ => none

def reports (events : List BronzeEvent) : List (String × String) := events.filterMap commandOf

lemma reports_append (events later : List BronzeEvent) :
    reports (events ++ later) = reports events ++ reports later := filterMap_append

lemma reports_txEvent (chunk : StreamChunk) (operation line : String)
    (attributes : OrderedMap String String) :
    reports [txEvent chunk operation (some line) attributes] = [(operation, line)] := rfl

lemma reports_emitAnomaly (chunk : StreamChunk) (line : List Char) :
    reports [emitAnomaly chunk line] = [] := rfl

def report (text : List Char) : String × String :=
  ((knownOperation (verbOf text)).getD "smtp_unknown_command", String.ofList text)

namespace Place

/-- A line of the client that is not part of a message. -/
def IsCommand (p : Place) : Prop := p.item.isReply = false ∧ p.phase ≠ .content

instance (p : Place) : Decidable p.IsCommand := inferInstanceAs (Decidable (_ ∧ _))

def expected (p : Place) : List (String × String) :=
  match p.item with
  | .line l => if p.phase = .content then [] else [report l.text]
  | .reply _ => []

end Place

def Dialogue.commands (x : Dialogue) : List (String × String) := x.places.flatMap Place.expected

def Turn.isText (turn : Turn) : Bool := turn.items.all fun item => utf8ValidFrom none item.bytes

variable (session : SmtpSession)

def onItem (place : Turn × Item) : Checked (List BronzeEvent × SmtpSession) :=
  if place.1.isText then
    onLine place.1.chunk place.1.fromServer session (utf8LossyFrom none place.2.bytes ++ ['\r'])
  else .ok ([], session)

/-- Of each place the decoder reports what is expected: a command, and otherwise nothing. -/
def Separated : SmtpSession → List Place → Prop
  | _, [] => True
  | session, p :: places =>
    ∃ events next, onItem session (p.turn, p.item) = .ok (events, next) ∧
      reports events = p.expected ∧ Separated next places

/-- Lines that look like commands: the verb is known, or the line is short and no reply. -/
def Reportable (text : List Char) : Prop :=
  text ≠ [] ∧ ((knownOperation (verbOf text)).isSome = true ∨ isReplyCode (verbOf text) = false ∧
    byteLen text ≤ 16)

instance (text : List Char) : Decidable (Reportable text) := inferInstanceAs (Decidable (_ ∧ _))

/-- A line that the decoder would report, wherever it stands. -/
def Place.IsReported (p : Place) : Prop :=
  match p.item with
  | .line l => p.turn.isText = true ∧ Reportable l.text
  | .reply _ => False

instance (p : Place) : Decidable p.IsReported :=
  match p with
  | ⟨_, _, .line _⟩ => inferInstanceAs (Decidable (_ ∧ _))
  | ⟨_, _, .reply _⟩ => inferInstanceAs (Decidable False)

/-! ## One item -/

/-- The port of an SMTP server is that of the one side, and none of those of the decoder that of the
other. -/
def IsServerPort (server client : UInt16) : Prop :=
  (server = 25 ∨ server = 587) ∧ client ≠ 25 ∧ client ≠ 465 ∧ client ≠ 587

lemma Turn.ports (turn : Turn) : turn.fromServer = true ∧
    IsServerPort turn.chunk.context.srcPort turn.chunk.context.dstPort ∨
      turn.fromServer = false ∧
        IsServerPort turn.chunk.context.dstPort turn.chunk.context.srcPort := by
  have hserver := turn.serverPort
  have hclient := turn.clientPort
  simp only [mem_cons, not_mem_nil, or_false, not_or] at hserver hclient
  cases hfrom : turn.fromServer with
  | true =>
    rw [hfrom] at hserver hclient
    exact .inl ⟨rfl, hserver, hclient⟩
  | false =>
    rw [hfrom] at hserver hclient
    exact .inr ⟨rfl, hserver, hclient⟩

lemma IsServerPort.ne_smtps {server client : UInt16} (h : IsServerPort server client) :
    server ≠ 465 ∧ client ≠ 465 := by
  refine ⟨?_, h.2.2.1⟩
  rcases h.1 with rfl | rfl <;> decide

lemma Turn.isSmtps_chunk (turn : Turn) : isSmtps turn.chunk = false := by
  rcases turn.ports with ⟨-, hports⟩ | ⟨-, hports⟩ <;> simp [isSmtps, hports.ne_smtps]

lemma Turn.fromServer_chunk (turn : Turn) : Smtp.fromServer turn.chunk = turn.fromServer := by
  rcases turn.ports with ⟨hfrom, -, h25, -, h587⟩ | ⟨hfrom, hserver, h25, -, h587⟩
  · simp [Smtp.fromServer, hfrom, h25, h587]
  · have hother : turn.chunk.context.srcPort ≠ turn.chunk.context.dstPort := by
      rcases hserver with h | h
      · rw [h]
        exact h25
      · rw [h]
        exact h587
    simp [Smtp.fromServer, hfrom, hserver, hother]

lemma trimCr_concat (text : List Char) : trimCr (text ++ ['\r']) = trimCr text := by
  simp [trimCr, trimEndMatches]

lemma trimCr_cons {c : Char} (hc : c ≠ '\r') (text : List Char) :
    trimCr (c :: text) = c :: trimCr text := by
  simp only [trimCr, trimEndMatches, String.toList_ofList, reverse_cons, dropWhile_append]
  split
  · rename_i hempty
    rw [isEmpty_iff.1 hempty]
    simp [hc]
  · simp

lemma SmtpSession.afterVerb_of_unknown {verb : String} (h : knownOperation verb = none) :
    session.afterVerb verb = session := by
  unfold afterVerb
  split
  · cases h
  · cases h
  · rfl

variable {session}

lemma SmtpSession.isQuiet_afterVerb (hquiet : session.isQuiet = false) (verb : String) :
    (session.afterVerb verb).isQuiet = true ↔ verb = "QUIT" := by
  have hstays : session.isQuiet = true ↔ False := by simp [hquiet]
  unfold afterVerb
  split
  · simp [isQuiet]
  · exact hstays.trans (by simp)
  · rename_i hquit _
    exact hstays.trans (by simpa using hquit)

lemma SmtpSession.awaiting_afterVerb (session : SmtpSession) (verb : String) :
    (session.afterVerb verb).awaitingStarttls220 = true ↔ session.awaitingStarttls220 = true ∨
      verb = "STARTTLS" := by
  unfold afterVerb
  split
  · simp
  · simp
  · rename_i hstarttls
    exact (or_iff_left hstarttls).symm

lemma Reportable.of_known {text : List Char} (h : (knownOperation (verbOf text)).isSome = true) :
    Reportable text := by
  refine ⟨?_, .inl h⟩
  rintro rfl
  exact absurd h (by decide)

lemma onClientLine_spec (chunk : StreamChunk) (session : SmtpSession) {text : List Char}
    (hne : text ≠ []) :
    reports (onClientLine chunk session text).1 = (if Reportable text then [report text] else []) ∧
      (onClientLine chunk session text).2 = session.afterVerb (verbOf text) := by
  unfold onClientLine
  dsimp only
  cases hknown : knownOperation _ with
  | some operation =>
    have hreport : Reportable text := ⟨hne, .inl (by rw [hknown]; rfl)⟩
    dsimp only
    rw [if_pos hreport, report, hknown]
    exact ⟨reports_txEvent chunk _ _ _, rfl⟩
  | none =>
    dsimp only
    rw [session.afterVerb_of_unknown hknown]
    split
    · rename_i hskip
      have hnot : ¬ Reportable text := by
        rintro ⟨-, hverb | ⟨hcode, hshort⟩⟩
        · rw [hknown] at hverb
          cases hverb
        · rw [hcode, Bool.false_or, decide_eq_true_eq] at hskip
          omega
      rw [if_neg hnot]
      exact ⟨reports_emitAnomaly chunk text, rfl⟩
    · rename_i hkeep
      rw [Bool.or_eq_true, not_or, Bool.not_eq_true, decide_eq_true_eq, Nat.not_lt] at hkeep
      rw [if_pos (show Reportable text from ⟨hne, .inr hkeep⟩), report, hknown]
      exact ⟨reports_txEvent chunk _ _ _, rfl⟩

lemma onItem_of_quiet (hquiet : session.isQuiet = true) (x : Turn × Item) :
    onItem session x = .ok ([], session) := by
  rw [onItem, onLine, if_pos hquiet, ite_self]

lemma onItem_line (hquiet : session.isQuiet = false) {turn : Turn}
    (hclient : turn.fromServer = false) (l : Line) :
    ∃ events next, onItem session (turn, .line l) = .ok (events, next) ∧
      reports events = (if turn.isText = true ∧ Reportable l.text then [report l.text] else []) ∧
      (next.isQuiet = true ↔ turn.isText = true ∧ verbOf l.text = "QUIT") ∧
      (next.awaitingStarttls220 = true ↔ session.awaitingStarttls220 = true ∨
        turn.isText = true ∧ verbOf l.text = "STARTTLS") := by
  by_cases htext : turn.isText = true
  · have hline : onItem session (turn, .line l) =
        if l.text = [] then .ok ([], session)
          else .ok (onClientLine turn.chunk session l.text) := by
      have htrim : trimCr (utf8LossyFrom none l.bytes ++ ['\r']) = l.text := trimCr_concat _
      simp only [onItem, htext, if_true, hclient, onLine, hquiet, Bool.false_eq_true, if_false,
        Item.bytes, htrim]
    by_cases hempty : l.text = []
    · refine ⟨[], session, by rw [hline, if_pos hempty], ?_, ?_, ?_⟩
      · rw [if_neg fun h => h.2.1 hempty]
        rfl
      · simp [hquiet, hempty, show verbOf [] ≠ "QUIT" by decide]
      · simp [hempty, show verbOf [] ≠ "STARTTLS" by decide]
    · obtain ⟨hreports, hnext⟩ := onClientLine_spec _ session hempty
      refine ⟨_, _, by rw [hline, if_neg hempty], ?_, ?_, ?_⟩
      · rw [hreports]
        exact if_congr (and_iff_right htext).symm rfl rfl
      · rw [hnext, isQuiet_afterVerb hquiet, and_iff_right htext]
      · rw [hnext, awaiting_afterVerb, and_iff_right htext]
  · refine ⟨[], session, if_neg htext, ?_, by simp [htext, hquiet], by simp [htext]⟩
    rw [if_neg fun h => htext h.1]
    rfl

namespace Reply

variable (r : Reply)

def behind : List Char := trimCr (utf8LossyFrom none r.tail)

lemma text_eq : trimCr (utf8LossyFrom none (Item.reply r).bytes ++ ['\r']) =
    threeDigits r.code ++ r.behind := by
  have hdigit : ∀ d < 10, Nat.digitChar d ≠ '\r' := by decide
  have hcode := r.codeFits
  rw [trimCr_concat, Item.bytes, utf8LossyFrom_threeDigitBytes hcode, threeDigits, cons_append,
    cons_append, cons_append, trimCr_cons (hdigit _ (by omega)),
    trimCr_cons (hdigit _ (by omega)), trimCr_cons (hdigit _ (by omega))]
  rfl

lemma behind_cases : r.behind = [] ∧ r.isLast = true ∨
    (∃ rest, r.behind = ' ' :: rest) ∧ r.isLast = true ∨ (∃ rest, r.behind = '-' :: rest) ∧
      r.isLast = false := by
  have hseparated := r.separated
  unfold behind isLast
  generalize r.tail = tail at hseparated
  cases tail with
  | nil => exact .inl ⟨rfl, rfl⟩
  | cons b tail =>
    rcases hseparated b rfl with rfl | rfl
    · exact .inr (.inl ⟨⟨_, trimCr_cons (by decide) _⟩, rfl⟩)
    · exact .inr (.inr ⟨⟨_, trimCr_cons (by decide) _⟩, rfl⟩)

lemma head_behind : r.behind.head? = some '-' ↔ r.isLast = false := by
  rcases r.behind_cases with ⟨hbehind, hlast⟩ | ⟨⟨rest, hbehind⟩, hlast⟩ | ⟨⟨rest, hbehind⟩,
    hlast⟩ <;> simp [hbehind, hlast]

lemma bannerText_returns (hlast : r.isLast = true) :
    ∃ rest, bannerText (threeDigits r.code ++ r.behind) = .ok rest := by
  rw [bannerText_returns_iff]
  intro hlong
  have hthree := byteLen_threeDigits r.codeFits
  rcases r.behind_cases with ⟨hbehind, -⟩ | ⟨⟨rest, hbehind⟩, -⟩ | ⟨-, hmore⟩
  · rw [hbehind, append_nil, hthree] at hlong
    exact absurd hlong (by decide)
  · have hsplit := splitAtByte_append (threeDigits r.code ++ [' ']) rest
    rw [byteLen_append, hthree, append_assoc, singleton_append, ← hbehind] at hsplit
    exact ⟨_, hsplit⟩
  · exact absurd (hlast.symm.trans hmore) Bool.noConfusion

lemma onServerLine_spec (chunk : StreamChunk) (session : SmtpSession) :
    ∃ events next, onServerLine chunk session (threeDigits r.code ++ r.behind) =
      .ok (events, next) ∧ reports events = [] ∧
      (next.awaitingStarttls220 = true ↔ session.awaitingStarttls220 = true ∧ r.isLast = false) ∧
      (next.isQuiet = true ↔ session.isQuiet = true ∨
        session.awaitingStarttls220 = true ∧ r.code = 220 ∧ r.isLast = true) := by
  have hthree := byteLen_threeDigits r.codeFits
  have hlong : ¬ byteLen (threeDigits r.code ++ r.behind) < 3 := by
    rw [byteLen_append]
    omega
  have hsplit := splitAtByte_append (threeDigits r.code) r.behind
  rw [hthree] at hsplit
  have hfits : r.code < 65536 := Nat.lt_of_lt_of_le r.codeFits (by decide)
  rw [onServerLine_of_split hlong hsplit, parseUnsigned_threeDigits r.codeFits, if_pos hfits]
  dsimp only
  split
  · rename_i hdash
    exact ⟨_, _, rfl, rfl, by simp [r.head_behind.1 hdash], by simp [r.head_behind.1 hdash]⟩
  · rename_i hdash
    have hlast : r.isLast = true := by
      rw [head_behind, Bool.not_eq_false] at hdash
      exact hdash
    split
    · rename_i hstart
      exact ⟨_, _, rfl, rfl, by simp [hlast], by simp [isQuiet, hstart, hlast]⟩
    · rename_i hother
      have hquiet : session.isQuiet = true ↔ session.isQuiet = true ∨
          session.awaitingStarttls220 = true ∧ r.code = 220 ∧ r.isLast = true :=
        (or_iff_left fun h => hother ⟨h.1, h.2.1⟩).symm
      split
      · obtain ⟨rest, hrest⟩ := r.bannerText_returns hlast
        rw [hrest]
        exact ⟨_, _, rfl, rfl, by simp [hlast], hquiet⟩
      · exact ⟨_, _, rfl, rfl, by simp [hlast], hquiet⟩

end Reply

lemma onItem_reply (session : SmtpSession) {turn : Turn} (hserver : turn.fromServer = true)
    (r : Reply) :
    ∃ events next, onItem session (turn, .reply r) = .ok (events, next) ∧ reports events = [] ∧
      (next.awaitingStarttls220 = true ↔ session.awaitingStarttls220 = true ∧
        (session.isQuiet = true ∨ ¬ (turn.isText = true ∧ r.isLast = true))) ∧
      (next.isQuiet = true ↔ session.isQuiet = true ∨
        session.awaitingStarttls220 = true ∧ r.code = 220 ∧ turn.isText = true ∧
          r.isLast = true) := by
  by_cases htext : turn.isText = true
  · by_cases hquiet : session.isQuiet = true
    · exact ⟨[], session, onItem_of_quiet hquiet _, rfl, by simp [hquiet], by simp [hquiet]⟩
    · have hne : threeDigits r.code ++ r.behind ≠ [] := cons_ne_nil _ _
      have hline : onItem session (turn, .reply r) =
          onServerLine turn.chunk session (threeDigits r.code ++ r.behind) := by
        simp only [onItem, htext, if_true, hserver, onLine, hquiet, Bool.false_eq_true, if_false,
          r.text_eq, hne]
      rw [hline]
      simpa [htext, hquiet] using r.onServerLine_spec _ session
  · exact ⟨[], session, if_neg htext, rfl, by simp [htext], by simp [htext]⟩

/-! ## Whole dialogues -/

variable {phase : Phase} {events : List BronzeEvent}

lemma separated_cons {p : Place} {places : List Place} {next : SmtpSession}
    (h : onItem session (p.turn, p.item) = .ok (events, next)) :
    Separated session (p :: places) ↔ reports events = p.expected ∧ Separated next places := by
  constructor
  · rintro ⟨events', next', h', hreports, hplaces⟩
    cases h.symm.trans h'
    exact ⟨hreports, hplaces⟩
  · exact fun hboth => ⟨events, next, h, hboth⟩

lemma Place.line_agrees_iff (turn : Turn) (l : Line) :
    (if turn.isText = true ∧ Reportable l.text then [report l.text] else []) =
        (⟨phase, turn, .line l⟩ : Place).expected ↔
      ((⟨phase, turn, .line l⟩ : Place).IsCommand ↔
        (⟨phase, turn, .line l⟩ : Place).IsReported) := by
  have hcommand : (⟨phase, turn, .line l⟩ : Place).IsCommand ↔ phase ≠ .content := and_iff_right rfl
  have hreported : (⟨phase, turn, .line l⟩ : Place).IsReported ↔
    turn.isText = true ∧ Reportable l.text := Iff.rfl
  rw [hcommand, hreported, Place.expected]
  by_cases hcontent : phase = .content <;> by_cases hreport : turn.isText = true ∧
    Reportable l.text <;> simp [hcontent, hreport]

lemma commands_of_agrees {turn : Turn} {l : Line} {verb : String}
    (hagree : (⟨phase, turn, .line l⟩ : Place).IsCommand ↔
      (⟨phase, turn, .line l⟩ : Place).IsReported)
    (hreported : turn.isText = true ∧ Reportable l.text) (hverb : verbOf l.text = verb) :
    (Item.line l).commands verb phase = true := by
  have hcommand : phase ≠ .content := (hagree.2 hreported).2
  simp [Item.commands, hcommand, hverb]

/-- At each item the reports are the expected ones exactly if the phase and the decoder agree on
it. -/
theorem separated_place_iff {tlsAsked : Bool} (rest : List (Turn × Item))
    (hspeaker : ∀ x ∈ rest, x.2.isReply = x.1.fromServer)
    (hquiet : session.isQuiet = true → ∀ x ∈ rest, x.2.isReply = true)
    (hawaiting : session.awaitingStarttls220 = true → tlsAsked = true)
    (hplain : Plain tlsAsked phase (rest.map Prod.snd)) :
    Separated session (place phase rest) ↔
      ∀ p ∈ place phase rest, (p.IsCommand ↔ p.IsReported) := by
  -- Carried along: a quiet session has only replies ahead of it, and the answer to `STARTTLS` is
  -- awaited only if the client has asked for TLS with a command.
  induction rest generalizing session phase tlsAsked with
  | nil => exact ⟨fun _ => forall_mem_nil _, fun _ => trivial⟩
  | cons x rest ih =>
    obtain ⟨turn, item⟩ := x
    obtain ⟨hfrom, hspeakers⟩ := forall_mem_cons.1 hspeaker
    obtain ⟨hends, hplain⟩ := hplain
    have hlater : item.ends tlsAsked phase = true → ∀ x ∈ rest, x.2.isReply = true :=
      fun h x hx => hends h x.2 (mem_map_of_mem hx)
    rw [place, forall_mem_cons]
    cases item with
    | reply r =>
      obtain ⟨events, next, hitem, hreports, hawait, hnext⟩ := onItem_reply session hfrom.symm r
      have hagree : (⟨phase, turn, .reply r⟩ : Place).IsCommand ↔
        (⟨phase, turn, .reply r⟩ : Place).IsReported :=
        ⟨fun h => absurd h.1 Bool.noConfusion, False.elim⟩
      have hexpected : reports events = (⟨phase, turn, .reply r⟩ : Place).expected := hreports
      rw [separated_cons hitem, and_iff_right hagree, and_iff_right hexpected]
      refine ih hspeakers ?_ (fun h => Bool.or_eq_true_iff.2 (.inl (hawaiting (hawait.1 h).1)))
        hplain
      intro h
      rcases hnext.1 h with hquiet' | ⟨hwaits, hcode, -, hlast⟩
      · exact (forall_mem_cons.1 (hquiet hquiet')).2
      · exact hlater (by simp [Item.ends, hawaiting hwaits, hcode, hlast])
    | line l =>
      -- a quiet session has no more lines
      have hlive : session.isQuiet = false :=
        Bool.eq_false_iff.2 fun h => absurd (forall_mem_cons.1 (hquiet h)).1 Bool.noConfusion
      obtain ⟨events, next, hitem, hreports, hnext, hawait⟩ := onItem_line hlive hfrom.symm l
      rw [separated_cons hitem, hreports, Place.line_agrees_iff]
      -- where the two disagree there is nothing to show for the rest
      refine and_congr_right fun hagree => ?_
      refine ih hspeakers ?_ ?_ hplain
      · intro h
        obtain ⟨htext, hverb⟩ := hnext.1 h
        exact hlater (commands_of_agrees hagree ⟨htext, .of_known (by rw [hverb]; rfl)⟩ hverb)
      · intro h
        refine Bool.or_eq_true_iff.2 ((hawait.1 h).imp hawaiting fun ⟨htext, hverb⟩ => ?_)
        exact commands_of_agrees hagree ⟨htext, .of_known (by rw [hverb]; rfl)⟩ hverb

/-! ## The run of the decoder -/

lemma onItem_returns (session : SmtpSession) {turn : Turn} {item : Item}
    (h : item.isReply = turn.fromServer) : ∃ result, onItem session (turn, item) = .ok result := by
  cases item with
  | reply r =>
    obtain ⟨events, next, hitem, -⟩ := onItem_reply session h.symm r
    exact ⟨_, hitem⟩
  | line l =>
    by_cases hquiet : session.isQuiet = true
    · exact ⟨([], session), onItem_of_quiet hquiet _⟩
    · obtain ⟨events, next, hitem, -⟩ := onItem_line (Bool.eq_false_iff.2 hquiet) h.symm l
      exact ⟨_, hitem⟩

lemma Item.noLineFeed (item : Item) : 10 ∉ item.bytes := by
  have hdigit : ∀ d < 10, UInt8.ofNat (48 + d) ≠ 10 := by decide
  cases item with
  | line l => exact l.noLineFeed
  | reply r =>
    have hcode := r.codeFits
    simp only [bytes, threeDigitBytes, cons_append, nil_append, mem_cons, not_or]
    exact ⟨(hdigit _ (by omega)).symm, (hdigit _ (by omega)).symm, (hdigit _ (by omega)).symm,
      r.noLineFeed⟩

lemma Turn.linesOf_payload (turn : Turn) : linesOf turn.chunk.payload = if turn.isText then
        some ((turn.items.map fun item => utf8LossyFrom none item.bytes ++ ['\r']) ++ [[]])
      else none := by
  have hlines : ∀ bytes ∈ turn.items.map Item.bytes, 10 ∉ bytes :=
    forall_mem_map.2 fun item _ => item.noLineFeed
  have hvalid : utf8ValidFrom none turn.chunk.payload = turn.isText := by
    rw [turn.carries, utf8ValidFrom_terminated, all_map]
    rfl
  rw [linesOf, utf8Strict, hvalid]
  split
  · rw [Option.map_some, utf8Lossy, String.toList_ofList, turn.carries, splitOn_terminated hlines,
      map_map]
    rfl
  · rfl

lemma onLine_nil (chunk : StreamChunk) (fromServer : Bool) (session : SmtpSession) :
    onLine chunk fromServer session [] = .ok ([], session) := by
  unfold onLine
  split <;> rfl

lemma onSession_turn (turn : Turn) {last : SmtpSession} {session : SmtpSession}
    (h : run onItem session (turn.items.map fun item => (turn, item)) = .ok (events, last)) :
    ∃ events', onSession turn.chunk session = .ok (events', last) ∧
      reports events' = reports events := by
  -- in a quiet session, and in a chunk that is no text, the items do nothing
  have hstill : (∀ item, onItem session (turn, item) = .ok ([], session)) →
      events = [] ∧ last = session := by
    intro hitem
    have hrun : ∀ items : List Item, run onItem session (items.map fun item => (turn, item)) =
        .ok ([], session) := by
      intro items
      induction items with
      | nil => rfl
      | cons item items ih => exact (run_cons_eq_ok _).2 ⟨[], session, [], session, hitem item, ih,
        rfl⟩
    cases h.symm.trans (hrun _)
    exact ⟨rfl, rfl⟩
  unfold onSession
  rw [turn.isSmtps_chunk, turn.linesOf_payload, turn.fromServer_chunk]
  by_cases hquiet : session.isQuiet = true
  · obtain ⟨rfl, rfl⟩ := hstill fun item => onItem_of_quiet hquiet _
    exact ⟨[], if_pos hquiet, rfl⟩
  · rw [if_neg hquiet]
    by_cases htext : turn.isText = true
    · refine ⟨events, ?_, rfl⟩
      have hitems : run (onLine turn.chunk turn.fromServer) session
          (turn.items.map fun item => utf8LossyFrom none item.bytes ++ ['\r']) =
            .ok (events, last) := by
        rw [run_map] at h ⊢
        simp only [onItem, htext, if_true] at h
        exact h
      -- the text behind the last line feed is empty
      have hblank : run (onLine turn.chunk turn.fromServer) last [[]] = .ok ([], last) :=
        (run_cons_eq_ok _).2 ⟨[], last, [], last, onLine_nil _ _ _, rfl, rfl⟩
      rw [if_pos htext]
      exact (run_append_eq_ok _).2 ⟨events, last, [], last, hitems, hblank, by rw [append_nil]⟩
    · obtain ⟨rfl, rfl⟩ := hstill fun item => if_neg htext
      rw [if_neg htext]
      exact ⟨[nonUtf8Anomaly _], rfl, rfl⟩

lemma onStreamChunk_turn {last : SmtpSession} (d : SmtpDecoder) (turn : Turn)
    (h : run onItem (d.session turn.chunk.sessionKey) (turn.items.map fun item => (turn, item)) =
      .ok (events, last)) :
    ∃ events' d', d.onStreamChunk turn.chunk = .ok (events', d') ∧
      reports events' = reports events ∧ d'.session turn.chunk.sessionKey = last := by
  unfold onStreamChunk
  by_cases hempty : turn.chunk.payload = []
  · have hitems : turn.items = [] := by
      have hcarries := turn.carries
      rw [hempty] at hcarries
      cases hlist : turn.items with
      | nil => rfl
      | cons item items =>
        rw [hlist, map_cons, terminated] at hcarries
        simp at hcarries
    rw [hitems] at h
    cases h
    exact ⟨[], d, if_pos hempty, rfl, rfl⟩
  · obtain ⟨events', hsession, hreports⟩ := onSession_turn turn h
    rw [if_neg hempty, hsession]
    refine ⟨events', _, rfl, hreports, ?_⟩
    rw [session, AList.lookup_insert, Option.getD_some]

lemma said_cons (turn : Turn) (turns : List Turn) :
    said (turn :: turns) = (turn.items.map fun item => (turn, item)) ++ said turns := rfl

lemma speaker_said (turns : List Turn) : ∀ x ∈ said turns, x.2.isReply = x.1.fromServer := by
  intro x hx
  obtain ⟨turn, -, hmem⟩ := mem_flatMap.1 hx
  obtain ⟨item, hitem, rfl⟩ := mem_map.1 hmem
  exact turn.speaker item hitem

lemma run_turns {last : SmtpSession} {key : String} {turns : List Turn}
    (hkey : ∀ turn ∈ turns, turn.chunk.sessionKey = key) {d : SmtpDecoder}
    (h : run onItem (d.session key) (said turns) = .ok (events, last)) :
    ∃ events' d', run onStreamChunk d (turns.map Turn.chunk) = .ok (events', d') ∧
      reports events' = reports events ∧ d'.session key = last := by
  induction turns generalizing d events with
  | nil =>
    cases h
    exact ⟨[], d, rfl, rfl, rfl⟩
  | cons turn turns ih =>
    obtain ⟨rfl, hkeys⟩ := forall_mem_cons.1 hkey
    rw [said_cons, run_append_eq_ok] at h
    obtain ⟨outs, mid, outs', last', hfirst, hrest, heq⟩ := h
    cases heq
    obtain ⟨first, d', hchunk, hreports, rfl⟩ := onStreamChunk_turn d turn hfirst
    obtain ⟨later, d'', hrun, hlater, hlast⟩ := ih hkeys hrest
    refine ⟨first ++ later, d'', (run_cons_eq_ok _).2 ⟨first, d', later, d'', hchunk, hrun, rfl⟩,
      ?_, hlast⟩
    rw [reports_append, reports_append, hreports, hlater]

lemma Separated.reports_run {last : SmtpSession} {rest : List (Turn × Item)}
    (h : Separated session (place phase rest))
    (hrun : run onItem session rest = .ok (events, last)) :
    reports events = (place phase rest).flatMap Place.expected := by
  induction rest generalizing session phase events with
  | nil =>
    cases hrun
    rfl
  | cons x rest ih =>
    obtain ⟨out, mid, outs, last', hitem, hrest, heq⟩ := (run_cons_eq_ok _).1 hrun
    cases heq
    rw [place, separated_cons hitem] at h
    rw [place, flatMap_cons, reports_append, h.1, ih h.2 hrest]

/-- In a dialogue the commands are separated from the messages exactly if the decoder reports the
commands, and only these. Then the transactions are the commands in order. -/
theorem commands_separated_iff (d : SmtpDecoder) (x : Dialogue)
    (hfresh : d.session x.key = .default) :
    (Separated .default x.places ↔ ∀ p ∈ x.places, (p.IsCommand ↔ p.IsReported)) ∧
      ∃ events d', Checked.run SmtpDecoder.onStreamChunk d (x.turns.map Turn.chunk) =
        .ok (events, d') ∧ (Separated .default x.places → reports events = x.commands) := by
  have hspeaker := speaker_said x.turns
  have hitems : (said x.turns).map Prod.snd = x.turns.flatMap Turn.items := by
    simp [said, map_flatMap]
  have hplain : Plain false .command ((said x.turns).map Prod.snd) := hitems ▸ x.plain
  constructor
  · refine separated_place_iff _ hspeaker ?_ ?_ hplain
    · exact fun h => absurd h Bool.noConfusion
    · exact fun h => absurd h Bool.noConfusion
  · obtain ⟨⟨events, last⟩, hrun⟩ := exists_run_eq_ok onItem
      (fun session y hy => onItem_returns session (hspeaker y hy)) (d.session x.key)
    obtain ⟨events', d', hdecoder, hreports, -⟩ := run_turns x.oneSession hrun
    rw [hfresh] at hrun
    exact ⟨events', d', hdecoder, fun hseparated => hreports.trans (hseparated.reports_run hrun)⟩

def clientTurn (lines : List Line) : Turn where
  chunk := hostChunk 0 .tcp 49152 25 (terminated ((lines.map Item.line).map Item.bytes))
  fromServer := false
  items := lines.map Item.line
  carries := rfl
  speaker := forall_mem_map.2 fun _ _ => rfl
  serverPort := (by decide : (25 : UInt16) ∈ [25, 587])
  clientPort := (by decide : (49152 : UInt16) ∉ [25, 465, 587])

def serverTurn (r : Reply) : Turn where
  chunk := hostChunk 0 .tcp 25 49152 (terminated [(Item.reply r).bytes])
  fromServer := true
  items := [.reply r]
  carries := rfl
  speaker := forall_mem_singleton.2 rfl
  serverPort := (by decide : (25 : UInt16) ∈ [25, 587])
  clientPort := (by decide : (49152 : UInt16) ∉ [25, 465, 587])

def ehloLine : Line := ⟨utf8 "EHLO a", by decide⟩

def dataLine : Line := ⟨utf8 "DATA", by decide⟩

def quitLine : Line := ⟨utf8 "QUIT", by decide⟩

def noopLine : Line := ⟨utf8 "NOOP", by decide⟩

def dotLine : Line := ⟨utf8 ".", by decide⟩

/-- An `é` in Latin-1. -/
def latinLine : Line := ⟨[0xE9], by decide⟩

def bareReply (code : Nat) (h : code < 1000) : Reply := ⟨code, [], h, by simp, not_mem_nil⟩

def ready : Reply := bareReply 220 (by decide)

def okay : Reply := bareReply 250 (by decide)

/-- A dialogue with one message, and `NOOP` after it. -/
def mailTurns (message : List Line) : List Turn :=
  [serverTurn ready, clientTurn [ehloLine], serverTurn okay, clientTurn [dataLine],
    serverTurn (bareReply 354 (by decide)), clientTurn message, serverTurn okay,
      clientTurn [noopLine]]

def latinMail : Dialogue where
  key := ""
  turns := mailTurns [latinLine, dotLine]
  oneSession := by decide
  plain := by decide

/-- The message is `QUIT`. -/
def quitMail : Dialogue where
  key := ""
  turns := mailTurns [quitLine, dotLine]
  oneSession := by decide
  plain := by decide

def emptyMail : Dialogue where
  key := ""
  turns := mailTurns [dotLine]
  oneSession := by decide
  plain := by decide

theorem latinMail_separated : Separated .default latinMail.places ∧
    ∃ events d', Checked.run SmtpDecoder.onStreamChunk .default (latinMail.turns.map Turn.chunk) =
      .ok (events, d') ∧ reports events = latinMail.commands := by
  obtain ⟨hiff, events, d', hrun, hreports⟩ := commands_separated_iff .default latinMail rfl
  have hseparated : Separated .default latinMail.places := hiff.2 (by decide)
  exact ⟨hseparated, events, d', hrun, hreports hseparated⟩

def runReports (turns : List Turn) : Checked (List (String × String)) :=
  (Checked.run SmtpDecoder.onStreamChunk .default (turns.map Turn.chunk)).map fun result =>
    reports result.1

/-- The message is reported, and so is the dot. With the message `QUIT` the session ends for the
decoder, and the next command is lost. -/
theorem messages_reported :
    (quitMail.commands = [("smtp_ehlo", "EHLO a"), ("smtp_data", "DATA"), ("smtp_noop", "NOOP")] ∧
      runReports quitMail.turns = .ok [("smtp_ehlo", "EHLO a"), ("smtp_data", "DATA"),
        ("smtp_quit", "QUIT")]) ∧
    (emptyMail.commands = [("smtp_ehlo", "EHLO a"), ("smtp_data", "DATA"), ("smtp_noop", "NOOP")] ∧
      runReports emptyMail.turns = .ok [("smtp_ehlo", "EHLO a"), ("smtp_data", "DATA"),
        ("smtp_unknown_command", "."), ("smtp_noop", "NOOP")]) := by
  refine ⟨⟨by decide, ?_⟩, by decide, ?_⟩
  · rfl
  · rfl

end MarlinspikeDpi.Smtp
