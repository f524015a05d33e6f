import MarlinspikeDpi.Smtp.Dialogue
import MarlinspikeDpi.Vnc.Segmentation

/-!
# The address under which a mail or VNC server is reported

Both decoders take the destination of the chunk that completes an exchange, also if the server has
sent it.

* `attributed_iff`: when all captures of some connections name the right server.
-/

namespace MarlinspikeDpi.ServerAssets

open Engine Text List AList Checked Smtp Vnc Vnc.VncDecoder

/-! ## Captures -/

inductive Service where
  | smtp
  | submission
  | smtps
  | rfb (display : Fin 11)
deriving DecidableEq

def Service.port : Service → UInt16
  | smtp => 25
  | submission => 587
  | smtps => 465
  | rfb display => 5900 + UInt16.ofNat display

/-- A connection.  The client is at an ephemeral port. -/
structure Peers where
  (client server : IpAddr)
  clientPort : UInt16
  service : Service
  key : String
  ephemeral : 49152 ≤ clientPort
deriving DecidableEq

structure Segment where
  peers : Peers
  fromServer : Bool
  chunk : StreamChunk
  srcIp : chunk.context.srcIp = if fromServer then peers.server else peers.client
  dstIp : chunk.context.dstIp = if fromServer then peers.client else peers.server
  srcPort : chunk.context.srcPort = if fromServer then peers.service.port else peers.clientPort
  dstPort : chunk.context.dstPort = if fromServer then peers.clientPort else peers.service.port
  session : chunk.sessionKey = peers.key

def Carry (fromServer : Bool) (bytes : List UInt8) (segments : List Segment) : Prop :=
  (∀ segment ∈ segments, segment.fromServer = fromServer) ∧
    (segments.flatMap fun segment => segment.chunk.payload) = bytes

def sent (fromServer : Bool) (segments : List Segment) : List UInt8 :=
  (segments.filter fun segment => segment.fromServer == fromServer).flatMap fun segment =>
    segment.chunk.payload

/-- The server greets with 220, and the two sides send lines. -/
def IsMail (segments : List Segment) : Prop :=
  ∃ (greeting : Smtp.Reply) (replies : List Smtp.Reply) (lines : List Smtp.Line),
    greeting.code = 220 ∧
    sent true segments = terminated ((greeting :: replies).map fun r => (Smtp.Item.reply r).bytes) ∧
    sent false segments = terminated (lines.map Smtp.Line.bytes)

def IsTls (segments : List Segment) : Prop :=
  ∀ before segment after, segments = before ++ segment :: after →
    (∀ s ∈ before, s.chunk.payload = []) →
    segment.chunk.payload ≠ [] → segment.fromServer = false ∧
      segment.chunk.payload.head? = some 0x16

def IsRfb (segments : List Segment) : Prop :=
  ∃ (server client : Vnc.Banner) (outcome : Vnc.Outcome) (first second third rest : List Segment)
    (more : List UInt8),
    (outcome.isDirect = true ↔ server.major = 3 ∧ server.minor ≤ 3) ∧
      segments = first ++ second ++ third ++ rest ∧
    Carry true server.encode first ∧ Carry false client.encode second ∧
      Carry true outcome.fromServer third ∧
    sent false rest = outcome.fromClient ++ more

def IsSession (service : Service) (segments : List Segment) : Prop :=
  match service with
  | .smtp | .submission => IsMail segments
  | .smtps => IsTls segments
  | .rfb _ => IsRfb segments

/-- Segments of well-formed sessions.  The session keys tell them apart. -/
structure Capture where
  segments : List Segment
  keys : ∀ segment ∈ segments, ∀ other ∈ segments, segment.peers.key = other.peers.key →
    segment.peers = other.peers
  sessions : ∀ segment ∈ segments,
    IsSession segment.peers.service (segments.filter fun other => other.peers = segment.peers)

/-! ## Observations -/

abbrev Decoders : Type := Smtp.SmtpDecoder × Vnc.VncDecoder

def observe (d : Decoders) (segment : Segment) : Checked (List BronzeEvent × Decoders) :=
  match segment.peers.service with
  | .rfb _ =>
    let (events, vnc) := Vnc.VncDecoder.onStreamChunk d.2 segment.chunk
    .ok (events, d.1, vnc)
  | _ => (d.1.onStreamChunk segment.chunk).map fun (events, smtp) => (events, smtp, d.2)

def start : Decoders := (.default, Vnc.VncDecoder.default)

def Attributed (segments : List Segment) : Prop :=
  ∀ before segment after out d events d', segments = before ++ segment :: after →
    Checked.run observe start before = .ok (out, d) → observe d segment = .ok (events, d') →
    ∀ event ∈ events, ∀ asset, event.family = .assetObservation asset →
      asset.assetKey = segment.peers.server.display

def ToDestination (chunk : StreamChunk) (event : BronzeEvent) : Prop :=
  ∀ asset, event.family = .assetObservation asset → asset.assetKey = chunk.context.dstIp.display

@[simp] lemma toDestination_transaction (chunk : StreamChunk) (captureId : String)
    (env : EventEnvelope) (t : ProtocolTransaction) :
      ToDestination chunk (newEvent captureId env (.protocolTransaction t)) := by
  intro asset h
  cases h

@[simp] lemma toDestination_anomaly (chunk : StreamChunk) (captureId : String) (env : EventEnvelope)
    (decoder severity reason : String) (bytes : List UInt8) :
    ToDestination chunk (parseAnomalyEvent captureId env decoder severity reason bytes) := by
  intro asset h
  cases h

lemma toDestination_vnc (d : Vnc.VncDecoder) (chunk : StreamChunk) :
    ∀ event ∈ (onStreamChunk d chunk).1, ToDestination chunk event := by
  refine reader.forall_mem_feed (fun chunk => forall_mem_move ?_ ?_) d chunk
  · exact fun _ => toDestination_anomaly _ _ _ _ _ _ _
  · refine fun handshake => ⟨toDestination_transaction _ _ _ _, ?_⟩
    intro asset h
    cases h
    rfl

section

open Smtp

@[simp] lemma toDestination_serverAsset {chunk : StreamChunk} (vendor : Option String)
    (identifiers : List (String × String)) :
    ToDestination chunk (serverAsset chunk vendor identifiers) := by
  intro asset h
  cases h
  rfl

lemma toDestination_onServerLine {chunk : StreamChunk} {session next : SmtpSession}
    {events : List BronzeEvent}
    {line : List Char} (h : onServerLine chunk session line = .ok (events, next)) :
    ∀ event ∈ events, ToDestination chunk event := by
  by_cases hshort : byteLen line < 3
  · rw [onServerLine, if_pos hshort] at h
    cases h
    simp [emitAnomaly]
  · cases hsplit : splitAtByte line 3 with
    | none =>
      rw [onServerLine, if_neg hshort, splitText, hsplit] at h
      cases h
    | some halves =>
      rw [onServerLine_of_split hshort hsplit] at h
      cases hrest : bannerText line <;> rw [hrest] at h <;> repeat' split at h
      all_goals cases h
      all_goals simp [emitAnomaly, bannerEvents]

lemma toDestination_onClientLine {chunk : StreamChunk} {session : SmtpSession} (line : List Char) :
    ∀ event ∈ (onClientLine chunk session line).1, ToDestination chunk event := by
  unfold onClientLine
  dsimp only
  repeat' split
  all_goals simp [txEvent, emitAnomaly]

lemma toDestination_onLine {chunk : StreamChunk} {session next : SmtpSession}
    {events : List BronzeEvent} {fromServer : Bool} {raw : List Char}
    (h : onLine chunk fromServer session raw = .ok (events, next)) :
    ∀ event ∈ events, ToDestination chunk event := by
  unfold onLine at h
  split at h
  · cases h
    exact forall_mem_nil _
  · dsimp only at h
    split at h
    · cases h
      exact forall_mem_nil _
    · split at h
      · exact toDestination_onServerLine h
      · have hevents : ∀ event ∈ (onClientLine chunk session (trimCr raw)).1,
          ToDestination chunk event := toDestination_onClientLine _
        rwa [Except.ok.inj h] at hevents

lemma toDestination_onSession {chunk : StreamChunk} {session next : SmtpSession}
    {events : List BronzeEvent} (h : onSession chunk session = .ok (events, next)) :
    ∀ event ∈ events, ToDestination chunk event := by
  unfold onSession at h
  split at h
  · split at h <;> cases h <;> simp [smtpsEvents, txEvent]
  · split at h
    · cases h
      exact forall_mem_nil _
    · split at h
      · cases h
        simp [nonUtf8Anomaly]
      · exact forall_mem_run _ (fun _ _ _ _ => toDestination_onLine) h

lemma onStreamChunk_eq_ok {chunk : StreamChunk} {d d' : SmtpDecoder} {events : List BronzeEvent}
    (h : d.onStreamChunk chunk = .ok (events, d')) :
    chunk.payload = [] ∧ events = [] ∧ d' = d ∨
      chunk.payload ≠ [] ∧ ∃ session, onSession chunk (d.session chunk.sessionKey) =
        .ok (events, session) ∧ d' = ⟨d.sessions.insert chunk.sessionKey session⟩ := by
  unfold SmtpDecoder.onStreamChunk at h
  split at h
  · rename_i hempty
    cases h
    exact .inl ⟨hempty, rfl, rfl⟩
  · rename_i hsome
    cases hsession : onSession chunk (d.session _) with
    | error panic =>
      rw [hsession] at h
      cases h
    | ok result =>
      rw [hsession] at h
      cases h
      exact .inr ⟨hsome, result.2, rfl, rfl⟩

end

/-! ## Sessions that are encrypted from the start -/

section

lemma observe_eq {segment : Segment} (hmail : ∀ display, segment.peers.service ≠ .rfb display)
    (d : Decoders) :
    observe d segment = (d.1.onStreamChunk segment.chunk).map fun (events, smtp) =>
      (events, smtp, d.2) := by
  unfold observe
  split
  · exact absurd ‹_› (hmail _)
  · rfl

lemma observe_mail {d d' : Smtp.SmtpDecoder × Vnc.VncDecoder} {events : List BronzeEvent}
    {segment : Segment}
    (hmail : ∀ display, segment.peers.service ≠ .rfb display)
    (h : observe d segment = .ok (events, d')) :
    d.1.onStreamChunk segment.chunk = .ok (events, d'.1) := by
  rw [observe_eq hmail] at h
  cases hchunk : d.1.onStreamChunk _ with
  | error panic =>
    rw [hchunk] at h
    cases h
  | ok result =>
    rw [hchunk] at h
    cases h
    rfl

lemma toDestination_observe {d d' : Smtp.SmtpDecoder × Vnc.VncDecoder} {events : List BronzeEvent}
    {segment : Segment} (h : observe d segment = .ok (events, d')) :
    ∀ event ∈ events, ToDestination segment.chunk event := by
  by_cases hrfb : ∃ display, segment.peers.service = .rfb display
  · obtain ⟨display, hservice⟩ := hrfb
    rw [observe, hservice] at h
    cases h
    exact toDestination_vnc d.2 _
  · rcases onStreamChunk_eq_ok (observe_mail (not_exists.1 hrfb) h) with ⟨-, rfl, -⟩ | ⟨-, session,
      hsession, -⟩
    · exact forall_mem_nil _
    · exact toDestination_onSession hsession

lemma Segment.isSmtps {segment : Segment} (h : segment.peers.service = .smtps) :
    isSmtps segment.chunk = true := by
  rw [Smtp.isSmtps, segment.srcPort, segment.dstPort, h]
  cases segment.fromServer <;> simp [Service.port]

def Emitted (peers : Peers) (d : Decoders) : Prop := (d.1.session peers.key).smtpsEmitted = true

/-- A session is reported with its first bytes. -/
theorem emitted_observe {d d' : Smtp.SmtpDecoder × Vnc.VncDecoder} {events : List BronzeEvent}
    {segment : Segment} {peers : Peers} (hsmtps : peers.service = .smtps)
    (hkey : segment.peers.key = peers.key → segment.peers = peers)
    (h : observe d segment = .ok (events, d'))
    (hbefore : Emitted peers d ∨ segment.peers = peers ∧ segment.chunk.payload ≠ []) :
      Emitted peers d' := by
  by_cases hrfb : ∃ display, segment.peers.service = .rfb display
  · obtain ⟨display, hservice⟩ := hrfb
    have hother : segment.peers ≠ peers := fun heq => by simp [heq, hsmtps] at hservice
    rw [observe, hservice] at h
    cases h
    exact hbefore.resolve_right fun hown => hother hown.1
  · rcases onStreamChunk_eq_ok (observe_mail (not_exists.1 hrfb) h) with ⟨hempty, -, hd⟩ | ⟨-,
      session, hsession, hd⟩
    · rw [Emitted, hd]
      exact hbefore.resolve_right fun hown => hown.2 hempty
    · rw [Emitted, hd, Smtp.SmtpDecoder.session, segment.session]
      by_cases hown : segment.peers.key = peers.key
      · rw [onSession, Segment.isSmtps ((hkey hown).symm ▸ hsmtps), if_pos rfl] at hsession
        rw [hown, lookup_insert]
        split at hsession
        · cases hsession
          assumption
        · cases hsession
          rfl
      · rw [lookup_insert_ne fun heq => hown heq.symm]
        exact hbefore.resolve_right fun hsame => hown (hsame.1 ▸ rfl)

lemma emitted_run {d d' : Smtp.SmtpDecoder × Vnc.VncDecoder} {peers : Peers}
    (hsmtps : peers.service = .smtps) {before : List Segment}
    (hkeys : ∀ segment ∈ before, segment.peers.key = peers.key → segment.peers = peers)
    {out : List BronzeEvent}
    (hrun : run observe d before = .ok (out, d'))
    (h : Emitted peers d ∨ ∃ segment ∈ before, segment.peers = peers ∧ segment.chunk.payload ≠ []) :
    Emitted peers d' := by
  induction before generalizing d out with
  | nil =>
    cases hrun
    exact h.resolve_right fun ⟨_, hmem, _⟩ => not_mem_nil hmem
  | cons segment before ih =>
    obtain ⟨hkey, hkeys⟩ := forall_mem_cons.1 hkeys
    obtain ⟨first, mid, later, last, hstep, hrest, heq⟩ := (run_cons_eq_ok _).1 hrun
    cases heq
    refine ih hkeys hrest ?_
    rcases h with hemitted | ⟨own, hmem, hown⟩
    · exact .inl (emitted_observe hsmtps hkey hstep (.inl hemitted))
    · rcases mem_cons.1 hmem with rfl | hmem
      · exact .inl (emitted_observe hsmtps hkey hstep (.inr hown))
      · exact .inr ⟨own, hmem, hown⟩

/-- The chunk with which an encrypted session is reported is the first one that is not empty. -/
theorem not_emitted {d d' : Smtp.SmtpDecoder × Vnc.VncDecoder} {events : List BronzeEvent}
    {segment : Segment}
    (hsmtps : segment.peers.service = .smtps) (h : observe d segment = .ok (events, d'))
    (hsome : events ≠ []) :
    segment.chunk.payload ≠ [] ∧ ¬ Emitted segment.peers d := by
  have hmail : ∀ display, segment.peers.service ≠ .rfb display := by simp [hsmtps]
  rcases onStreamChunk_eq_ok (observe_mail hmail h) with ⟨-, hnone, -⟩ | ⟨hpayload, session,
    hsession, -⟩
  · exact absurd hnone hsome
  · refine ⟨hpayload, fun hemitted => ?_⟩
    rw [segment.session, onSession, Segment.isSmtps hsmtps,
      if_pos (show (d.1.session segment.peers.key).smtpsEmitted = true from hemitted)] at hsession
    cases hsession
    exact hsome rfl

end

lemma attributed_of_rule (capture : Capture)
    (hrule : ∀ segment ∈ capture.segments, segment.peers.service = .smtps ∨
      segment.peers.client.display = segment.peers.server.display) :
        Attributed capture.segments := by
  intro before segment after out d events d' hsegments hrun hobserve event hevent asset hasset
  have hmem : segment ∈ capture.segments := by simp [hsegments]
  rw [toDestination_observe hobserve event hevent asset hasset, segment.dstIp]
  cases hside : segment.fromServer with
  | false => rfl
  | true =>
    refine (hrule segment hmem).resolve_left fun hsmtps => ?_
    -- the first bytes of the session come from the client
    obtain ⟨hpayload, hnot⟩ := not_emitted hsmtps hobserve (ne_nil_of_mem hevent)
    have hkeys : ∀ other ∈ before, other.peers.key = segment.peers.key →
      other.peers = segment.peers :=
      fun other hother => capture.keys other (by simp [hsegments, hother]) segment hmem
    have hfirst : ∀ other ∈ before.filter fun other => other.peers = segment.peers,
        other.chunk.payload = [] := by
      intro other hother
      obtain ⟨hother, hpeers⟩ := mem_filter.1 hother
      by_contra hne
      exact hnot (emitted_run hsmtps hkeys hrun
        (.inr ⟨other, hother, of_decide_eq_true hpeers, hne⟩))
    have htls := capture.sessions segment hmem
    rw [hsmtps, hsegments, filter_append, filter_cons_of_pos (by simp)] at htls
    have hclient := (htls _ _ _ rfl hfirst hpayload).1
    rw [hside] at hclient
    cases hclient

/-! ## Captures in which the server is missed -/

section

def segmentOf (peers : Peers) (fromServer : Bool) (payload : List UInt8) : Segment where
  peers
  fromServer
  chunk :=
    let chunk := hostChunk 0 .tcp (if fromServer then peers.service.port else peers.clientPort)
      (if fromServer then peers.clientPort else peers.service.port) payload
    { chunk with
      sessionKey := peers.key
      context :=
        { chunk.context with
          srcIp := if fromServer then peers.server else peers.client
          dstIp := if fromServer then peers.client else peers.server } }
  srcIp := rfl
  dstIp := rfl
  srcPort := rfl
  dstPort := rfl
  session := rfl

def captureOf (peers : Peers) (messages : List (Bool × List UInt8))
    (h : IsSession peers.service (messages.map fun m => segmentOf peers m.1 m.2)) : Capture where
  segments := messages.map fun m => segmentOf peers m.1 m.2
  keys := by
    intro segment hsegment other hother _
    obtain ⟨_, -, rfl⟩ := mem_map.1 hsegment
    obtain ⟨_, -, rfl⟩ := mem_map.1 hother
    rfl
  sessions := by
    intro segment hsegment
    obtain ⟨m, -, rfl⟩ := mem_map.1 hsegment
    rw [filter_eq_self.2]
    · exact h
    · intro other hother
      obtain ⟨_, -, rfl⟩ := mem_map.1 hother
      exact decide_eq_true rfl

def greeting : List UInt8 := terminated [(Smtp.Item.reply Smtp.ready).bytes]

lemma isMail_greeting {peers : Peers} : IsMail [segmentOf peers true greeting] :=
  ⟨_, [], [], rfl, rfl, rfl⟩

def greetingTurn {peers : Peers} (hservice : peers.service = .smtp ∨ peers.service = .submission) :
    Smtp.Turn where
  chunk := (segmentOf peers true greeting).chunk
  fromServer := true
  items := [.reply Smtp.ready]
  carries := rfl
  speaker := forall_mem_singleton.2 rfl
  serverPort := by
    change peers.service.port ∈ _
    rcases hservice with h | h <;> rw [h] <;> decide
  clientPort := by
    change peers.clientPort ∉ _
    have hfar : ([25, 465, 587] : List UInt16).all (fun port => ¬ 49152 ≤ port) = true := by decide
    exact fun hmem => of_decide_eq_true (all_eq_true.1 hfar _ hmem) peers.ephemeral

lemma observe_greeting {peers : Peers}
    (hservice : peers.service = .smtp ∨ peers.service = .submission) :
    ∃ d', observe start (segmentOf peers true greeting) =
      .ok (bannerEvents (segmentOf peers true greeting).chunk "", d') := by
  set turn := greetingTurn hservice
  have hsession : onSession turn.chunk .default = .ok (bannerEvents turn.chunk "", .default) := by
    have hlines : linesOf turn.chunk.payload = some [['2', '2', '0', '\r'], []] := by
      change linesOf greeting = _
      decide
    rw [onSession, turn.isSmtps_chunk, turn.fromServer_chunk, hlines]
    rfl
  have hchunk : Smtp.SmtpDecoder.default.onStreamChunk (segmentOf peers true greeting).chunk =
      .ok (bannerEvents (segmentOf peers true greeting).chunk "",
        ⟨insert peers.key Smtp.SmtpSession.default ∅⟩) :=
    Smtp.SmtpDecoder.onStreamChunk_of_onSession (cons_ne_nil _ _) hsession
  refine ⟨_, (observe_eq ?_ start).trans (by rw [start, hchunk]; rfl)⟩
  intro display h
  have hrfb : peers.service = .rfb display := h
  rcases hservice with h | h <;> rw [h] at hrfb <;> cases hrfb

lemma display_eq_of_greeting {peers : Peers}
    (hservice : peers.service = .smtp ∨ peers.service = .submission)
    (hattributed : Attributed [segmentOf peers true greeting]) :
      peers.client.display = peers.server.display := by
  obtain ⟨d', hobserve⟩ := observe_greeting hservice
  exact hattributed [] _ [] [] start _ d' rfl rfl hobserve _ (mem_cons_of_mem _ mem_cons_self) _ rfl

def rfbMessages : List (Bool × List UInt8) :=
  [(true, Vnc.rfb38.encode), (false, Vnc.rfb38.encode), (true, [1, 1]), (false, [1])]

lemma isRfb_messages {peers : Peers} :
    IsRfb (rfbMessages.map fun m => segmentOf peers m.1 m.2) := by
  refine ⟨rfb38, rfb38, .offered [1] (by decide) (by decide) 1, [_], [_], [_], [_], [], by decide,
    rfl, ?_⟩
  exact ⟨⟨forall_mem_singleton.2 rfl, rfl⟩, ⟨forall_mem_singleton.2 rfl, rfl⟩,
    ⟨forall_mem_singleton.2 rfl, rfl⟩, rfl⟩

lemma display_eq_of_rfb {peers : Peers} {display : Fin 11} (hservice : peers.service = .rfb display)
    (hattributed : Attributed (rfbMessages.map fun m => segmentOf peers m.1 m.2)) :
    peers.client.display = peers.server.display := by
  have hobserve (fromServer : Bool) (payload : List UInt8) (d : Decoders)
      {events : List BronzeEvent} {vnc : Vnc.VncDecoder}
      (h : reader.feed d.2 (segmentOf peers fromServer payload).chunk = (events, vnc)) :
      observe d (segmentOf peers fromServer payload) = .ok (events, d.1, vnc) := by
    rw [observe, show (segmentOf peers fromServer payload).peers.service =
      .rfb display from hservice, onStreamChunk, h]
  have hserver :=
    hobserve true _ start ((Vnc.Banner.stage_server (b := rfb38) (by decide)).feed rfl rfl)
  have hclient := hobserve false _ (start.1, ⟨.awaitingClientBanner "3.8" 3 8, []⟩)
    ((rfb38.stage_client _ 3 8).feed rfl rfl)
  have hrun : run observe start [segmentOf peers true rfb38.encode,
      segmentOf peers false rfb38.encode] = .ok ([], start.1, _) :=
    (run_cons_eq_ok _).2 ⟨[], _, [], _, hserver,
      (run_cons_eq_ok _).2 ⟨[], _, [], _, hclient, rfl, rfl⟩, rfl⟩
  exact hattributed _ _ [_] [] _ _ _ rfl hrun (hobserve true [1, 1] _ rfl) _
    (mem_cons_of_mem _ mem_cons_self) _ rfl

end

/-- All captures of some connections are attributed rightly exactly if each of them is encrypted
from the start, or has its two ends at one address. -/
theorem attributed_iff (connections : List Peers) :
    (∀ capture : Capture, (∀ segment ∈ capture.segments, segment.peers ∈ connections) →
      Attributed capture.segments) ↔
      ∀ peers ∈ connections, peers.service = .smtps ∨
        peers.client.display = peers.server.display := by
  constructor
  · intro hall peers hpeers
    have hown (messages : List (Bool × List UInt8))
        (h : IsSession peers.service (messages.map fun m => segmentOf peers m.1 m.2)) :
        Attributed (messages.map fun m => segmentOf peers m.1 m.2) := by
      refine hall (captureOf peers messages h) ?_
      intro segment hsegment
      obtain ⟨m, -, rfl⟩ := mem_map.1 hsegment
      exact hpeers
    cases hservice : peers.service with
    | smtps => exact .inl rfl
    | smtp =>
      refine .inr (display_eq_of_greeting (.inl hservice) (hown [(true, greeting)] ?_))
      rw [hservice]
      exact isMail_greeting
    | submission =>
      refine .inr (display_eq_of_greeting (.inr hservice) (hown [(true, greeting)] ?_))
      rw [hservice]
      exact isMail_greeting
    | rfb display =>
      refine .inr (display_eq_of_rfb hservice (hown rfbMessages ?_))
      rw [hservice]
      exact isRfb_messages
  · exact fun h capture hpeers => attributed_of_rule capture fun segment hsegment =>
      h _ (hpeers segment hsegment)

def mailPeers : Peers := ⟨.v4 ⟨10, 0, 0, 1⟩, .v4 ⟨10, 0, 0, 2⟩, 49152, .smtp, "", by decide⟩

theorem mailPeers_missed : IsSession mailPeers.service [segmentOf mailPeers true greeting] ∧
    ¬ Attributed [segmentOf mailPeers true greeting] :=
  ⟨isMail_greeting, fun h => absurd (display_eq_of_greeting (.inl rfl) h) (by decide)⟩

end MarlinspikeDpi.ServerAssets
