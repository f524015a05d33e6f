import MarlinspikeDpi.Mqtt.Aliases

/-!
# Births and deaths in histories of Sparkplug publishes

As long as the birth sequence numbers of a session do not go down, its alias table is the one of the
last birth with the bindings that came later (`resolve_since_birth`).

* `resolve_since_birth`: the alias table since the last birth.
* `death_clears_session`: nothing resolves after a death.
-/

namespace MarlinspikeDpi.Mqtt
namespace Sparkplug

open Engine SparkplugProto List

/-! ## Publishes of a session -/

section

variable [SparkplugProto]

/-- A readable publish of the session: a birth, a data message or a death. -/
structure Publish (key : SessionKey) where
  ctx : MqttPublishContext
  topic : SparkplugTopic
  payload : Payload
  parsed : parseTopic ctx.topic = some topic
  decoded : decode ctx.payload = .ok payload
  inSession : sessionKey ctx topic = key
  ofSession : topic.messageType.ofSession = true

variable [External]

def publishAll (d : SparkplugBDecoder) (history : List MqttPublishContext) : SparkplugBDecoder :=
  history.foldl (fun d ctx => (tryDecode d ctx).2) d

variable {key : SessionKey}

lemma tryDecode_publish (d : SparkplugBDecoder) (p : Publish key) : tryDecode d p.ctx =
      ((handle (d.sessions.countPublish p.ctx.packetTsUs) p.ctx p.topic p.payload).1,
        ⟨(handle (d.sessions.countPublish p.ctx.packetTsUs) p.ctx p.topic p.payload).2⟩) := by
  simp only [tryDecode, p.parsed, p.decoded]

lemma lookup_tryDecode_publish (d : SparkplugBDecoder) (p : Publish key) :
    (tryDecode d p.ctx).2.sessions.sessions.lookup key =
      some (((d.sessions.countPublish p.ctx.packetTsUs).touched key p.ctx.packetTsUs).after
        p.topic.messageType p.payload) := by
  have hself :=
    lookup_handle_self (d.sessions.countPublish p.ctx.packetTsUs) p.ctx p.topic p.payload
    p.ofSession
  rw [p.inSession] at hself
  rw [tryDecode_publish]
  exact hself

lemma tryDecode_publish_config (d : SparkplugBDecoder) (p : Publish key) :
    (tryDecode d p.ctx).2.sessions.config = d.sessions.config := by
  rw [tryDecode_publish]
  exact (handle_config _ p.ctx p.topic _).trans (countPublish_config _ _)

end

/-! ## Births in order -/

section

variable {key : SessionKey}

/-- Not a step back from one sequence number to another, as far as both are given. -/
def inOrder : Option UInt64 → Option UInt64 → Bool
  | some previous, some new => previous ≤ new
  | _, _ => true

/-- The session, if there is one, has no other number than the one of the last birth. -/
def HasSeen (d : SparkplugBDecoder) (key : SessionKey) (last : Option UInt64) : Prop :=
  ∀ s, d.sessions.sessions.lookup key = some s → s.bdSeq = none ∨ s.bdSeq = last

lemma supersededBy_of_inOrder {s : SessionState} {last new : Option UInt64}
    (hseen : s.bdSeq = none ∨ s.bdSeq = last) (horder : inOrder last new = true) :
    s.supersededBy new = true := by
  unfold SessionState.supersededBy
  rcases hseen with hnone | hlast
  · rw [hnone]
  · rw [hlast]
    exact horder

lemma HasSeen.touched {d : SparkplugBDecoder} {last : Option UInt64} (hseen : HasSeen d key last)
    (nowUs : UInt64) : ((d.sessions.countPublish nowUs).touched key nowUs).bdSeq = none ∨
      ((d.sessions.countPublish nowUs).touched key nowUs).bdSeq = last := by
  unfold SessionStore.touched
  cases hlookup : (d.sessions.countPublish nowUs).sessions.lookup key with
  | none => exact Or.inl rfl
  | some s => exact hseen s (lookup_of_lookup_countPublish hlookup)

variable [SparkplugProto]

def Publish.isBirth (p : Publish key) : Bool := p.topic.messageType.isBirth

def lastBdSeq (last : Option UInt64) (p : Publish key) : Option UInt64 :=
  if p.isBirth then extractBdSeq p.payload else last

/-- No birth has a smaller sequence number than the birth before it; `last` is the number of the
last birth before these publishes. -/
def birthsInOrder : Option UInt64 → List (Publish key) → Bool
  | _, [] => true
  | last, p :: history =>
    (!p.isBirth || inOrder last (extractBdSeq p.payload)) && birthsInOrder
      (lastBdSeq last p) history

variable {last : Option UInt64} {p : Publish key} {q : Publish key} {table : UInt64 → Option String}

lemma birthsInOrder_cons {history : List (Publish key)} : birthsInOrder last (p :: history) = true →
      (p.isBirth = true → inOrder last (extractBdSeq p.payload) = true) ∧
        birthsInOrder (lastBdSeq last p) history = true := by
  intro horder
  obtain ⟨hp, hlater⟩ := Bool.and_eq_true_iff.1 horder
  refine ⟨fun hbirth => ?_, hlater⟩
  simpa [hbirth] using hp

variable [External] {d : SparkplugBDecoder}

lemma HasSeen.publish (hseen : HasSeen d key last)
    (p : Publish key) (horder : p.isBirth = true → inOrder last (extractBdSeq p.payload) = true) :
    HasSeen (tryDecode d p.ctx).2 key (lastBdSeq last p) := by
  intro s hlookup
  rw [lookup_tryDecode_publish] at hlookup
  cases hlookup
  have htouched := hseen.touched p.ctx.packetTsUs
  rw [SessionState.after_bdSeq _ _ _ fun hbirth => supersededBy_of_inOrder htouched (horder hbirth)]
  unfold lastBdSeq Publish.isBirth
  split
  · exact Or.inr rfl
  · exact htouched

lemma HasSeen.publishAll (hseen : HasSeen d key last)
    (history later : List (Publish key)) (horder : birthsInOrder last (history ++ later) = true) :
    ∃ last', HasSeen (publishAll d (history.map Publish.ctx)) key last' ∧
      birthsInOrder last' later = true := by
  induction history generalizing d last with
  | nil => exact ⟨last, hseen, horder⟩
  | cons p history ih =>
    obtain ⟨hcounts, hlater⟩ := birthsInOrder_cons horder
    exact ih (hseen.publish p hcounts) hlater

/-- The session is never silent for as long as its time to live. -/
def Lively (ttlUs : UInt64) (history : List (Publish key)) : Prop :=
  history.IsChain fun p q => q.ctx.packetTsUs.toNat - p.ctx.packetTsUs.toNat < ttlUs.toNat

/-- The session exists, was last touched by `p`, and has the table. -/
def Tracks (d : SparkplugBDecoder) (p : Publish key) (table : UInt64 → Option String) : Prop :=
  ∃ s, d.sessions.sessions.lookup key = some s ∧ s.lastTouchedUs = p.ctx.packetTsUs ∧
    s.resolve = table

lemma tracks_birth (hseen : HasSeen d key last) (hbirth : p.isBirth = true)
    (horder : inOrder last (extractBdSeq p.payload) = true) :
    Tracks (tryDecode d p.ctx).2 p (aliasMap p.payload.metrics) := by
  refine ⟨_, lookup_tryDecode_publish d p, SessionState.after_lastTouchedUs _ _ _, ?_⟩
  have hcounts := supersededBy_of_inOrder (hseen.touched p.ctx.packetTsUs) horder
  rw [SessionState.resolve_after _ _ _ fun _ => hcounts]
  unfold Publish.isBirth at hbirth
  cases htype : p.topic.messageType <;> rw [htype] at hbirth
  case nBirth | dBirth => rfl
  all_goals cases hbirth

lemma Tracks.publish (htracks : Tracks d q table) {last : Option UInt64}
    (hseen : HasSeen d key last) (p : Publish key)
    (horder : p.isBirth = true → inOrder last (extractBdSeq p.payload) = true)
    (htime : p.ctx.packetTsUs.toNat - q.ctx.packetTsUs.toNat < d.sessions.config.ttlUs.toNat) :
    Tracks (tryDecode d p.ctx).2 p (tableAfter p.topic.messageType p.payload table) := by
  obtain ⟨s, hlookup, htouched, rfl⟩ := htracks
  have hfresh : d.sessions.stale p.ctx.packetTsUs s = false := by
    rw [← htouched] at htime
    exact decide_eq_false (Nat.not_le.2 htime)
  have hkept := lookup_countPublish_of_not_stale hlookup hfresh
  have hresolve :
      ((d.sessions.countPublish p.ctx.packetTsUs).touched key p.ctx.packetTsUs).resolve =
        s.resolve := by
    unfold SessionStore.touched
    rw [hkept]
    rfl
  refine ⟨_, lookup_tryDecode_publish d p, SessionState.after_lastTouchedUs _ _ _, ?_⟩
  rw [SessionState.resolve_after _ _ _ fun hbirth =>
    supersededBy_of_inOrder (hseen.touched p.ctx.packetTsUs) (horder hbirth), hresolve]

def tableAfterAll (table : UInt64 → Option String) (history : List (Publish key)) : UInt64 →
    Option String :=
  history.foldl (fun table p => tableAfter p.topic.messageType p.payload table) table

lemma Tracks.publishAll (htracks : Tracks d q table) {last : Option UInt64}
    (hseen : HasSeen d key last)
    {later : List (Publish key)} (horder : birthsInOrder last later = true)
    (hlively : Lively d.sessions.config.ttlUs (q :: later)) :
    ∃ p : Publish key, Tracks (publishAll d (later.map Publish.ctx)) p
      (tableAfterAll table later) := by
  induction later generalizing d q table last with
  | nil => exact ⟨q, htracks⟩
  | cons p later ih =>
    obtain ⟨hcounts, hlater⟩ := birthsInOrder_cons horder
    obtain ⟨htime, hlively⟩ := isChain_cons_cons.1 hlively
    refine ih (htracks.publish hseen p hcounts htime) (hseen.publish p hcounts) hlater ?_
    rw [tryDecode_publish_config]
    exact hlively

def SparkplugBDecoder.withEvictionConfig (config : EvictionConfig) : SparkplugBDecoder :=
  ⟨{ SessionStore.default with config }⟩

lemma publishAll_append (d : SparkplugBDecoder) (history later : List MqttPublishContext) :
    publishAll d (history ++ later) = publishAll (publishAll d history) later :=
  foldl_append

lemma publishAll_config (d : SparkplugBDecoder) (history : List (Publish key)) :
    (publishAll d (history.map Publish.ctx)).sessions.config = d.sessions.config := by
  induction history generalizing d with
  | nil => rfl
  | cons p history ih => exact (ih _).trans (tryDecode_publish_config d p)

/-- In every history of a session in which no birth has a smaller sequence number than the one
before, the alias table after a birth is the one of the birth; and it stays so, with what later
messages bind and until a death clears it, as long as the session is not given up for silence. -/
theorem resolve_since_birth (config : EvictionConfig) (before : List (Publish key))
    (birth : Publish key) (later : List (Publish key)) (hbirth : birth.isBirth = true)
    (horder : birthsInOrder none (before ++ birth :: later) = true)
    (hlively : Lively config.ttlUs (birth :: later)) (aliasId : UInt64) :
    (publishAll (SparkplugBDecoder.withEvictionConfig config)
        ((before ++ birth :: later).map Publish.ctx)).sessions.resolve key aliasId =
      tableAfterAll (aliasMap birth.payload.metrics) later aliasId := by
  let d := SparkplugBDecoder.withEvictionConfig config
  have hstart : HasSeen d key none := by
    intro s hlookup
    cases hlookup
  obtain ⟨last, hseen, hrest⟩ := hstart.publishAll before (birth :: later) horder
  obtain ⟨hcounts, hlater⟩ := birthsInOrder_cons hrest
  have hborn := tracks_birth hseen hbirth (hcounts hbirth)
  have hconfig := (tryDecode_publish_config _ birth).trans (publishAll_config d before)
  obtain ⟨p, htracks⟩ :=
    hborn.publishAll (hseen.publish birth hcounts) hlater (by rw [hconfig]; exact hlively)
  obtain ⟨s, hlookup, -, htable⟩ := htracks
  rw [map_append, publishAll_append, SessionStore.resolve]
  have hrun : (publishAll (publishAll d (before.map Publish.ctx))
      ((birth :: later).map Publish.ctx)).sessions.sessions.lookup key = some s := hlookup
  rw [hrun, ← htable]
  rfl

end

/-- A stand-in for evaluation: two bytes are a birth, with its sequence number and a letter that
names the alias 1; one byte is data for the alias 1. -/
@[reducible] def SparkplugProto.tiny : SparkplugProto where
  decode
    | [seq, letter] =>
      .ok
        { timestamp := none
          metrics :=
            [{ name := some "bdSeq", aliasId := none, timestamp := none, datatype := none,
               isHistorical := none, isTransient := none, isNull := none, properties := none,
               value := some (.longValue seq.toUInt64) },
             { name := some (String.singleton (Char.ofNat letter.toNat)), aliasId := some 1,
               timestamp := none, datatype := none, isHistorical := none, isTransient := none,
               isNull := none, properties := none, value := some (.intValue 0) }]
          seq := none }
    | [value] =>
      .ok
        { timestamp := none
          metrics :=
            [{ name := none, aliasId := some 1, timestamp := none, datatype := none,
               isHistorical := none, isTransient := none, isNull := none, properties := none,
               value := some (.intValue value.toUInt32) }]
          seq := none }
    | [] => .ok { timestamp := none, metrics := [], seq := none }
    | _ => .error "not modelled"

/-- A publish of the topic on the way to the broker `10.0.0.2:1883`. -/
def publishOf (topic : String) (payload : List UInt8) (timeUs : UInt64) : MqttPublishContext :=
  { brokerEndpoint := ⟨.v4 ⟨10, 0, 0, 2⟩, 1883⟩
    flow5Tuple :=
      { src := ⟨.v4 ⟨10, 0, 0, 1⟩, 49152⟩, dst := ⟨.v4 ⟨10, 0, 0, 2⟩, 1883⟩, transport := 6 }
    clientId := none
    topic
    payload
    retain := false
    qos := 0
    packetTsUs := timeUs
    vlanId := none
    publisherMac := MacAddr.zero }

/-- The session of the edge node `e` or of a device of it. -/
def plantKey (device : Option String) : SessionKey :=
  { brokerEndpoint := ⟨.v4 ⟨10, 0, 0, 2⟩, 1883⟩, groupId := "g", edgeNodeId := "e", deviceId :=
    device }

lemma parseTopic_nodeBirth : parseTopic "spBv1.0/g/NBIRTH/e" =
      some { groupId := "g", messageType := .nBirth, edgeNodeId := "e", deviceId := none } := by
  rfl

/-- An `NBIRTH` of the edge node, with its sequence number and a letter for the alias 1. -/
def nodeBirth (seq letter : UInt8) (timeUs : UInt64) : @Publish tiny (plantKey none) :=
  let _ : SparkplugProto := tiny
  { ctx := publishOf "spBv1.0/g/NBIRTH/e" [seq, letter] timeUs, topic := ⟨"g", .nBirth, "e", none⟩,
    payload := _, parsed := parseTopic_nodeBirth, decoded := rfl, inSession := rfl,
    ofSession := rfl }

/-- A second connection with the next sequence number, and then data: the alias has the new name. -/
theorem secondBirth_resolves :
    letI : External := External.sample
    letI : SparkplugProto := tiny
    birthsInOrder none [nodeBirth 1 65 0, nodeBirth 2 66 5] = true ∧
      (publishAll SparkplugBDecoder.new
        [(nodeBirth 1 65 0).ctx, (nodeBirth 2 66 5).ctx]).sessions.resolve (plantKey none) 1 =
          some "B" := by
  let _ : External := External.sample
  let _ : SparkplugProto := tiny
  refine ⟨by decide, ?_⟩
  exact (resolve_since_birth SessionStore.default.config [nodeBirth 1 65 0] (nodeBirth 2 66 5)
    [] rfl (by decide) (isChain_singleton _) 1).trans (by decide)

/-- The sequence number after 255 is 0, and the birth with it is taken for an old one: the alias
keeps the name of the connection before. -/
theorem wrappedBirth_ignored :
    letI : External := External.sample
    letI : SparkplugProto := tiny
    (publishAll SparkplugBDecoder.new
        [(nodeBirth 255 65 0).ctx, (nodeBirth 0 66 5).ctx]).sessions.resolve (plantKey none) 1 =
          some "A" ∧
      aliasMap (nodeBirth 0 66 5).payload.metrics 1 = some "B" := by
  decide

/-! ## Deaths -/

def MessageType.isData (t : MessageType) : Bool := t == nData || t == dData

def MessageType.isDeath (t : MessageType) : Bool := t == nDeath || t == dDeath

def MessageType.names (t : MessageType) : Bool := t.isBirth || t.isData

lemma SessionState.resolve_after_eq_none {aliasId : UInt64} {s : SessionState}
    {messageType : MessageType} {payload : Payload} (hnone : s.resolve aliasId = none)
    (hunbound : messageType.names = true → aliasMap payload.metrics aliasId = none) :
    (s.after messageType payload).resolve aliasId = none := by
  by_cases hcounts : messageType.isBirth = true → s.supersededBy (extractBdSeq payload) = true
  · rw [resolve_after s messageType payload hcounts]
    cases messageType with
    | nBirth | dBirth => exact hunbound rfl
    | nData | dData => simp [tableAfter, hunbound rfl, hnone]
    | nDeath | dDeath => rfl
    | nCmd | dCmd | state => exact hnone
  · -- an outdated birth changes nothing
    obtain ⟨hbirth, hold⟩ := not_forall.1 hcounts
    cases messageType
    case nBirth | dBirth =>
      unfold after
      rw [if_pos hold]
      exact hnone
    all_goals cases hbirth

lemma resolve_eq_none_of_lookup {aliasId : UInt64} {store store' : SessionStore} {key : SessionKey}
    (hless : ∀ s, store'.sessions.lookup key = some s → store.sessions.lookup key = some s) :
    store.resolve key aliasId = none → store'.resolve key aliasId = none := by
  intro hnone
  unfold SessionStore.resolve at hnone ⊢
  cases hlookup : store'.sessions.lookup key with
  | none => rfl
  | some s =>
    rw [hless s hlookup] at hnone
    exact hnone

lemma unnamed_mem_emitMetrics {aliasId : UInt64} {s : SessionState} [External]
    {store : SessionStore} {ctx : MqttPublishContext} {topic : SparkplugTopic}
    (hlookup : store.sessions.lookup (sessionKey ctx topic) = some s)
    (htouched : s.lastTouchedUs = ctx.packetTsUs) (hnone : s.resolve aliasId = none)
    (payload : Payload) {metrics : List Metric} (hunbound : aliasMap metrics aliasId = none)
    {metric : Metric} (hmem : metric ∈ metrics) (hname : metric.name = none)
    (halias : metric.aliasId = some aliasId) :
    makeEvent ctx (.processReading (buildReading ctx topic payload metric none)) ∈
      (emitMetrics store ctx topic payload metrics).1 := by
  induction metrics generalizing store s with
  | nil => cases hmem
  | cons m metrics ih =>
    obtain ⟨hm, hrest⟩ := forall_mem_cons.1 (lastWrite_eq_none_iff.1 hunbound)
    rcases mem_cons.1 hmem with rfl | hlater
    · -- nothing before it in this message has named the alias
      have hunnamed : (resolveMetric store ctx topic metric).1 = none := by
        simp only [resolveMetric, hname, halias, hlookup]
        exact hnone
      simp only [emitMetrics, hunnamed, mem_cons, true_or]
    · refine mem_cons_of_mem _ (ih (lookup_resolveMetric hlookup htouched m)
        ((s.learn_lastTouchedUs m).trans htouched) ?_ (lastWrite_eq_none_iff.2 hrest) hlater)
      rw [SessionState.resolve_learn, hm, hnone]
      rfl

section

variable [SparkplugProto]

/-- The publish is a readable message of the session that gives a name to the alias. -/
def bindsIn (key : SessionKey) (aliasId : UInt64) (ctx : MqttPublishContext) : Bool :=
  match parseTopic ctx.topic, decode ctx.payload with
  | some topic, .ok payload =>
    decide (sessionKey ctx topic = key) && topic.messageType.names &&
      (aliasMap payload.metrics aliasId).isSome
  | _, _ => false

variable [External] {key : SessionKey} {aliasId : UInt64} {d : SparkplugBDecoder}

lemma resolve_tryDecode_eq_none {ctx : MqttPublishContext}
    (hunbound : bindsIn key aliasId ctx = false) (hnone : d.sessions.resolve key aliasId = none) :
    (tryDecode d ctx).2.sessions.resolve key aliasId = none := by
  have hswept : (d.sessions.countPublish ctx.packetTsUs).resolve key aliasId = none :=
    resolve_eq_none_of_lookup (fun _ => lookup_of_lookup_countPublish) hnone
  unfold bindsIn at hunbound
  unfold tryDecode
  cases hparsed : parseTopic _ with
  | none => exact hnone
  | some topic =>
    cases hdecoded : decode _ with
    | error e => exact hswept
    | ok payload =>
      rw [hparsed, hdecoded] at hunbound
      show (handle _ ctx topic payload).2.resolve key aliasId = none
      by_cases hsession : topic.messageType.ofSession = true
      · by_cases hkey : sessionKey ctx topic = key
        · have hmetrics : topic.messageType.names = true →
              aliasMap payload.metrics aliasId = none := by
            intro hnames
            simpa [hkey, hnames] using hunbound
          subst hkey
          unfold SessionStore.resolve
          rw [lookup_handle_self _ ctx topic payload hsession]
          exact SessionState.resolve_after_eq_none ((resolve_touched _ _ _ _).trans hswept) hmetrics
        · refine resolve_eq_none_of_lookup (fun s hlookup => ?_) hswept
          rw [lookup_handle_of_ne _ ctx topic payload hsession (Ne.symm hkey)] at hlookup
          exact lookup_of_lookup_entry _ _ _ (Ne.symm hkey) hlookup
      · rw [handle_of_not_ofSession _ ctx topic payload (Bool.eq_false_iff.2 hsession)]
        exact hswept

lemma resolve_publishAll_eq_none {later : List MqttPublishContext}
    (hunbound : ∀ ctx ∈ later, bindsIn key aliasId ctx = false)
    (hnone : d.sessions.resolve key aliasId = none) :
    (publishAll d later).sessions.resolve key aliasId = none := by
  induction later generalizing d with
  | nil => exact hnone
  | cons ctx later ih =>
    obtain ⟨hctx, hlater⟩ := forall_mem_cons.1 hunbound
    exact ih hlater (resolve_tryDecode_eq_none hctx hnone)

lemma unresolved_reported {data : Publish key}
    (hdata : data.topic.messageType.isData = true) (hunbound : bindsIn key aliasId data.ctx = false)
    (hnone : d.sessions.resolve key aliasId = none) {metric : Metric}
    (hmem : metric ∈ data.payload.metrics) (hname : metric.name = none)
    (halias : metric.aliasId = some aliasId) :
    sessionTxEvent data.ctx data.topic data.payload none (metricCount data.payload)
        "unresolved_no_birth" ∈ (tryDecode d data.ctx).1 ∧
      makeEvent data.ctx
        (.processReading (buildReading data.ctx data.topic data.payload metric none)) ∈
          (tryDecode d data.ctx).1 := by
  let store := d.sessions.countPublish data.ctx.packetTsUs
  let session := store.touched key data.ctx.packetTsUs
  have hunnamed : session.resolve aliasId = none :=
    (resolve_touched store key _ aliasId).trans
      (resolve_eq_none_of_lookup (fun _ => lookup_of_lookup_countPublish) hnone)
  have hmetrics : aliasMap data.payload.metrics aliasId = none := by
    simpa [bindsIn, data.parsed, data.decoded, data.inSession, MessageType.names,
      hdata] using hunbound
  have hgap : (data.payload.metrics.any fun m => m.name.isNone &&
      (m.aliasId.map fun aliasId => (session.resolve aliasId).isNone).getD false) = true :=
    any_eq_true.2 ⟨metric, hmem, by simp [hname, halias, hunnamed]⟩
  have hhandle : handle store data.ctx data.topic data.payload =
      handleData store data.ctx data.topic data.payload := by
    unfold handle
    cases htype : data.topic.messageType <;> simp_all [MessageType.isData]
  have hsession : (store.entry (sessionKey data.ctx data.topic) data.ctx.packetTsUs).1 =
      session := by
    rw [entry_session, data.inSession]
  rw [tryDecode_publish, hhandle]
  simp only [handleData, hsession, hgap, if_true]
  refine ⟨mem_append_right _ (mem_cons_self ..), mem_append_right _ (mem_cons_of_mem _ ?_)⟩
  exact unnamed_mem_emitMetrics (s := { session with gapAnomalyEmitted := true })
    (lookup_put_self _ _ _) rfl hunnamed data.payload hmetrics hmem hname halias

/-- The store can take in the session without giving up another one. -/
def SessionStore.hasRoom (store : SessionStore) (key : SessionKey) (nowUs : UInt64) : Bool :=
  decide (store.sessions.entries.length < store.config.maxSessions) ||
    (store.sessions.lookup key).any fun s => !store.stale nowUs s

lemma lookup_of_lookup_tryDecode {key' : SessionKey} {p : Publish key} {s : SessionState}
    (hne : key' ≠ key) :
    (tryDecode d p.ctx).2.sessions.sessions.lookup key' = some s →
      d.sessions.sessions.lookup key' = some s := by
  intro hlookup
  have hother : key' ≠ sessionKey p.ctx p.topic := by
    rw [p.inSession]
    exact hne
  rw [tryDecode_publish] at hlookup
  rw [lookup_handle_of_ne _ _ _ _ p.ofSession hother] at hlookup
  exact lookup_of_lookup_countPublish (lookup_of_lookup_entry _ _ _ hother hlookup)

lemma lookup_tryDecode_of_ne {key' : SessionKey} {p : Publish key} {s : SessionState}
    (hne : key' ≠ key) (hlookup : d.sessions.sessions.lookup key' = some s)
    (hfresh : d.sessions.stale p.ctx.packetTsUs s = false)
    (hroom : d.sessions.hasRoom key p.ctx.packetTsUs = true) :
    (tryDecode d p.ctx).2.sessions.sessions.lookup key' = some s := by
  have hother : key' ≠ sessionKey p.ctx p.topic := by
    rw [p.inSession]
    exact hne
  have hswept := lookup_countPublish_of_not_stale hlookup hfresh
  rw [tryDecode_publish]
  rw [lookup_handle_of_ne _ _ _ _ p.ofSession hother]
  rcases Bool.or_eq_true_iff.1 hroom with hplace | hown
  · have hless : (d.sessions.countPublish p.ctx.packetTsUs).sessions.entries.length <
        (d.sessions.countPublish p.ctx.packetTsUs).config.maxSessions := by
      rw [countPublish_config]
      exact (length_countPublish_le _ _).trans_lt (of_decide_eq_true hplace)
    rw [lookup_entry_of_not_full _ _ _ hless hother]
    exact hswept
  · cases hexists : d.sessions.sessions.lookup key with
    | none =>
      rw [hexists] at hown
      cases hown
    | some own =>
      rw [hexists] at hown
      have hlive : d.sessions.stale p.ctx.packetTsUs own = false := by simpa using hown
      have hkept := lookup_countPublish_of_not_stale hexists hlive
      rw [p.inSession, lookup_entry_of_ne _ _ _ hkept hne]
      exact hswept

/-- After a death nothing in the table of its session resolves, whatever is published, until a
message of the session names the alias: data that carries only the alias is reported as unresolved,
the message and the metric. -/
theorem death_clears_session (d : SparkplugBDecoder) (death : Publish key)
    (hdeath : death.topic.messageType.isDeath = true) (later : List MqttPublishContext)
    (hunbound : ∀ ctx ∈ later, bindsIn key aliasId ctx = false) :
    let dead := (tryDecode d death.ctx).2
    (publishAll dead later).sessions.resolve key aliasId = none ∧
      (∀ data : Publish key, data.topic.messageType.isData = true →
        bindsIn key aliasId data.ctx = false →
          ∀ metric ∈ data.payload.metrics, metric.name = none → metric.aliasId = some aliasId →
            sessionTxEvent data.ctx data.topic data.payload none (metricCount data.payload)
                "unresolved_no_birth" ∈ (tryDecode (publishAll dead later) data.ctx).1 ∧
              makeEvent data.ctx
                (.processReading (buildReading data.ctx data.topic data.payload metric none)) ∈
                  (tryDecode (publishAll dead later) data.ctx).1) ∧
      (∀ other ≠ key, ∀ s, dead.sessions.sessions.lookup other = some s →
        d.sessions.sessions.lookup other = some s) ∧
      (∀ other ≠ key, ∀ s, d.sessions.sessions.lookup other = some s →
        d.sessions.stale death.ctx.packetTsUs s = false →
          d.sessions.hasRoom key death.ctx.packetTsUs = true →
            dead.sessions.sessions.lookup other = some s) := by
  intro dead
  have hcleared : dead.sessions.resolve key aliasId = none := by
    unfold SessionStore.resolve
    rw [lookup_tryDecode_publish]
    cases htype : death.topic.messageType <;> rw [htype] at hdeath
    case nDeath | dDeath => rfl
    all_goals cases hdeath
  have hnone := resolve_publishAll_eq_none hunbound hcleared
  refine ⟨hnone, ?_, ?_, ?_⟩
  · intro data hdata hdataUnbound metric hmem hname halias
    exact unresolved_reported hdata hdataUnbound hnone hmem hname halias
  · intro other hne s hlookup
    exact lookup_of_lookup_tryDecode hne hlookup
  · intro other hne s hlookup hfresh hroom
    exact lookup_tryDecode_of_ne hne hlookup hfresh hroom

end

lemma parseTopic_nodeDeath : parseTopic "spBv1.0/g/NDEATH/e" =
      some { groupId := "g", messageType := .nDeath, edgeNodeId := "e", deviceId := none } := by
  rfl

def nodeDeath (timeUs : UInt64) : @Publish tiny (plantKey none) :=
  let _ : SparkplugProto := tiny
  { ctx := publishOf "spBv1.0/g/NDEATH/e" [] timeUs, topic := ⟨"g", .nDeath, "e", none⟩,
    payload := _, parsed := parseTopic_nodeDeath, decoded := rfl, inSession := rfl,
    ofSession := rfl }

/-- The alias of a node resolves after its birth and not after its death. -/
theorem nodeDeath_clears :
    letI : External := External.sample
    letI : SparkplugProto := tiny
    let d := publishAll SparkplugBDecoder.new [(nodeBirth 1 65 0).ctx]
    d.sessions.resolve (plantKey none) 1 = some "A" ∧
      (nodeDeath 5).topic.messageType.isDeath = true ∧
      (tryDecode d (nodeDeath 5).ctx).2.sessions.resolve (plantKey none) 1 = none := by
  let _ : External := External.sample
  let _ : SparkplugProto := tiny
  exact ⟨by decide, rfl, (death_clears_session _ (nodeDeath 5) rfl [] (by simp)).1⟩

/-- A device is born and its edge node dies: the alias of the device still resolves. -/
theorem deviceAlias_survives_nodeDeath :
    letI : External := External.sample
    letI : SparkplugProto := tiny
    (publishAll SparkplugBDecoder.new
      [publishOf "spBv1.0/g/DBIRTH/e/d" [1, 65] 0, (nodeDeath 5).ctx]).sessions.resolve
        (plantKey (some "d")) 1 = some "A" := by
  decide

end Sparkplug
end MarlinspikeDpi.Mqtt
