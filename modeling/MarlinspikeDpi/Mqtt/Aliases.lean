import MarlinspikeDpi.Foundation.LastWrite
import MarlinspikeDpi.Mqtt.Sparkplug

/-!
# What a Sparkplug message does to the alias tables of the sessions

What a message does to its own session is one function on sessions (`SessionState.after`), and the
store computes it (`lookup_handle_self`).
-/

namespace MarlinspikeDpi.Mqtt
namespace Sparkplug

open Engine SessionStore AList

/-! ## One session -/

def binds (aliasId : UInt64) (metric : Metric) : Option String :=
  match metric.name, metric.aliasId with
  | some name, some bound => if bound = aliasId then some name else none
  | _, _ => none

def aliasMap (metrics : List Metric) (aliasId : UInt64) : Option String :=
  lastWrite (binds aliasId) metrics

namespace SessionState

variable (s : SessionState)

def learn (metric : Metric) : SessionState :=
  match metric.name, metric.aliasId with
  | some name, some aliasId => s.bind aliasId name
  | _, _ => s

def unresolvable (metrics : List Metric) : Bool := metrics.any fun m =>
    m.name.isNone && (m.aliasId.map fun aliasId => (s.resolve aliasId).isNone).getD false

def born (payload : Payload) : SessionState :=
  payload.metrics.foldl learn
    { s with bdSeq := extractBdSeq payload, gapAnomalyEmitted := false, aliases := ∅ }

def after (messageType : MessageType) (payload : Payload) : SessionState :=
  match messageType with
  | .nBirth | .dBirth =>
    if ¬ s.supersededBy (extractBdSeq payload) then s
    -- the metrics of a birth are learned once more when they are reported
    else payload.metrics.foldl learn (s.born payload)
  | .nData | .dData =>
    payload.metrics.foldl learn (if s.unresolvable payload.metrics
      then { s with gapAnomalyEmitted := true } else s)
  | .nDeath | .dDeath => { s with aliases := ∅ }
  | .nCmd | .dCmd | .state => s

lemma resolve_bind (bound aliasId : UInt64) (name : String) :
    (s.bind bound name).resolve aliasId = if aliasId = bound then some name
      else s.resolve aliasId :=
  Table.lookup_insert_eq_ite _ bound aliasId name

lemma resolve_learn (metric : Metric) (aliasId : UInt64) :
    (s.learn metric).resolve aliasId = (binds aliasId metric).or (s.resolve aliasId) := by
  unfold learn binds
  cases metric.name with
  | none => rfl
  | some name =>
    cases metric.aliasId with
    | none => rfl
    | some bound =>
      rw [resolve_bind]
      by_cases hbound : bound = aliasId
      · simp [hbound]
      · simp [hbound, Ne.symm hbound]

lemma resolve_foldl_learn (metrics : List Metric) (aliasId : UInt64) :
    (metrics.foldl learn s).resolve aliasId = (aliasMap metrics aliasId).or (s.resolve aliasId) :=
  view_run (fun s => s.resolve aliasId) (fun s metric => resolve_learn s metric aliasId) s metrics

lemma learn_bdSeq (metric : Metric) : (s.learn metric).bdSeq = s.bdSeq := by
  unfold learn
  split <;> rfl

lemma learn_lastTouchedUs (metric : Metric) : (s.learn metric).lastTouchedUs = s.lastTouchedUs := by
  unfold learn
  split <;> rfl

lemma foldl_learn_bdSeq (metrics : List Metric) : (metrics.foldl learn s).bdSeq = s.bdSeq := by
  induction metrics generalizing s with
  | nil => rfl
  | cons metric metrics ih => exact (ih _).trans (learn_bdSeq s metric)

lemma foldl_learn_lastTouchedUs (metrics : List Metric) :
    (metrics.foldl learn s).lastTouchedUs = s.lastTouchedUs := by
  induction metrics generalizing s with
  | nil => rfl
  | cons metric metrics ih => exact (ih _).trans (learn_lastTouchedUs s metric)

lemma after_lastTouchedUs (messageType : MessageType) (payload : Payload) :
    (s.after messageType payload).lastTouchedUs = s.lastTouchedUs := by
  cases messageType with
  | nBirth | dBirth =>
    unfold after
    dsimp only
    split
    · rfl
    · rw [foldl_learn_lastTouchedUs, born, foldl_learn_lastTouchedUs]
  | nData | dData =>
    unfold after
    rw [foldl_learn_lastTouchedUs]
    split <;> rfl
  | nDeath | dDeath | nCmd | dCmd | state => rfl

lemma after_bdSeq (messageType : MessageType) (payload : Payload)
    (hcounts : messageType.isBirth = true → s.supersededBy (extractBdSeq payload) = true) :
    (s.after messageType payload).bdSeq =
      if messageType.isBirth then extractBdSeq payload else s.bdSeq := by
  cases messageType with
  | nBirth | dBirth =>
    have hnew : ¬ ¬ s.supersededBy (extractBdSeq payload) = true := not_not.2 (hcounts rfl)
    unfold after
    rw [if_neg hnew, foldl_learn_bdSeq, born, foldl_learn_bdSeq]
    rfl
  | nData | dData =>
    unfold after
    rw [foldl_learn_bdSeq]
    split <;> rfl
  | nDeath | dDeath | nCmd | dCmd | state => rfl

end SessionState

/-- The table that a message makes of a table: a birth sets it, data adds to it, a death clears
it. -/
def tableAfter (messageType : MessageType) (payload : Payload) (table : UInt64 → Option String) :
    UInt64 → Option String :=
  match messageType with
  | .nBirth | .dBirth => aliasMap payload.metrics
  | .nData | .dData => fun aliasId => (aliasMap payload.metrics aliasId).or (table aliasId)
  | .nDeath | .dDeath => fun _ => none
  | .nCmd | .dCmd | .state => table

lemma SessionState.resolve_after (s : SessionState) (messageType : MessageType) (payload : Payload)
    (hcounts : messageType.isBirth = true → s.supersededBy (extractBdSeq payload) = true) :
    (s.after messageType payload).resolve = tableAfter messageType payload s.resolve := by
  funext aliasId
  cases messageType with
  | nBirth | dBirth =>
    have hnew : ¬ ¬ s.supersededBy (extractBdSeq payload) = true := not_not.2 (hcounts rfl)
    unfold after
    dsimp only
    rw [if_neg hnew, resolve_foldl_learn, born, resolve_foldl_learn]
    -- bound twice is bound once, and nothing was there before
    show (aliasMap _ aliasId).or ((aliasMap _ aliasId).or none) = _
    cases haliased : aliasMap _ aliasId <;> simp [tableAfter, haliased]
  | nData | dData =>
    unfold after
    rw [resolve_foldl_learn]
    split <;> rfl
  | nDeath | dDeath | nCmd | dCmd | state => rfl

/-! ## The store -/

variable (store : SessionStore) (key : SessionKey)

/-- The session that a message of it finds, with the time of the message. -/
def SessionStore.touched (nowUs : UInt64) : SessionState :=
  { (store.sessions.lookup key).getD SessionState.default with lastTouchedUs := nowUs }

def SessionStore.resolve (aliasId : UInt64) : Option String :=
  (store.sessions.lookup key).bind fun s => s.resolve aliasId

def SessionStore.stale (nowUs : UInt64) (s : SessionState) : Bool :=
  store.config.ttlUs.toNat ≤ nowUs.toNat - s.lastTouchedUs.toNat

section

variable (nowUs : UInt64)

lemma entry_session : (store.entry key nowUs).1 = store.touched key nowUs := by
  unfold touched
  cases hlookup : store.sessions.lookup key with
  | some session => simp only [entry, Lru.makeRoom_of_lookup_eq_some hlookup, hlookup,
    Option.getD_some]
  | none => simp only [entry, Lru.lookup_makeRoom_eq_none hlookup, Option.getD_none]

lemma lookup_entry_self : (store.entry key nowUs).2.sessions.lookup key =
    some (store.touched key nowUs) := by
  rw [← entry_session]
  exact lookup_insert _

lemma resolve_touched (aliasId : UInt64) : (store.touched key nowUs).resolve aliasId =
    store.resolve key aliasId := by
  unfold touched resolve
  cases store.sessions.lookup key <;> rfl

lemma lookup_put_self (s : SessionState) : (store.put key s).sessions.lookup key = some s :=
  lookup_insert _

lemma lookup_put_of_ne {key' : SessionKey} (s : SessionState) (hne : key' ≠ key) :
    (store.put key s).sessions.lookup key' = store.sessions.lookup key' :=
  lookup_insert_ne hne

lemma lookup_entry_of_ne {key' : SessionKey} {s : SessionState}
    (hlookup : store.sessions.lookup key = some s) (hne : key' ≠ key) :
    (store.entry key nowUs).2.sessions.lookup key' = store.sessions.lookup key' := by
  refine (lookup_insert_ne hne).trans ?_
  rw [Lru.makeRoom_of_lookup_eq_some hlookup]

lemma lookup_of_lookup_entry {key' : SessionKey} {s : SessionState} (hne : key' ≠ key) :
    (store.entry key nowUs).2.sessions.lookup key' = some s →
      store.sessions.lookup key' = some s := by
  intro hlookup
  have hroom := (lookup_insert_ne hne).symm.trans hlookup
  exact Lru.lookup_makeRoom_of_some hroom

lemma lookup_entry_of_not_full {key' : SessionKey}
    (hroom : store.sessions.entries.length < store.config.maxSessions) (hne : key' ≠ key) :
    (store.entry key nowUs).2.sessions.lookup key' = store.sessions.lookup key' := by
  refine (lookup_insert_ne hne).trans ?_
  rw [Lru.makeRoom_of_length_lt hroom]

lemma touched_of_lookup {s : SessionState} (hlookup : store.sessions.lookup key = some s)
    (htouched : s.lastTouchedUs = nowUs) : store.touched key nowUs = s := by
  subst htouched
  rw [touched, hlookup]
  rfl

end

/-! ## One message in its own session -/

section

variable {store}

lemma lookup_resolveMetric {ctx : MqttPublishContext} {topic : SparkplugTopic} {s : SessionState}
    (hlookup : store.sessions.lookup (sessionKey ctx topic) = some s)
    (htouched : s.lastTouchedUs = ctx.packetTsUs) (metric : Metric) :
    (resolveMetric store ctx topic metric).2.sessions.lookup (sessionKey ctx topic) =
      some (s.learn metric) := by
  unfold resolveMetric SessionState.learn
  cases metric.name with
  | none => cases metric.aliasId <;> exact hlookup
  | some name =>
    cases metric.aliasId with
    | none => exact hlookup
    | some aliasId =>
      have hsession :=
        (entry_session store _ _).trans (touched_of_lookup store _ _ hlookup htouched)
      rw [lookup_put_self, hsession]

lemma lookup_resolveMetric_of_ne {ctx : MqttPublishContext} {topic : SparkplugTopic}
    {s : SessionState} (hlookup : store.sessions.lookup (sessionKey ctx topic) = some s)
    (metric : Metric) {key : SessionKey} (hne : key ≠ sessionKey ctx topic) :
    (resolveMetric store ctx topic metric).2.sessions.lookup key = store.sessions.lookup key := by
  unfold resolveMetric
  cases metric.name with
  | none => cases metric.aliasId <;> rfl
  | some name =>
    cases metric.aliasId with
    | none => rfl
    | some aliasId => rw [lookup_put_of_ne _ _ _ hne, lookup_entry_of_ne store _ _ hlookup hne]

variable [External]

lemma lookup_emitMetrics {ctx : MqttPublishContext} {topic : SparkplugTopic} {s : SessionState}
    (payload : Payload) (hlookup : store.sessions.lookup (sessionKey ctx topic) = some s)
    (htouched : s.lastTouchedUs = ctx.packetTsUs) (metrics : List Metric) :
    (emitMetrics store ctx topic payload metrics).2.sessions.lookup (sessionKey ctx topic) =
      some (metrics.foldl SessionState.learn s) := by
  induction metrics generalizing store s with
  | nil => exact hlookup
  | cons metric metrics ih =>
    exact ih (lookup_resolveMetric hlookup htouched metric)
      ((s.learn_lastTouchedUs metric).trans htouched)

lemma lookup_emitMetrics_of_ne {ctx : MqttPublishContext} {topic : SparkplugTopic}
    {s : SessionState} (payload : Payload)
    (hlookup : store.sessions.lookup (sessionKey ctx topic) = some s)
    (htouched : s.lastTouchedUs = ctx.packetTsUs) (metrics : List Metric) {key : SessionKey}
    (hne : key ≠ sessionKey ctx topic) :
    (emitMetrics store ctx topic payload metrics).2.sessions.lookup key =
      store.sessions.lookup key := by
  induction metrics generalizing store s with
  | nil => rfl
  | cons metric metrics ih =>
    have hlearned := lookup_resolveMetric hlookup htouched metric
    exact (ih hlearned ((s.learn_lastTouchedUs metric).trans htouched)).trans
      (lookup_resolveMetric_of_ne hlookup metric hne)

end

section

variable [External] (store : SessionStore) (ctx : MqttPublishContext) (topic : SparkplugTopic)
  (payload : Payload)

lemma lookup_handleBirth : (handleBirth store ctx topic payload).2.sessions.lookup
    (sessionKey ctx topic) =
      some ((store.touched (sessionKey ctx topic) ctx.packetTsUs).after .nBirth payload) := by
  simp only [handleBirth, entry_session, SessionState.after]
  split
  · exact lookup_entry_self store _ _
  · have htouched : ((store.touched (sessionKey ctx topic) ctx.packetTsUs).born
        payload).lastTouchedUs = ctx.packetTsUs := SessionState.foldl_learn_lastTouchedUs _ _
    exact lookup_emitMetrics payload (lookup_put_self _ _ _) htouched _

lemma lookup_handleData : (handleData store ctx topic payload).2.sessions.lookup
    (sessionKey ctx topic) =
      some ((store.touched (sessionKey ctx topic) ctx.packetTsUs).after .nData payload) := by
  simp only [handleData, entry_session, SessionState.after]
  refine lookup_emitMetrics payload ?_ ?_ _
  · unfold SessionState.unresolvable
    split
    · exact lookup_put_self _ _ _
    · exact lookup_entry_self store _ _
  · split <;> rfl

lemma lookup_handleDeath : (handleDeath store ctx topic payload).2.sessions.lookup
    (sessionKey ctx topic) =
      some ((store.touched (sessionKey ctx topic) ctx.packetTsUs).after .nDeath payload) := by
  simp only [handleDeath, entry_session, SessionState.after]
  exact lookup_put_self _ _ _

def MessageType.ofSession : MessageType → Bool
  | .nBirth | .dBirth | .nData | .dData | .nDeath | .dDeath => true
  | .nCmd | .dCmd | .state => false

lemma lookup_handle_self (hsession : topic.messageType.ofSession = true) :
    (handle store ctx topic payload).2.sessions.lookup (sessionKey ctx topic) =
      some ((store.touched (sessionKey ctx topic) ctx.packetTsUs).after topic.messageType
        payload) := by
  unfold handle
  cases htype : topic.messageType <;> rw [htype] at hsession
  case nBirth | dBirth => exact lookup_handleBirth store ctx topic payload
  case nData | dData => exact lookup_handleData store ctx topic payload
  case nDeath | dDeath => exact lookup_handleDeath store ctx topic payload
  case nCmd | dCmd | state => cases hsession

lemma lookup_handle_of_ne (hsession : topic.messageType.ofSession = true) {key : SessionKey}
    (hne : key ≠ sessionKey ctx topic) :
    (handle store ctx topic payload).2.sessions.lookup key =
      (store.entry (sessionKey ctx topic) ctx.packetTsUs).2.sessions.lookup key := by
  unfold handle
  cases htype : topic.messageType <;> rw [htype] at hsession
  case nBirth | dBirth =>
    simp only [handleBirth, entry_session]
    split
    · rfl
    · have htouched : ((store.touched (sessionKey ctx topic) ctx.packetTsUs).born
          payload).lastTouchedUs = ctx.packetTsUs := SessionState.foldl_learn_lastTouchedUs _ _
      exact (lookup_emitMetrics_of_ne payload (lookup_put_self _ _ _) htouched _ hne).trans
        (lookup_put_of_ne _ _ _ hne)
  case nData | dData =>
    simp only [handleData, entry_session]
    split
    · exact (lookup_emitMetrics_of_ne payload (lookup_put_self _ _ _) rfl _ hne).trans
        (lookup_put_of_ne _ _ _ hne)
    · exact lookup_emitMetrics_of_ne payload (lookup_entry_self store _ _) rfl _ hne
  case nDeath | dDeath => exact lookup_put_of_ne _ _ _ hne
  case nCmd | dCmd | state => cases hsession

lemma handle_of_not_ofSession (hsession : topic.messageType.ofSession = false) :
    (handle store ctx topic payload).2 = store := by
  unfold handle
  cases htype : topic.messageType <;> rw [htype] at hsession
  case nCmd | dCmd | state => rfl
  case nBirth | dBirth | nData | dData | nDeath | dDeath => cases hsession

end

/-! ## The configuration -/

lemma resolveMetric_config (ctx : MqttPublishContext) (topic : SparkplugTopic) (metric : Metric) :
    (resolveMetric store ctx topic metric).2.config = store.config := by
  unfold resolveMetric
  cases metric.name <;> cases metric.aliasId <;> rfl

lemma emitMetrics_config (ctx : MqttPublishContext) (topic : SparkplugTopic) (payload : Payload)
    [External] (metrics : List Metric) :
    (emitMetrics store ctx topic payload metrics).2.config = store.config := by
  induction metrics generalizing store with
  | nil => rfl
  | cons metric metrics ih => exact (ih _).trans (resolveMetric_config store ctx topic metric)

lemma handle_config (ctx : MqttPublishContext) (topic : SparkplugTopic) (payload : Payload)
    [External] : (handle store ctx topic payload).2.config = store.config := by
  unfold handle
  cases topic.messageType
  case nBirth | dBirth =>
    simp only [handleBirth]
    split
    · rfl
    · exact emitMetrics_config _ ctx topic payload _
  case nData | dData =>
    refine (emitMetrics_config _ ctx topic payload _).trans ?_
    split <;> rfl
  case nDeath | dDeath | nCmd | dCmd | state => rfl

/-! ## The sweep -/

section

variable {store}

lemma countPublish_config (store : SessionStore) (nowUs : UInt64) :
    (store.countPublish nowUs).config = store.config := by
  unfold countPublish
  dsimp only
  split <;> rfl

lemma lookup_of_lookup_countPublish {key : SessionKey} {nowUs : UInt64} {s : SessionState} :
    (store.countPublish nowUs).sessions.lookup key = some s →
      store.sessions.lookup key = some s := by
  intro hlookup
  unfold countPublish at hlookup
  dsimp only at hlookup
  split at hlookup
  · exact (Table.lookup_retain_eq_some.1 hlookup).1
  · exact hlookup

lemma lookup_countPublish_of_not_stale {key : SessionKey} {nowUs : UInt64} {s : SessionState}
    (hlookup : store.sessions.lookup key = some s) (hfresh : store.stale nowUs s = false) :
    (store.countPublish nowUs).sessions.lookup key = some s := by
  have hage := Nat.not_le.1 (of_decide_eq_false hfresh)
  unfold countPublish
  dsimp only
  split
  · exact Table.lookup_retain_eq_some.2 ⟨hlookup, decide_eq_true hage⟩
  · exact hlookup

lemma length_countPublish_le (store : SessionStore) (nowUs : UInt64) :
    (store.countPublish nowUs).sessions.entries.length ≤ store.sessions.entries.length := by
  unfold countPublish
  dsimp only
  split
  · exact List.length_filter_le _ _
  · exact le_rfl

end

end Sparkplug
end MarlinspikeDpi.Mqtt
