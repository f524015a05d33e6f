import MarlinspikeDpi.Mqtt.Lifecycle

/-!
# Whether the aliases of a data message are said to be resolved, and whether they are

The state is computed before the metrics are reported, and the names among them are learned while
they are.

* `resolved_iff_named_iff`: when the stated resolution is right.
-/

namespace MarlinspikeDpi.Mqtt.Sparkplug

open List

/-! ## Metrics without a name -/

/-- The metric has an alias only, and the table does not know it. -/
def misses (table : UInt64 → Option String) (metric : Metric) : Bool :=
  metric.name.isNone && (metric.aliasId.map fun aliasId => (table aliasId).isNone).getD false

/-- Some alias is unknown even with the names of the metrics before it. -/
def leavesUnnamed (table : UInt64 → Option String) : List Metric → Bool
  | [] => false
  | metric :: metrics =>
    misses table metric || leavesUnnamed
      (fun aliasId => (binds aliasId metric).or (table aliasId)) metrics

lemma misses_of_learned {table : UInt64 → Option String} {metric other : Metric}
    (h : misses (fun aliasId => (binds aliasId metric).or (table aliasId)) other = true) :
    misses table other = true := by
  unfold misses at h ⊢
  cases haliased : other.aliasId with
  | none => simp [haliased] at h
  | some aliasId => simp_all

lemma any_misses_of_leavesUnnamed {table : UInt64 → Option String} {metrics : List Metric}
    (h : leavesUnnamed table metrics = true) : metrics.any (misses table) = true := by
  induction metrics generalizing table with
  | nil => cases h
  | cons metric metrics ih =>
    rw [any_cons, Bool.or_eq_true]
    rcases Bool.or_eq_true_iff.1 h with hfirst | hlater
    · exact .inl hfirst
    · obtain ⟨other, hother, hmisses⟩ := any_eq_true.1 (ih hlater)
      exact .inr (any_eq_true.2 ⟨other, hother, misses_of_learned hmisses⟩)

/-! ## Events -/

def aliasResolutionState (event : BronzeEvent) : Option String :=
  match event.family with
  | .protocolTransaction t => t.attributes.get "alias_resolution_state"
  | _ => none

/-- No reading with an alias and without a name. -/
def named (event : BronzeEvent) : Bool :=
  match event.family with
  | .processReading { pointId := .sparkplugMetric _ _ _ metricName _ aliasId, .. } =>
    aliasId.isNone || metricName.isSome
  | _ => true

section

variable [External]

lemma named_reading {store : SessionStore} {ctx : MqttPublishContext} {topic : SparkplugTopic}
    {s : SessionState} (payload : Payload)
    (hlookup : store.sessions.lookup (sessionKey ctx topic) = some s) (metric : Metric) :
    named (makeEvent ctx (.processReading (buildReading ctx topic payload metric
      (resolveMetric store ctx topic metric).1))) = !misses s.resolve metric := by
  unfold resolveMetric misses
  cases hname : metric.name <;> cases haliased : metric.aliasId <;>
    simp [named, makeEvent, newEvent, buildReading, haliased, hlookup]

lemma all_named_emitMetrics {store : SessionStore} {ctx : MqttPublishContext}
    {topic : SparkplugTopic} {s : SessionState} (payload : Payload)
    (hlookup : store.sessions.lookup (sessionKey ctx topic) = some s)
    (htouched : s.lastTouchedUs = ctx.packetTsUs) (metrics : List Metric) :
    (emitMetrics store ctx topic payload metrics).1.all named =
      !leavesUnnamed s.resolve metrics := by
  induction metrics generalizing store s with
  | nil => rfl
  | cons metric metrics ih =>
    have hlearned : (s.learn metric).resolve = fun aliasId => (binds aliasId metric).or
      (s.resolve aliasId) := funext (s.resolve_learn metric)
    have hlater := ih (lookup_resolveMetric hlookup htouched metric)
      ((s.learn_lastTouchedUs metric).trans htouched)
    rw [hlearned] at hlater
    rw [leavesUnnamed, Bool.not_or, ← hlater, ← named_reading payload hlookup metric]
    rfl

lemma aliasResolutionState_emitMetrics {store : SessionStore} {ctx : MqttPublishContext}
    {topic : SparkplugTopic} (payload : Payload) (metrics : List Metric) :
    (emitMetrics store ctx topic payload metrics).1.filterMap aliasResolutionState = [] := by
  induction metrics generalizing store with
  | nil => rfl
  | cons metric metrics ih => exact ih

end

section

variable [External]

lemma handleData_aliasResolutionState (store : SessionStore) (ctx : MqttPublishContext)
    (topic : SparkplugTopic) (payload : Payload) :
      (handleData store ctx topic payload).1.filterMap aliasResolutionState =
      [if payload.metrics.any (misses (store.resolve (sessionKey ctx topic)))
        then "unresolved_no_birth" else "resolved"] := by
  have hstate : ∀ state, aliasResolutionState
    (sessionTxEvent ctx topic payload none (metricCount payload) state) =
      some state := fun state => OrderedMap.get_insert_self ..
  have htable := funext (resolve_touched store (sessionKey ctx topic) ctx.packetTsUs)
  simp only [handleData, entry_session, filterMap_append, filterMap_cons, hstate,
    aliasResolutionState_emitMetrics]
  have hgap : ∀ fire : Bool,
      (if fire then [gapAnomalyEvent ctx topic] else []).filterMap aliasResolutionState = [] :=
    fun fire => by cases fire <;> rfl
  rw [hgap, ← htable]
  rfl

lemma handleData_all_named (store : SessionStore) (ctx : MqttPublishContext)
    (topic : SparkplugTopic) (payload : Payload) :
      (handleData store ctx topic payload).1.all named =
      !leavesUnnamed (store.resolve (sessionKey ctx topic)) payload.metrics := by
  have htable := funext (resolve_touched store (sessionKey ctx topic) ctx.packetTsUs)
  have hgap : ∀ fire : Bool, (if fire then [gapAnomalyEvent ctx topic] else []).all named = true :=
    fun fire => by cases fire <;> rfl
  simp only [handleData, entry_session, all_append, all_cons, hgap, Bool.true_and, ← htable]
  -- with or without the mark of the gap, the session has the same names
  split
  · exact all_named_emitMetrics payload (lookup_put_self _ _ _) rfl _
  · exact all_named_emitMetrics payload (lookup_entry_self _ _ _) rfl _

/-- The state is `resolved` exactly if every reading with an alias has a name, unless the names that
are missing all come earlier in the message itself. -/
theorem resolved_iff_named_iff (store : SessionStore) (ctx : MqttPublishContext)
    (topic : SparkplugTopic) (payload : Payload) :
    ((handleData store ctx topic payload).1.filterMap aliasResolutionState = ["resolved"] ↔
        (handleData store ctx topic payload).1.all named = true) ↔
      (payload.metrics.any (misses (store.resolve (sessionKey ctx topic))) = true →
        leavesUnnamed (store.resolve (sessionKey ctx topic)) payload.metrics = true) := by
  rw [handleData_aliasResolutionState, handleData_all_named]
  cases hmisses : payload.metrics.any (misses (store.resolve _)) with
  | true => cases leavesUnnamed (store.resolve _) _ <;> simp
  | false =>
    have hnone := Bool.eq_false_iff.2 fun hunnamed => by
        rw [any_misses_of_leavesUnnamed hunnamed] at hmisses
        cases hmisses
    simp [hnone]

end

def metricOf (name : Option String) (aliasId : Option UInt64) : Metric :=
  ⟨name, aliasId, none, none, none, none, none, none, none⟩

/-- A metric binds the alias of the next one: both readings are named, and the state is not
`resolved`. -/
theorem boundInMessage_unresolved :
    letI : External := External.sample
    let payload : Payload := ⟨none, [metricOf (some "a") (some 1), metricOf none (some 1)], none⟩
    let ctx := publishOf "spBv1.0/g/NDATA/e" [] 0
    let events := (handleData SessionStore.default ctx ⟨"g", .nData, "e", none⟩ payload).1
    events.filterMap aliasResolutionState = ["unresolved_no_birth"] ∧ events.all named = true := by
  let : External := External.sample
  exact ⟨handleData_aliasResolutionState .., (handleData_all_named ..).trans rfl⟩

end MarlinspikeDpi.Mqtt.Sparkplug
