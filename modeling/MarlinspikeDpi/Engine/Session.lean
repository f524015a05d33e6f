import MarlinspikeDpi.Engine.Streaming
import MarlinspikeDpi.Foundation.Lru
import MarlinspikeDpi.Registry

/-!
# The inline session

The inline session answers for each packet what its flow is.

* `tracked_mostRecent`: which flows the table holds.
* `unclassified_answers_iff`: the answers to a flow that is not classified.
* `answer_sticky`: an answer stays.
-/

namespace MarlinspikeDpi.Engine

open List AList Lru

/-! ## The session -/

structure FlowKey where
  (srcIp dstIp : IpAddr)
  (srcPort dstPort : UInt16)
  l4Proto : UInt8
deriving DecidableEq

structure FlowTag where
  protocol : String
deriving DecidableEq, Repr

inductive Classification where
  | needMore
  | classified (tag : FlowTag)
  | unknown
deriving DecidableEq, Repr

def Classification.isClassified : Classification → Bool
  | .classified _ => true
  | _ => false

structure DpiSessionConfig where
  maxClassifyAttempts : UInt32 := 16
  maxFlows : Nat := 65536

structure FlowState where
  attempts : UInt32
  classification : Option FlowTag
  lastSeen : UInt64
deriving DecidableEq

structure DpiSession where
  registry : DissectorRegistry
  flows : Table FlowKey FlowState
  config : DpiSessionConfig
  tick : UInt64

open DpiSession

namespace DpiSession

def withConfig (config : DpiSessionConfig) : DpiSession :=
  { registry := DissectorRegistry.withDefaults
    flows := ∅
    config
    tick := 0 }

variable (s : DpiSession)

def flowCount : Nat := s.flows.entries.length

/-- `attempts.saturating_add(1)`. -/
def saturatingSucc (attempts : UInt32) : UInt32 :=
  if attempts = 0xFFFFFFFF then attempts else attempts + 1

def stamp (state : FlowState) : Nat := state.lastSeen.toNat

variable (flow : FlowKey)

/-- Get the state of a flow or create it, evicting a flow when the table is full. -/
def touchFlow (tick : UInt64) : FlowState × DpiSession :=
  let flows := Lru.makeRoom stamp s.config.maxFlows s.flows flow
  let state := (flows.lookup flow).getD { attempts := 0, classification := none, lastSeen := tick }
  let state := { state with lastSeen := tick }
  (state, { s with flows := flows.insert flow state })

variable (state : FlowState)

def setFlow : DpiSession :=
  { s with flows := s.flows.insert flow state }

/-- Examine a packet of a flow: the answer and what becomes of the state of the flow. -/
def judge (ipPacket : List UInt8) : Classification × FlowState :=
  let attempts := saturatingSucc state.attempts
  match extractL4Payload ipPacket with
  | none =>
    -- the attempt is counted, but the limit is not looked at
    (.needMore, { state with attempts })
  | some (payload, srcPort, dstPort) =>
    match s.registry.classifyName payload srcPort dstPort with
    | some name => (.classified ⟨name⟩, { state with classification := some ⟨name⟩ })
    | none =>
      (if s.config.maxClassifyAttempts ≤ attempts then .unknown else .needMore,
        { state with attempts })

def examine (ipPacket : List UInt8) : Classification × DpiSession :=
  let touched := s.touchFlow flow s.tick
  let judged := s.judge touched.1 ipPacket
  (judged.1, touched.2.setFlow flow judged.2)

def feed (ipPacket : List UInt8) : Classification × DpiSession :=
  -- wraps at 2^64
  let s := { s with tick := s.tick + 1 }
  match s.flows.lookup flow with
  | none => s.examine flow ipPacket
  | some state =>
    let s := s.setFlow flow { state with lastSeen := s.tick }
    match state.classification with
    | some tag => (.classified tag, s)
    | none =>
      if s.config.maxClassifyAttempts ≤ state.attempts then (.unknown, s)
      else s.examine flow ipPacket

/-! ## What a call does -/

def freshFlow (tick : UInt64) : FlowState :=
  { attempts := 0, classification := none, lastSeen := tick }

def verdict (state? : Option FlowState) (tick : UInt64) (ipPacket : List UInt8) :
  Classification × FlowState := match state? with
  | none => s.judge (freshFlow tick) ipPacket
  | some state =>
    let state := { state with lastSeen := tick }
    match state.classification with
    | some tag => (.classified tag, state)
    | none =>
      if s.config.maxClassifyAttempts ≤ state.attempts then (.unknown, state)
      else s.judge state ipPacket

/-- The flow is classified, or the attempt is counted. -/
lemma judge_cases (ipPacket : List UInt8) :
    (∃ tag, s.judge state ipPacket = (.classified tag, { state with classification := some tag })) ∨
      s.judge state ipPacket = (if (extractL4Payload ipPacket).isSome ∧
            s.config.maxClassifyAttempts ≤ saturatingSucc state.attempts then .unknown
              else .needMore,
        { state with attempts := saturatingSucc state.attempts }) := by
  unfold judge
  cases extractL4Payload ipPacket with
  | none => exact .inr rfl
  | some l4 =>
    dsimp only
    cases s.registry.classifyName l4.1 l4.2.1 l4.2.2 with
    | some name => exact .inl ⟨⟨name⟩, rfl⟩
    | none => simp

lemma judge_lastSeen (ipPacket : List UInt8) :
    (s.judge state ipPacket).2.lastSeen = state.lastSeen := by
  rcases s.judge_cases state ipPacket with ⟨tag, hjudge⟩ | hjudge <;> rw [hjudge]

lemma verdict_lastSeen (state? : Option FlowState) (tick : UInt64)
    (ipPacket : List UInt8) : (s.verdict state? tick ipPacket).2.lastSeen = tick := by
  cases state? with
  | none => exact judge_lastSeen s _ ipPacket
  | some state =>
    simp only [verdict]
    split
    · rfl
    · split
      · rfl
      · exact judge_lastSeen s _ ipPacket

lemma examine_eq (ipPacket : List UInt8) :
    s.examine flow ipPacket = ((s.judge (s.touchFlow flow s.tick).1 ipPacket).1, { s with
          flows := (makeRoom stamp s.config.maxFlows s.flows flow).insert flow
            (s.judge (s.touchFlow flow s.tick).1 ipPacket).2 }) := by
  simp [examine, touchFlow, setFlow]

lemma feed_eq (ipPacket : List UInt8) :
    s.feed flow ipPacket = ((s.verdict (s.flows.lookup flow) (s.tick + 1) ipPacket).1, { s with
          tick := s.tick + 1
          flows := (makeRoom stamp s.config.maxFlows s.flows flow).insert flow
            (s.verdict (s.flows.lookup flow) (s.tick + 1) ipPacket).2 }) := by
  unfold feed
  cases hlookup : s.flows.lookup flow with
  | none =>
    have hfresh : ({ s with tick := s.tick + 1 }.touchFlow flow (s.tick + 1)).1 =
        freshFlow (s.tick + 1) := by
      simp only [touchFlow, lookup_makeRoom_eq_none hlookup]
      rfl
    dsimp only
    rw [hlookup]
    dsimp only
    rw [examine_eq, hfresh]
    rfl
  | some state =>
    have hmade : makeRoom stamp s.config.maxFlows s.flows flow = s.flows :=
      makeRoom_of_lookup_eq_some hlookup
    simp only [hlookup, hmade, verdict]
    cases state.classification with
    | some tag => rfl
    | none =>
      dsimp only
      by_cases hlimit : s.config.maxClassifyAttempts ≤ state.attempts
      · simp [setFlow, hlimit]
      · -- the flow is in the table when the slow path asks for it
        simp only [setFlow, hlimit, if_false, examine_eq, touchFlow]
        rw [makeRoom_of_lookup_eq_some (lookup_insert _)]
        simp only [insert_insert, lookup_insert, Option.getD_some]
        rfl

/-! ## Which flows are tracked -/

abbrev FeedCall : Type := FlowKey × List UInt8

def feedAll (s : DpiSession) (calls : List FeedCall) : DpiSession :=
  calls.foldl (fun s call => (s.feed call.1 call.2).2) s

lemma feedAll_concat (calls : List FeedCall) (call : FeedCall) :
    s.feedAll (calls ++ [call]) = ((s.feedAll calls).feed call.1 call.2).2 := by
  simp [feedAll]

lemma feedAll_append (before after : List FeedCall) :
  s.feedAll (before ++ after) = (s.feedAll before).feedAll after := foldl_append

@[simp] lemma feed_config (ipPacket : List UInt8) : (s.feed flow ipPacket).2.config = s.config := by
  rw [feed_eq]

@[simp] lemma feed_tick (ipPacket : List UInt8) : (s.feed flow ipPacket).2.tick = s.tick + 1 := by
  rw [feed_eq]

lemma feed_fst (ipPacket : List UInt8) :
    (s.feed flow ipPacket).1 = (s.verdict (s.flows.lookup flow) (s.tick + 1) ipPacket).1 := by
  rw [feed_eq]

lemma feed_flows (ipPacket : List UInt8) :
    (s.feed flow ipPacket).2.flows = (makeRoom stamp s.config.maxFlows s.flows flow).insert flow
        (s.verdict (s.flows.lookup flow) (s.tick + 1) ipPacket).2 := by
  rw [feed_eq]

@[simp] lemma feedAll_config (calls : List FeedCall) : (s.feedAll calls).config = s.config := by
  induction calls using reverseRecOn with
  | nil => rfl
  | append_singleton calls call ih => rw [feedAll_concat, feed_config, ih]

/-- The table after a history of fed flows, as long as the tick has not wrapped. -/
structure Tracks (s : DpiSession) (history : List FlowKey) : Prop where
  ordered : Lru.Ordered stamp s.flows (Lru.mostRecent s.config.maxFlows history)
  lastSeen_le : ∀ flow state, s.flows.lookup flow = some state → stamp state ≤ s.tick.toNat
  tick_eq : s.tick.toNat = history.length

lemma Tracks.withConfig (config : DpiSessionConfig) : Tracks (withConfig config) [] where
  ordered := by
    have hempty : mostRecent config.maxFlows ([] : List FlowKey) = [] := by simp [mostRecent]
    simp only [DpiSession.withConfig]
    rw [hempty]
    exact Lru.Ordered.empty
  lastSeen_le := by simp [DpiSession.withConfig]
  tick_eq := rfl

lemma Tracks.feed {s : DpiSession} {history : List FlowKey} (h : Tracks s history)
    (hflows : 0 < s.config.maxFlows) (hcalls : history.length + 1 < 2 ^ 64) (flow : FlowKey)
    (ipPacket : List UInt8) : Tracks (s.feed flow ipPacket).2 (history ++ [flow]) := by
  have htick : (s.tick + 1).toNat = s.tick.toNat + 1 := by simpa [h.tick_eq] using hcalls
  have hstamp : stamp (s.verdict (s.flows.lookup flow) (s.tick + 1) ipPacket).2 =
      s.tick.toNat + 1 := by
    rw [stamp, verdict_lastSeen, htick]
  have hfits : (mostRecent s.config.maxFlows history).length ≤ s.config.maxFlows :=
    length_take_le _ _
  refine ⟨?_, ?_, ?_⟩
  · rw [feed_flows, feed_config, mostRecent_concat]
    refine h.ordered.insert_makeRoom hflows hfits ?_
    intro flow' state' hstate'
    rw [hstamp]
    exact Nat.lt_succ_of_le (h.lastSeen_le flow' state' hstate')
  · intro flow' state' hstate'
    rw [feed_flows] at hstate'
    rw [feed_tick, htick]
    rcases Table.lookup_insert_eq_some.1 hstate' with ⟨-, rfl⟩ | ⟨-, hbefore⟩
    · rw [hstamp]
    · exact Nat.le_succ_of_le (h.lastSeen_le flow' state' (lookup_makeRoom_of_some hbefore))
  · rw [feed_tick, htick, h.tick_eq]
    simp

variable {config : DpiSessionConfig}

lemma tracks_feedAll (hflows : 0 < config.maxFlows) {calls : List FeedCall}
    (hcalls : calls.length < 2 ^ 64) :
    Tracks ((withConfig config).feedAll calls) (calls.map Prod.fst) := by
  induction calls using reverseRecOn with
  | nil => exact Tracks.withConfig config
  | append_singleton calls call ih =>
    rw [length_append] at hcalls
    have hbefore := ih (Nat.lt_of_succ_lt hcalls)
    rw [feedAll_concat, map_append]
    refine hbefore.feed ?_ ?_ call.1 call.2
    · rw [feedAll_config]
      exact hflows
    · rwa [length_map]

/-! ## What is kept about a tracked flow -/

/-- From `old` to `new` nothing that was known about the flow is lost. -/
structure Retains (old new : FlowState) : Prop where
  attempts_le : old.attempts ≤ new.attempts
  classification_eq : ∀ tag, old.classification = some tag → new.classification = some tag

lemma saturatingSucc_toNat (attempts : UInt32) :
    (saturatingSucc attempts).toNat = min (attempts.toNat + 1) (2 ^ 32 - 1) := by
  have hlt := attempts.toNat_lt
  unfold saturatingSucc
  split
  · rename_i hmax
    subst hmax
    rfl
  · rename_i hmax
    have hne : attempts.toNat ≠ 2 ^ 32 - 1 := by
      intro heq
      exact hmax (UInt32.toNat_inj.1 heq)
    rw [UInt32.toNat_add]
    simp only [UInt32.reduceToNat]
    omega

lemma Retains.refl (state : FlowState) : Retains state state where
  attempts_le := UInt32.le_refl _
  classification_eq := fun _ h => h

lemma Retains.trans {a b c : FlowState} (hab : Retains a b) (hbc : Retains b c) : Retains a c where
  attempts_le := UInt32.le_trans hab.attempts_le hbc.attempts_le
  classification_eq := fun tag h => hbc.classification_eq tag (hab.classification_eq tag h)

variable {state : FlowState}

lemma retains_judge (h : state.classification = none)
    (ipPacket : List UInt8) : Retains state (s.judge state ipPacket).2 := by
  have hsucc : state.attempts ≤ saturatingSucc state.attempts := by
    have hlt := state.attempts.toNat_lt
    rw [UInt32.le_iff_toNat_le, saturatingSucc_toNat]
    omega
  rcases s.judge_cases state ipPacket with ⟨tag, hjudge⟩ | hjudge <;> rw [hjudge]
  · exact ⟨UInt32.le_refl _, by simp [h]⟩
  · exact ⟨hsucc, fun tag htag => htag⟩

lemma retains_verdict (state : FlowState) (tick : UInt64)
    (ipPacket : List UInt8) : Retains state (s.verdict (some state) tick ipPacket).2 := by
  simp only [verdict]
  cases hclass : state.classification with
  | some tag => exact ⟨UInt32.le_refl _, fun tag' htag' => by rw [← htag', hclass]⟩
  | none =>
    dsimp only
    split
    · exact ⟨UInt32.le_refl _, fun tag htag => by rw [← htag, hclass]⟩
    · have hjudge : Retains ⟨state.attempts, none, tick⟩
          (s.judge ⟨state.attempts, none, tick⟩ ipPacket).2 := s.retains_judge rfl ipPacket
      exact ⟨hjudge.attempts_le, fun tag htag => by rw [hclass] at htag; cases htag⟩

section

variable {P : FlowState → Prop} {config : DpiSessionConfig}
  (hverdict : ∀ (s : DpiSession) state tick packet, s.config = config → P state →
    P (s.verdict (some state) tick packet).2)

include hverdict

lemma kept_feed (hconfig : s.config = config) (call : FeedCall) {flow : FlowKey}
    (hbefore : s.flows.lookup flow = some state)
    (hP : P state) (hafter : flow ∈ (s.feed call.1 call.2).2.flows) :
    ∃ state', (s.feed call.1 call.2).2.flows.lookup flow = some state' ∧ P state' := by
  rw [feed_flows] at hafter ⊢
  by_cases hflow : flow = call.1
  · subst hflow
    refine ⟨_, lookup_insert _, ?_⟩
    rw [hbefore]
    exact hverdict s state _ call.2 hconfig hP
  · -- the call was about another flow, which could only have evicted this one
    rw [mem_insert] at hafter
    rcases hafter with heq | hmade
    · exact absurd heq hflow
    · refine ⟨state, ?_, hP⟩
      rw [lookup_insert_ne hflow, lookup_makeRoom_of_mem hmade, hbefore]

/-- What no call on a flow changes of its state holds as long as the flow stays in the table. -/
theorem kept_feedAll (hconfig : s.config = config) (calls : List FeedCall) {flow : FlowKey}
    (hbefore : s.flows.lookup flow = some state) (hP : P state)
    (htracked : ∀ fed, fed <+: calls → flow ∈ (s.feedAll fed).flows) :
    ∃ state', (s.feedAll calls).flows.lookup flow = some state' ∧ P state' := by
  induction calls using reverseRecOn with
  | nil => exact ⟨state, hbefore, hP⟩
  | append_singleton calls call ih =>
    rcases ih (fun fed hfed => htracked fed (hfed.trans (prefix_append _ _))) with
      ⟨middle, hmiddle, hkept⟩
    have hafter := htracked _ prefix_rfl
    rw [feedAll_concat] at hafter ⊢
    exact kept_feed _ hverdict (by rw [feedAll_config, hconfig]) call hmiddle hkept hafter

end

lemma retains_feedAll (calls : List FeedCall) {flow : FlowKey}
    (hbefore : s.flows.lookup flow = some state)
    (htracked : ∀ fed, fed <+: calls → flow ∈ (s.feedAll fed).flows) :
    ∃ state', (s.feedAll calls).flows.lookup flow = some state' ∧ Retains state state' :=
  kept_feedAll s (fun s state' tick packet _ hkept =>
    hkept.trans (s.retains_verdict state' tick packet)) rfl calls
    hbefore (Retains.refl state) htracked

/-- After every sequence of calls the table holds exactly the most recently fed distinct flows, at
most `maxFlows` of them, and what is known about a flow is kept as long as it stays one of them. -/
theorem tracked_mostRecent (config : DpiSessionConfig) (hflows : 0 < config.maxFlows)
    (calls : List FeedCall) (hcalls : calls.length < 2 ^ 64) :
    (∀ flow, flow ∈ ((withConfig config).feedAll calls).flows ↔
      flow ∈ Lru.mostRecent config.maxFlows (calls.map Prod.fst)) ∧
    ((withConfig config).feedAll calls).flowCount ≤ config.maxFlows ∧
    ∀ before after, calls = before ++ after → ∀ flow state,
      ((withConfig config).feedAll before).flows.lookup flow = some state →
      (∀ fed, fed <+: after →
        flow ∈ Lru.mostRecent config.maxFlows ((before ++ fed).map Prod.fst)) →
      ∃ state', ((withConfig config).feedAll calls).flows.lookup flow = some state' ∧
        Retains state state' := by
  have hmem : ∀ fed : List FeedCall, fed.length < 2 ^ 64 → ∀ flow,
      flow ∈ ((withConfig config).feedAll fed).flows ↔
        flow ∈ mostRecent config.maxFlows (fed.map Prod.fst) := by
    intro fed hfed flow
    have hordered := (tracks_feedAll hflows hfed).ordered
    rw [feedAll_config] at hordered
    exact (hordered.mem_iff flow).symm
  refine ⟨hmem calls hcalls, ?_, ?_⟩
  · have hordered := (tracks_feedAll hflows hcalls).ordered
    rw [feedAll_config] at hordered
    rw [flowCount, hordered.length_eq]
    exact length_take_le _ _
  · rintro before after rfl flow state hstate hrecent
    rw [feedAll_append]
    refine retains_feedAll _ after hstate ?_
    intro fed hfed
    rw [← feedAll_append, hmem]
    · exact hrecent fed hfed
    · have hle := hfed.length_le
      simp only [length_append] at hcalls ⊢
      omega

def flowFrom (srcPort : UInt16) : FlowKey :=
  { srcIp := .v4 ⟨10, 0, 0, 1⟩, dstIp := .v4 ⟨10, 0, 0, 2⟩, srcPort, dstPort := 502, l4Proto := 6 }

/-- Calls on flows with the given source ports; the packets cannot be parsed. -/
def unparsedCalls (ports : List UInt16) : List FeedCall := ports.map fun port => (flowFrom port, [])

/-- With room for two flows, feeding a third one drops the one that was fed least recently. -/
theorem third_flow_tracked :
    (∀ flow, flow ∈ ((withConfig { maxFlows := 2 }).feedAll (unparsedCalls [1, 2, 1, 3])).flows ↔
      flow ∈ Lru.mostRecent 2 ((unparsedCalls [1, 2, 1, 3]).map Prod.fst)) ∧
    ((withConfig { maxFlows := 2 }).feedAll (unparsedCalls [1, 2, 1, 3])).flowCount ≤ 2 :=
  have h := tracked_mostRecent { maxFlows := 2 } (by decide) (unparsedCalls [1, 2, 1, 3])
    (by decide)
  ⟨h.1, h.2.1⟩

/-! ## How often a flow is answered with `needMore` -/

structure Fed where
  packet : List UInt8
  answer : Classification
deriving DecidableEq

/-- Take down a call if it is about the flow; one that finds the flow untracked starts anew. -/
def record (flow : FlowKey) (s : DpiSession) (fed : List Fed) (call : FeedCall) : List Fed :=
  if call.1 = flow then
    (if (s.flows.lookup flow).isNone then [] else fed) ++ [⟨call.2, (s.feed call.1 call.2).1⟩]
  else
    fed

/-- The calls on a flow since it was last inserted into the table, that one included. -/
def sinceInsertion (flow : FlowKey) (s : DpiSession) (calls : List FeedCall) : List Fed :=
  (calls.foldl (fun (sf : DpiSession × List Fed) call =>
    ((sf.1.feed call.1 call.2).2, record flow sf.1 sf.2 call)) (s, [])).2

lemma foldl_record_fst (s : DpiSession) (fed : List Fed) (calls : List FeedCall) :
    (calls.foldl (fun (sf : DpiSession × List Fed) call =>
      ((sf.1.feed call.1 call.2).2, record flow sf.1 sf.2 call)) (s, fed)).1 = s.feedAll calls := by
  induction calls using reverseRecOn with
  | nil => rfl
  | append_singleton calls call ih => simp [feedAll_concat, ih]

lemma sinceInsertion_concat (s : DpiSession) (calls : List FeedCall) (call : FeedCall) :
    sinceInsertion flow s (calls ++ [call]) = record flow (s.feedAll calls)
      (sinceInsertion flow s calls) call := by
  rw [← foldl_record_fst flow s [] calls]
  simp [sinceInsertion]

/-- None of the calls was answered with a protocol. -/
def NeverClassified (fed : List Fed) : Prop := ∀ e ∈ fed, e.answer.isClassified = false

instance (fed : List Fed) : Decidable (NeverClassified fed) :=
  inferInstanceAs (Decidable (∀ e ∈ fed, e.answer.isClassified = false))

lemma NeverClassified.of_append {fed : List Fed} {fed' : List Fed}
    (h : NeverClassified (fed ++ fed')) : NeverClassified fed :=
  fun e he => h e (mem_append_left _ he)

/-- The answer to a packet after `n` vain ones: `unknown` from the limit on, except that a packet
that cannot be parsed is answered `needMore` when it reaches the limit. -/
def answerAfter (limit n : Nat) (packet : List UInt8) : Classification :=
  if n + 1 < limit ∨ (n + 1 = limit ∧ extractL4Payload packet = none) then .needMore else .unknown

lemma judge_spec (s : DpiSession) {n : Nat} (packet : List UInt8)
    (hclass : state.classification = none) (hattempts : state.attempts.toNat = n)
    (hlimit : n < s.config.maxClassifyAttempts.toNat) :
    (∃ tag, (s.judge state packet).1 = .classified tag) ∨
      ((s.judge state packet).1 = answerAfter s.config.maxClassifyAttempts.toNat n packet ∧
        (s.judge state packet).2.classification = none ∧
        (s.judge state packet).2.attempts.toNat = n + 1) := by
  have hmax := s.config.maxClassifyAttempts.toNat_lt
  have hsucc : (saturatingSucc state.attempts).toNat = n + 1 := by
    rw [saturatingSucc_toNat]
    omega
  rcases s.judge_cases state packet with ⟨tag, hjudge⟩ | hjudge <;> rw [hjudge]
  · exact Or.inl ⟨tag, rfl⟩
  · refine Or.inr ⟨?_, hclass, hsucc⟩
    simp only [UInt32.le_iff_toNat_le, hsucc, answerAfter]
    cases extractL4Payload packet <;> grind

lemma verdict_spec (s : DpiSession) (state? : Option FlowState) (n : Nat) (tick : UInt64)
    (packet : List UInt8) (hpos : 0 < s.config.maxClassifyAttempts.toNat)
    (hfresh : state? = none → n = 0)
    (hstate : ∀ state, state? = some state → state.classification = none ∧
      state.attempts.toNat = min n s.config.maxClassifyAttempts.toNat) :
    (∃ tag, (s.verdict state? tick packet).1 = .classified tag) ∨
      ((s.verdict state? tick packet).1 =
          answerAfter s.config.maxClassifyAttempts.toNat n packet ∧
        (s.verdict state? tick packet).2.classification = none ∧
        (s.verdict state? tick packet).2.attempts.toNat =
          min (n + 1) s.config.maxClassifyAttempts.toNat) := by
  cases state? with
  | none =>
    obtain rfl := hfresh rfl
    have hmin : min (0 + 1) s.config.maxClassifyAttempts.toNat = 0 + 1 := by omega
    rw [hmin]
    exact s.judge_spec packet rfl rfl hpos
  | some state =>
    rcases hstate state rfl with ⟨hclass, hattempts⟩
    simp only [verdict, hclass]
    by_cases hlimit : s.config.maxClassifyAttempts ≤ state.attempts
    · -- the limit was reached before
      have hle : s.config.maxClassifyAttempts.toNat ≤ n := by
        rw [UInt32.le_iff_toNat_le, hattempts] at hlimit
        omega
      rw [if_pos hlimit]
      refine Or.inr ⟨?_, rfl, ?_⟩
      · rw [answerAfter, if_neg (by omega)]
      · dsimp only
        omega
    · have hlt : n < s.config.maxClassifyAttempts.toNat := by
        rw [UInt32.le_iff_toNat_le, hattempts] at hlimit
        omega
      have hmin : min (n + 1) s.config.maxClassifyAttempts.toNat = n + 1 := by omega
      rw [if_neg hlimit, hmin]
      refine s.judge_spec packet rfl ?_ hlt
      dsimp only
      omega

/-- What holds of the calls on a flow since its insertion, and of its state while it is tracked. -/
structure Budget (s : DpiSession) (flow : FlowKey) (fed : List Fed) : Prop where
  answers : NeverClassified fed → ∀ i e, fed[i]? = some e →
    e.answer = answerAfter s.config.maxClassifyAttempts.toNat i e.packet
  state : ∀ state, s.flows.lookup flow = some state → NeverClassified fed →
    state.classification = none ∧ state.attempts.toNat =
      min fed.length s.config.maxClassifyAttempts.toNat

lemma Budget.untracked {s : DpiSession} {flow : FlowKey} (h : s.flows.lookup flow = none) :
    Budget s flow [] where
  answers := by simp
  state := by simp [h]

lemma Budget.feed_self {fed : List Fed} {s : DpiSession} {flow : FlowKey} (h : Budget s flow fed)
    (hpos : 0 < s.config.maxClassifyAttempts.toNat)
    (hfresh : s.flows.lookup flow = none → fed = []) (packet : List UInt8) :
    Budget (s.feed flow packet).2 flow (fed ++ [⟨packet, (s.feed flow packet).1⟩]) := by
  have hspec : NeverClassified (fed ++ [⟨packet, (s.feed flow packet).1⟩]) →
      (s.feed flow packet).1 = answerAfter s.config.maxClassifyAttempts.toNat fed.length packet ∧
        (s.verdict (s.flows.lookup flow) (s.tick + 1) packet).2.classification = none ∧
        (s.verdict (s.flows.lookup flow) (s.tick + 1) packet).2.attempts.toNat =
          min (fed.length + 1) s.config.maxClassifyAttempts.toNat := by
    intro hnever
    have hverdict := s.verdict_spec _ _ (s.tick + 1) packet hpos (fun hnone => by
      rw [hfresh hnone]; rfl) (fun state hstate => h.state state hstate hnever.of_append)
    rw [feed_fst] at hnever ⊢
    rcases hverdict with ⟨tag, hclassified⟩ | hvain
    · have hnot := hnever ⟨packet, _⟩ (mem_append_right _ (mem_singleton_self _))
      rw [hclassified] at hnot
      cases hnot
    · exact hvain
  constructor
  · intro hnever i e he
    rw [feed_config]
    rcases Nat.lt_trichotomy i _ with hold | hlast | hbeyond
    · rw [getElem?_append_left hold] at he
      exact h.answers hnever.of_append i e he
    · subst hlast
      obtain rfl : ⟨packet, (s.feed flow packet).1⟩ = e := by simpa using he
      exact (hspec hnever).1
    · rw [getElem?_eq_none (by simp; omega)] at he
      cases he
  · intro state hstate hnever
    rw [feed_flows, lookup_insert, Option.some.injEq] at hstate
    subst hstate
    rw [feed_config, length_append]
    exact (hspec hnever).2

lemma Budget.feed_other {fed : List Fed} {s : DpiSession} {flow : FlowKey} (h : Budget s flow fed)
    {call : FeedCall} (hflow : call.1 ≠ flow) : Budget (s.feed call.1 call.2).2 flow fed where
  answers := by
    rw [feed_config]
    exact h.answers
  state := by
    intro state hstate
    rw [feed_flows, lookup_insert_ne hflow.symm] at hstate
    rw [feed_config]
    exact h.state state (lookup_makeRoom_of_some hstate)

lemma Budget.record {fed : List Fed} {s : DpiSession} {flow : FlowKey} (h : Budget s flow fed)
    (hpos : 0 < s.config.maxClassifyAttempts.toNat) (call : FeedCall) :
    Budget (s.feed call.1 call.2).2 flow (record flow s fed call) := by
  unfold DpiSession.record
  split
  · rename_i hflow
    subst hflow
    cases hlookup : s.flows.lookup call.1 with
    | none => exact (Budget.untracked hlookup).feed_self hpos (fun _ => rfl) call.2
    | some state =>
      refine h.feed_self hpos ?_ call.2
      intro hnone
      rw [hnone] at hlookup
      cases hlookup
  · rename_i hflow
    exact h.feed_other hflow

lemma budget_sinceInsertion (config : DpiSessionConfig)
    (hattempts : 0 < config.maxClassifyAttempts) (calls : List FeedCall) (flow : FlowKey) :
    Budget ((withConfig config).feedAll calls) flow
      (sinceInsertion flow (withConfig config) calls) := by
  induction calls using reverseRecOn with
  | nil => exact Budget.untracked (by simp [feedAll, withConfig])
  | append_singleton calls call ih =>
    rw [feedAll_concat, sinceInsertion_concat]
    refine ih.record ?_ call
    rw [feedAll_config]
    exact hattempts

/-- A flow that has not been classified since it was inserted is answered `needMore` for exactly the
calls before the `maxClassifyAttempts`-th one and `unknown` from then on, if and only if the packet
of that call can be parsed. -/
theorem unclassified_answers_iff (config : DpiSessionConfig)
    (hattempts : 0 < config.maxClassifyAttempts) (calls : List FeedCall) (flow : FlowKey)
    (hnever : NeverClassified (sinceInsertion flow (withConfig config) calls)) :
    (∀ i e, (sinceInsertion flow (withConfig config) calls)[i]? = some e →
      e.answer = if i + 1 < config.maxClassifyAttempts.toNat then .needMore else .unknown) ↔
    ∀ e, (sinceInsertion flow (withConfig config) calls)[config.maxClassifyAttempts.toNat - 1]? =
      some e → extractL4Payload e.packet ≠ none := by
  have hpos : 0 < config.maxClassifyAttempts.toNat := hattempts
  have hanswers := (budget_sinceInsertion config hattempts calls flow).answers hnever
  rw [feedAll_config] at hanswers
  simp only [withConfig] at hanswers
  constructor
  · intro hclaim e he hunparsed
    have hunknown := hclaim _ e he
    rw [hanswers _ e he, answerAfter, if_pos (Or.inr ⟨by omega, hunparsed⟩),
      if_neg (by omega)] at hunknown
    cases hunknown
  · intro hparsed i e he
    rw [hanswers i e he, answerAfter]
    by_cases hbefore : i + 1 < config.maxClassifyAttempts.toNat
    · rw [if_pos (Or.inl hbefore), if_pos hbefore]
    · have hother : ¬ (i + 1 = config.maxClassifyAttempts.toNat ∧
          extractL4Payload e.packet = none) := by
        rintro ⟨hlast, hunparsed⟩
        obtain rfl : i = config.maxClassifyAttempts.toNat - 1 := by omega
        exact hparsed e he hunparsed
      rw [if_neg (by simp only [hbefore, hother, or_self, not_false_iff]), if_neg hbefore]

/-- With a limit of one, the first packet of a flow should exhaust it, but a packet that cannot be
parsed is answered `needMore`. -/
theorem unparsed_packet_needMore :
    sinceInsertion (flowFrom 1) (withConfig { maxClassifyAttempts := 1 }) (unparsedCalls [1]) =
      [⟨[], .needMore⟩] := by
  decide

def emptyDatagram : List UInt8 :=
  [0x45, 0, 0, 28, 0, 0, 0, 0, 64, 17, 0, 0, 10, 0, 0, 1, 10, 0, 0, 2] ++
    [0xC0, 0, 0xC0, 1, 0, 8, 0, 0]

def parsedLater : List FeedCall :=
  [(flowFrom 1, []), (flowFrom 1, emptyDatagram), (flowFrom 1, emptyDatagram)]

/-- With a limit of two, the second call is answered `unknown`. -/
theorem parsed_packets_unknown :
    NeverClassified
        (sinceInsertion (flowFrom 1) (withConfig { maxClassifyAttempts := 2 }) parsedLater) ∧
      ∀ i e, (sinceInsertion (flowFrom 1) (withConfig { maxClassifyAttempts := 2 })
          parsedLater)[i]? = some e →
        e.answer = if i + 1 < 2 then .needMore else .unknown := by
  refine ⟨by decide, ?_⟩
  refine (unclassified_answers_iff { maxClassifyAttempts := 2 } (by decide) parsedLater (flowFrom 1)
    (by decide)).2 ?_
  intro e he
  obtain rfl : ⟨emptyDatagram, .unknown⟩ = e := Option.some.inj he
  decide

/-! ## Answers that stay -/

/-- The state of a flow whose answer no longer depends on the packet. -/
def Settled (config : DpiSessionConfig) (answer : Classification) (state : FlowState) : Prop :=
  match answer with
  | .classified tag => state.classification = some tag
  | .unknown => state.classification = none ∧ config.maxClassifyAttempts ≤ state.attempts
  | .needMore => False

lemma Settled.verdict (s : DpiSession) {answer : Classification} (h : Settled config answer state)
    (hconfig : s.config = config) (tick : UInt64) (packet : List UInt8) :
    (s.verdict (some state) tick packet).1 = answer ∧
      Settled config answer (s.verdict (some state) tick packet).2 := by
  subst hconfig
  cases answer with
  | needMore => exact h.elim
  | classified tag =>
    have hclass : state.classification = some tag := h
    simp [verdict, Settled, hclass]
  | unknown => simp [verdict, Settled, h.1, h.2]

lemma settled_judge (s : DpiSession) (state : FlowState) (packet : List UInt8)
    (hclass : state.classification = none) :
    (s.judge state packet).1 = .needMore ∨
      Settled s.config (s.judge state packet).1 (s.judge state packet).2 := by
  rcases s.judge_cases state packet with ⟨tag, hjudge⟩ | hjudge <;> rw [hjudge]
  · exact .inr rfl
  · split
    · rename_i hlimit
      exact .inr ⟨hclass, hlimit.2⟩
    · exact .inl rfl

lemma settled_verdict (s : DpiSession) (state? : Option FlowState) (tick : UInt64)
    (packet : List UInt8) : (s.verdict state? tick packet).1 = .needMore ∨
      Settled s.config (s.verdict state? tick packet).1 (s.verdict state? tick packet).2 := by
  cases state? with
  | none => exact s.settled_judge _ packet rfl
  | some state =>
    simp only [verdict]
    cases hclass : state.classification with
    | some tag => exact .inr rfl
    | none =>
      by_cases hlimit : s.config.maxClassifyAttempts ≤ state.attempts
      · refine .inr ?_
        simp only [hlimit, if_true]
        exact ⟨rfl, hlimit⟩
      · simp only [hlimit, if_false]
        exact s.settled_judge _ packet rfl

/-- Whatever the calls before and the packets: once a flow is answered anything but `needMore`, it
is given the same answer as long as it stays in the table. -/
theorem answer_sticky (config : DpiSessionConfig) (before after : List FeedCall) (flow : FlowKey)
    (packet later : List UInt8)
    (htracked : ∀ fed, fed <+: after →
      flow ∈ ((withConfig config).feedAll (before ++ (flow, packet) :: fed)).flows)
    (hanswer : (((withConfig config).feedAll before).feed flow packet).1 ≠ .needMore) :
    (((withConfig config).feedAll (before ++ (flow, packet) :: after)).feed flow later).1 =
      (((withConfig config).feedAll before).feed flow packet).1 := by
  let s := (withConfig config).feedAll before
  have hconfig : s.config = config := feedAll_config ..
  have hfed : ∀ fed, (withConfig config).feedAll (before ++ (flow, packet) :: fed) =
      (s.feed flow packet).2.feedAll fed := by
    intro fed
    rw [feedAll_append]
    rfl
  have hsettled : Settled config (s.feed flow packet).1
      (s.verdict (s.flows.lookup flow) (s.tick + 1) packet).2 := by
    rw [feed_fst, ← hconfig]
    exact (s.settled_verdict _ _ packet).resolve_left (by rwa [← feed_fst])
  have hafter : (s.feed flow packet).2.config = config := by rw [feed_config, hconfig]
  obtain ⟨state, hstate, hkept⟩ :=
    kept_feedAll (s.feed flow packet).2 (P := Settled config (s.feed flow packet).1)
    (fun s _ tick packet hconfig h => (Settled.verdict s h hconfig tick packet).2) hafter after
    (by rw [feed_flows, lookup_insert]) hsettled (fun fed h => hfed fed ▸ htracked fed h)
  rw [hfed, feed_fst, hstate]
  exact (Settled.verdict _ hkept ((feedAll_config _ after).trans hafter) _ later).1

/-- With a limit of one: the flow is answered `unknown` again after a call on another flow. -/
theorem exhaustedFlow_sticky :
    (((withConfig { maxClassifyAttempts := 1 }).feedAll
      [(flowFrom 1, emptyDatagram), (flowFrom 2, [])]).feed (flowFrom 1) []).1 = .unknown := by
  refine answer_sticky { maxClassifyAttempts := 1 } [] [(flowFrom 2, [])] (flowFrom 1) emptyDatagram
    [] ?_ (by decide)
  intro fed hfed
  have htracked : ∀ fed ∈ inits [(flowFrom 2, [])], flowFrom 1 ∈
      ((withConfig { maxClassifyAttempts := 1 }).feedAll
        ((flowFrom 1, emptyDatagram) :: fed)).flows := by decide
  exact htracked fed ((mem_inits _ _).2 hfed)

end DpiSession
end MarlinspikeDpi.Engine
