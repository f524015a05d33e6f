import MarlinspikeDpi.Bilgepump.Monitor
import MarlinspikeDpi.Foundation.LastWrite

/-!
# What is left in the tables of the layer-2 monitor after an eviction

Each observation is about some entries of the detectors' tables (`isAbout`) and sets their time
(`stamp_observe`), so after any observations an entry carries the time of the last one about it
(`stamp_observeAll`).

* `nothingOutlived_iff`: what an eviction should have removed and does not.
-/

namespace MarlinspikeDpi.Bilgepump

open BilgepumpMonitor List Option

/-! ## Observations -/

inductive Message where
  | arp (fields : ArpFields) (srcMac : MacAddr) (vlanId : Option UInt16)
  | stp (fields : StpFields)
  | dhcp (fields : DhcpFields) (srcMac : MacAddr)
  | lldp (fields : LldpFields) (srcMac : MacAddr)
  | cdp (fields : CdpFields) (srcMac : MacAddr)

structure Observation where
  message : Message
  now : DateTime

namespace BilgepumpMonitor

def observe (m : BilgepumpMonitor) (o : Observation) : BilgepumpMonitor :=
  match o.message with
  | .arp fields srcMac vlanId => (m.observeArp fields srcMac vlanId o.now).2
  | .stp fields => (m.observeStp fields o.now).2
  | .dhcp fields srcMac => (m.observeDhcp fields srcMac o.now).2
  | .lldp fields srcMac => (m.observeLldp fields srcMac o.now).2
  | .cdp fields srcMac => (m.observeCdp fields srcMac o.now).2

def observeAll (m : BilgepumpMonitor) (history : List Observation) : BilgepumpMonitor :=
  history.foldl observe m

end BilgepumpMonitor

/-! ## Entries -/

/-- An entry of one of the tables; all DHCP requests are counted in one place. -/
inductive Entry where
  | binding (ip : Ipv4Addr)
  | replyCounter (mac : MacAddr)
  | flapTracker (mac : MacAddr)
  | dhcpServer (serverId : String)
  | dhcpRequests
  | lldpIdentity (mac : MacAddr)
  | cdpIdentity (mac : MacAddr)
deriving DecidableEq

variable (config : BilgepumpConfig)

/-- How long an entry may go without an observation, as the configuration has it: the time to live
or the window of its table, and the global time to live where there is none. -/
def ttl : Entry → Seconds
  | .binding _ => config.arpBindingTtlSecs
  | .replyCounter _ => config.arpFloodWindowSecs
  | .flapTracker _ => config.macFlapWindowSecs
  | .dhcpRequests => config.dhcpStarvationWindowSecs
  | .lldpIdentity _ | .cdpIdentity _ => config.identityTtlSecs
  | .dhcpServer _ => config.defaultStateTtlSecs

def countsAsReply (fields : ArpFields) : Bool :=
  ArpDetector.isReply fields || ArpDetector.isGratuitous fields

/-- Counted for the rate of requests: a discover (1) or a request (3). -/
def countsAsRequest (fields : DhcpFields) : Bool :=
  fields.messageType.getD 0 = 1 ∨ fields.messageType.getD 0 = 3

/-- Is the message about the entry, with the checks that are switched on? -/
def isAbout : Message → Entry → Bool
  | .arp fields _ _, .binding ip => config.checkArpSpoofing && ip == fields.senderIp
  | .arp fields _ _, .replyCounter mac =>
    config.checkArpSpoofing && countsAsReply fields && mac == fields.senderMac
  | .arp _ srcMac _, .flapTracker mac => config.checkMacAnomalies && mac == srcMac
  -- an assigned address is a binding, whether or not DHCP is checked
  | .dhcp fields _, .binding ip => assignedIp fields == some ip
  | .dhcp fields _, .dhcpServer serverId =>
    config.checkDhcpAbuse && DhcpDetector.answeringServer fields == some serverId
  | .dhcp fields _, .dhcpRequests => config.checkDhcpAbuse && countsAsRequest fields
  | .lldp _ srcMac, .lldpIdentity mac => config.checkIdentityConflicts && mac == srcMac
  | .cdp _ srcMac, .cdpIdentity mac => config.checkIdentityConflicts && mac == srcMac
  | _, _ => false

def observedAt (entry : Entry) (o : Observation) : Option DateTime :=
  if config.enabled && isAbout config o.message entry then some o.now else none

def lastObserved (history : List Observation) (entry : Entry) : Option DateTime :=
  lastWrite (observedAt config entry) history

/-- The entry, if it is there, with the time of the last observation that it records. -/
def BilgepumpMonitor.stamp (m : BilgepumpMonitor) : Entry → Option (Option DateTime)
  | .binding ip => (m.arp.ipBindings.lookup ip).map fun b => some b.lastSeen
  | .replyCounter mac => (m.arp.replyCounters.lookup mac).map fun c => c.timestamps.getLast?
  | .flapTracker mac =>
    (m.mac.flapTrackers.lookup mac).map fun t =>
      t.observations.getLast?.map MacObservation.timestamp
  | .dhcpServer serverId => (m.dhcp.servers.lookup serverId).map fun s => some s.lastSeen
  | .dhcpRequests => m.dhcp.requestCounter.timestamps.getLast?.map some
  | .lldpIdentity mac => (m.identity.lldp.lookup mac).map fun r => some r.lastSeen
  | .cdpIdentity mac => (m.identity.cdp.lookup mac).map fun r => some r.lastSeen

open BilgepumpMonitor

/-! ## Counters and trackers -/

lemma Seconds.before_nanos_le (s : Seconds) (now : DateTime) :
    (s.before now).nanos ≤ now.nanos := by
  have hnonneg : 0 ≤ s.nanos := by
    unfold Seconds.nanos
    omega
  show now.nanos - s.nanos ≤ now.nanos
  omega

lemma getLast?_dropWhile_concat {α : Type} (old : α → Bool) (xs : List α) {x : α}
    (hnew : old x = false) : ((xs ++ [x]).dropWhile old).getLast? = some x := by
  induction xs with
  | nil => simp [hnew]
  | cons y xs ih =>
    rw [cons_append, dropWhile_cons]
    split
    · exact ih
    · rw [← cons_append, getLast?_concat]

lemma getLast?_record (counter : RateCounter) (now : DateTime) (windowSecs : Seconds) :
    (counter.record now windowSecs).2.timestamps.getLast? = some now := by
  have hnew := decide_eq_false (not_lt.2 (windowSecs.before_nanos_le now))
  exact getLast?_dropWhile_concat _ _ hnew

lemma getLast?_record_tracker (tracker : MacFlapTracker) (ip : Ipv4Addr) (vlanId : Option UInt16)
    (now : DateTime) (windowSecs : Seconds) :
    (tracker.record ip vlanId now windowSecs).2.observations.getLast? =
      some { ip, vlanId, timestamp := now } := by
  refine getLast?_dropWhile_concat _ _ ?_
  exact decide_eq_false (not_lt.2 (windowSecs.before_nanos_le now))

/-! ## One observation -/

variable {κ ν τ : Type}

lemma map_lookup_insert (time : ν → τ) (t : Table κ ν) [DecidableEq κ] (k k' : κ)
    (v : ν) : ((t.insert k v).lookup k').map time =
      if k' == k then some (time v) else (t.lookup k').map time := by
  rw [Table.lookup_insert_eq_ite]
  by_cases hkey : k' = k <;> simp [hkey]

lemma map_lookup_ite_insert (time : ν → τ) (t : Table κ ν) [DecidableEq κ] (k k' : κ) (v : ν)
    (write : Bool) : ((if write then t.insert k v else t).lookup k').map time =
      if write && k' == k then some (time v) else (t.lookup k').map time := by
  cases write with
  | false => rfl
  | true => exact map_lookup_insert time t k k' v

section

variable (now : DateTime)

lemma observe_ipBindings (d : ArpDetector) (fields : ArpFields) :
    (d.observe fields config now).2.ipBindings =
      if config.checkArpSpoofing then d.claim fields config now else d.ipBindings := by
  unfold ArpDetector.observe
  split <;> simp_all

lemma observe_replyCounters (d : ArpDetector) (fields : ArpFields) :
    (d.observe fields config now).2.replyCounters =
      if config.checkArpSpoofing && countsAsReply fields then
        d.replyCounters.insert fields.senderMac
          (((d.replyCounters.lookup fields.senderMac).getD RateCounter.default).record now
            config.arpFloodWindowSecs).2
      else d.replyCounters := by
  unfold ArpDetector.observe ArpDetector.countReplies countsAsReply
  split
  · simp_all
  · split <;> simp_all

lemma observeIpAssociation_flapTrackers (d : MacDetector) (mac : MacAddr) (ip : Ipv4Addr)
    (vlanId : Option UInt16) : (d.observeIpAssociation mac ip vlanId config now).2.flapTrackers =
      if config.checkMacAnomalies then
        d.flapTrackers.insert mac
          (((d.flapTrackers.lookup mac).getD MacFlapTracker.default).record ip vlanId now
            config.macFlapWindowSecs).2
      else d.flapTrackers := by
  unfold MacDetector.observeIpAssociation
  split <;> simp_all

lemma dhcp_observe_servers (d : DhcpDetector) (fields : DhcpFields) (srcMac : MacAddr) :
      (d.observe fields srcMac config now).2.servers = if config.checkDhcpAbuse then
        ((DhcpDetector.answeringServer fields).map (d.trackServer srcMac now)).getD d.servers
      else d.servers := by
  unfold DhcpDetector.observe
  split <;> simp_all

lemma dhcp_observe_requestCounter (d : DhcpDetector) (fields : DhcpFields) (srcMac : MacAddr) :
    (d.observe fields srcMac config now).2.requestCounter =
      if config.checkDhcpAbuse && countsAsRequest fields then
        (d.requestCounter.record now config.dhcpStarvationWindowSecs).2
      else d.requestCounter := by
  unfold DhcpDetector.observe DhcpDetector.countRequests countsAsRequest
  split
  · simp_all
  · dsimp only
    split <;> simp_all

end

section

lemma stamp_observeArp (m : BilgepumpMonitor) (now : DateTime) (entry : Entry)
    (henabled : m.config.enabled = true) (fields : ArpFields)
    (srcMac : MacAddr) (vlanId : Option UInt16) :
    (m.observeArp fields srcMac vlanId now).2.stamp entry =
      if isAbout m.config (.arp fields srcMac vlanId) entry then some (some now)
      else m.stamp entry := by
  simp only [observeArp, henabled, not_true_eq_false, if_false]
  cases entry with
  | binding ip =>
    simp only [stamp, observe_ipBindings]
    exact map_lookup_ite_insert _ _ _ _ _ _
  | replyCounter mac =>
    simp only [stamp, observe_replyCounters, map_lookup_ite_insert, getLast?_record]
    rfl
  | flapTracker mac =>
    simp only [stamp, observeIpAssociation_flapTrackers, map_lookup_ite_insert,
      getLast?_record_tracker]
    rfl
  | dhcpServer | dhcpRequests | lldpIdentity | cdpIdentity => rfl

lemma stamp_observeDhcp (m : BilgepumpMonitor) (now : DateTime) (entry : Entry)
    (henabled : m.config.enabled = true) (fields : DhcpFields) (srcMac : MacAddr) :
    (m.observeDhcp fields srcMac now).2.stamp entry =
      if isAbout m.config (.dhcp fields srcMac) entry then some (some now) else m.stamp entry := by
  simp only [observeDhcp, henabled, not_true_eq_false, if_false]
  cases entry with
  | binding ip =>
    have habout : isAbout m.config (.dhcp fields srcMac) (.binding ip) =
      (assignedIp fields == some ip) := rfl
    rw [habout]
    cases assignedIp fields with
    | none => rfl
    | some assigned =>
      refine (map_lookup_insert _ _ _ _ _).trans ?_
      rw [BEq.comm (a := ip)]
      rfl
  | dhcpServer serverId =>
    have habout : isAbout m.config (.dhcp fields srcMac) (.dhcpServer serverId) =
        (m.config.checkDhcpAbuse && DhcpDetector.answeringServer fields == some serverId) := rfl
    rw [habout]
    simp only [stamp, dhcp_observe_servers]
    cases DhcpDetector.answeringServer fields with
    | none => simp
    | some answering =>
      refine (map_lookup_ite_insert _ _ _ _ _ _).trans ?_
      rw [some_beq_some, BEq.comm (a := serverId)]
  | dhcpRequests =>
    have habout : isAbout m.config (.dhcp fields srcMac) .dhcpRequests =
        (m.config.checkDhcpAbuse && countsAsRequest fields) := rfl
    rw [habout]
    simp only [stamp, dhcp_observe_requestCounter]
    by_cases hcounted : (m.config.checkDhcpAbuse && countsAsRequest fields) = true
    · rw [if_pos hcounted, if_pos hcounted, getLast?_record]
      rfl
    · rw [if_neg hcounted, if_neg hcounted]
  | replyCounter mac => split <;> rfl
  | flapTracker | lldpIdentity | cdpIdentity => rfl

lemma stamp_observeLldp (m : BilgepumpMonitor) (now : DateTime) (entry : Entry)
    (henabled : m.config.enabled = true) (fields : LldpFields) (srcMac : MacAddr) :
    (m.observeLldp fields srcMac now).2.stamp entry =
      if isAbout m.config (.lldp fields srcMac) entry then some (some now) else m.stamp entry := by
  simp only [observeLldp, henabled, not_true_eq_false, if_false, IdentityDetector.observeLldp]
  by_cases hcheck : m.config.checkIdentityConflicts = true
  · simp only [hcheck, not_true_eq_false, if_false]
    cases entry with
    | lldpIdentity mac =>
      simp only [isAbout, hcheck, Bool.true_and]
      exact map_lookup_insert _ _ _ _ _
    | binding | replyCounter | flapTracker | dhcpServer | dhcpRequests | cdpIdentity => rfl
  · cases entry <;> simp [isAbout, hcheck]

lemma stamp_observeCdp (m : BilgepumpMonitor) (now : DateTime) (entry : Entry)
    (henabled : m.config.enabled = true) (fields : CdpFields) (srcMac : MacAddr) :
    (m.observeCdp fields srcMac now).2.stamp entry =
      if isAbout m.config (.cdp fields srcMac) entry then some (some now) else m.stamp entry := by
  simp only [observeCdp, henabled, not_true_eq_false, if_false, IdentityDetector.observeCdp]
  by_cases hcheck : m.config.checkIdentityConflicts = true
  · simp only [hcheck, not_true_eq_false, if_false]
    cases entry with
    | cdpIdentity mac =>
      simp only [isAbout, hcheck, Bool.true_and]
      exact map_lookup_insert _ _ _ _ _
    | binding | replyCounter | flapTracker | dhcpServer | dhcpRequests | lldpIdentity => rfl
  · cases entry <;> simp [isAbout, hcheck]

end

variable (m : BilgepumpMonitor)

lemma observe_config (o : Observation) : (m.observe o).config = m.config := by
  obtain ⟨message, now⟩ := o
  cases message <;>
    simp only [observe, observeArp, observeStp, observeDhcp, observeLldp, observeCdp] <;>
    split <;> rfl

lemma observe_of_not_enabled (o : Observation) (hdisabled : ¬ m.config.enabled = true) :
    m.observe o = m := by
  obtain ⟨message, now⟩ := o
  cases message <;>
    simp only [observe, observeArp, observeStp, observeDhcp, observeLldp, observeCdp] <;>
    rw [if_pos hdisabled]

lemma stamp_observe_of_enabled (o : Observation) (entry : Entry)
    (henabled : m.config.enabled = true) : (m.observe o).stamp entry =
      if isAbout m.config o.message entry then some (some o.now) else m.stamp entry := by
  obtain ⟨message, now⟩ := o
  cases message with
  | arp fields srcMac vlanId => exact stamp_observeArp m now entry henabled fields srcMac vlanId
  | stp fields =>
    -- the root of the spanning tree is the one state that is not in a table
    have hstp : (m.observeStp fields now).2.stamp entry = m.stamp entry := by
      unfold observeStp
      split <;> cases entry <;> rfl
    cases entry <;> exact hstp
  | dhcp fields srcMac => exact stamp_observeDhcp m now entry henabled fields srcMac
  | lldp fields srcMac => exact stamp_observeLldp m now entry henabled fields srcMac
  | cdp fields srcMac => exact stamp_observeCdp m now entry henabled fields srcMac

lemma stamp_observe (o : Observation) (entry : Entry) :
    (m.observe o).stamp entry = ((observedAt m.config entry o).map some).or (m.stamp entry) := by
  by_cases henabled : m.config.enabled = true
  · rw [stamp_observe_of_enabled m o entry henabled, observedAt, henabled, Bool.true_and]
    split <;> rfl
  · rw [observe_of_not_enabled m o henabled, observedAt]
    simp [henabled]

/-! ## Any observations -/

lemma observeAll_config (history : List Observation) :
    (m.observeAll history).config = m.config := by
  induction history generalizing m with
  | nil => rfl
  | cons o history ih => exact (ih _).trans (observe_config m o)

lemma stamp_observeAll (history : List Observation) (entry : Entry) :
    ((new config).observeAll history).stamp entry =
      (lastObserved config history entry).map some := by
  induction history using List.reverseRecOn with
  | nil => cases entry <;> rfl
  | append_singleton history o ih =>
    let m := (new config).observeAll history
    have hconfig : m.config = config := observeAll_config _ history
    calc ((new config).observeAll (history ++ [o])).stamp entry
        = (m.observe o).stamp entry := by
          rw [observeAll, foldl_append]
          rfl
      _ = ((observedAt config entry o).map some).or (m.stamp entry) := by
        rw [stamp_observe, hconfig]
      _ = (lastObserved config (history ++ [o]) entry).map some := by
          rw [ih, lastObserved, lastObserved, lastWrite_concat, map_or]

/-! ## Eviction -/

/-- Observed at `t`, the entry has not outlived its time at `now`. -/
def WithinTtl (now : DateTime) (entry : Entry) (t : DateTime) : Prop :=
  now.nanos - t.nanos ≤ (ttl config entry).nanos

/-- Last observed at `t`, the entry is left by an eviction at `now`. Counters always are, and
bindings and trackers are evicted with the global time to live. -/
def Kept (now : DateTime) (t : DateTime) : Entry → Prop
  | .replyCounter _ | .dhcpRequests => True
  | .flapTracker _ => now.nanos - t.nanos < config.defaultStateTtlSecs.nanos
  | .binding _ | .dhcpServer _ => now.nanos - t.nanos ≤ config.defaultStateTtlSecs.nanos
  | .lldpIdentity _ | .cdpIdentity _ => now.nanos - t.nanos ≤ config.identityTtlSecs.nanos

lemma map_lookup_retain_iff [DecidableEq κ] {time : ν → τ} {t : Table κ ν} {keep : κ → ν → Bool}
    {k : κ} {x : τ} {P : Prop} (hkeep : ∀ v, time v = x → (keep k v = true ↔ P)) :
    ((t.retain keep).lookup k).map time = some x ↔ (t.lookup k).map time = some x ∧ P := by
  simp only [map_eq_some_iff, Table.lookup_retain_eq_some]
  constructor
  · rintro ⟨v, ⟨hlookup, hkept⟩, htime⟩
    exact ⟨⟨v, hlookup, htime⟩, (hkeep v htime).1 hkept⟩
  · rintro ⟨⟨v, hlookup, htime⟩, hP⟩
    exact ⟨v, ⟨hlookup, (hkeep v htime).2 hP⟩, htime⟩

lemma before_le_iff {s : Seconds} {now t : DateTime} :
    decide ((s.before now).nanos ≤ t.nanos) = true ↔ now.nanos - t.nanos ≤ s.nanos := by
  rw [decide_eq_true_iff]
  change now.nanos - s.nanos ≤ t.nanos ↔ _
  omega

/-- What an eviction leaves. -/
lemma stamp_evictExpired_iff {m : BilgepumpMonitor} {now t : DateTime} (entry : Entry) :
    (m.evictExpired now).stamp entry = some (some t) ↔
      m.stamp entry = some (some t) ∧ Kept m.config now t entry := by
  cases entry with
  | dhcpRequests => exact (and_iff_left trivial).symm
  | replyCounter mac =>
    -- a counter holds its last message until the next one comes
    refine map_lookup_retain_iff fun c hlast => iff_true_intro (decide_eq_true ?_)
    refine length_pos_of_ne_nil fun hnil => ?_
    rw [hnil] at hlast
    cases hlast
  | flapTracker mac =>
    refine map_lookup_retain_iff fun tracker htime => ?_
    obtain ⟨o, hlast, rfl⟩ := map_eq_some_iff.1 htime
    rw [hlast]
    exact decide_eq_true_iff
  | binding | dhcpServer | lldpIdentity | cdpIdentity =>
    refine map_lookup_retain_iff fun record htime => ?_
    cases htime
    exact before_le_iff

/-- Every entry that is left in a table was observed, and last observed within its time. -/
def NothingOutlived (config : BilgepumpConfig) (history : List Observation) (now : DateTime) :
    Prop :=
  ∀ entry,
    ((((BilgepumpMonitor.new config).observeAll history).evictExpired now).stamp entry).isSome =
      true → ∃ t, lastObserved config history entry = some t ∧ WithinTtl config now entry t

lemma stamp_of_evictExpired {m : BilgepumpMonitor} {now : DateTime} {entry : Entry}
    {seen : Option DateTime} (hleft : (m.evictExpired now).stamp entry = some seen) :
    m.stamp entry = some seen := by
  cases entry with
  | dhcpRequests => exact hleft
  | binding | replyCounter | flapTracker | dhcpServer | lldpIdentity | cdpIdentity =>
    obtain ⟨v, hlookup, htime⟩ := map_eq_some_iff.1 hleft
    exact map_eq_some_iff.2 ⟨v, (Table.lookup_retain_eq_some.1 hlookup).1, htime⟩

lemma nothingOutlived_iff_kept (history : List Observation) (now : DateTime) :
    NothingOutlived config history now ↔
      ∀ entry t, lastObserved config history entry = some t → Kept config now t entry →
        WithinTtl config now entry t := by
  let m := (new config).observeAll history
  have hleft : ∀ entry seen, (m.evictExpired now).stamp entry = some seen ↔
      ∃ t, seen = some t ∧ lastObserved config history entry = some t ∧
        Kept config now t entry := by
    intro entry seen
    have hconfig : m.config = config := observeAll_config _ history
    have hstamp := stamp_observeAll config history entry
    cases seen with
    | some t =>
      rw [stamp_evictExpired_iff, hconfig, hstamp]
      simp
    | none =>
      -- an entry without a time is nowhere
      refine ⟨fun hnone => ?_, by simp⟩
      obtain ⟨t, -, habsurd⟩ := map_eq_some_iff.1 (hstamp.symm.trans (stamp_of_evictExpired hnone))
      cases habsurd
  unfold NothingOutlived
  refine forall_congr' fun entry => ?_
  constructor
  · intro hnothing t hlast hkept
    have hstays := (hleft entry (some t)).2 ⟨t, rfl, hlast, hkept⟩
    obtain ⟨seen, hseen, hwithin⟩ := hnothing (isSome_iff_exists.2 ⟨_, hstays⟩)
    cases hlast.symm.trans hseen
    exact hwithin
  · intro hwithin hstays
    obtain ⟨seen, hseen⟩ := isSome_iff_exists.1 hstays
    obtain ⟨t, -, hlast, hkept⟩ := (hleft entry seen).1 hseen
    exact ⟨t, hlast, hwithin t hlast hkept⟩

/-- After an eviction no table has an entry that outlived its time, exactly if no counter was left
alone for longer than its window, and no binding and no tracker for longer than its own time but not
longer than the global time to live: these stay, and nothing else does. -/
theorem nothingOutlived_iff (config : BilgepumpConfig) (history : List Observation)
    (now : DateTime) : NothingOutlived config history now ↔
      (∀ mac t, lastObserved config history (.replyCounter mac) = some t →
        WithinTtl config now (.replyCounter mac) t) ∧
      (∀ t, lastObserved config history .dhcpRequests = some t →
        WithinTtl config now .dhcpRequests t) ∧
      (∀ ip t, lastObserved config history (.binding ip) = some t →
        now.nanos - t.nanos ≤ config.defaultStateTtlSecs.nanos →
          WithinTtl config now (.binding ip) t) ∧
      (∀ mac t, lastObserved config history (.flapTracker mac) = some t →
        now.nanos - t.nanos < config.defaultStateTtlSecs.nanos →
          WithinTtl config now (.flapTracker mac) t) := by
  rw [nothingOutlived_iff_kept]
  constructor
  · intro hkept
    exact ⟨fun mac t hlast => hkept _ t hlast trivial, fun t hlast => hkept _ t hlast trivial,
      fun ip t => hkept (.binding ip) t, fun mac t => hkept (.flapTracker mac) t⟩
  · rintro ⟨hreplies, hrequests, hbindings, htrackers⟩ entry t hlast hkept
    cases entry with
    | replyCounter mac => exact hreplies mac t hlast
    | dhcpRequests => exact hrequests t hlast
    | binding ip => exact hbindings ip t hlast hkept
    | flapTracker mac => exact htrackers mac t hlast hkept
    -- servers and identities are evicted with their own time to live
    | dhcpServer | lldpIdentity | cdpIdentity => exact hkept

/-- One reply, and an eviction two days later: both the window of the counter and the time to live
of the other entries have long passed, and the counter is still there. -/
theorem replyCounter_outlives :
    ¬ NothingOutlived BilgepumpConfig.default
      [{ message := .arp
          { operation := 2, senderMac := ⟨2, 0, 0, 0, 0, 1⟩, senderIp := ⟨10, 0, 0, 1⟩,
            targetMac := MacAddr.zero, targetIp := ⟨10, 0, 0, 2⟩ }
          ⟨2, 0, 0, 0, 0, 1⟩ none
         now := ⟨0⟩ }]
      ⟨172800000000000⟩ := by
  intro hnothing
  obtain ⟨t, hlast, hwithin⟩ := hnothing (.replyCounter ⟨2, 0, 0, 0, 0, 1⟩) (by decide)
  cases hlast
  exact absurd hwithin (by unfold WithinTtl; decide)

end MarlinspikeDpi.Bilgepump
