import MarlinspikeDpi.Bilgepump.Monitor
import MarlinspikeDpi.Engine.Trace

/-!
# Which detectors the engine drives

The layer-2 monitor has five entry points for parsed messages.

* `detector_alerts_reported_iff`: the alerts of three detectors never become events.
-/

namespace MarlinspikeDpi.Bilgepump

open Engine List ArpDetector IdentityDetector

/-! ## Feeding a detector directly -/

/-- The detectors behind `observeStp`, `observeDhcp` and `observeCdp`. -/
inductive Detector where
  | stp
  | dhcp
  | cdp
deriving DecidableEq

open Detector

namespace Detector

/-- The chunks that carry the detector's messages: what the decoder of the same name listens to. -/
def interest : Detector → List DecoderInterest
  | stp => [.llc 0x42 0x42]
  | dhcp => [.udpPort 67, .udpPort 68]
  | cdp => [.snap (0x00, 0x00, 0x0C) 0x2000]

def observe (detector : Detector) (m : BilgepumpMonitor) (chunk : StreamChunk) :
    List BilgepumpAlert × BilgepumpMonitor :=
  match detector with
  | stp =>
    match StpDissector.parseFields chunk.payload with
    | some fields => m.observeStp fields chunk.timestamp
    | none => ([], m)
  | dhcp =>
    match DhcpDissector.parseDhcp chunk.payload with
    | some fields => m.observeDhcp fields chunk.context.srcMac chunk.timestamp
    | none => ([], m)
  | cdp =>
    match CdpDissector.parseFields chunk.payload with
    | some fields => m.observeCdp fields chunk.context.srcMac chunk.timestamp
    | none => ([], m)

def alerts (detector : Detector) : BilgepumpMonitor → List StreamChunk → List BilgepumpAlert
  | _, [] => []
  | m, chunk :: chunks =>
    if interestMatches detector.interest chunk then
      (detector.observe m chunk).1 ++ detector.alerts (detector.observe m chunk).2 chunks
    else detector.alerts m chunks

def tags : Detector → List String
  | stp => ["bilgepump:stp_unauthorized", "bilgepump:stp_root_change"]
  | dhcp => ["bilgepump:dhcp_rogue", "bilgepump:dhcp_starvation"]
  | cdp => ["bilgepump:cdp_conflict"]

end Detector

/-- The chunks of some frames; their numbers play no part in what a detector sees. -/
def chunksOf (segment : SegmentMeta) (inputs : List HashedFrame) : List StreamChunk :=
  inputs.filterMap fun input =>
    (dispatchOf (frameInfo segment input.1 0 input.2) input.2).chunk?

/-! ## Tags -/

def engineTags : List String :=
  ["bilgepump:vlan_hop", "bilgepump:mac_local", "bilgepump:mac_multicast",
    "bilgepump:arp_gratuitous", "bilgepump:arp_flood", "bilgepump:arp_spoof",
    "bilgepump:mac_flap", "bilgepump:lldp_conflict"]

def Tagged (tags : List String) (alerts : List BilgepumpAlert) : Prop :=
  ∀ alert ∈ alerts, alert.decoder ∈ tags

namespace Tagged

lemma nil {tags : List String} : Tagged tags [] := by
  intro alert halert
  cases halert

lemma append {tags : List String} {left right : List BilgepumpAlert} (hleft : Tagged tags left)
    (hright : Tagged tags right) : Tagged tags (left ++ right) := by
  intro alert halert
  rcases mem_append.1 halert with h | h
  · exact hleft alert h
  · exact hright alert h

lemma ite {tags : List String} {left right : List BilgepumpAlert} {c : Prop} [Decidable c]
    (hleft : Tagged tags left) (hright : Tagged tags right) :
    Tagged tags (if c then left else right) := by
  split
  · exact hleft
  · exact hright

lemma single {tags : List String} {c : Prop} [Decidable c] {kind : AlertKind}
    {severity : AlertSeverity} {tag : String} (htag : tag ∈ tags) :
    Tagged tags (if c then [{ kind, severity, decoder := tag }] else []) := by
  refine ite ?_ nil
  intro alert halert
  rw [mem_singleton.1 halert]
  exact htag

end Tagged

lemma spoofAlerts_tagged (d : ArpDetector) (fields : ArpFields) (config : BilgepumpConfig)
    (now : DateTime) : Tagged engineTags (d.spoofAlerts fields config now) := by
  unfold spoofAlerts
  split
  · exact Tagged.nil
  · refine Tagged.ite (Tagged.ite Tagged.nil ?_) Tagged.nil
    intro alert halert
    have htag : "bilgepump:arp_spoof" ∈ engineTags := by decide
    rw [mem_singleton.1 halert]
    exact htag

lemma arp_observe_tagged (d : ArpDetector) (fields : ArpFields) (config : BilgepumpConfig)
    (now : DateTime) : Tagged engineTags (d.observe fields config now).1 := by
  unfold ArpDetector.observe
  split
  · exact Tagged.nil
  · refine Tagged.append (Tagged.append (Tagged.single (by decide)) ?_)
      (spoofAlerts_tagged d fields config now)
    unfold countReplies
    split
    · exact Tagged.single (by decide)
    · exact Tagged.nil

lemma observeArp_tagged (m : BilgepumpMonitor) (fields : ArpFields) (srcMac : MacAddr)
    (vlanId : Option UInt16) (now : DateTime) :
    Tagged engineTags (m.observeArp fields srcMac vlanId now).1 := by
  unfold BilgepumpMonitor.observeArp
  split
  · exact Tagged.nil
  · refine Tagged.append (arp_observe_tagged m.arp fields _ now) ?_
    unfold MacDetector.observeIpAssociation
    split
    · exact Tagged.nil
    · exact Tagged.single (by decide)

lemma inspectL2Frame_tagged (m : BilgepumpMonitor) (rawFrame : List UInt8) (srcMac : MacAddr) :
    Tagged engineTags (m.inspectL2Frame rawFrame srcMac) := by
  refine Tagged.ite Tagged.nil (Tagged.append ?_ ?_)
  · exact Tagged.ite Tagged.nil (Tagged.ite Tagged.nil (Tagged.single (by decide)))
  · exact Tagged.ite Tagged.nil
      (Tagged.append (Tagged.single (by decide)) (Tagged.single (by decide)))

lemma conflictAlerts_tagged {tags : List String} {kind : String → AlertKind}
    {severity : AlertSeverity} {tag : String} (htag : tag ∈ tags) (previous : Option String)
    (current : String) :
    Tagged tags (conflictAlerts previous current fun previous =>
      { kind := kind previous, severity, decoder := tag }) := by
  unfold conflictAlerts
  split
  · exact Tagged.nil
  · exact Tagged.single htag

lemma observeLldp_tagged (m : BilgepumpMonitor) (fields : LldpFields) (srcMac : MacAddr)
    (now : DateTime) : Tagged engineTags (m.observeLldp fields srcMac now).1 := by
  unfold BilgepumpMonitor.observeLldp IdentityDetector.observeLldp
  split
  · exact Tagged.nil
  · split
    · exact Tagged.nil
    · exact conflictAlerts_tagged (by decide) _ _

lemma observeStp_tagged (m : BilgepumpMonitor) (fields : StpFields) (now : DateTime) :
    Tagged stp.tags (m.observeStp fields now).1 := by
  unfold BilgepumpMonitor.observeStp StpDetector.observe
  split
  · exact Tagged.nil
  · split
    · exact Tagged.nil
    · refine Tagged.append (Tagged.single (by decide)) ?_
      unfold StpDetector.rootChangeAlerts
      split
      · exact Tagged.nil
      · exact Tagged.single (by decide)

lemma observeDhcp_tagged (m : BilgepumpMonitor) (fields : DhcpFields) (srcMac : MacAddr)
    (now : DateTime) : Tagged dhcp.tags (m.observeDhcp fields srcMac now).1 := by
  unfold BilgepumpMonitor.observeDhcp DhcpDetector.observe
  split
  · exact Tagged.nil
  · split
    · exact Tagged.nil
    · refine Tagged.append ?_ ?_
      · intro alert halert
        rcases mem_flatMap.1 halert with ⟨serverId, _, hrogue⟩
        exact Tagged.single (by decide) alert hrogue
      · unfold DhcpDetector.countRequests
        dsimp only
        split
        · exact Tagged.single (by decide)
        · exact Tagged.nil

lemma observeCdp_tagged (m : BilgepumpMonitor) (fields : CdpFields) (srcMac : MacAddr)
    (now : DateTime) : Tagged cdp.tags (m.observeCdp fields srcMac now).1 := by
  unfold BilgepumpMonitor.observeCdp IdentityDetector.observeCdp
  split
  · exact Tagged.nil
  · split
    · exact Tagged.nil
    · exact conflictAlerts_tagged (by decide) _ _

lemma Detector.observe_tagged (detector : Detector) (m : BilgepumpMonitor) (chunk : StreamChunk) :
    Tagged detector.tags (detector.observe m chunk).1 := by
  cases detector with
  | stp =>
    simp only [observe]
    split
    · exact observeStp_tagged m _ _
    · exact Tagged.nil
  | dhcp =>
    simp only [observe]
    split
    · exact observeDhcp_tagged m _ _ _
    · exact Tagged.nil
  | cdp =>
    simp only [observe]
    split
    · exact observeCdp_tagged m _ _ _
    · exact Tagged.nil

lemma Detector.alerts_tagged (detector : Detector) (m : BilgepumpMonitor)
    (chunks : List StreamChunk) : Tagged detector.tags (detector.alerts m chunks) := by
  induction chunks generalizing m with
  | nil => exact Tagged.nil
  | cons chunk chunks ih =>
    exact Tagged.ite (Tagged.append (detector.observe_tagged m chunk) (ih _)) (ih _)

/-! ## The monitor's events in a run -/

/-- An anomaly event for an alert: it carries the alert's tag, severity and text. -/
def Reports (alert : BilgepumpAlert) (event : BronzeEvent) : Prop :=
  ∃ excerptHex, event.family = .parseAnomaly
    { decoder := alert.decoder, severity := alert.severity.asStr, reason :=
      alert.reason, rawExcerptHex := excerptHex }

lemma reports_tag {info : FrameInfo} {context : PacketContext} {excerpt : List UInt8}
    {finding : Finding} {alert : BilgepumpAlert}
    (h : Reports alert (bilgepumpAlertToEvent info context excerpt finding)) :
    alert.decoder = finding.decoder := by
  rcases h with ⟨excerptHex, hfamily⟩
  have hanomaly := BronzeEventFamily.parseAnomaly.inj hfamily
  exact (congrArg ParseAnomaly.decoder hanomaly).symm

section

variable {δ ι : Type} [SessionDecoder δ] [FrameInspector ι]

omit [FrameInspector ι] in
lemma observing_tag {α : Type} {tags : List String} {m : Monitors ι} {message? : Option α}
    {observe : α → List BilgepumpAlert × BilgepumpMonitor}
    (htagged : ∀ message, Tagged tags (observe message).1) :
    ∀ finding ∈ (m.observing message? observe).1, finding.decoder ∈ tags := by
  intro finding hfinding
  cases message? with
  | none => cases hfinding
  | some message =>
    rcases mem_map.1 hfinding with ⟨alert, halert, rfl⟩
    exact htagged message alert halert

lemma followUp_neighbour_tag (eng : DpiEngine δ (Monitors ι)) (info : FrameInfo)
    (chunk : StreamChunk) :
    ∀ event ∈ (followUp eng info (.neighbour chunk)).1, ∀ alert, Reports alert event →
      alert.decoder ∈ engineTags := by
  intro event hevent alert hreports
  simp only [followUp] at hevent
  rcases mem_map.1 hevent with ⟨finding, hfinding, rfl⟩
  rw [reports_tag hreports]
  split at hfinding
  · refine observing_tag ?_ finding hfinding
    intro fields
    exact observeArp_tagged _ _ _ _ _
  · refine observing_tag ?_ finding hfinding
    intro fields
    exact observeLldp_tagged _ _ _ _

omit [SessionDecoder δ] in
lemma tracedInspection_monitor_tag (m : Monitors ι) (info : FrameInfo) (link : LinkFrame)
    (frame : CapturedFrame) (event : BronzeEvent) :
    (Origin.layer2Monitor, event) ∈ tracedInspection (δ := δ) m info link frame →
      ∀ alert, Reports alert event → alert.decoder ∈ engineTags := by
  intro hmem alert hreports
  unfold tracedInspection at hmem
  split at hmem
  · rcases mem_append.1 hmem with h | h
    · simp at h
    · rcases mem_map.1 h with ⟨finding, hfinding, heq⟩
      cases heq
      rcases mem_map.1 hfinding with ⟨found, hfound, rfl⟩
      rw [reports_tag hreports]
      exact inspectL2Frame_tagged _ _ _ found hfound
  · cases hmem

lemma tracedRecord_monitor_tag (eng : DpiEngine δ (Monitors ι)) (segment : SegmentMeta)
    (segmentHash : String) (frameIndex : Nat) (frame : CapturedFrame) (event : BronzeEvent) :
    (Origin.layer2Monitor, event) ∈ tracedRecord eng segment segmentHash frameIndex frame →
      ∀ alert, Reports alert event → alert.decoder ∈ engineTags := by
  intro hmem
  simp only [tracedRecord, mem_append] at hmem
  rcases hmem with (hinspected | hclaimed) | hfollowed
  · split at hinspected
    · cases hinspected
    · exact tracedInspection_monitor_tag _ _ _ _ event hinspected
  · simp at hclaimed
  · rcases mem_map.1 hfollowed with ⟨made, hevent, heq⟩
    cases hdispatch : dispatchOf _ frame with
    | neighbour chunk =>
      rw [hdispatch] at hevent heq
      cases heq
      exact followUp_neighbour_tag eng _ chunk event hevent
    -- the other follow-ups are not made by the monitor
    | reject | stream | datagram | icmp | claimable =>
      rw [hdispatch] at heq
      cases heq

variable [External]

lemma traced_monitor_tag (segment : SegmentMeta) (core : Core δ (Monitors ι))
    (inputs : List HashedFrame) :
    ∀ entry ∈ traced segment core inputs, entry.origin = .layer2Monitor →
      ∀ alert, Reports alert entry.event → alert.decoder ∈ engineTags := by
  induction inputs generalizing core with
  | nil =>
    intro entry hmem
    cases hmem
  | cons input inputs ih =>
    intro entry hmem horigin
    rcases mem_append.1 hmem with hhere | hlater
    · rcases mem_map.1 hhere with ⟨⟨origin, event⟩, hmade, rfl⟩
      cases horigin
      exact tracedRecord_monitor_tag _ _ _ _ _ event hmade
    · exact ih _ entry hlater horigin

/-- For each of the three detectors, any engine and any frames: the trace lists the events of the
run before deduplication; and for every alert that the detector raises when it is fed the messages
of the frames directly, the monitor of the engine makes an event, if and only if there is no such
alert. -/
theorem detector_alerts_reported_iff (detector : Detector) (eng : DpiEngine δ (Monitors ι))
    (segment : SegmentMeta) (startedAt : DateTime) (inputs : List HashedFrame) :
    (traced segment (Core.start eng startedAt) inputs).map TracedEvent.event =
        (decisionLog segment (Core.start eng startedAt) inputs).map Decision.event ∧
      ((∀ alert ∈ detector.alerts eng.monitors.bilgepump (chunksOf segment inputs),
          ∃ entry ∈ traced segment (Core.start eng startedAt) inputs,
            entry.origin = .layer2Monitor ∧ Reports alert entry.event) ↔
        detector.alerts eng.monitors.bilgepump (chunksOf segment inputs) = []) := by
  refine ⟨traced_events segment _ inputs, ?_⟩
  constructor
  · intro hreported
    refine eq_nil_iff_forall_not_mem.2 ?_
    intro alert halert
    rcases hreported alert halert with ⟨entry, hentry, horigin, hreports⟩
    have hengine : alert.decoder ∈ engineTags :=
      traced_monitor_tag segment _ inputs entry hentry horigin alert hreports
    have hown : alert.decoder ∈ detector.tags :=
      detector.alerts_tagged eng.monitors.bilgepump (chunksOf segment inputs) alert halert
    have hdisjoint : ∀ tag ∈ detector.tags, tag ∉ engineTags := by cases detector <;> decide
    exact hdisjoint _ hown hengine
  · intro hnone alert halert
    rw [hnone] at halert
    cases halert

end

/-- An 802.3 frame with a configuration BPDU from the bridge that claims to be the root. -/
def rootClaim (timestamp : DateTime) (bridge : UInt8) : CapturedFrame :=
  let bridgeId : List UInt8 := [0x80, 0, 0, 0x1C, 6, 0, 0, bridge]
  let bpdu : List UInt8 :=
    [0, 0, 0, 0, 0] ++ bridgeId ++ [0, 0, 0, 0] ++ bridgeId ++ [0x80, 1, 0, 0, 20, 0, 2, 0, 15, 0]
  let data : List UInt8 :=
    [0x01, 0x80, 0xC2, 0, 0, 0] ++ [0, 0x1C, 6, 0, 0, bridge] ++ [0, 38, 0x42, 0x42, 3] ++ bpdu
  { interfaceId := 0
    timestamp
    linktype := .ethernet
    capturedLen := data.length
    origLen := UInt32.ofNat data.length
    data }

def rootTakeover : List HashedFrame := [("", rootClaim ⟨0⟩ 1), ("", rootClaim ⟨1000000000⟩ 2)]

/-- An engine with the default monitor and a silent decoder that listens to BPDUs. -/
def bpduEngine : DpiEngine Probe (Monitors Unit) :=
  DpiEngine.new [{ interests := [.llc 0x42 0x42], seen := [] }]
    { inspector := (), bilgepump := BilgepumpMonitor.new .default }

/-- Fed directly, the STP detector reports the change of the root; the engine's run has no event. -/
theorem rootTakeover_unreported :
    letI : External := External.sample
    (stp.alerts bpduEngine.monitors.bilgepump (chunksOf ⟨"capture"⟩ rootTakeover)).map
        BilgepumpAlert.decoder = ["bilgepump:stp_root_change"] ∧
      decisionLog ⟨"capture"⟩ (Core.start bpduEngine ⟨0⟩) rootTakeover = [] := by
  decide

end MarlinspikeDpi.Bilgepump
