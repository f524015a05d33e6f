import MarlinspikeDpi.Bilgepump.Monitor
import MarlinspikeDpi.Foundation.KeyedFold

/-!
# Address bindings over all histories of ARP messages

The binding of an address depends only on the claims of that address: its MAC address and time are
those of the last claim, its blessing that of the first (`lookup_bindings`).

* `plain_binding_spoof_detected`: a claim that contradicts a binding is reported.
-/

namespace MarlinspikeDpi.Bilgepump

open BilgepumpMonitor List ArpDetector KeyedFold

structure ArpCall where
  fields : ArpFields
  srcMac : MacAddr
  vlanId : Option UInt16
  now : DateTime
deriving DecidableEq

namespace ArpCall

def claimedIp (call : ArpCall) : Ipv4Addr := call.fields.senderIp

def reply (mac : MacAddr) (ip : Ipv4Addr) (now : DateTime) : ArpCall :=
  { fields :=
      { operation := 2, senderMac := mac, senderIp := ip,
        targetMac := ⟨0xFF, 0xFF, 0xFF, 0xFF, 0xFF, 0xFF⟩, targetIp := Ipv4Addr.unspecified }
    srcMac := mac
    vlanId := none
    now }

end ArpCall

namespace BilgepumpMonitor

variable (m : BilgepumpMonitor)

def observeCall (call : ArpCall) : List BilgepumpAlert × BilgepumpMonitor :=
  m.observeArp call.fields call.srcMac call.vlanId call.now

def observeCalls (calls : List ArpCall) : BilgepumpMonitor :=
  calls.foldl (fun m call => (m.observeCall call).2) m

end BilgepumpMonitor

def claimsOf (ip : Ipv4Addr) (calls : List ArpCall) : List ArpCall :=
  KeyedFold.inputsAt ArpCall.claimedIp ip calls

/-! ## Bindings -/

def takeOver (config : BilgepumpConfig) (existing : Option MacIpBinding) (call : ArpCall) :
  MacIpBinding := { existing.getD (ArpDetector.newBinding config call.fields call.now) with
    mac := call.fields.senderMac
    lastSeen := call.now }

def bindingAfter (config : BilgepumpConfig) (first last : ArpCall) : MacIpBinding :=
  { ArpDetector.newBinding config first.fields first.now with
    mac := last.fields.senderMac
    lastSeen := last.now }

lemma fold_claims (config : BilgepumpConfig) {claims : List ArpCall} {first last : ArpCall}
    (hfirst : claims.head? = some first) (hlast : claims.getLast? = some last) :
    fold (takeOver config) none claims = some (bindingAfter config first last) := by
  induction claims using List.reverseRecOn generalizing last with
  | nil => cases hfirst
  | append_singleton claims claim ih =>
    have hclaim : claim = last := by simpa using hlast
    subst hclaim
    rw [fold, foldl_append]
    cases hprevious : claims.getLast? with
    | none =>
      -- the only claim creates the binding
      rw [getLast?_eq_none_iff] at hprevious
      subst hprevious
      have hsame : claim = first := by simpa using hfirst
      subst hsame
      rfl
    | some previous =>
      have hne : claims ≠ [] := by
        rintro rfl
        cases hprevious
      have hhead : claims.head? = some first := by rwa [head?_append_of_ne_nil claims hne] at hfirst
      have hbinding : claims.foldl (fun value x => some (takeOver config value x)) none =
          some (bindingAfter config first previous) := ih hhead hprevious
      rw [hbinding]
      rfl

section

variable {m : BilgepumpMonitor}

lemma observeCall_config (m : BilgepumpMonitor) (call : ArpCall) :
    (m.observeCall call).2.config = m.config := by
  unfold observeCall observeArp
  split <;> rfl

lemma observeCalls_config (m : BilgepumpMonitor) (calls : List ArpCall) :
    (m.observeCalls calls).config = m.config := by
  induction calls generalizing m with
  | nil => rfl
  | cons call calls ih =>
    calc
      (m.observeCalls (call :: calls)).config = (m.observeCall call).2.config := ih _
      _ = m.config := observeCall_config m call

variable (henabled : m.config.enabled = true) (hcheck : m.config.checkArpSpoofing = true)

include henabled hcheck

lemma observeCall_alerts (call : ArpCall) :
    ∀ alert ∈ m.arp.spoofAlerts call.fields m.config call.now, alert ∈ (m.observeCall call).1 := by
  intro alert halert
  simp only [observeCall, observeArp, ArpDetector.observe, henabled, hcheck, not_true, if_false]
  exact mem_append_left _ (mem_append_right _ halert)

lemma observeCall_bindings (call : ArpCall) :
    (m.observeCall call).2.arp.ipBindings = step ArpCall.claimedIp
      (takeOver m.config) m.arp.ipBindings call := by
  simp only [observeCall, observeArp, ArpDetector.observe, henabled, hcheck, not_true, if_false]
  rfl

lemma observeCalls_bindings (calls : List ArpCall) :
    (m.observeCalls calls).arp.ipBindings = run ArpCall.claimedIp
      (takeOver m.config) m.arp.ipBindings calls := by
  induction calls generalizing m with
  | nil => rfl
  | cons call calls ih =>
    have hconfig : (m.observeCall call).2.config = m.config := observeCall_config m call
    calc
      (m.observeCalls (call :: calls)).arp.ipBindings
          = run ArpCall.claimedIp (takeOver (m.observeCall call).2.config)
              (m.observeCall call).2.arp.ipBindings calls :=
            ih (hconfig ▸ henabled) (hconfig ▸ hcheck)
      _ = run ArpCall.claimedIp (takeOver m.config) m.arp.ipBindings
            (call :: calls) := by
            rw [hconfig, observeCall_bindings henabled hcheck]
            rfl

end

lemma lookup_bindings {config : BilgepumpConfig} (henabled : config.enabled = true)
    (hcheck : config.checkArpSpoofing = true) {calls : List ArpCall} {ip : Ipv4Addr}
    {first last : ArpCall} (hfirst : (claimsOf ip calls).head? = some first)
    (hlast : (claimsOf ip calls).getLast? = some last) :
    ((new config).observeCalls calls).arp.ipBindings.lookup ip =
      some (bindingAfter config first last) := by
  rw [observeCalls_bindings henabled hcheck, lookup_run]
  exact fold_claims config hfirst hlast

/-! ## Completeness of the spoofing alert -/

/-- After any calls of a new monitor that checks ARP: a claim by a pair that is not blessed is
reported, if another MAC address holds the address and claimed it last within the time to live, and
if the first claim of the address was not by a blessed pair. -/
theorem plain_binding_spoof_detected (config : BilgepumpConfig) (before : List ArpCall)
    (call first holder : ArpCall) (henabled : config.enabled = true)
    (hcheck : config.checkArpSpoofing = true)
    (hfirst : (claimsOf call.claimedIp before).head? = some first)
    (hholder : (claimsOf call.claimedIp before).getLast? = some holder)
    (hother : holder.fields.senderMac ≠ call.fields.senderMac)
    (hplain : ArpDetector.isBlessed config call.fields = false)
    (hcreated : ArpDetector.isBlessed config first.fields = false)
    (hwithin : call.now.nanos - holder.now.nanos ≤ config.arpBindingTtlSecs.nanos) :
    ArpDetector.spoofAlert call.fields holder.fields.senderMac ∈
      (((BilgepumpMonitor.new config).observeCalls before).observeCall call).1 := by
  have hconfig : ((new config).observeCalls before).config = config := observeCalls_config _ before
  have hbinding := lookup_bindings henabled hcheck hfirst hholder
  apply observeCall_alerts (hconfig.symm ▸ henabled) (hconfig.symm ▸ hcheck)
  -- the blessing of the binding is that of the first claim
  have hblessed : (bindingAfter config first holder).blessed = false := hcreated
  have hfresh : bindingExpired config call.now (bindingAfter config first holder) =
      false := decide_eq_false (not_lt.2 hwithin)
  have hmac : (bindingAfter config first holder).mac ≠ call.fields.senderMac := hother
  unfold spoofAlerts
  rw [hconfig, show call.fields.senderIp = call.claimedIp from rfl, hbinding]
  simp only [hplain, hblessed, hfresh, hmac, ne_eq, not_false_eq_true, Bool.false_eq_true, and_self,
    if_true, if_false]
  exact mem_singleton.2 rfl

/-- Two hosts claim 10.0.0.1, one second apart. -/
def firstOwner : ArpCall := .reply ⟨0x00, 0x11, 0x22, 0x33, 0x44, 0x55⟩ ⟨10, 0, 0, 1⟩ ⟨0⟩

def secondOwner : ArpCall := .reply ⟨0xAA, 0xBB, 0xCC, 0xDD, 0xEE, 0xFF⟩ ⟨10, 0, 0, 1⟩ ⟨1000000000⟩

theorem secondOwner_detected :
    ArpDetector.spoofAlert secondOwner.fields firstOwner.fields.senderMac ∈
      (((BilgepumpMonitor.new .default).observeCalls [firstOwner]).observeCall secondOwner).1 :=
  plain_binding_spoof_detected .default [firstOwner] secondOwner firstOwner firstOwner rfl rfl
    (by decide) (by decide) (by decide) (by decide) (by decide) (by decide)

/-- The default configuration with the first host's pair as a known-good one. -/
def blessingFirst : BilgepumpConfig :=
  { BilgepumpConfig.default with blessedBindings := [⟨"00:11:22:33:44:55", "10.0.0.1"⟩] }

/-- A claim of a blessed pair's address by a host that is not blessed raises no alert at all. -/
theorem blessed_owner_taken_over :
    (claimsOf secondOwner.claimedIp [firstOwner]).map (fun c => c.fields.senderMac) =
        [firstOwner.fields.senderMac] ∧
      firstOwner.fields.senderMac ≠ secondOwner.fields.senderMac ∧
      ArpDetector.isBlessed blessingFirst secondOwner.fields = false ∧
      secondOwner.now.nanos - firstOwner.now.nanos ≤ blessingFirst.arpBindingTtlSecs.nanos ∧
      (((BilgepumpMonitor.new blessingFirst).observeCalls [firstOwner]).observeCall
        secondOwner).1 = [] := by
  decide

end MarlinspikeDpi.Bilgepump
