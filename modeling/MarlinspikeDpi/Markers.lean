import MarlinspikeDpi.Amqp.Decoder
import MarlinspikeDpi.Coap.Decoder
import MarlinspikeDpi.Diameter.Decoder
import MarlinspikeDpi.Foundation.Once

/-!
# Encrypted sessions are reported once

The decoders of CoAP, Diameter and AMQP report an encrypted session with one marker.

* `markers_served_iff`: every encrypted session has its marker exactly if there is only one.
-/

namespace MarlinspikeDpi

open Engine Bytes Text Checked List

/-- The session for which an event is a transaction with the operation. -/
def markerOf (operation : String) (e : BronzeEvent) : Option String :=
  match e.family with
  | .protocolTransaction t => if t.operation = operation then some e.envelope.sessionKey else none
  | _ => none

lemma append_ne_of_take_ne {s t : String} (n : Nat) (tail : String) (hlong : n ≤ s.toList.length)
    (hne : s.toList.take n ≠ t.toList.take n) : s ++ tail ≠ t := by
  intro h
  apply hne
  rw [← h, String.toList_append, take_append_of_le_length hlong]

/-! ## CoAP -/

namespace Coap

def dtlsSessions (chunk : StreamChunk) : List String :=
  if CoapDecoder.isDtls chunk then [chunk.sessionKey] else []

lemma coapOperation_ne (code tkl : UInt8) : coapOperation code tkl ≠ "coap_dtls_session" := by
  unfold coapOperation
  split
  · decide
  · split
    iterate 7 decide
    split <;> decide

lemma filterMap_handleCoap {chunk : StreamChunk} {events : List BronzeEvent}
    (h : CoapDecoder.handleCoap chunk = .ok events) :
    events.filterMap (markerOf "coap_dtls_session") = [] := by
  have hmessage : ∀ opts, markerOf "coap_dtls_session" (message chunk opts) = none :=
    fun opts => if_neg (coapOperation_ne _ _)
  unfold CoapDecoder.handleCoap at h
  dsimp only at h
  split at h
  · cases h
    rfl
  split at h
  · cases h
    rfl
  split at h
  · cases h
    rfl
  split at h
  · cases h
    rfl
  cases hoptions : parseOptions chunk.payload (4 + (byteAt chunk.payload 0 &&& 0x0F).toNat) with
  | error panic =>
    rw [hoptions] at h
    cases h
  | ok found =>
    rw [hoptions] at h
    cases found with
    | none =>
      cases h
      rfl
    | some result =>
      cases h
      exact filterMap_cons_none (hmessage result.1)

lemma guarded : Once.Guarded (total CoapDecoder.onDatagram) CoapDecoder.dtlsEmitted
    (markerOf "coap_dtls_session") dtlsSessions := by
  have hstep : ∀ d chunk, (total CoapDecoder.onDatagram d chunk).1.filterMap
    (markerOf "coap_dtls_session") =
          (if d.dtlsEmitted then [] else (dtlsSessions chunk).take 1) ∧
        (total CoapDecoder.onDatagram d chunk).2.dtlsEmitted =
          (d.dtlsEmitted || !(dtlsSessions chunk).isEmpty) := by
    intro d chunk
    unfold total CoapDecoder.onDatagram dtlsSessions
    by_cases hdtls : CoapDecoder.isDtls chunk = true
    · rw [if_pos hdtls, if_pos hdtls, CoapDecoder.handleDtls]
      by_cases hemitted : d.dtlsEmitted = true
      · simp [hemitted]
      · simp only [hemitted]
        exact ⟨rfl, rfl⟩
    · rw [if_neg hdtls, if_neg hdtls]
      cases hcoap : CoapDecoder.handleCoap chunk with
      | error panic => exact ⟨by simp, by simp⟩
      | ok events =>
        refine ⟨?_, by simp⟩
        rw [take_nil, ite_self]
        exact filterMap_handleCoap hcoap
  exact ⟨fun d chunk => (hstep d chunk).1, fun d chunk => (hstep d chunk).2⟩

end Coap

/-! ## Diameter -/

namespace Diameter

def tlsSessions (chunk : StreamChunk) : List String :=
  if DiameterDecoder.isTls chunk then [chunk.sessionKey] else []

lemma commandOperation_ne (cmd : Nat) (isRequest : Bool) :
    commandOperation cmd isRequest ≠ "diameter_tls_session" := by
  unfold commandOperation
  generalize (if isRequest then "request" else "answer") = kind
  -- the names differ from the marker in the tenth character
  dsimp only
  split <;> exact append_ne_of_take_ne 10 _ (by decide) (by decide)

lemma filterMap_report (d : DiameterDecoder) (chunk : StreamChunk) (msg : DiameterMessage) :
    (d.report chunk msg).1.filterMap (markerOf "diameter_tls_session") = [] := by
  have htransaction : ∀ status, markerOf "diameter_tls_session" (transaction chunk msg status) =
    none := fun status => if_neg (commandOperation_ne _ _)
  unfold DiameterDecoder.report
  rw [filterMap_append, filterMap_append, filterMap_cons_none (htransaction _)]
  split <;> split <;> rfl

lemma filterMap_decodePlaintext {d d' : DiameterDecoder} {chunk : StreamChunk}
    {events : List BronzeEvent} (h : d.decodePlaintext chunk = .ok (events, d')) :
    events.filterMap (markerOf "diameter_tls_session") = [] ∧
      d'.tlsSessionEmitted = d.tlsSessionEmitted := by
  unfold DiameterDecoder.decodePlaintext at h
  split at h
  · cases h
    exact ⟨rfl, rfl⟩
  split at h
  · cases h
    exact ⟨rfl, rfl⟩
  cases hparse : parseDiameter _ with
  | error panic =>
    rw [hparse] at h
    cases h
  | ok found =>
    rw [hparse] at h
    cases found with
    | none =>
      cases h
      exact ⟨rfl, rfl⟩
    | some msg =>
      have hreport : d.report chunk msg = (events, d') := Except.ok.inj h
      have hevents : events = (d.report chunk msg).1 := (congrArg Prod.fst hreport).symm
      have hafter : d' = (d.report chunk msg).2 := (congrArg Prod.snd hreport).symm
      rw [hevents, hafter]
      exact ⟨filterMap_report d chunk msg, rfl⟩

lemma guarded : Once.Guarded (total DiameterDecoder.onStreamChunk) DiameterDecoder.tlsSessionEmitted
    (markerOf "diameter_tls_session") tlsSessions := by
  have hstep : ∀ d chunk, (total DiameterDecoder.onStreamChunk d chunk).1.filterMap
    (markerOf "diameter_tls_session") =
          (if d.tlsSessionEmitted then [] else (tlsSessions chunk).take 1) ∧
        (total DiameterDecoder.onStreamChunk d chunk).2.tlsSessionEmitted =
          (d.tlsSessionEmitted || !(tlsSessions chunk).isEmpty) := by
    intro d chunk
    unfold total DiameterDecoder.onStreamChunk tlsSessions
    by_cases htls : DiameterDecoder.isTls chunk = true
    · rw [if_pos htls, if_pos htls, DiameterDecoder.handleTls]
      by_cases hemitted : d.tlsSessionEmitted = true
      · simp [hemitted]
      · simp only [hemitted]
        exact ⟨rfl, rfl⟩
    · rw [if_neg htls, if_neg htls]
      cases hplain : d.decodePlaintext chunk with
      | error panic => exact ⟨by simp, by simp⟩
      | ok result =>
        obtain ⟨hevents, hflag⟩ := filterMap_decodePlaintext hplain
        rw [take_nil, ite_self]
        exact ⟨hevents, by simp [hflag]⟩
  exact ⟨fun d chunk => (hstep d chunk).1, fun d chunk => (hstep d chunk).2⟩

end Diameter

/-! ## AMQP -/

namespace Amqp

/-- What a session on port 5671, or one with an OPEN, is to be reported with. -/
inductive Report where
  | marker (sessionKey : String)
  | broker (sessionKey : String)
deriving DecidableEq

def reportOf (e : BronzeEvent) : Option Report :=
  match e.family with
  | .protocolTransaction t =>
    if t.operation = "amqp_tls_session" then some (.marker e.envelope.sessionKey) else none
  | .assetObservation a => if a.role = some "amqp_broker" then some (.broker e.envelope.sessionKey)
    else none
  | _ => none

def plaintextFrames (payload : List UInt8) : List Found :=
  if AmqpDecoder.hasProtocolHeader payload then
    if byteAt payload 5 ≠ 1 then [] else framesOf (payload.drop 8)
  else framesOf payload

def opens (key : String) : Found → List Report
  | .frame f => if AmqpDecoder.isOpen f then [.broker key] else []
  | _ => []

/-- A session on port 5671 is due its marker, and a plaintext session with an OPEN is due its
broker. -/
def due (chunk : StreamChunk) : List Report :=
  if AmqpDecoder.isTls chunk then [.marker chunk.sessionKey]
  else (plaintextFrames chunk.payload).flatMap (opens chunk.sessionKey)

def owed (chunk : StreamChunk) : List Report := if chunk.payload = [] then [] else due chunk

lemma performativeOperation_ne (frameType code : UInt8) :
    performativeOperation frameType code ≠ "amqp_tls_session" := by
  unfold performativeOperation
  split
  iterate 14 decide
  exact append_ne_of_take_ne 6 _ (by decide) (by decide)

lemma guarded_decodeFound (chunk : StreamChunk) :
    Once.Guarded (AmqpDecoder.decodeFound chunk) AmqpDecoder.openEmitted reportOf
      (opens chunk.sessionKey) := by
  have hstep : ∀ d found, (AmqpDecoder.decodeFound chunk d found).1.filterMap reportOf =
          (if d.openEmitted then [] else (opens chunk.sessionKey found).take 1) ∧
        (AmqpDecoder.decodeFound chunk d found).2.openEmitted =
          (d.openEmitted || !(opens chunk.sessionKey found).isEmpty) := by
    intro d found
    cases found with
    | bodiless =>
      have hnone : opens chunk.sessionKey .bodiless = [] := rfl
      simp [AmqpDecoder.decodeFound, hnone]
    | badDoff excerpt =>
      have hnone : opens chunk.sessionKey (.badDoff excerpt) = [] := rfl
      have hanomaly : ∀ reason, reportOf (anomaly chunk "low" reason excerpt) = none := fun _ => rfl
      simp [AmqpDecoder.decodeFound, hnone, hanomaly]
    | frame f =>
      have hperformative : reportOf (AmqpDecoder.performative chunk f) = none :=
        if_neg (performativeOperation_ne _ _)
      by_cases hopen : AmqpDecoder.isOpen f = true
      · have hbroker : reportOf (broker chunk) = some (.broker chunk.sessionKey) := rfl
        rw [AmqpDecoder.decodeFound, AmqpDecoder.decodePerformative_of_isOpen chunk d hopen, opens,
          if_pos hopen]
        by_cases hemitted : d.openEmitted = true
        · simp [hemitted, hperformative]
        · simp [hemitted, hperformative, hbroker]
      · rw [opens, if_neg hopen, AmqpDecoder.decodeFound]
        have hanomaly : ∀ reason excerpt, reportOf (anomaly chunk "low" reason excerpt) = none :=
          fun _ _ => rfl
        have hcases := AmqpDecoder.decodePerformative_of_not_isOpen chunk d
          (Bool.eq_false_of_not_eq_true hopen)
        simp only [mem_cons, not_mem_nil, or_false] at hcases
        rcases hcases with hcase | hcase | hcase <;> rw [hcase] <;> simp [hperformative, hanomaly]
  exact ⟨fun d found => (hstep d found).1, fun d found => (hstep d found).2⟩

lemma reportOf_protocolHeader (chunk : StreamChunk) :
    reportOf (AmqpDecoder.protocolHeader chunk) = none := rfl

lemma handlePlaintext_eq (d : AmqpDecoder) (chunk : StreamChunk) :
    (d.handlePlaintext chunk).1.filterMap reportOf =
        (Mealy.run (AmqpDecoder.decodeFound chunk) d (plaintextFrames chunk.payload)).1.filterMap
          reportOf ∧
      (d.handlePlaintext chunk).2 =
        (Mealy.run (AmqpDecoder.decodeFound chunk) d (plaintextFrames chunk.payload)).2 := by
  unfold AmqpDecoder.handlePlaintext plaintextFrames
  split
  · split
    · exact ⟨rfl, rfl⟩
    · exact ⟨filterMap_cons_none (reportOf_protocolHeader chunk), rfl⟩
  · exact ⟨rfl, rfl⟩

lemma guarded : Once.Guarded AmqpDecoder.onStreamChunk AmqpDecoder.openEmitted reportOf owed := by
  have hstep : ∀ d chunk, (AmqpDecoder.onStreamChunk d chunk).1.filterMap reportOf =
          (if d.openEmitted then [] else (owed chunk).take 1) ∧
        (AmqpDecoder.onStreamChunk d chunk).2.openEmitted =
          (d.openEmitted || !(owed chunk).isEmpty) := by
    intro d chunk
    unfold AmqpDecoder.onStreamChunk owed due
    by_cases hnil : chunk.payload = []
    · simp [hnil]
    rw [if_neg hnil, if_neg hnil]
    by_cases htls : AmqpDecoder.isTls chunk = true
    · rw [if_pos htls, if_pos htls, AmqpDecoder.handleTls]
      by_cases hemitted : d.openEmitted = true
      · simp [hemitted]
      · simp only [hemitted]
        exact ⟨rfl, rfl⟩
    · rw [if_neg htls, if_neg htls]
      obtain ⟨hevents, hafter⟩ := handlePlaintext_eq d chunk
      rw [hevents, hafter]
      exact ⟨(guarded_decodeFound chunk).tokens_run d _, (guarded_decodeFound chunk).flag_run d _⟩
  exact ⟨fun d chunk => (hstep d chunk).1, fun d chunk => (hstep d chunk).2⟩

lemma mem_due_of_mem_owed {chunks : List StreamChunk} {w : Report} (h : w ∈ chunks.flatMap owed) :
    w ∈ chunks.flatMap due := by
  obtain ⟨chunk, hchunk, hw⟩ := mem_flatMap.1 h
  refine mem_flatMap.2 ⟨chunk, hchunk, ?_⟩
  unfold owed at hw
  split at hw
  · cases hw
  · exact hw

end Amqp

/-! ## Every session and its marker -/

/-- There is at most one of them. -/
def AllSame {ω : Type} (ws : List ω) : Prop := ∀ w ∈ ws, ∀ w' ∈ ws, w = w'

/-- In a run of the decoder of CoAP, of Diameter and of AMQP every encrypted session has exactly one
marker, and every AMQP session with an OPEN its broker, if and only if there is only one session
that is to be reported; for AMQP there is only one for both purposes, and it has a chunk with
bytes. -/
theorem markers_served_iff (datagrams : List StreamChunk) (coapEvents : List BronzeEvent)
    (coap : Coap.CoapDecoder)
    (hcoap : Checked.run Coap.CoapDecoder.onDatagram Coap.CoapDecoder.default datagrams =
      .ok (coapEvents, coap))
    (diameterChunks : List StreamChunk) (diameterEvents : List BronzeEvent)
    (diameter : Diameter.DiameterDecoder)
    (hdiameter : Checked.run Diameter.DiameterDecoder.onStreamChunk Diameter.DiameterDecoder.default
      diameterChunks = .ok (diameterEvents, diameter)) (amqpChunks : List StreamChunk) :
    (Once.Served (datagrams.flatMap Coap.dtlsSessions)
      (coapEvents.filterMap (markerOf "coap_dtls_session")) ↔
        AllSame (datagrams.flatMap Coap.dtlsSessions)) ∧
      (Once.Served (diameterChunks.flatMap Diameter.tlsSessions)
          (diameterEvents.filterMap (markerOf "diameter_tls_session")) ↔
        AllSame (diameterChunks.flatMap Diameter.tlsSessions)) ∧
      (Once.Served (amqpChunks.flatMap Amqp.due)
          ((Mealy.run Amqp.AmqpDecoder.onStreamChunk Amqp.AmqpDecoder.default
            amqpChunks).1.filterMap Amqp.reportOf) ↔
        (∀ w ∈ amqpChunks.flatMap Amqp.due, w ∈ amqpChunks.flatMap Amqp.owed) ∧
          AllSame (amqpChunks.flatMap Amqp.owed)) := by
  refine ⟨?_, ?_, ?_⟩
  · have htokens := Coap.guarded.tokens_run Coap.CoapDecoder.default datagrams
    rw [run_total _ hcoap] at htokens
    rw [htokens, if_neg (by decide), Once.served_take_one_iff fun _ h => h]
    exact and_iff_right fun _ h => h
  · have htokens := Diameter.guarded.tokens_run Diameter.DiameterDecoder.default diameterChunks
    rw [run_total _ hdiameter] at htokens
    rw [htokens, if_neg (by decide), Once.served_take_one_iff fun _ h => h]
    exact and_iff_right fun _ h => h
  · have htokens := Amqp.guarded.tokens_run Amqp.AmqpDecoder.default amqpChunks
    rw [htokens, if_neg (by decide)]
    exact Once.served_take_one_iff fun _ h => Amqp.mem_due_of_mem_owed h

def sessionChunk (key : String) (transport : TransportProtocol) (port : UInt16)
    (payload : List UInt8) : StreamChunk :=
  { hostChunk 0 transport 49152 port payload with sessionKey := key }

/-- One session of each kind. -/
theorem oneSession_served :
    ∃ coapEvents coap diameterEvents diameter,
      Checked.run Coap.CoapDecoder.onDatagram Coap.CoapDecoder.default
        [sessionChunk "a" .udp 5684 [22], sessionChunk "a" .udp 5684 [23]] =
          .ok (coapEvents, coap) ∧
      Checked.run Diameter.DiameterDecoder.onStreamChunk Diameter.DiameterDecoder.default
        [sessionChunk "a" .tcp 5868 [22], sessionChunk "a" .tcp 5868 [23]] =
          .ok (diameterEvents, diameter) ∧
      Once.Served ["a", "a"] (coapEvents.filterMap (markerOf "coap_dtls_session")) ∧
      Once.Served ["a", "a"] (diameterEvents.filterMap (markerOf "diameter_tls_session")) ∧
      Once.Served [.marker "a"] ((Mealy.run Amqp.AmqpDecoder.onStreamChunk Amqp.AmqpDecoder.default
        [sessionChunk "a" .tcp 5671 [22]]).1.filterMap Amqp.reportOf) := by
  refine ⟨_, _, _, _, rfl, rfl, ?_⟩
  obtain ⟨hcoap, hdiameter, hamqp⟩ := markers_served_iff
    [sessionChunk "a" .udp 5684 [22], sessionChunk "a" .udp 5684 [23]] _ _ rfl
    [sessionChunk "a" .tcp 5868 [22], sessionChunk "a" .tcp 5868 [23]] _
      _ rfl [sessionChunk "a" .tcp 5671 [22]]
  refine ⟨hcoap.2 ?_, hdiameter.2 ?_, hamqp.2 ⟨?_, ?_⟩⟩
  · exact show ∀ w ∈ ["a", "a"], ∀ w' ∈ ["a", "a"], w = w' by decide
  · exact show ∀ w ∈ ["a", "a"], ∀ w' ∈ ["a", "a"], w = w' by decide
  · exact fun w hw => hw
  · exact show ∀ w ∈ [Amqp.Report.marker "a"], ∀ w' ∈ [Amqp.Report.marker "a"], w = w' by decide

def openFrame : List UInt8 := [0, 0, 0, 11, 2, 0, 0, 0, 0x00, 0x53, 0x10]

/-- Of two sessions only the first is reported; after a TLS session the broker of a plaintext
session is not. -/
theorem secondSession_unserved :
    (Checked.run Coap.CoapDecoder.onDatagram Coap.CoapDecoder.default
        [sessionChunk "a" .udp 5684 [22], sessionChunk "b" .udp 5684 [22]]).map
        (fun result => result.1.filterMap (markerOf "coap_dtls_session")) = .ok ["a"] ∧
      (Checked.run Diameter.DiameterDecoder.onStreamChunk Diameter.DiameterDecoder.default
        [sessionChunk "a" .tcp 5868 [22], sessionChunk "b" .tcp 5868 [22]]).map
        (fun result => result.1.filterMap (markerOf "diameter_tls_session")) = .ok ["a"] ∧
      (Mealy.run Amqp.AmqpDecoder.onStreamChunk Amqp.AmqpDecoder.default
        [sessionChunk "a" .tcp 5671 [22], sessionChunk "b" .tcp 5671 [22],
          sessionChunk "c" .tcp 5672 openFrame]).1.filterMap Amqp.reportOf = [.marker "a"] ∧
      [sessionChunk "a" .tcp 5671 [22], sessionChunk "b" .tcp 5671 [22],
          sessionChunk "c" .tcp 5672 openFrame].flatMap Amqp.due =
            [.marker "a", .marker "b", .broker "c"] := by
  refine ⟨rfl, rfl, ?_, ?_⟩ <;> decide

end MarlinspikeDpi
