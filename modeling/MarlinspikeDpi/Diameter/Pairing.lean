import MarlinspikeDpi.Diameter.Decoder
import MarlinspikeDpi.Foundation.Correlator

/-!
# Answers and their requests

Hop-by-hop ids are chosen on each connection for itself, but the decoder keeps one table for all of
them, and messages with the error bit do not touch it.

* `answer_ok_iff`: when an answer takes the request of its own connection.
-/

namespace MarlinspikeDpi.Diameter

open Engine Bytes DiameterDecoder List AList Checked

/-! ## The messages of a run -/

abbrev Placed : Type := String × DiameterMessage

def messageOf (chunk : StreamChunk) : Option Placed :=
  if isTls chunk ∨ chunk.payload = [] ∨ byteAt chunk.payload 0 ≠ 1 then none
  else
    match parseDiameter chunk.payload with
    | .ok (some msg) => some (chunk.sessionKey, msg)
    | _ => none

def messagesOf (chunks : List StreamChunk) : List Placed := chunks.filterMap messageOf

def exchange (m : Placed) : Message (String × UInt32) Unit :=
  if m.2.isRequest then .request (m.1, m.2.hopByHopId) () else .response (m.1, m.2.hopByHopId)

def outstanding (messages : List Placed) : Set (String × UInt32) :=
  Correlator.outstanding (messages.map exchange)

lemma exists_mem_of_mem_outstanding {id : UInt32} {key : String} {messages : List Placed}
    (houtstanding : (key, id) ∈ outstanding messages) : ∃ m ∈ messages, m.1 = key ∧
      m.2.hopByHopId = id := by
  obtain ⟨r, front, back, hsplit, -⟩ := houtstanding
  have hmem : Message.request (key, id) r ∈ messages.map exchange := by
    rw [hsplit]
    exact mem_append_right _ mem_cons_self
  obtain ⟨m, hm, hrequest⟩ := mem_map.1 hmem
  refine ⟨m, hm, ?_⟩
  unfold exchange at hrequest
  split at hrequest
  · exact Prod.mk.inj (Message.request.inj hrequest).1
  · cases hrequest

def settle (pending : Table UInt32 String) (m : Placed) : Table UInt32 String :=
  (pair pending m.2).2

lemma pending_handleTls (d : DiameterDecoder) (chunk : StreamChunk) :
    (d.handleTls chunk).2.pending = d.pending := by
  unfold handleTls
  split <;> rfl

lemma pending_onStreamChunk (d : DiameterDecoder) (chunk : StreamChunk) :
    (total onStreamChunk d chunk).2.pending = (messageOf chunk).elim d.pending
      (settle d.pending) := by
  unfold total onStreamChunk messageOf
  by_cases htls : isTls chunk = true
  · rw [if_pos htls, if_pos (.inl htls)]
    exact pending_handleTls d chunk
  rw [if_neg htls, decodePlaintext]
  by_cases hnil : chunk.payload = []
  · rw [if_pos hnil, if_pos (.inr (.inl hnil))]
    rfl
  rw [if_neg hnil]
  by_cases hversion : byteAt chunk.payload 0 ≠ 1
  · rw [if_pos hversion, if_pos (.inr (.inr hversion))]
    rfl
  rw [if_neg hversion, if_neg (by simp [htls, hnil, not_not.1 hversion])]
  -- what is left is read as a message, if it is long enough
  cases parseDiameter _ with
  | error panic => rfl
  | ok found => cases found <;> rfl

lemma pending_run {chunks : List StreamChunk} {d d' : DiameterDecoder} {events : List BronzeEvent}
    (hrun : run onStreamChunk d chunks = .ok (events, d')) :
    d'.pending = (messagesOf chunks).foldl settle d.pending := by
  have hview := Mealy.view_run_eq_foldl_filterMap _
    pending messageOf settle pending_onStreamChunk d chunks
  rw [run_total _ hrun] at hview
  exact hview

/-! ## An id that belongs to one connection -/

/-- The id is used on the connection only, and never with the error bit. -/
def OwnId (messages : List Placed) (key : String) (id : UInt32) : Prop :=
  ∀ m ∈ messages, m.2.hopByHopId = id → m.1 = key ∧ m.2.isError = false

instance (messages : List Placed) (key : String)
    (id : UInt32) : Decidable (OwnId messages key id) :=
  inferInstanceAs (Decidable (∀ m ∈ messages, _))

lemma lookup_settle_of_ne {id : UInt32} {m : Placed} (pending : Table UInt32 String)
    (hid : m.2.hopByHopId ≠ id) : (settle pending m).lookup id = pending.lookup id := by
  unfold settle pair
  split
  · rfl
  · split
    · exact lookup_insert_ne (Ne.symm hid)
    · exact lookup_erase_ne (Ne.symm hid)

lemma isSome_lookup_settle {m : Placed} (pending : Table UInt32 String)
    (herror : m.2.isError = false) :
    ((settle pending m).lookup m.2.hopByHopId).isSome = m.2.isRequest := by
  unfold settle pair
  rw [herror, if_neg Bool.false_ne_true]
  by_cases hrequest : m.2.isRequest = true
  · rw [if_pos hrequest, lookup_insert, hrequest]
    rfl
  · rw [if_neg hrequest, lookup_erase, Bool.eq_false_of_not_eq_true hrequest]
    rfl

lemma isSome_lookup_foldl_settle {id : UInt32} {key : String} {messages : List Placed}
    (hown : OwnId messages key id) :
    ((messages.foldl settle ∅).lookup id).isSome = true ↔ (key, id) ∈ outstanding messages := by
  rw [outstanding, ← Correlator.mem_run_iff]
  induction messages using List.reverseRecOn with
  | nil => exact iff_of_false nofun (notMem_empty _)
  | append_singleton messages m ih =>
    have hbefore : OwnId messages key id := fun m' hm' => hown m' (mem_append_left _ hm')
    have hlast := hown m (mem_append_right _ (mem_singleton_self m))
    rw [foldl_append, foldl_cons, foldl_nil, map_append, Correlator.run_append, map_singleton]
    by_cases hid : m.2.hopByHopId = id
    · -- the message is on the connection of the id, and is counted in both tables
      obtain ⟨hkey, herror⟩ := hlast hid
      subst hid hkey
      rw [isSome_lookup_settle _ herror, exchange]
      by_cases hrequest : m.2.isRequest = true
      · rw [if_pos hrequest]
        exact iff_of_true hrequest ((mem_insert _).2 (.inl rfl))
      · rw [if_neg hrequest]
        exact iff_of_false hrequest fun hmem => (mem_erase.1 hmem).1 rfl
    · have hother : (key, id) ≠ (m.1, m.2.hopByHopId) := fun h => hid (congrArg Prod.snd h).symm
      rw [lookup_settle_of_ne _ hid, ih hbefore, exchange]
      split
      · exact ((mem_insert _).trans (or_iff_right hother)).symm
      · exact (mem_erase.trans (and_iff_right hother)).symm

/-! ## Answers -/

def transactionStatus (e : BronzeEvent) : Option String :=
  match e.family with
  | .protocolTransaction t => some t.status
  | _ => none

lemma transactionStatus_report (d : DiameterDecoder) (chunk : StreamChunk) (msg : DiameterMessage) :
    (d.report chunk msg).1.filterMap transactionStatus = [(pair d.pending msg).1] := by
  unfold report
  rw [filterMap_append]
  split <;> split <;> rfl

lemma onStreamChunk_of_messageOf {m : Placed} (d : DiameterDecoder) {chunk : StreamChunk}
    (hmessage : messageOf chunk = some m) :
    m.1 = chunk.sessionKey ∧ d.onStreamChunk chunk = .ok (d.report chunk m.2) := by
  unfold messageOf at hmessage
  split at hmessage
  · cases hmessage
  · rename_i hread
    push Not at hread
    obtain ⟨htls, hnil, hversion⟩ := hread
    rw [onStreamChunk, if_neg htls, decodePlaintext, if_neg hnil, if_neg (not_not.2 hversion)]
    split at hmessage
    · rename_i msg hparse
      cases hmessage
      rw [hparse]
      exact ⟨rfl, rfl⟩
    · cases hmessage

/-- An answer whose id belongs to its connection gets the status `ok` exactly if a request with the
id is outstanding there, and takes no request of another connection. -/
theorem answer_ok_iff (chunks : List StreamChunk) (before : List BronzeEvent) (d : DiameterDecoder)
    (hrun : Checked.run onStreamChunk DiameterDecoder.default chunks = .ok (before, d))
    (chunk : StreamChunk) (answer : Placed) (hmessage : messageOf chunk = some answer)
    (hanswer : answer.2.isRequest = false)
    (hown : OwnId (messagesOf chunks ++ [answer]) answer.1 answer.2.hopByHopId) :
    ∃ events d', d.onStreamChunk chunk = .ok (events, d') ∧
      (events.filterMap transactionStatus = ["ok"] ↔
        (answer.1, answer.2.hopByHopId) ∈ outstanding (messagesOf chunks)) ∧
      ∀ other id, other ≠ answer.1 → OwnId (messagesOf chunks) other id →
        (other, id) ∈ outstanding (messagesOf chunks) → (d'.pending.lookup id).isSome = true := by
  obtain ⟨-, hstep⟩ := onStreamChunk_of_messageOf d hmessage
  have hpending : d.pending = (messagesOf chunks).foldl settle ∅ := pending_run hrun
  have hbefore : OwnId (messagesOf chunks) answer.1 answer.2.hopByHopId :=
    fun m hm => hown m (mem_append_left _ hm)
  have herror : answer.2.isError = false :=
    (hown answer (mem_append_right _ (mem_singleton_self answer)) rfl).2
  refine ⟨(d.report chunk answer.2).1, (d.report chunk answer.2).2, hstep, ?_, ?_⟩
  · have hstatus : (pair d.pending answer.2).1 =
        if (d.pending.lookup answer.2.hopByHopId).isSome then "ok" else "request_only" := by
      rw [pair, herror, if_neg Bool.false_ne_true, hanswer, if_neg Bool.false_ne_true]
    rw [transactionStatus_report, hstatus, ← isSome_lookup_foldl_settle hbefore, ← hpending]
    by_cases hheld : (d.pending.lookup answer.2.hopByHopId).isSome = true
    · rw [if_pos hheld]
      exact iff_of_true rfl hheld
    · rw [if_neg hheld]
      exact iff_of_false (by decide) hheld
  · intro other id hother hownOther houtstanding
    have hheld := (isSome_lookup_foldl_settle hownOther).2 houtstanding
    have hid : answer.2.hopByHopId ≠ id := by
      rintro rfl
      -- the request that is outstanding on the other connection would have the id of the answer
      obtain ⟨m, hm, hkey, hhop⟩ := exists_mem_of_mem_outstanding houtstanding
      exact hother (hkey.symm.trans (hbefore m hm hhop).1)
    have hafter : (d.report chunk answer.2).2.pending = settle d.pending answer := rfl
    rw [hafter, lookup_settle_of_ne _ hid, hpending]
    exact hheld

/-! ## Two connections with the same id -/

/-- A device watchdog message on the connection from a port, with the hop-by-hop id 7. -/
def watchdog (srcPort : UInt16) (flags : UInt8) : StreamChunk :=
  let chunk := hostChunk 0 .tcp srcPort 3868 [1, 0, 0, 20, flags, 0, 1, 24, 0, 0, 0, 0, 0, 0, 0, 7,
    0, 0, 0, 9]
  { chunk with
    sessionKey := makeIpSessionKey chunk.context.srcIp chunk.context.dstIp srcPort 3868 "tcp" }

def watchdogAnswer : Placed :=
  ((watchdog 49152 0).sessionKey, readMessage (watchdog 49152 0).payload ∅)

theorem watchdogAnswer_paired :
    ∃ before d, Checked.run onStreamChunk DiameterDecoder.default [watchdog 49152 0x80] =
        .ok (before, d) ∧
      messageOf (watchdog 49152 0) = some watchdogAnswer ∧ watchdogAnswer.2.isRequest = false ∧
      OwnId (messagesOf [watchdog 49152 0x80] ++ [watchdogAnswer]) watchdogAnswer.1
        watchdogAnswer.2.hopByHopId ∧
      ∃ events d', d.onStreamChunk (watchdog 49152 0) = .ok (events, d') ∧
        (events.filterMap transactionStatus = ["ok"] ↔
          (watchdogAnswer.1, watchdogAnswer.2.hopByHopId) ∈
            outstanding (messagesOf [watchdog 49152 0x80])) ∧
        ∀ other id, other ≠ watchdogAnswer.1 → OwnId (messagesOf [watchdog 49152 0x80]) other id →
          (other, id) ∈ outstanding (messagesOf [watchdog 49152 0x80]) →
            (d'.pending.lookup id).isSome = true :=
  ⟨_, _, rfl, rfl, rfl, by decide,
    answer_ok_iff [watchdog 49152 0x80] _ _ rfl (watchdog 49152 0)
      watchdogAnswer rfl rfl (by decide)⟩

/-- A request on one connection, an answer on another, and the answer to the request. -/
def crossed : List StreamChunk := [watchdog 49152 0x80, watchdog 49153 0, watchdog 49152 0]

theorem crossed_mispaired :
    (watchdog 49152 0x80).sessionKey ≠ (watchdog 49153 0).sessionKey ∧
      (Checked.run onStreamChunk DiameterDecoder.default crossed).map
        (fun result => result.1.filterMap transactionStatus) =
          .ok ["request_only", "ok", "request_only"] := by
  refine ⟨by decide, rfl⟩

end MarlinspikeDpi.Diameter
