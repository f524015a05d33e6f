import MarlinspikeDpi.Handshakes

/-!
# The transaction and the cuts of the stream

The transaction is emitted with the list of the offered types, so the choice of the client, which
comes in a chunk of its own, is never in it.

* `cuts_independent_iff`: when the transaction does not depend on the cuts.
-/

namespace MarlinspikeDpi.Vnc

open Engine Bytes Text List Banner VncDecoder

/-- How the negotiation goes on after the two versions. -/
inductive Outcome where
  /-- Version 3.3: a type and, if it is the invalid one, a reason. -/
  | direct (type : Fin 3) (reason : List UInt8)
  /-- Version 3.7 and later: a list of types, and the choice of the client. -/
  | offered (types : List UInt8) (some : types ≠ []) (fits : types.length < 2 ^ 8) (choice : UInt8)
  /-- Version 3.7 and later: no types, and a reason. -/
  | refused (reason : List UInt8)

namespace Outcome

def fromServer : Outcome → List UInt8
  | direct type reason => toBe 4 type ++ reason
  | offered types _ _ _ => UInt8.ofNat types.length :: types
  | refused reason => 0 :: reason

def fromClient : Outcome → List UInt8
  | offered _ _ _ choice => [choice]
  | _ => []

def isDirect : Outcome → Bool
  | direct _ _ => true
  | _ => false

def isOffered : Outcome → Bool
  | offered _ _ _ _ => true
  | _ => false

end Outcome

/-- A connection, its four messages cut into chunks, and a chunk with all of them. -/
structure Connection where
  (server client : Banner)
  outcome : Outcome
  version : outcome.isDirect = true ↔ server.major = 3 ∧ server.minor ≤ 3
  (first second third fourth : List StreamChunk)
  carries : [first, second, third, fourth].map reader.stream =
    [server.encode, client.encode, outcome.fromServer, outcome.fromClient]
  whole : StreamChunk
  carriesAll : whole.payload = server.encode ++ client.encode ++ outcome.fromServer ++
    outcome.fromClient

open Connection

def transactions (events : List BronzeEvent) : List ProtocolTransaction :=
  events.filterMap fun event =>
    match event.family with
    | .protocolTransaction t => some t
    | _ => none

namespace Connection

variable (x : Connection)

/-- The transaction is the one of the stream in a single chunk. -/
def Independent : Prop :=
  transactions (Mealy.run VncDecoder.onStreamChunk .default
    (x.first ++ x.second ++ x.third ++ x.fourth)).1 =
    transactions (VncDecoder.onStreamChunk .default x.whole).1

/-! ## Reading a connection -/

def last : State :=
  .awaitingSecurityTypes (toString x.server.major ++ "." ++ toString x.server.minor)
    (clientVersion x.client.encode) x.server.major x.server.minor

variable {x}

lemma leads (hreadable : x.server.Readable) (piece : List UInt8) :
    Staged.Leads reader (fun _ => true) x.last piece .awaitingServerBanner
      (x.server.encode ++ (x.client.encode ++ piece)) :=
  .stage (stage_server hreadable) (.stage (x.client.stage_client _ _ _) .here)

/-- In the end the decoder looks at the last piece and at some of what comes behind it. -/
theorem events_of_leads (tail : List UInt8) {last : State} {piece bytes : List UInt8}
    (hleads : Staged.Leads reader (fun _ => true) last piece .awaitingServerBanner bytes)
    (hlast : Staged.Last reader (fun _ => true) last piece)
    (hsome : bytes ≠ [])
    (hserver : x.server.encode ++ (x.client.encode ++ x.outcome.fromServer) = bytes ++ tail) :
    (∃ chunk more, more <+: tail ∧
      (Mealy.run onStreamChunk .default (x.first ++ x.second ++ x.third ++ x.fourth)).1 =
        (reader.move chunk last (piece ++ more)).events) ∧
    (onStreamChunk .default x.whole).1 =
      (reader.move x.whole last (piece ++ (tail ++ x.outcome.fromClient))).events := by
  have hcarries := x.carries
  simp only [map_cons, map_nil, List.cons.injEq] at hcarries
  have hstream : reader.stream (x.first ++ x.second ++ x.third) = bytes ++ tail := by
    rw [← hserver, ← hcarries.1, ← hcarries.2.1, ← hcarries.2.2.1]
    simp only [Staged.Reader.stream, flatMap_append, append_assoc]
  have hwhole : reader.payload x.whole = bytes ++ (tail ++ x.outcome.fromClient) := by
    refine x.carriesAll.trans ?_
    rw [← append_assoc, ← hserver]
    simp
  obtain ⟨chunk, more, hmore, hrun⟩ :=
    hleads.run hlast _ _ (p := default) (length_pos_iff.2 hsome) hstream
  have hfeed := hleads.feed hlast hsome hwhole
  rw [filter_true, filter_true] at hrun hfeed
  exact ⟨⟨chunk, more, hmore, hrun⟩, hfeed⟩

lemma independent_of_unreadable (h : ¬ x.server.Readable) : x.Independent := by
  obtain ⟨⟨chunk, more, -, hrun⟩, hwhole⟩ :=
    x.events_of_leads _ .here (last_unreadable h) (cons_ne_nil _ _) rfl
  rw [Independent, hrun, hwhole, move_unreadable h, move_unreadable h]
  rfl

lemma isNew (h : x.outcome.isDirect = false) : ¬ (x.server.major = 3 ∧ x.server.minor ≤ 3) :=
  fun hold =>
  absurd (h.symm.trans (x.version.2 hold)) Bool.noConfusion

lemma independent_of_direct {reason : List UInt8} (hreadable : x.server.Readable) {type : Fin 3}
    (h : x.outcome = .direct type reason) : x.Independent := by
  have hold := x.version.1 (by rw [h]; rfl)
  obtain ⟨⟨chunk, more, -, hrun⟩, hwhole⟩ :=
    x.events_of_leads reason (leads hreadable _) (last_direct hold type) (cons_ne_nil _ _)
      (by simp [h, Outcome.fromServer])
  rw [Independent, hrun, hwhole, last, move_toBe hold, move_toBe hold]
  rfl

lemma independent_of_refused {reason : List UInt8} (hreadable : x.server.Readable)
    (h : x.outcome = .refused reason) : x.Independent := by
  have hnew := x.isNew (by rw [h]; rfl)
  obtain ⟨⟨chunk, more, -, hrun⟩, hwhole⟩ :=
    x.events_of_leads reason (leads hreadable _) (last_offered hnew [] (by decide))
      (cons_ne_nil _ _) (by rw [h]; rfl)
  have hsame (more : List UInt8) (sv cv : String) :
      (offeredHandshake sv cv [] more).1 = (offeredHandshake sv cv [] []).1 := by
    cases more <;> rfl
  rw [Independent, hrun, hwhole, last, move_offered hnew [] (by decide),
    move_offered hnew [] (by decide)]
  simp only [hsame]
  rfl

/-! ## The choice of the client -/

lemma chosen_of_short {types : List UInt8} (serverVersion clientVersion : String)
    (hsome : types ≠ []) (behind : List UInt8) (hshort : behind.length < 4) :
    (offeredHandshake serverVersion clientVersion types behind).1.chosenSecurityType =
        behind.head?.map securityTypeName ∧
      (offeredHandshake serverVersion clientVersion types behind).1.invalidReason = none := by
  have hreason : (if types.contains 0 ∧ types.length ≤ 1 then invalidReason behind
      else (none, behind)) = (none, behind) := by
    rw [invalidReason, if_pos hshort, ite_self]
  unfold offeredHandshake
  rw [hreason]
  cases behind <;> simp [hsome]

lemma get_chosen (chunk : StreamChunk) {h : Handshake} (hreason : h.invalidReason = none) :
    ∃ t, transactions (emitHandshake chunk h) = [t] ∧
      t.attributes.get "chosen_security_type" = h.chosenSecurityType := by
  refine ⟨_, rfl, ?_⟩
  rw [hreason, Option.toList_none, map_nil, append_nil]
  cases h.chosenSecurityType with
  | some chosen => exact OrderedMap.get_extend_concat _ _ _ _
  | none =>
    refine OrderedMap.get_extend_of_not_mem ?_
    split <;> simp

lemma not_independent_of_offered {types : List UInt8} (hreadable : x.server.Readable)
    {hsome : types ≠ []}
    {hfits : types.length < 2 ^ 8} {choice : UInt8}
    (h : x.outcome = .offered types hsome hfits choice) :
    ¬ x.Independent := by
  have hnew := x.isNew (by rw [h]; rfl)
  obtain ⟨⟨chunk, more, hmore, hrun⟩, hwhole⟩ :=
    x.events_of_leads [] (leads hreadable _) (last_offered hnew types hfits) (cons_ne_nil _ _)
      (by simp [h, Outcome.fromServer])
  obtain rfl := prefix_nil.1 hmore
  rw [Independent, hrun, hwhole, last, move_offered hnew types hfits, move_offered hnew types hfits,
    h]
  intro heq
  obtain ⟨hnone, hreason⟩ := chosen_of_short _ (clientVersion _) hsome [] (by decide)
  obtain ⟨hchosen, hreason'⟩ :=
    chosen_of_short _ (clientVersion _) hsome [choice] (Nat.one_lt_succ_succ 2)
  obtain ⟨t, ht, hget⟩ := get_chosen chunk hreason
  obtain ⟨t', ht', hget'⟩ := get_chosen x.whole hreason'
  have hsame : t = t' := (List.cons.inj (ht.symm.trans (heq.trans ht'))).1
  rw [hsame, hget', hchosen, hnone] at hget
  cases hget

end Connection

/-- The transaction does not depend on the cuts exactly if no types are offered, or the version is
not read at all. -/
theorem cuts_independent_iff (x : Connection) : x.Independent ↔ x.server.Readable →
    x.outcome.isOffered = false := by
  constructor
  · intro hindependent hreadable
    cases h : x.outcome with
    | offered types hsome hfits choice =>
      exact absurd hindependent (not_independent_of_offered hreadable h)
    | _ => rfl
  · intro h
    by_cases hreadable : x.server.Readable
    · cases houtcome : x.outcome with
      | direct type reason => exact independent_of_direct hreadable houtcome
      | refused reason => exact independent_of_refused hreadable houtcome
      | offered types hsome hfits choice =>
        have hoffered := h hreadable
        rw [houtcome] at hoffered
        cases hoffered
    · exact independent_of_unreadable hreadable

/-- A connection of version 3.8 with the types 1 and 2, of which the client takes the second. -/
def smallConnection : Connection where
  server := rfb38
  client := rfb38
  outcome := .offered [1, 2] (by decide) (by decide) 2
  version := by decide
  first := [hostChunk 0 .tcp 5900 49152 rfb38.encode]
  second := [hostChunk 1 .tcp 49152 5900 rfb38.encode]
  third := [hostChunk 2 .tcp 5900 49152 [2, 1, 2]]
  fourth := [hostChunk 3 .tcp 49152 5900 [2]]
  carries := rfl
  whole := hostChunk 0 .tcp 5900 49152 (rfb38.encode ++ rfb38.encode ++ [2, 1, 2] ++ [2])
  carriesAll := rfl

theorem smallConnection_depends : ¬ smallConnection.Independent :=
  not_independent_of_offered (by decide) rfl

end MarlinspikeDpi.Vnc
