import MarlinspikeDpi.Smb2.Decoder

/-!
# The dialects of a NEGOTIATE request

The fixed part of the request is 36 bytes long.  The decoder looks for the dialects at its byte 28.

* `dialectsOffered_iff`: when the dialects are listed as they were sent.
-/

namespace MarlinspikeDpi.Smb2

open Engine Bytes Text List UInt16

def wordBytes (words : List UInt16) : List UInt8 := words.flatMap fun word => toLe 2 word.toNat

/-- A NEGOTIATE request. The last eight bytes of the fixed part say where the negotiate contexts are
(in older dialects, when the client was started). -/
structure NegotiateRequest where
  modeToGuid : List UInt8
  contextFields : List UInt16
  dialects : List UInt16
  contexts : List UInt8
  modeToGuid_length : modeToGuid.length = 24
  contextFields_length : contextFields.length = 4
  dialects_length : dialects.length < 2 ^ 16

namespace NegotiateRequest

variable (request : NegotiateRequest)

def front : List UInt8 := wordBytes [36, UInt16.ofNat request.dialects.length] ++ request.modeToGuid

def words : List UInt16 := request.contextFields ++ request.dialects

def bytes : List UInt8 := request.front ++ (wordBytes request.words ++ request.contexts)

lemma length_front : request.front.length = 28 := by
  simp [front, wordBytes, request.modeToGuid_length]

lemma length_words : request.words.length = 4 + request.dialects.length := by
  rw [words, length_append, request.contextFields_length]

end NegotiateRequest

lemma u16At_wordBytes (front after : List UInt8) {words : List UInt16} {i : Nat}
    (hi : i < words.length) :
    u16At (front ++ (wordBytes words ++ after)) (front.length + i * 2) = words[i] := by
  rw [u16At, wordBytes, slice_flatMap (fun word => length_toLe 2 word.toNat) front after hi,
    leNat_toLe words[i].toNat_lt, UInt16.ofNat_toNat]

/-! ## The list of dialects -/

def dialectText (dialect : UInt16) : String := "0x" ++ hexPad 4 dialect.toNat

def dialectsText (dialects : List UInt16) : String := ",".intercalate (dialects.map dialectText)

lemma dialectText_injective : Function.Injective fun dialect => (dialectText dialect).toList := by
  intro x y h
  have hdigits : hexDigits 4 x.toNat ++ [] = hexDigits 4 y.toNat ++ [] := by
    simpa [dialectText, hexPad] using h
  exact UInt16.toNat_inj.1 ((hexDigits_append_inj x.toNat_lt y.toNat_lt).1 hdigits).1

lemma comma_not_mem_dialectText (dialect : UInt16) : ',' ∉ (dialectText dialect).toList := by
  simp [dialectText, hexPad, not_mem_hexDigits (show ∀ d < 16, ',' ≠ hexDigit d by decide)]

lemma dialectsText_inj {xs ys : List UInt16} (hlength : xs.length = ys.length) :
    dialectsText xs = dialectsText ys ↔ xs = ys := by
  refine ⟨fun h => ?_, congrArg dialectsText⟩
  have hlists := congrArg String.toList h
  rw [dialectsText, dialectsText, String.toList_intercalate, String.toList_intercalate, map_map,
    map_map] at hlists
  exact Separated.eq_of_intercalate_map_eq ',' dialectText_injective comma_not_mem_dialectText
    hlength hlists

/-! ## What is offered -/

def dialectsOffered (event : BronzeEvent) : Option String :=
  match event.family with
  | .protocolTransaction tx => tx.attributes.get "dialects_offered"
  | _ => none

lemma dialectsOffered_onNegotiateRequest (d : Smb2Decoder) (chunk : StreamChunk) (p : Pdu)
    (request : NegotiateRequest) :
    (d.onNegotiateRequest chunk { p with body := request.bytes }).1.map dialectsOffered =
      [some (dialectsText (request.words.take request.dialects.length))] := by
  have hwords := request.length_words
  -- the count is the second word, and the words that are listed begin 28 bytes behind the header
  have hcount : (u16At request.bytes 2).toNat = request.dialects.length := by
    have hword :=
      u16At_wordBytes [] (request.modeToGuid ++ (wordBytes request.words ++ request.contexts))
      (show 1 < [36, ofNat request.dialects.length].length from Nat.one_lt_two)
    rw [nil_append, ← append_assoc] at hword
    exact (congrArg toNat hword).trans (toNat_ofNat_of_lt request.dialects_length)
  have hlength : 28 + request.dialects.length * 2 ≤ request.bytes.length := by
    simp [NegotiateRequest.bytes, wordBytes, request.length_front, hwords]
    omega
  have hlisted : ((List.range request.dialects.length).map fun i =>
      "0x" ++ hexPad 4 (u16At request.bytes (28 + i * 2)).toNat) =
        (request.words.take request.dialects.length).map dialectText := by
    refine ext_getElem (by simp [hwords]) fun i hi _ => ?_
    rw [length_map, length_range] at hi
    have hword := u16At_wordBytes request.front request.contexts
      (show i < request.words.length by omega)
    rw [request.length_front] at hword
    rw [getElem_map, getElem_map, getElem_range, getElem_take, dialectText, NegotiateRequest.bytes,
      hword]
  rw [Smb2Decoder.onNegotiateRequest]
  dsimp only
  rw [hcount, if_neg (by omega), if_neg (by omega), hlisted]
  exact congrArg (fun text => [text]) (OrderedMap.get_extend_concat OrderedMap.empty
    [("command", "negotiate"), ("direction", "request"),
      ("dialect_count", toString request.dialects.length)] _ _)

/-- The dialects are listed as they were sent exactly if they repeat the four words in front of
them. -/
theorem dialectsOffered_iff (d : Smb2Decoder) (chunk : StreamChunk) (p : Pdu)
    (request : NegotiateRequest) :
    (d.onNegotiateRequest chunk { p with body := request.bytes }).1.map dialectsOffered =
        [some (dialectsText request.dialects)] ↔
      request.dialects = (request.contextFields ++ request.dialects).take
        request.dialects.length := by
  rw [dialectsOffered_onNegotiateRequest, cons.injEq, Option.some.injEq, dialectsText_inj]
  · exact ⟨fun h => h.1.symm, fun h => ⟨h.symm, rfl⟩⟩
  · rw [length_take, NegotiateRequest.words, length_append]
    omega

/-! ## One dialect -/

def oneDialect : NegotiateRequest where
  modeToGuid := List.replicate 24 0
  contextFields := [0, 0, 0, 0]
  dialects := [0x0311]
  contexts := []
  modeToGuid_length := rfl
  contextFields_length := rfl
  dialects_length := by decide

/-- The dialect 0x0311 is offered, and 0x0000 is listed. -/
theorem oneDialect_misread :
    (Smb2Decoder.default.onNegotiateRequest (hostChunk 1 .tcp 50000 445 [])
        { readPdu [] with body := oneDialect.bytes }).1.map dialectsOffered = [some "0x0000"] ∧
      dialectsText oneDialect.dialects = "0x0311" := by
  decide

end MarlinspikeDpi.Smb2
