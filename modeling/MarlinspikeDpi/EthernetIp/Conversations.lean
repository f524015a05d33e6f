import MarlinspikeDpi.EthernetIp.Pairing

/-!
# One client that talks to several controllers

A read is parked under the client and the transaction number, whichever controller it is sent to.

* `reply_reads_own`: in an orderly run every reply finds its own read.
-/

namespace MarlinspikeDpi.EthernetIp

open List PcccDecoder

/-- A message between the client and a controller: a read sent to it, or a reply of it. -/
structure Turn where
  plc : IpAddr
  tns : UInt16
  message : PcccMessage

def converse (client : IpAddr) (turns : List Turn) : PcccDecoder :=
  turns.foldl (fun d turn => d.receive client (turn.tns, turn.message)) PcccDecoder.new

def Turn.leavesOpen (tns : UInt16) (turn : Turn) : Option (Option (IpAddr × Pending)) :=
  if turn.tns = tns then some (turn.message.leaves.map (turn.plc, ·)) else none

/-- The last read with the number and its controller, unless a reply with the number has come
since. -/
def latestOpen (turns : List Turn) (tns : UInt16) : Option (IpAddr × Pending) :=
  (lastWrite (Turn.leavesOpen tns) turns).join

/-- The read that the controller has to answer. -/
def openAt (plc : IpAddr) (turns : List Turn) (tns : UInt16) : Option Pending :=
  (latestOpen (turns.filter (·.plc = plc)) tns).map Prod.snd

/-- A read does not take a number that is open at another controller, and a reply answers a read. -/
def Turn.fits (before : List Turn) (turn : Turn) : Bool :=
  match turn.message with
  | .read _ => (latestOpen before turn.tns).all (·.1 = turn.plc)
  | .reply _ _ => (openAt turn.plc before turn.tns).isSome

/-- Every turn fits the ones before it. -/
def orderly (before : List Turn) : List Turn → Bool
  | [] => true
  | turn :: turns => turn.fits before && orderly (before ++ [turn]) turns

lemma latestOpen_concat (turns : List Turn) (turn : Turn) (tns : UInt16) :
    latestOpen (turns ++ [turn]) tns =
      if turn.tns = tns then turn.message.leaves.map (turn.plc, ·) else latestOpen turns tns := by
  rw [latestOpen, lastWrite_concat, Turn.leavesOpen]
  split <;> rfl

lemma openAt_concat (plc : IpAddr) (turns : List Turn) (turn : Turn) (tns : UInt16) :
    openAt plc (turns ++ [turn]) tns =
      if turn.plc = plc ∧ turn.tns = tns then turn.message.leaves else openAt plc turns tns := by
  rw [openAt, filter_append]
  by_cases hplc : turn.plc = plc
  · rw [filter_cons_of_pos (by simpa using hplc), filter_nil, latestOpen_concat]
    by_cases htns : turn.tns = tns
    · simp [hplc, htns, Function.comp_def]
    · simp [htns, openAt]
  · simp [hplc, openAt]

lemma lookup_converse (client : IpAddr) (turns : List Turn) (tns : UInt16) :
    (converse client turns).pending.lookup (client, tns) = (latestOpen turns tns).map Prod.snd := by
  induction turns using reverseRecOn with
  | nil => rfl
  | append_singleton turns turn ih =>
    have hstep : converse client (turns ++ [turn]) = (converse client turns).receive client
      (turn.tns, turn.message) := foldl_concat ..
    rw [hstep, lookup_receive, latestOpen_concat]
    by_cases htns : turn.tns = tns
    · simp [htns, Function.comp_def]
    · simpa [htns] using ih

/-- What is open at a controller is what was last left open. -/
def Unrivalled (turns : List Turn) : Prop := ∀ plc tns p, openAt plc turns tns = some p →
    latestOpen turns tns = some (plc, p)

lemma Unrivalled.concat {turns : List Turn} {turn : Turn} (h : Unrivalled turns)
    (hfits : turn.fits turns = true) : Unrivalled (turns ++ [turn]) := by
  intro plc tns p hopen
  rw [openAt_concat] at hopen
  rw [latestOpen_concat]
  split at hopen
  · rename_i hown
    rw [if_pos hown.2, hopen, hown.1]
    rfl
  · rename_i hother
    have hlatest := h plc tns p hopen
    by_cases htns : turn.tns = tns
    · -- a message to another controller would have disturbed the open read
      have hplc : turn.plc ≠ plc := fun hplc => hother ⟨hplc, htns⟩
      rw [Turn.fits, htns] at hfits
      split at hfits
      · rw [hlatest] at hfits
        exact absurd (of_decide_eq_true hfits).symm hplc
      · obtain ⟨q, hanswered⟩ := Option.isSome_iff_exists.1 hfits
        have hrival := (h _ _ _ hanswered).symm.trans hlatest
        cases hrival
        exact absurd rfl hplc
    · rw [if_neg htns, hlatest]

lemma Unrivalled.append {before turns after : List Turn} (h : Unrivalled before)
    (horderly : orderly before (turns ++ after) = true) :
    Unrivalled (before ++ turns) ∧ orderly (before ++ turns) after = true := by
  induction turns generalizing before with
  | nil => simpa using ⟨h, horderly⟩
  | cons turn turns ih =>
    obtain ⟨hfits, hrest⟩ := Bool.and_eq_true_iff.1 horderly
    simpa using ih (h.concat hfits) hrest

/-- In an orderly run every reply is reported with the read that its own controller had to
answer. -/
theorem reply_reads_own (client plc : IpAddr) (before after : List Turn) (tns : UInt16)
    (body : List UInt8)
    (horderly : orderly [] (before ++ ⟨plc, tns, .reply 0 body⟩ :: after) = true) :
    ∃ p, openAt plc before tns = some p ∧
      (converse client before).report client (tns, .reply 0 body) = p.readings body := by
  have hstart : Unrivalled [] := fun _ _ _ hopen => by cases hopen
  obtain ⟨hunrivalled, hrest⟩ := hstart.append horderly
  obtain ⟨p, hopen⟩ := Option.isSome_iff_exists.1 (Bool.and_eq_true_iff.1 hrest).1
  refine ⟨p, hopen, ?_⟩
  rw [report, lookup_converse]
  exact congrArg (fun o => (o.map Prod.snd).elim [] (·.readings body)) (hunrivalled plc tns p hopen)

/-! ## Two controllers -/

def plcAt (host : UInt8) : IpAddr := .v4 ⟨10, 0, 0, host⟩

/-- A read of an integer in file 7, with the transaction number 1. -/
def readTurn (host : UInt8) (element : UInt16) : Turn :=
  ⟨plcAt host, 1, .read ⟨1, { integerAddress with element }⟩⟩

/-- The number is used at one controller after the other. -/
theorem successive_reads_own :
    let before := [readTurn 2 0, ⟨plcAt 2, 1, .reply 0 [9, 0]⟩, readTurn 3 5]
    orderly [] (before ++ [⟨plcAt 3, 1, .reply 0 [8, 0]⟩]) = true ∧
      ∃ p, openAt (plcAt 3) before 1 = some p ∧
        (converse (plcAt 1) before).report (plcAt 1) (1, .reply 0 [8, 0]) = p.readings [8, 0] := by
  have horderly : orderly [] ([readTurn 2 0, ⟨plcAt 2, 1, .reply 0 [9, 0]⟩, readTurn 3 5] ++
      [⟨plcAt 3, 1, .reply 0 [8, 0]⟩]) = true := by
    decide
  exact ⟨horderly, reply_reads_own _ _ _ [] 1 [8, 0] horderly⟩

/-- With the number open at two controllers, the reply of the first is reported for the element that
the second was asked for. -/
theorem rival_read_reported :
    let before := [readTurn 2 0, readTurn 3 5]
    (openAt (plcAt 2) before 1).map (·.start.element) = some 0 ∧
      ((converse (plcAt 1) before).report (plcAt 1) (1, .reply 0 [9, 0])).map (·.1.element) =
        [5] := by
  decide

end MarlinspikeDpi.EthernetIp
