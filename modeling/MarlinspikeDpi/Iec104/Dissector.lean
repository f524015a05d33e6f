import MarlinspikeDpi.Net

/-!
# The frames of an IEC 60870-5-104 stream

A frame begins with the byte 0x68 and the number of bytes that follow.
-/

namespace MarlinspikeDpi.Iec104

open Bytes

structure Iec104Fields where
  frameType : String
  sendSequence : Option UInt16 := none
  receiveSequence : Option UInt16 := none
  uFormat : Option String := none
  typeId : Option UInt8 := none
  causeOfTransmission : Option UInt16 := none
  commonAddress : Option UInt16 := none
  informationObjectAddress : Option UInt32 := none
  payload : List UInt8 := []
deriving DecidableEq

def iec104UFormatName (code : UInt8) : String :=
  match code with
  | 0x07 => "startdt_act"
  | 0x0B => "startdt_con"
  | 0x13 => "stopdt_act"
  | 0x23 => "stopdt_con"
  | 0x43 => "testfr_act"
  | 0x83 => "testfr_con"
  | _ => "u_format"

def u16FromLe (lo hi : UInt8) : UInt16 := UInt16.ofNat (leNat [lo, hi])

def iFields (control : List UInt8) (asdu : List UInt8) : Iec104Fields :=
  let identified := decide (6 ≤ asdu.length)
  { frameType := "i"
    sendSequence := some (u16FromLe (byteAt control 0) (byteAt control 1) >>> 1)
    receiveSequence := some (u16FromLe (byteAt control 2) (byteAt control 3) >>> 1)
    typeId := if identified then some (byteAt asdu 0) else none
    causeOfTransmission :=
      if identified then some (u16FromLe (byteAt asdu 2) (byteAt asdu 3) &&& 0x003F) else none
    commonAddress := if identified then some (u16FromLe (byteAt asdu 4) (byteAt asdu 5)) else none
    informationObjectAddress :=
      if identified ∧ 9 ≤ asdu.length then
        some
          ((byteAt asdu 6).toUInt32 ||| (byteAt asdu 7).toUInt32 <<<
            8 ||| (byteAt asdu 8).toUInt32 <<< 16)
      else none
    payload := asdu }

def sFields (control : List UInt8) : Iec104Fields :=
  { frameType := "s"
    receiveSequence := some (u16FromLe (byteAt control 2) (byteAt control 3) >>> 1) }

def uFields (control : List UInt8) : Iec104Fields :=
  { frameType := "u", uFormat := some (iec104UFormatName (byteAt control 0)) }

def parseIec104Frame (data : List UInt8) : Option Iec104Fields :=
  if data.length < 6 ∨ byteAt data 0 ≠ 0x68 then none
  else
    let control := slice data 2 4
    if byteAt control 0 &&& 0x01 = 0 then some (iFields control (data.drop 6))
    else if byteAt control 0 &&& 0x03 = 0x01 then some (sFields control)
    else if byteAt control 0 &&& 0x03 = 0x03 then some (uFields control)
    else none

/-- The loop from an offset on.  A frame has six bytes at least, so it ends within the fuel. -/
def parseFramesLoop (data : List UInt8) : Nat → Nat → List Iec104Fields
  | 0, _ => []
  | fuel + 1, offset =>
    if offset + 2 ≤ data.length then
      if byteAt data offset ≠ 0x68 then []
      else
        let apduLen := (byteAt data (offset + 1)).toNat
        if apduLen < 4 ∨ data.length < offset + 2 + apduLen then []
        else
          match parseIec104Frame (slice data offset (2 + apduLen)) with
          | some frame => frame :: parseFramesLoop data fuel (offset + (2 + apduLen))
          | none => []
    else []

def parseIec104Frames (data : List UInt8) : List Iec104Fields := parseFramesLoop data data.length 0

end MarlinspikeDpi.Iec104
