import MarlinspikeDpi.Net

/-!
# The first packet of an MQTT chunk

A fixed header with the packet type and a length of one to four bytes, then the packet.
-/

namespace MarlinspikeDpi.Mqtt

open Bytes Text

structure MqttFields where
  packetType : UInt8
  packetTypeName : String
  protocolName : Option String
  protocolVersion : Option UInt8
  (clientId username topic : Option String)
  qos : Option UInt8
  (retain cleanSession : Option Bool)
  /-- What follows the topic of a PUBLISH packet. -/
  payload : Option (List UInt8)

def packetTypeName (ptype : UInt8) : String :=
  if ptype = 1 then "CONNECT"
  else if ptype = 2 then "CONNACK"
  else if ptype = 3 then "PUBLISH"
  else if ptype = 4 then "PUBACK"
  else if ptype = 5 then "PUBREC"
  else if ptype = 6 then "PUBREL"
  else if ptype = 7 then "PUBCOMP"
  else if ptype = 8 then "SUBSCRIBE"
  else if ptype = 9 then "SUBACK"
  else if ptype = 10 then "UNSUBSCRIBE"
  else if ptype = 11 then "UNSUBACK"
  else if ptype = 12 then "PINGREQ"
  else if ptype = 13 then "PINGRESP"
  else if ptype = 14 then "DISCONNECT"
  else if ptype = 15 then "AUTH"
  else "UNKNOWN"

/-! ## Lengths and texts -/

/-- Seven bits a byte, least significant first; the last byte has a clear top bit. -/
def remainingLengthFrom (value multiplier consumed : Nat) : List UInt8 → Option (Nat × Nat)
  | [] => none
  | b :: rest =>
    let value := value + (b &&& 0x7F).toNat * multiplier
    if b &&& 0x80 = 0 then some (value, consumed + 1)
    else remainingLengthFrom value (multiplier * 128) (consumed + 1) rest

/-- The length and the number of its bytes, of which there are four at most. -/
def decodeRemainingLength (data : List UInt8) : Option (Nat × Nat) :=
  remainingLengthFrom 0 1 0 (data.take 4)

def readMqttString (data : List UInt8) : Option (String × Nat) :=
  if data.length < 2 then none
  else
    let len := (be16 (byteAt data 0) (byteAt data 1)).toNat
    if data.length < 2 + len then none
    else some (utf8Lossy (slice data 2 len), 2 + len)

/-! ## Packets -/

/-- Where the client id starts: version 5 has properties before it. -/
def clientIdStart (version : UInt8) (rest : List UInt8) : Option Nat :=
  if version = 5 ∧ 4 < rest.length then do
    let (propLen, propBytes) ← decodeRemainingLength (rest.drop 4)
    return 4 + propBytes + propLen
  else some 4

/-- Behind the will's properties, topic and message, if there is a will. -/
def skipWill (version connectFlags : UInt8) (rest : List UInt8) (offset : Nat) : Option Nat :=
  if connectFlags &&& 0x04 ≠ 0 ∧ offset < rest.length then
    let offset :=
      if version = 5 then
        match decodeRemainingLength (rest.drop offset) with
        | some (propLen, propBytes) => offset + propBytes + propLen
        | none => offset
      else offset
    -- properties that reach beyond the packet make the whole packet unreadable
    if rest.length < offset then none
    else
      let offset :=
        match readMqttString (rest.drop offset) with
        | some (_, topicLen) => offset + topicLen
        | none => offset
      if offset + 2 < rest.length then
        some (offset + 2 + (be16 (byteAt rest offset) (byteAt rest (offset + 1))).toNat)
      else some offset
  else some offset

def parseConnect (fields : MqttFields) (packet : List UInt8) : Option MqttFields := do
  let (protoName, consumed) ← readMqttString packet
  let rest := packet.drop consumed
  if rest = [] then return fields
  let version := byteAt rest 0
  let fields :=
    { fields with protocolName := some protoName, protocolVersion := some version }
  if rest.length < 4 then return fields
  let connectFlags := byteAt rest 1
  let fields := { fields with cleanSession := some (connectFlags &&& 0x02 ≠ 0) }
  let offset ← clientIdStart version rest
  let clientId? := if offset < rest.length then readMqttString (rest.drop offset) else none
  let offset ← skipWill version connectFlags rest (offset + (clientId?.map Prod.snd).getD 0)
  let username? :=
    if connectFlags &&& 0x80 ≠ 0 ∧ offset < rest.length then readMqttString (rest.drop offset)
    else none
  return { fields with clientId := clientId?.map Prod.fst, username := username?.map Prod.fst }

def parsePublish (fields : MqttFields) (fixedByte : UInt8) (packet : List UInt8) : MqttFields :=
  let qos := (fixedByte >>> 1) &&& 0x03
  let fields := { fields with retain := some (fixedByte &&& 0x01 ≠ 0), qos := some qos }
  match readMqttString packet with
  | none => fields
  | some (topic, consumed) =>
    let fields := { fields with topic := some topic }
    -- only higher qualities of service have a packet identifier
    if qos = 0 then { fields with payload := some (packet.drop consumed) }
    else if packet.length < consumed + 2 then fields
    else { fields with payload := some (packet.drop (consumed + 2)) }

def parseSubscribe (fields : MqttFields) (packet : List UInt8) : MqttFields :=
  if 4 ≤ packet.length then
    match readMqttString (packet.drop 2) with
    | some (topic, _) => { fields with topic := some topic }
    | none => fields
  else fields

def parseFields (data : List UInt8) : Option MqttFields := do
  if data = [] then none
  let fixedByte := byteAt data 0
  let packetType := (fixedByte >>> 4) &&& 0x0F
  if packetType = 0 then none
  let (remainingLength, rlBytes) ← decodeRemainingLength data.tail
  -- a packet that is not complete is read as far as it goes
  let packet := slice data (1 + rlBytes) remainingLength
  let fields : MqttFields :=
    { packetType, packetTypeName := packetTypeName packetType, protocolName := none,
      protocolVersion := none, clientId := none, username := none, topic := none, qos := none,
      retain := none, cleanSession := none, payload := none }
  if packetType = 1 then parseConnect fields packet
  else if packetType = 3 then return parsePublish fields fixedByte packet
  else if packetType = 8 then return parseSubscribe fields packet
  else return fields

end MarlinspikeDpi.Mqtt
