import MarlinspikeDpi.Bronze
import MarlinspikeDpi.Foundation.Cursor

/-!
# The frames of IEEE C37.118

A configuration frame tells, for each measurement unit (PMU), how many phasors, analogs and digital
words a data frame has and in which formats.
-/

namespace MarlinspikeDpi.Synchrophasor

open Text Cursor

/-! ## The common header -/

def syncByte : UInt8 := 0xAA

inductive FrameType where
  | data
  | header
  | config1
  | config2
  | config3
  | command
deriving DecidableEq

def FrameType.fromByte (b : UInt8) : Option FrameType :=
  match (b >>> 4) &&& 0x07 with
  | 0 => some .data
  | 1 => some .header
  | 2 => some .config1
  | 3 => some .config2
  | 4 => some .command
  | 5 => some .config3
  | _ => none

structure CommonHeader where
  frameType : FrameType
  version : UInt8
  (framesize idcode : UInt16)
  (soc fracsec : UInt32)
  timeQuality : UInt8

def CommonHeader.timestampUs (h : CommonHeader) (timeBase : UInt32) : UInt64 :=
  let secs := h.soc.toUInt64 * 1000000
  if timeBase = 0 then secs else secs + h.fracsec.toUInt64 * 1000000 / timeBase.toUInt64

def readCommonHeader : Cursor CommonHeader := do
  let sync0 ← u8
  if sync0 ≠ syncByte then failure
  else
    let sync1 ← u8
    match FrameType.fromByte sync1 with
    | none => failure
    | some frameType =>
      let framesize ← u16be
      let idcode ← u16be
      let soc ← u32be
      let fracsecWord ← u32be
      return {
        frameType
        version := sync1 &&& 0x0F
        framesize
        idcode
        soc
        fracsec := fracsecWord &&& 0x00FFFFFF
        timeQuality := (fracsecWord >>> 24).toUInt8 }

def looksLikeSynchrophasor (data : List UInt8) : Bool :=
  match data with
  | sync0 :: sync1 :: _ => decide (14 ≤ data.length) && sync0 == syncByte &&
    (FrameType.fromByte sync1).isSome
  | _ => false

/-! ## Configuration frames -/

structure PmuFormat where
  (phasorIsFloat analogIsFloat freqIsFloat phasorIsPolar : Bool)
deriving DecidableEq

def PmuFormat.fromWord (word : UInt16) : PmuFormat where
  freqIsFloat := word &&& 0x0001 != 0
  analogIsFloat := word &&& 0x0002 != 0
  phasorIsFloat := word &&& 0x0004 != 0
  phasorIsPolar := word &&& 0x0008 != 0

structure PmuConfig where
  idcode : UInt16
  stationName : String
  format : PmuFormat
  (phasorNames analogNames digitalNames : List String)
deriving DecidableEq

structure ConfigFrame where
  timeBase : UInt32
  pmus : List PmuConfig
  dataRate : UInt16
deriving DecidableEq

/-- A name of 16 bytes, without the spaces and zeros that fill it up. -/
def readChnam : Cursor String := do
  let bytes ← take 16
  return trimEndMatches (fun c => c == ' ' || c == Char.ofNat 0) ((utf8Strict bytes).getD "")

def readPmuConfig : Cursor PmuConfig := do
  let stationName ← readChnam
  let idcode ← u16be
  let formatWord ← u16be
  let phnmr ← u16be
  let annmr ← u16be
  let dgnmr ← u16be
  let phasorNames ← times phnmr.toNat readChnam
  let analogNames ← times annmr.toNat readChnam
  -- each digital word has a name for each of its bits
  let digitalNames ← times (dgnmr.toNat * 16) readChnam
  -- the units, the nominal frequency and the change count
  let _ ← take (4 * phnmr.toNat)
  let _ ← take (4 * annmr.toNat)
  let _ ← take (4 * dgnmr.toNat)
  let _ ← take 4
  return {
    idcode
    stationName
    format := PmuFormat.fromWord formatWord
    phasorNames
    analogNames
    digitalNames }

def parseConfigFrame : Cursor ConfigFrame := do
  let timeBaseWord ← u32be
  let numPmu ← u16be
  let pmus ← times numPmu.toNat readPmuConfig
  let dataRate ← u16be
  return { timeBase := timeBaseWord &&& 0x00FFFFFF, pmus, dataRate }

/-! ## Data frames -/

structure PhasorReading where
  (magnitude angle : Float)

structure PmuData where
  (idcode stat : UInt16)
  phasors : List PhasorReading
  (freq dfreq : Float)
  analogs : List Float
  digitals : List UInt16

def f32 : Cursor Float := do return (Float32.ofBits (← u32be)).toFloat

def i16 : Cursor Float := do return Float.ofInt (← u16be).toInt16.toInt

def readPhasor (fmt : PmuFormat) : Cursor PhasorReading := do
  if fmt.phasorIsPolar then
    if fmt.phasorIsFloat then
      let magnitude ← f32
      let angle ← f32
      return ⟨magnitude, angle⟩
    else
      let magnitude ← u16be
      let angle ← i16
      return ⟨Float.ofNat magnitude.toNat, angle * 1e-4⟩
  else
    let real ← if fmt.phasorIsFloat then f32 else i16
    let imag ← if fmt.phasorIsFloat then f32 else i16
    return ⟨(real * real + imag * imag).sqrt, imag.atan2 real⟩

def readFreq (fmt : PmuFormat) (isFreq : Bool) : Cursor Float := do
  if fmt.freqIsFloat then f32
  else
    let raw ← i16
    return if isFreq then raw / 1000.0 else raw / 100.0

def readAnalog (fmt : PmuFormat) : Cursor Float := if fmt.analogIsFloat then f32 else i16

def readPmuData (pmu : PmuConfig) : Cursor PmuData := do
  let stat ← u16be
  let phasors ← times pmu.phasorNames.length (readPhasor pmu.format)
  let freq ← readFreq pmu.format true
  let dfreq ← readFreq pmu.format false
  let analogs ← times pmu.analogNames.length (readAnalog pmu.format)
  let digitals ← times (pmu.digitalNames.length / 16) u16be
  return {
    idcode := pmu.idcode
    stat
    phasors
    freq
    dfreq
    analogs
    digitals }

def parseDataFrame : List PmuConfig → Cursor (List PmuData)
  | [] => return []
  | pmu :: pmus => do
      let data ← readPmuData pmu
      let rest ← parseDataFrame pmus
      return data :: rest

end MarlinspikeDpi.Synchrophasor
