import MarlinspikeDpi.Engine.Decoder
import MarlinspikeDpi.Foundation.Table
import MarlinspikeDpi.Synchrophasor.Frames

/-!
# Data frames read with the layout of their source

The decoder keeps a layout for each source address and id code.
-/

namespace MarlinspikeDpi.Synchrophasor

open Engine

structure SessionKey where
  srcIp : IpAddr
  pdcIdcode : UInt16
deriving DecidableEq

structure SynchrophasorDecoder where
  configs : Table SessionKey ConfigFrame

def SynchrophasorDecoder.new : SynchrophasorDecoder := ⟨∅⟩

/-! ## Readings -/

structure Channel where
  name : Option String
  type : SynchrophasorChannelType
  value : PointValue

def double (x : Float) : PointValue := .double x.toBits

def pmuChannels (cfg : PmuConfig) (data : PmuData) : List Channel :=
  let phasors := data.phasors.mapIdx fun i phasor =>
    [⟨cfg.phasorNames[i]?, .phasorMagnitude, double phasor.magnitude⟩,
      ⟨cfg.phasorNames[i]?, .phasorAngle, double phasor.angle⟩]
  let analogs := data.analogs.mapIdx fun i v => ⟨cfg.analogNames[i]?, .analog, double v⟩
  let digitals := data.digitals.mapIdx fun i word =>
    -- the word is named after its first bit
    ⟨cfg.digitalNames[i * 16]?.map fun first => first ++ "_word" ++ toString i, .digital,
      .uint16 word⟩
  phasors.flatten ++ [⟨none, .frequency, double data.freq⟩,
    ⟨none, .frequencyDerivative, double data.dfreq⟩] ++ analogs ++ digitals

def envelopeUs (envelope : EventEnvelope) : UInt64 :=
  let nanos := envelope.timestamp.timestampNanosOpt.getD 0
  if nanos < 0 then 0 else UInt64.ofNat (nanos / 1000).toNat

def emitPmuReadings (cfg : PmuConfig) (data : PmuData) (envelope : EventEnvelope)
    (captureId : String) (sourceTs : Option UInt64) (observedTs : UInt64) : List BronzeEvent :=
  (pmuChannels cfg data).mapIdx fun idx channel =>
    newEvent captureId envelope (.processReading
      { sourceProtocol := "synchrophasor"
        pointId := .synchrophasorChannel cfg.idcode
          (if cfg.stationName = "" then none else some cfg.stationName)
            (UInt16.ofNat idx) channel.name
          channel.type
        value := channel.value
        quality := .iec61850Quality data.stat
        sourceTs
        observedTs })

def dataReadings (cfg : ConfigFrame) (header : CommonHeader) (body : List UInt8)
    (envelope : EventEnvelope) (captureId : String) : List BronzeEvent :=
  match parseDataFrame cfg.pmus body with
  | none => []
  | some (pmuData, _) =>
    (List.zipWith (fun pmuCfg pdata => emitPmuReadings pmuCfg pdata envelope captureId
      (some (header.timestampUs cfg.timeBase)) (envelopeUs envelope)) cfg.pmus pmuData).flatten

/-! ## The decoder -/

def SynchrophasorDecoder.handleFrame (d : SynchrophasorDecoder) (bytes : List UInt8)
    (srcIp : IpAddr)
    (envelope : EventEnvelope) (captureId : String) : List BronzeEvent × SynchrophasorDecoder :=
  match readCommonHeader bytes with
  | none => ([], d)
  | some (header, body) =>
    let key : SessionKey := ⟨srcIp, header.idcode⟩
    match header.frameType with
    | .config1 | .config2 | .config3 =>
      match parseConfigFrame body with
      | some (cfg, _) => ([], ⟨d.configs.insert key cfg⟩)
      | none => ([], d)
    | .data =>
      match d.configs.lookup key with
      | none => ([], d)
      | some cfg => (dataReadings cfg header body envelope captureId, d)
    | .header | .command => ([], d)

structure SynchrophasorDecoderWrapper where
  decoder : SynchrophasorDecoder

def SynchrophasorDecoderWrapper.default : SynchrophasorDecoderWrapper := ⟨SynchrophasorDecoder.new⟩

def chunkEnvelope (chunk : StreamChunk) : EventEnvelope :=
  buildEnvelope chunk.context chunk.toFrameInfo chunk.transport
    (some "synchrophasor") chunk.sessionKey

def SynchrophasorDecoderWrapper.handle (d : SynchrophasorDecoderWrapper) (chunk : StreamChunk) :
    List BronzeEvent × SynchrophasorDecoderWrapper :=
  if ¬ looksLikeSynchrophasor chunk.payload then ([], d)
  else
    let (events, decoder) :=
      d.decoder.handleFrame chunk.payload chunk.context.srcIp (chunkEnvelope chunk) chunk.captureId
    (events, ⟨decoder⟩)

instance : SessionDecoder SynchrophasorDecoderWrapper where
  name _ := "synchrophasor"
  interest _ := [.tcpPort 4712, .tcpPort 4713, .udpPort 4712, .udpPort 4713]
  onStreamChunk := SynchrophasorDecoderWrapper.handle
  onDatagram := SynchrophasorDecoderWrapper.handle

end MarlinspikeDpi.Synchrophasor
