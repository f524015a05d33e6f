import MarlinspikeDpi.Bronze
import MarlinspikeDpi.Output.LineProtocol

/-!
# Process readings as InfluxDB line protocol

The model of `output/influx_line.rs`.

* `renderMany_recovered_iff`: which readings are read back from the output.
-/

namespace MarlinspikeDpi.Influx

open LineProtocol List

/-- The display form of a finite double, from its bit pattern. -/
class FloatDisplay where
  display : UInt64 → FloatToken

@[reducible] def FloatDisplay.sample : FloatDisplay where
  display := fun _ => ⟨['0', '.', '0'], by decide⟩

/-! ## The renderers -/

def modbusKindStr : ModbusRegKind → String
  | .coil => "coil"
  | .discreteInput => "discrete_input"
  | .holdingRegister => "holding_register"
  | .inputRegister => "input_register"

def synphasorKindStr : SynchrophasorChannelType → String
  | .phasorMagnitude => "phasor_magnitude"
  | .phasorAngle => "phasor_angle"
  | .frequency => "frequency"
  | .frequencyDerivative => "frequency_derivative"
  | .analog => "analog"
  | .digital => "digital"

def nodeIdKindStr : OpcUaNodeId → String
  | .numeric _ => "numeric"
  | .string _ => "string"
  | .stringRaw _ => "string_raw"
  | .guid _ => "guid"
  | .opaqueBytes _ => "opaque"

def nodeIdLowCardinalityRepr : OpcUaNodeId → Option String
  | .numeric n => some (toString n.toNat)
  | .string s => some s
  | .stringRaw b | .opaqueBytes b => some (Text.hexEncode b)
  | .guid g => some (Text.hexEncode g)

def boolStr (b : Bool) : String :=
  if b then "t" else "f"

def collectTags (reading : ProcessReading) : List (String × String) :=
  match reading.pointId with
  | .modbusRegister unitId addr registerType =>
    [("unit", toString unitId.toNat), ("addr", toString addr.toNat),
      ("register_type", modbusKindStr registerType)]
  | .opcUaNode namespaceIndex identifier =>
    [("ns", toString namespaceIndex.toNat), ("node_id_kind", nodeIdKindStr identifier)] ++
      ((nodeIdLowCardinalityRepr identifier).map fun repr => ("node_id", repr)).toList
  | .cipSymbol symbol _ => [("symbol", symbol)]
  | .cipPath classId instanceId attributeId =>
    [("class", "0x" ++ Text.hexPad 4 classId.toNat), ("instance", toString instanceId.toNat)] ++
      (attributeId.map fun a => ("attribute", toString a.toNat)).toList
  | .dnpPoint group variation index =>
    [("group", toString group.toNat), ("variation", toString variation.toNat),
      ("index", toString index.toNat)]
  | .iec104Ioa commonAddr ioa typeId =>
    [("common_addr", toString commonAddr.toNat), ("ioa", toString ioa.toNat),
      ("type_id", toString typeId.toNat)]
  | .iec61850Reference reference _ => [("reference", reference)]
  | .sparkplugMetric groupId edgeNodeId deviceId metricName _ aliasId =>
    [("group", groupId), ("edge", edgeNodeId)] ++ (deviceId.map fun d => ("device", d)).toList ++
      (match metricName with
      | some name => [("metric", name)]
      | none => (aliasId.map fun a => ("metric_alias", toString a.toNat)).toList)
  | .hartCommand command slot =>
    [("command", toString command.toNat)] ++ (slot.map fun s => ("slot", toString s.toNat)).toList
  | .pcccAddress fileType fileNumber element subElement =>
    [("file_type", "0x" ++ Text.hexPad 2 fileType.toNat),
      ("file_number", toString fileNumber.toNat), ("element", toString element.toNat)] ++
      (subElement.map fun s => ("sub_element", toString s.toNat)).toList
  | .synchrophasorChannel idcode stationName channelIndex channelName channelType =>
    [("idcode", toString idcode.toNat)] ++ (stationName.map fun s => ("station", s)).toList ++
      [("channel_index", toString channelIndex.toNat)] ++
      (channelName.map fun n => ("channel", n)).toList ++
      [("channel_type", synphasorKindStr channelType)]

/-- Not-a-number and the infinities, which have all exponent bits set, are written as zero. -/
def formatFloat [FloatDisplay] (bits : UInt64) : FloatToken :=
  if (bits >>> 52) &&& 0x7FF = 0x7FF then ⟨['0', '.', '0'], by decide⟩
    else FloatDisplay.display bits

/-- The family of the three escaping loops: a backslash before every character of a set. -/
def pushEscaped (special : Char → Bool) (line s : String) : String :=
  line ++ String.ofList (s.toList.flatMap fun c => if special c then ['\\', c] else [c])

def formatString (s : String) : String :=
  (pushEscaped (fun c => c == '"' || c == '\\') "\"" s).push '"'

def pushMeasurement : String → String → String := pushEscaped fun c => c == ',' || c == ' '

def pushTagComponent : String → String → String :=
  pushEscaped fun c => c == ',' || c == '=' || c == ' '

def pushTagKey : String → String → String := pushTagComponent

def pushTagValue : String → String → String := pushTagComponent

def pushFieldKey : String → String → String := pushTagComponent

def fieldForValue [FloatDisplay] : PointValue → Option (String × String)
  | .null => none
  | .bool b => some ("value", if b then "t" else "f")
  | .int8 n => some ("value", toString n.toInt ++ "i")
  | .int16 n => some ("value", toString n.toInt ++ "i")
  | .int32 n => some ("value", toString n.toInt ++ "i")
  | .int64 n => some ("value", toString n.toInt ++ "i")
  | .uint8 n => some ("value", toString n.toNat ++ "u")
  | .uint16 n => some ("value", toString n.toNat ++ "u")
  | .uint32 n => some ("value", toString n.toNat ++ "u")
  | .uint64 n => some ("value", toString n.toNat ++ "u")
  | .float bits => some ("value", String.ofList
    (formatFloat (Float32.ofBits bits).toFloat.toBits).1)
  | .double bits => some ("value", String.ofList (formatFloat bits).1)
  | .text s => some ("value", formatString s)
  | .bytes b => some ("value", formatString (Text.hexEncode b))
  | .dateTime us => some ("value", toString us.toNat ++ "u")

def qualityKindStr : RawQuality → String
  | .none => "none"
  | .dnpFlags _ => "dnp_flags"
  | .iec104Qds _ => "iec104_qds"
  | .opcUaStatusCode _ => "opcua_status_code"
  | .iec61850Quality _ => "iec61850_quality"
  | .sparkplugQuality .. => "sparkplug_quality"
  | .cipGeneralStatus _ => "cip_general_status"
  | .hartFieldDeviceStatus _ => "hart_field_device_status"

def qualityFields (q : RawQuality) : List (String × String) :=
  ("quality_kind", formatString (qualityKindStr q)) ::
    match q with
    | .none => []
    | .dnpFlags b => [("quality_value", toString b.toNat ++ "u")]
    | .iec104Qds b => [("quality_value", toString b.toNat ++ "u")]
    | .opcUaStatusCode c => [("quality_value", toString c.toNat ++ "u")]
    | .iec61850Quality w => [("quality_value", toString w.toNat ++ "u")]
    | .cipGeneralStatus b => [("quality_value", toString b.toNat ++ "u")]
    | .hartFieldDeviceStatus b => [("quality_value", toString b.toNat ++ "u")]
    | .sparkplugQuality value isHistorical isTransient isNull =>
      (value.map fun v => ("quality_value", toString v.toNat ++ "u")).toList ++
        [("is_historical", boolStr isHistorical), ("is_transient", boolStr isTransient),
          ("is_null", boolStr isNull)]

def pushTag (line : String) (tag : String × String) : String :=
  pushTagValue ((pushTagKey (line.push ',') tag.1).push '=') tag.2

/-- One round of the field loop, with the flag that a field was written. -/
def pushField (state : String × Bool) (field : String × String) : String × Bool :=
  ((pushFieldKey (if state.2 then state.1.push ',' else state.1) field.1).push '=' ++ field.2, true)

/-- Nanoseconds since the epoch: when the device sampled, or else when the capture saw it. -/
def timestampNs (reading : ProcessReading) : Nat :=
  min ((reading.sourceTs.getD reading.observedTs).toNat * 1000) (2 ^ 64 - 1)

def renderReading [FloatDisplay] (reading : ProcessReading) : String :=
  let line := (collectTags reading).foldl pushTag (pushMeasurement "" reading.sourceProtocol)
  let line := line.push ' '
  let start := match fieldForValue reading.value with
    | some (key, repr) => ((pushFieldKey line key).push '=' ++ repr, true)
    | none => (line, false)
  let written := (qualityFields reading.quality).foldl pushField start
  -- a line needs a field
  let line := if written.2 then written.1 else pushFieldKey written.1 "value_present" ++ "=false"
  line ++ " " ++ toString (timestampNs reading)

def reading? (event : BronzeEvent) : Option ProcessReading :=
  match event.family with
  | .processReading reading => some reading
  | _ => none

def renderProcessReading [FloatDisplay] (event : BronzeEvent) : Option String :=
  (reading? event).map renderReading

def pushEvent [FloatDisplay] (out : String) (event : BronzeEvent) : String :=
  match renderProcessReading event with
  | some line => (if out.isEmpty then out else out.push '\n') ++ line
  | none => out

def renderMany [FloatDisplay] (events : List BronzeEvent) : String := events.foldl pushEvent ""

/-! ## The point a reading stands for -/

def intendedValue [FloatDisplay] : PointValue → Option FieldValue
  | .null => none
  | .bool b => some (.bool b)
  | .int8 n => some (.int n.toInt)
  | .int16 n => some (.int n.toInt)
  | .int32 n => some (.int n.toInt)
  | .int64 n => some (.int n.toInt)
  | .uint8 n => some (.uint n.toNat)
  | .uint16 n => some (.uint n.toNat)
  | .uint32 n => some (.uint n.toNat)
  | .uint64 n => some (.uint n.toNat)
  | .float bits => some (.float (formatFloat (Float32.ofBits bits).toFloat.toBits))
  | .double bits => some (.float (formatFloat bits))
  | .text s => some (.text s.toList)
  | .bytes b => some (.text (Text.hexEncode b).toList)
  | .dateTime us => some (.uint us.toNat)

def intendedQuality (q : RawQuality) : List (String × FieldValue) :=
  ("quality_kind", .text (qualityKindStr q).toList) ::
    match q with
    | .none => []
    | .dnpFlags b => [("quality_value", .uint b.toNat)]
    | .iec104Qds b => [("quality_value", .uint b.toNat)]
    | .opcUaStatusCode c => [("quality_value", .uint c.toNat)]
    | .iec61850Quality w => [("quality_value", .uint w.toNat)]
    | .cipGeneralStatus b => [("quality_value", .uint b.toNat)]
    | .hartFieldDeviceStatus b => [("quality_value", .uint b.toNat)]
    | .sparkplugQuality value isHistorical isTransient isNull =>
      (value.map fun v => ("quality_value", .uint v.toNat)).toList ++
        [("is_historical", .bool isHistorical), ("is_transient", .bool isTransient),
          ("is_null", .bool isNull)]

def intendedFields [FloatDisplay] (reading : ProcessReading) : List (String × FieldValue) :=
  ((intendedValue reading.value).map fun v => ("value", v)).toList ++
    intendedQuality reading.quality

def tagChars (t : String × String) : List Char × List Char := (t.1.toList, t.2.toList)

def fieldChars (f : String × FieldValue) : List Char × FieldValue := (f.1.toList, f.2)

def intendedPoint [FloatDisplay] (reading : ProcessReading) : Point where
  measurement := reading.sourceProtocol.toList
  tags := (collectTags reading).map tagChars
  fields := (intendedFields reading).map fieldChars
  timestamp := some (timestampNs reading)

/-! ## The output is the text of the intended points -/

lemma toList_pushMeasurement (line s : String) :
    (pushMeasurement line s).toList = line.toList ++ measurementEscaping.escape s.toList := by
  simp [pushMeasurement, pushEscaped, Escaping.escape, measurementEscaping]

lemma toList_pushTagComponent (line s : String) :
    (pushTagComponent line s).toList = line.toList ++ componentEscaping.escape s.toList := by
  simp [pushTagComponent, pushEscaped, Escaping.escape, componentEscaping]

lemma formatString_eq (s : String) :
    formatString s = String.ofList (FieldValue.text s.toList).render := by
  apply String.toList_inj.1
  simp [formatString, pushEscaped, FieldValue.render, Escaping.escape, quotedEscaping]

lemma toList_foldl_pushTag (tags : List (String × String)) (line : String) :
    (tags.foldl pushTag line).toList = line.toList ++ (tags.map tagChars).flatMap renderTag := by
  induction tags generalizing line with
  | nil => simp
  | cons t tags ih =>
    have hround : (pushTag line t).toList = line.toList ++ renderTag (tagChars t) := by
      simp [pushTag, pushTagValue, pushTagKey, toList_pushTagComponent, renderTag, tagChars]
    rw [foldl_cons, ih, hround]
    simp

def fieldText (f : String × FieldValue) : String × String := (f.1, String.ofList f.2.render)

lemma toList_pushField (line : String) (wrote : Bool) (f : String × FieldValue) :
    (pushField (line, wrote) (fieldText f)).1.toList =
      line.toList ++ (if wrote then [','] else []) ++ renderField (fieldChars f) := by
  cases wrote <;> simp [pushField, pushFieldKey, toList_pushTagComponent, renderField, fieldText,
    fieldChars]

lemma foldl_pushField_true (fields : List (String × FieldValue)) (line : String) :
    ((fields.map fieldText).foldl pushField (line, true)).2 = true ∧
      ((fields.map fieldText).foldl pushField (line, true)).1.toList =
        line.toList ++ ((fields.map fieldChars).map renderField).flatMap (',' :: ·) := by
  induction fields generalizing line with
  | nil => simp
  | cons f fields ih =>
    obtain ⟨hwrote, htext⟩ := ih (pushField _ _).1
    refine ⟨hwrote, htext.trans ?_⟩
    rw [toList_pushField]
    simp

lemma foldl_pushField {fields : List (String × FieldValue)} (hne : fields ≠ []) (line : String) :
    ((fields.map fieldText).foldl pushField (line, false)).2 = true ∧
      ((fields.map fieldText).foldl pushField (line, false)).1.toList =
        line.toList ++ [','].intercalate ((fields.map fieldChars).map renderField) := by
  obtain ⟨f, fields, rfl⟩ := exists_cons_of_ne_nil hne
  obtain ⟨hwrote, htext⟩ := foldl_pushField_true fields (pushField _ _).1
  refine ⟨hwrote, htext.trans ?_⟩
  rw [toList_pushField]
  simp [Separated.intercalate_cons]

lemma boolStr_eq (b : Bool) : boolStr b = String.ofList (FieldValue.bool b).render := by
  cases b <;> rfl

lemma repr_append_i (n : Int) : n.repr ++ "i" = String.ofList (FieldValue.int n).render := by
  simp [FieldValue.render]

lemma repr_append_u (n : Nat) : n.repr ++ "u" = String.ofList (FieldValue.uint n).render := by
  apply String.toList_inj.1
  simp [FieldValue.render]

lemma qualityFields_eq (q : RawQuality) : qualityFields q = (intendedQuality q).map fieldText := by
  cases q with
  | sparkplugQuality value isHistorical isTransient isNull =>
    cases value <;>
      simp [qualityFields, intendedQuality, fieldText, formatString_eq, repr_append_u, boolStr_eq]
  | _ => simp [qualityFields, intendedQuality, fieldText, formatString_eq, repr_append_u]

section

variable [FloatDisplay]

lemma fieldForValue_eq (v : PointValue) :
    fieldForValue v = (intendedValue v).map fun value => fieldText ("value", value) := by
  cases v with
  | null => rfl
  | bool b => exact congrArg (fun s => some ("value", s)) (boolStr_eq b)
  | float bits => rfl
  | double bits => rfl
  | _ =>
    simp only [fieldForValue, intendedValue, fieldText, Option.map_some, formatString_eq,
      Nat.toString_eq_repr, Int.toString_eq_repr, repr_append_i, repr_append_u]

lemma intendedFields_ne_nil (reading : ProcessReading) : intendedFields reading ≠ [] := by
  simp [intendedFields, intendedQuality]

lemma fields_written (reading : ProcessReading) (line : String) :
        (qualityFields reading.quality).foldl pushField (match fieldForValue reading.value with
        | some (key, repr) => ((pushFieldKey line key).push '=' ++ repr, true)
        | none => (line, false)) =
      ((intendedFields reading).map fieldText).foldl pushField (line, false) := by
  -- writing the value is a round that starts with nothing written
  rw [intendedFields, map_append, qualityFields_eq, fieldForValue_eq]
  cases intendedValue _ <;> rfl

lemma toList_renderReading (reading : ProcessReading) :
    (renderReading reading).toList = render (intendedPoint reading) := by
  obtain ⟨hwrote, htext⟩ := foldl_pushField (intendedFields_ne_nil reading)
    (((collectTags reading).foldl pushTag (pushMeasurement "" _)).push ' ')
  simp only [renderReading]
  rw [fields_written, if_pos hwrote, String.toList_append, String.toList_append, htext,
    String.toList_push, toList_foldl_pushTag, toList_pushMeasurement]
  simp [render, intendedPoint, renderTimestamp, Nat.toString_eq_repr, Int.repr]

lemma renderReading_ne_empty (reading : ProcessReading) : (renderReading reading).toList ≠ [] := by
  rw [toList_renderReading]
  exact render_ne_nil _

lemma toList_foldl_pushEvent {out : String} (hout : out.toList ≠ []) (events : List BronzeEvent) :
    (events.foldl pushEvent out).toList =
      out.toList ++ (((events.filterMap reading?).map intendedPoint).map render).flatMap
        ('\n' :: ·) := by
  induction events generalizing out with
  | nil => simp
  | cons event events ih =>
    cases hreading : reading? event with
    | none =>
      have hround : pushEvent out event = out := by simp [pushEvent, renderProcessReading, hreading]
      rw [foldl_cons, hround, ih hout, filterMap_cons_none hreading]
    | some reading =>
      have hempty : out.isEmpty = false := by
        rw [← Bool.not_eq_true, String.isEmpty_iff, ← String.toList_eq_nil_iff]
        exact hout
      have hround : (pushEvent out event).toList = out.toList ++ '\n' :: render
          (intendedPoint reading) := by
        simp [pushEvent, renderProcessReading, hreading, hempty, toList_renderReading]
      have hne : (pushEvent out event).toList ≠ [] := by
        rw [hround]
        simp
      rw [foldl_cons, ih hne, hround, filterMap_cons_some hreading]
      simp

lemma toList_renderMany (events : List BronzeEvent) :
    (renderMany events).toList = renderLines ((events.filterMap reading?).map intendedPoint) := by
  rw [renderMany]
  -- the output stays empty up to the first reading; from there on it grows line by line
  induction events with
  | nil => rfl
  | cons event events ih =>
    cases hreading : reading? event with
    | none =>
      have hround : pushEvent "" event = "" := by simp [pushEvent, renderProcessReading, hreading]
      rw [foldl_cons, hround, ih, filterMap_cons_none hreading]
    | some reading =>
      have hround : pushEvent "" event = renderReading reading := by
        simp [pushEvent, renderProcessReading, hreading]
      rw [foldl_cons, hround, toList_foldl_pushEvent (renderReading_ne_empty reading),
        filterMap_cons_some hreading, toList_renderReading, renderLines, map_cons,
        map_cons, Separated.intercalate_cons]

end

/-! ## Reading the output back -/

def tagKeys : List String :=
  ["unit", "addr", "register_type", "ns", "node_id_kind", "node_id", "symbol", "class", "instance",
    "attribute", "group", "variation", "index", "common_addr", "ioa", "type_id", "reference",
      "edge",
    "device", "metric", "metric_alias", "command", "slot", "file_type", "file_number", "element",
    "sub_element", "idcode", "station", "channel_index", "channel", "channel_type"]

def fieldKeys : List String :=
  ["value", "quality_kind", "quality_value", "is_historical", "is_transient", "is_null"]

lemma mem_tagKeys (reading : ProcessReading) : ∀ t ∈ collectTags reading, t.1 ∈ tagKeys := by
  have hkeys : (collectTags reading).map Prod.fst ⊆ tagKeys := by
    rw [collectTags]
    cases reading.pointId with
    | opcUaNode namespaceIndex identifier =>
      cases identifier <;> simp [tagKeys, nodeIdLowCardinalityRepr]
    | cipPath classId instanceId attributeId => cases attributeId <;> simp [tagKeys]
    | sparkplugMetric groupId edgeNodeId deviceId metricName metricNameRaw aliasId =>
      cases deviceId <;> cases metricName <;> cases aliasId <;> simp [tagKeys]
    | hartCommand command slot => cases slot <;> simp [tagKeys]
    | pcccAddress fileType fileNumber element subElement => cases subElement <;> simp [tagKeys]
    | synchrophasorChannel idcode stationName channelIndex channelName channelType =>
      cases stationName <;> cases channelName <;> simp [tagKeys]
    | _ => simp [tagKeys]
  exact fun t ht => hkeys (mem_map_of_mem ht)

lemma mem_fieldKeys (reading : ProcessReading) [FloatDisplay] :
    ∀ f ∈ intendedFields reading, f.1 ∈ fieldKeys := by
  have hquality : (intendedQuality reading.quality).map Prod.fst ⊆ fieldKeys := by
    cases reading.quality with
    | sparkplugQuality value isHistorical isTransient isNull =>
      cases value <;> simp [intendedQuality, fieldKeys]
    | _ => simp [intendedQuality, fieldKeys]
  intro f hf
  rcases mem_append.1 hf with hf | hf
  · obtain ⟨v, -, rfl⟩ := Option.map_eq_some_iff.1 (Option.mem_toList.1 hf)
    exact mem_cons_self
  · exact hquality (mem_map_of_mem hf)

lemma wellKeyed_intendedPoint (reading : ProcessReading) [FloatDisplay] :
    (intendedPoint reading).WellKeyed where
  tags := by
    have hplain : ∀ key ∈ tagKeys, PlainKey key.toList := by decide
    intro t ht
    obtain ⟨t, hmem, rfl⟩ := mem_map.1 ht
    exact hplain t.1 (mem_tagKeys reading t hmem)
  fields := by
    have hplain : ∀ key ∈ fieldKeys, PlainKey key.toList := by decide
    intro f hf
    obtain ⟨f, hmem, rfl⟩ := mem_map.1 hf
    exact hplain f.1 (mem_fieldKeys reading f hmem)
  nonempty := fun hnil => intendedFields_ne_nil reading (map_eq_nil_iff.1 hnil)

/-- A text that does no harm as a name: it has characters, no line break, and no backslash at its
end. -/
structure HarmlessName (name : String) : Prop where
  nonempty : name.toList ≠ []
  last : name.toList.getLast? ≠ some '\\'
  oneLine : '\n' ∉ name.toList

structure Harmless (reading : ProcessReading) : Prop where
  measurement : HarmlessName reading.sourceProtocol
  notComment : reading.sourceProtocol.toList.head? ≠ some '#'
  tags : ∀ t ∈ collectTags reading, HarmlessName t.2
  value : ∀ text, reading.value = .text text → '\n' ∉ text.toList

lemma newline_not_mem_hexEncode (bytes : List UInt8) : '\n' ∉ (Text.hexEncode bytes).toList := by
  rw [Text.hexEncode, String.toList_ofList, mem_flatMap]
  rintro ⟨b, -, hb⟩
  exact Text.newline_not_mem_hexDigits 2 b.toNat hb

lemma newline_not_mem_qualityKindStr (q : RawQuality) : '\n' ∉ (qualityKindStr q).toList := by
  cases q <;> simp [qualityKindStr]

lemma text_of_mem_intendedQuality {f : String × FieldValue} {text : List Char} {q : RawQuality}
    (hf : f ∈ intendedQuality q) (htext : f.2 = .text text) : text = (qualityKindStr q).toList := by
  have hall : ∀ f ∈ intendedQuality q, ∀ text, f.2 = .text text →
      text = (qualityKindStr q).toList := by
    cases q with
    | sparkplugQuality value isHistorical isTransient isNull =>
      cases value <;> simp [intendedQuality, eq_comm]
    | _ => simp [intendedQuality, eq_comm]
  exact hall f hf text htext

lemma text_of_mem_intendedFields {f : String × FieldValue} {text : List Char} [FloatDisplay]
    {reading : ProcessReading} (hf : f ∈ intendedFields reading) (htext : f.2 = .text text)
    (hbreak : '\n' ∈ text) : ∃ s, reading.value = .text s ∧ text = s.toList := by
  rcases mem_append.1 hf with hf | hf
  · obtain ⟨v, hv, rfl⟩ := Option.map_eq_some_iff.1 (Option.mem_toList.1 hf)
    subst htext
    cases hvalue : reading.value <;> rw [hvalue] at hv <;> cases hv
    · exact ⟨_, rfl, rfl⟩
    · exact absurd hbreak (newline_not_mem_hexEncode _)
  · rw [text_of_mem_intendedQuality hf htext] at hbreak
    exact absurd hbreak (newline_not_mem_qualityKindStr _)

lemma harmless_iff (reading : ProcessReading) [FloatDisplay] :
    (intendedPoint reading).Readable ∧ (intendedPoint reading).OneLine ↔ Harmless reading := by
  constructor
  · rintro ⟨hread, hone⟩
    exact
      { measurement := ⟨hread.measurement_ne_nil, hread.measurement_last, hone.measurement⟩
        notComment := hread.measurement_head
        tags := fun t ht =>
          have hmem : tagChars t ∈ (intendedPoint reading).tags := mem_map_of_mem ht
          ⟨(hread.tags _ hmem).1, (hread.tags _ hmem).2, hone.tags _ hmem⟩
        value := fun text hvalue =>
          have hfield := mem_append_left _ (by rw [hvalue]; exact mem_cons_self)
          hone.fields _ (mem_map_of_mem hfield) _ rfl }
  · intro h
    refine ⟨⟨h.measurement.nonempty, h.notComment, h.measurement.last, ?_⟩,
      ⟨h.measurement.oneLine, ?_, ?_⟩⟩
    · intro t ht
      obtain ⟨t, hmem, rfl⟩ := mem_map.1 ht
      exact ⟨(h.tags t hmem).nonempty, (h.tags t hmem).last⟩
    · intro t ht
      obtain ⟨t, hmem, rfl⟩ := mem_map.1 ht
      exact (h.tags t hmem).oneLine
    · intro f hf text htext hbreak
      obtain ⟨f, hmem, rfl⟩ := mem_map.1 hf
      obtain ⟨s, hvalue, rfl⟩ := text_of_mem_intendedFields hmem htext hbreak
      exact h.value s hvalue hbreak

/-- The lines of the output are read back as the points of the readings, one line each and in order,
exactly when no reading has a harmful text. -/
theorem renderMany_recovered_iff [FloatDisplay] (events : List BronzeEvent) :
    (lines (renderMany events).toList).map parse =
        (events.filterMap reading?).map (fun reading => some (intendedPoint reading)) ↔
      ∀ reading ∈ events.filterMap reading?, Harmless reading := by
  have hkeyed : ∀ p ∈ (events.filterMap reading?).map intendedPoint, p.WellKeyed := by
    intro p hp
    obtain ⟨reading, -, rfl⟩ := mem_map.1 hp
    exact wellKeyed_intendedPoint reading
  have hlines := map_parse_lines_iff hkeyed
  rw [← toList_renderMany, map_map] at hlines
  refine hlines.trans ?_
  rw [forall_mem_map]
  exact forall₂_congr fun reading _ => harmless_iff reading

def brokenReading : ProcessReading where
  sourceProtocol := "sparkplug_b"
  pointId := .sparkplugMetric "plant" "edge" none (some "temp\npump") none none
  value := .bool true
  quality := .none
  sourceTs := none
  observedTs := 1

def brokenEvent : BronzeEvent :=
  newEvent "capture"
    { timestamp := ⟨0⟩, interfaceId := 0, segmentHash := "", frameIndex := 0, sessionKey := "",
      srcMac := none, dstMac := none, srcIp := none, dstIp := none, srcPort := none, dstPort :=
        none,
      vlanId := none, transport := .tcp, protocol := none, bytesCount := 0, packetCount := 0 }
    (.processReading brokenReading)

/-- Its first line is no point, and its second one is a point of a measurement `pump`. -/
theorem brokenReading_forges :
    letI : FloatDisplay := FloatDisplay.sample
    (lines (renderMany [brokenEvent]).toList).map parse =
        [none, some
          { measurement := "pump".toList, tags := [],
            fields := [("value".toList, .bool true), ("quality_kind".toList, .text "none".toList)],
            timestamp := some 1000 }] ∧
      (lines (renderMany [brokenEvent]).toList).map parse ≠
        ([brokenEvent].filterMap reading?).map (fun reading => some (intendedPoint reading)) := by
  rw [@toList_renderMany FloatDisplay.sample]
  constructor
  · decide
  · decide

end MarlinspikeDpi.Influx
