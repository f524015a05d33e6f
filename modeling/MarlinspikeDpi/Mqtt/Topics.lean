import MarlinspikeDpi.Mqtt.Sparkplug

/-!
# The grammar of Sparkplug topics

The parser accepts what `SparkplugTopic.render` writes of a well-formed topic, and nothing else.

* `parseTopic_typed_iff`: which topics are accepted.
-/

namespace MarlinspikeDpi.Mqtt.Sparkplug

open List Option MessageType

lemma MessageType.parse_eq_some_iff {s : String} {t : MessageType} : parse s = some t ↔
    t.name = s := by
  constructor
  · intro hparse
    rw [parse] at hparse
    simpa using find?_some hparse
  · rintro rfl
    cases t <;> rfl

namespace SparkplugTopic

variable (t : SparkplugTopic)

def segments : List String :=
  ["spBv1.0", t.groupId, t.messageType.name, t.edgeNodeId] ++ t.deviceId.toList

def render : String := String.ofList (['/'].intercalate (t.segments.map String.toList))

/-- The group, the node and the device, if there is one, are not empty and have no slash. -/
def WellFormed : Prop := ∀ s ∈ [t.groupId, t.edgeNodeId] ++ t.deviceId.toList, s ≠ "" ∧
    '/' ∉ s.toList

variable {t}

lemma splitOn_render (h : t.WellFormed) :
    t.render.toList.splitOn '/' = t.segments.map String.toList := by
  rw [render, String.toList_ofList]
  refine splitOn_intercalate '/' ?_ (by simp [segments])
  intro l hl
  obtain ⟨segment, hsegment, rfl⟩ := mem_map.1 hl
  have hname : '/' ∉ t.messageType.name.toList := by cases t.messageType <;> decide
  have hrest : ∀ r ∈ [t.groupId, t.edgeNodeId] ++ t.deviceId.toList, '/' ∉ r.toList :=
    fun r hr => (h r hr).2
  simp only [segments, mem_append, mem_cons, not_mem_nil, or_false] at hsegment hrest
  rcases hsegment with (rfl | rfl | rfl | rfl) | hdevice
  · decide
  · exact hrest _ (.inl (.inl rfl))
  · exact hname
  · exact hrest _ (.inl (.inr rfl))
  · exact hrest _ (.inr hdevice)

lemma parseTopic_render (h : t.WellFormed) : parseTopic t.render = some t := by
  have hname := parse_eq_some_iff.2 (Eq.refl t.messageType.name)
  obtain ⟨groupId, messageType, edgeNodeId, deviceId⟩ := t
  have hsegments : ∀ l : List String, (l.map String.toList).map String.ofList = l := by simp
  simp only [parseTopic, splitOn_render h, hsegments]
  cases deviceId with
  | none => simp_all [segments, WellFormed]
  | some device => simp_all [segments, WellFormed]

/-- A parsed topic has the segments of the text, none of them empty. -/
lemma segments_of_parseTopic {s : String} (h : parseTopic s = some t) :
    s.toList.splitOn '/' = t.segments.map String.toList ∧ t.groupId ≠ "" ∧ t.edgeNodeId ≠ "" ∧
      t.deviceId ≠ some "" := by
  simp only [parseTopic, bind_eq_bind] at h
  split at h
  case h_3 => cases h
  -- with or without a device, the rest of the parser is the same
  all_goals
    rename_i hsegments
    dsimp only [bind_some] at h
    obtain ⟨messageType, hparse, htopic⟩ := bind_eq_some_iff.1 h
    rw [← parse_eq_some_iff.1 hparse] at hsegments
    split at htopic
    · cases htopic
    · rename_i hempty
      cases htopic
      rw [not_or, not_or] at hempty
      refine ⟨?_, hempty⟩
      have htexts := congrArg (map String.toList) hsegments
      simpa [segments] using htexts

end SparkplugTopic

open SparkplugTopic

/-- The topics are `spBv1.0/<group>/<type>/<node>` and `spBv1.0/<group>/<type>/<node>/<device>`,
with any of the nine types in both, and rendering a parsed topic gives the text back. -/
theorem parseTopic_eq_some_iff (s : String) (t : SparkplugTopic) :
    parseTopic s = some t ↔ t.WellFormed ∧ t.render = s := by
  constructor
  · intro hparse
    obtain ⟨hsplit, hgroup, hnode, hdevice⟩ := segments_of_parseTopic hparse
    refine ⟨?_, ?_⟩
    · intro segment hsegment
      have hslash : '/' ∉ segment.toList := by
        have hmem : segment.toList ∈ s.toList.splitOn '/' := by
          rw [hsplit]
          refine mem_map_of_mem ?_
          simp only [segments, mem_append, mem_cons] at hsegment ⊢
          tauto
        exact Separated.not_mem_of_mem_splitOn '/' hmem
      refine ⟨?_, hslash⟩
      rintro rfl
      simp [hgroup.symm, hnode.symm, hdevice] at hsegment
    · rw [render, ← hsplit, intercalate_splitOn, String.ofList_toList]
  · rintro ⟨hwell, rfl⟩
    exact parseTopic_render hwell

/-- The device that a type allows: none for the node's messages, one for the device's messages. -/
def MessageType.Allows (deviceId : Option String) : MessageType → Prop
  | .nBirth | .nDeath | .nData | .nCmd => deviceId = none
  | .dBirth | .dDeath | .dData | .dCmd => deviceId ≠ none
  | .state => False

/-- The topics `spBv1.0/<group>/<N-type>/<node>` and `spBv1.0/<group>/<D-type>/<node>/<device>`. -/
def SparkplugTopic.Typed (t : SparkplugTopic) : Prop :=
  t.WellFormed ∧ t.messageType.Allows t.deviceId

/-- On a string the parser accepts exactly the topics of nodes and devices, if and only if the
string is no topic whose type does not allow what stands, or does not stand, behind the node. -/
theorem parseTopic_typed_iff (s : String) :
    (∀ t : SparkplugTopic, parseTopic s = some t ↔ t.Typed ∧ t.render = s) ↔
      ∀ t : SparkplugTopic, t.WellFormed → t.render = s → t.messageType.Allows t.deviceId := by
  constructor
  · intro hexact t hwell hrender
    exact ((hexact t).1 ((parseTopic_eq_some_iff s t).2 ⟨hwell, hrender⟩)).1.2
  · intro hallows t
    rw [parseTopic_eq_some_iff]
    constructor
    · rintro ⟨hwell, hrender⟩
      exact ⟨⟨hwell, hallows t hwell hrender⟩, hrender⟩
    · rintro ⟨⟨hwell, -⟩, hrender⟩
      exact ⟨hwell, hrender⟩

/-- A node's message with a device, a device's message without one, and the state of a host. -/
theorem topics_of_any_type :
    parseTopic "spBv1.0/g/NDATA/e/d" = some ⟨"g", .nData, "e", some "d"⟩ ∧
      parseTopic "spBv1.0/g/DDATA/e" = some ⟨"g", .dData, "e", none⟩ ∧
      parseTopic "spBv1.0/g/STATE/e" = some ⟨"g", .state, "e", none⟩ :=
  ⟨rfl, rfl, rfl⟩

end MarlinspikeDpi.Mqtt.Sparkplug
