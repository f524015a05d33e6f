import MarlinspikeDpi.NetFlow.Decoder

/-!
# The template store over whole runs

The decoder keeps its templates in a table and a queue of keys.

* `dataSet_template`: the store is bounded, and which template a data set is read with.
-/

namespace MarlinspikeDpi.NetFlow

open Engine NetFlowDecoder List Fifo Mealy

/-! ## Runs -/

inductive Input where
  | datagram (chunk : StreamChunk)
  | idleFlush

variable (d : NetFlowDecoder)

def step : Input → List BronzeEvent × NetFlowDecoder
  | .datagram chunk => d.onDatagram chunk
  | .idleFlush => ([], d.onIdleFlush)

def after (history : List Input) : NetFlowDecoder :=
  (Mealy.run step NetFlowDecoder.default history).2

abbrev FlowSet : Type := UInt16 × Option (List UInt8)

variable (chunk : StreamChunk)

/-- The sets of a v9 or IPFIX datagram, and where they come from. -/
def exportOf : Option (Source × List FlowSet) :=
  let data := chunk.payload
  if data.length < 2 then none
  else if (u16At data 0).toNat = 9 then
    if data.length < 20 then none
    else some (v9Source chunk, splitSets data.length (data.drop 20))
  else if (u16At data 0).toNat = 10 then
    if data.length < 16 then none
    else some (ipfixSource chunk, splitSets data.length (data.drop 16))
  else none

variable (source : Source)

def definitionsIn : FlowSet → List (TemplateKey × TemplateRecord)
  | (_, none) => []
  | (id, some data) =>
    match source.dialect.templateSet? id with
    | some isOptions =>
      (source.dialect.templatesIn isOptions (data.drop 4)).map fun record =>
        (source.key record.templateId, record)
    | none => []

def definitionsOf : List (TemplateKey × TemplateRecord) :=
  (exportOf chunk).elim [] fun sets => sets.2.flatMap (definitionsIn sets.1)

def receive (definitions : List (TemplateKey × TemplateRecord)) : Input →
    List (TemplateKey × TemplateRecord)
  | .datagram chunk => definitions ++ definitionsOf chunk
  | .idleFlush => []

def received (history : List Input) : List (TemplateKey × TemplateRecord) :=
  history.foldl receive []

/-! ## The store -/

abbrev Store : Type := Fifo TemplateKey TemplateRecord

def storeOf : Store := ⟨d.templates, d.templateOrder⟩

def define (store : Store) (definition : TemplateKey × TemplateRecord) : Store :=
  store.store templateCap definition.1 definition.2

lemma storeOf_emitRecord (fields : List TemplateField) (d : NetFlowDecoder)
    (raw : List UInt8) : storeOf (d.emitRecord source fields raw).2 = storeOf d := by
  unfold emitRecord
  dsimp only
  split
  · rfl
  · split
    · rfl
    · split <;> rfl

lemma storeOf_decodeDataSet (templateId : UInt16)
    (data : List UInt8) : storeOf (d.decodeDataSet source templateId data).2 = storeOf d := by
  unfold decodeDataSet
  split
  · split
    · rfl
    · unfold decodeWith
      split
      · rfl
      · exact view_run_eq _ storeOf (storeOf_emitRecord source _) d _
  · rfl

lemma storeOf_parseTemplateSet (isOptions : Bool) (data : List UInt8) :
    storeOf (d.parseTemplateSet source isOptions data).2 =
      ((source.dialect.templatesIn isOptions (data.drop 4)).map fun record =>
        (source.key record.templateId, record)).foldl define (storeOf d) := by
  rw [foldl_map]
  exact view_run_eq_foldl _ storeOf _ (fun _ _ => rfl) d _

lemma storeOf_handleSet (d : NetFlowDecoder) (set : FlowSet) :
    storeOf (d.handleSet source set).2 = (definitionsIn source set).foldl define (storeOf d) := by
  obtain ⟨id, data⟩ := set
  cases data with
  | none => rfl
  | some data =>
    unfold handleSet definitionsIn
    dsimp only
    cases source.dialect.templateSet? id with
    | some isOptions => exact storeOf_parseTemplateSet d source isOptions data
    | none =>
      dsimp only
      split
      · exact storeOf_decodeDataSet d source id data
      · rfl

lemma storeOf_handleSets (d : NetFlowDecoder) (sets : List FlowSet) :
    storeOf (run (handleSet source) d sets).2 = (sets.flatMap (definitionsIn source)).foldl define
      (storeOf d) := by
  rw [foldl_flatMap]
  exact view_run_eq_foldl _ storeOf _ (storeOf_handleSet source) d sets

/-- What a datagram does: if it has sets, it handles them in order, with some events before and
after theirs; otherwise it leaves the store alone. -/
theorem onDatagram_cases : (exportOf chunk = none ∧ storeOf (d.onDatagram chunk).2 = storeOf d) ∨
    ∃ source sets, exportOf chunk = some (source, sets) ∧
      storeOf (d.onDatagram chunk).2 = storeOf (run (handleSet source) d sets).2 ∧
      ∃ front back, (d.onDatagram chunk).1 = front ++ (run (handleSet source) d sets).1 ++
        back := by
  unfold exportOf onDatagram
  dsimp only
  by_cases hshort : chunk.payload.length < 2
  · rw [if_pos hshort, if_pos hshort]
    exact .inl ⟨rfl, rfl⟩
  rw [if_neg hshort, if_neg hshort]
  by_cases hv9 : (u16At chunk.payload 0).toNat = 9
  · have hv5 : (u16At chunk.payload 0).toNat ≠ 5 := by omega
    rw [if_pos hv9, if_neg hv5, if_pos hv9, handleV9]
    dsimp only
    by_cases hheader : chunk.payload.length < 20
    · rw [if_pos hheader, if_pos hheader]
      exact .inl ⟨rfl, rfl⟩
    · rw [if_neg hheader, if_neg hheader]
      exact .inr ⟨_, _, rfl, rfl, [], _, append_assoc _ _ _⟩
  by_cases hipfix : (u16At chunk.payload 0).toNat = 10
  · have hv5 : (u16At chunk.payload 0).toNat ≠ 5 := by omega
    rw [if_neg hv9, if_pos hipfix, if_neg hv5, if_neg hv9, if_pos hipfix, handleIpfix]
    dsimp only
    by_cases hheader : chunk.payload.length < 16
    · rw [if_pos hheader, if_pos hheader]
      exact .inl ⟨rfl, rfl⟩
    · rw [if_neg hheader, if_neg hheader]
      exact .inr ⟨_, _, rfl, rfl, _, _, append_assoc _ _ _⟩
  · rw [if_neg hv9, if_neg hipfix, if_neg hv9, if_neg hipfix]
    refine .inl ⟨rfl, ?_⟩
    -- v5 and the versions that are not known
    split
    · unfold handleV5
      dsimp only
      split <;> rfl
    · rfl

lemma storeOf_onDatagram : storeOf (d.onDatagram chunk).2 = (definitionsOf chunk).foldl define
    (storeOf d) := by
  rcases onDatagram_cases d chunk with ⟨hexport, hstore⟩ | ⟨source, sets, hexport, hstore, -⟩
  · rw [hstore, definitionsOf, hexport]
    rfl
  · rw [hstore, storeOf_handleSets, definitionsOf, hexport]
    rfl

/-- After any run the store is what the templates received since the last flush make of an empty
one. -/
theorem store_after (history : List Input) :
    storeOf (after history) = storeAll templateCap (received history) := by
  induction history using List.reverseRecOn with
  | nil => rfl
  | append_singleton history input ih =>
    have hreceived : received (history ++ [input]) = receive (received history) input := by
      simp [received]
    have hafter : after (history ++ [input]) = (step (after history) input).2 := by
      rw [after, run_append]
      rfl
    rw [hreceived, hafter]
    cases input with
    | datagram chunk =>
      rw [receive, storeAll_append, ← ih]
      exact storeOf_onDatagram _ chunk
    | idleFlush => rfl

/-! ## What the store holds -/

lemma templateCap_pos : 0 < templateCap := by decide

lemma ok_after (history : List Input) : Fifo.Ok templateCap (storeOf (after history)) := by
  rw [store_after]
  exact Fifo.Ok.storeAll templateCap_pos _

/-- The most recent of the templates with a key, unless the key has been displaced. -/
def currentTemplate (key : TemplateKey) (definitions : List (TemplateKey × TemplateRecord)) :
  Option TemplateRecord := Fifo.current templateCap key definitions

structure DataSetIn (chunk : StreamChunk) where
  source : Source
  before : List FlowSet
  id : UInt16
  data : List UInt8
  later : List FlowSet
  inExport : exportOf chunk = some (source, before ++ (id, some data) :: later)
  isData : 256 ≤ id

namespace DataSetIn

variable {chunk} (set : DataSetIn chunk)

def reached (d : NetFlowDecoder) : NetFlowDecoder :=
  (Mealy.run (handleSet set.source) d set.before).2

def known (history : List Input) : List (TemplateKey × TemplateRecord) :=
  received history ++ set.before.flatMap (definitionsIn set.source)

lemma store_reached (history : List Input) :
    storeOf (set.reached (after history)) = storeAll templateCap (set.known history) := by
  rw [reached, storeOf_handleSets, store_after, known, storeAll_append]
  rfl

lemma lookup_reached (history : List Input) (key : TemplateKey) :
    (set.reached (after history)).templates.lookup key = currentTemplate key
      (set.known history) := by
  have hstore : (set.reached (after history)).templates =
    (storeAll templateCap (set.known history)).entries :=
    congrArg entries (set.store_reached history)
  rw [hstore, lookup_storeAll templateCap_pos]
  rfl

lemma templateSet_eq_none : set.source.dialect.templateSet? set.id = none := by
  have hid := set.isData
  have hne : ∀ n : UInt16, n < 256 → set.id ≠ n := by
    rintro n hn rfl
    exact absurd hid (UInt16.not_le.2 hn)
  cases set.source.dialect with
  | v9 => simp [Dialect.templateSet?, hne 0 (by decide), hne 1 (by decide)]
  | ipfix => simp [Dialect.templateSet?, hne 2 (by decide), hne 3 (by decide)]

lemma handleSet_eq (d : NetFlowDecoder) : d.handleSet set.source (set.id, some set.data) =
      d.decodeDataSet set.source set.id set.data := by
  unfold handleSet
  dsimp only
  rw [set.templateSet_eq_none]
  exact if_pos set.isData

def eventsWith (set : DataSetIn chunk) (d : NetFlowDecoder) : Option TemplateRecord →
    List BronzeEvent
  | none => skippedEvents set.source set.id
  | some template =>
    if template.isOptions then skippedEvents set.source set.id
    else (d.decodeWith set.source template.fields set.data).1

lemma eventsWith_current (history : List Input) :
    ((set.reached (after history)).handleSet set.source (set.id, some set.data)).1 =
      set.eventsWith (set.reached (after history))
        (currentTemplate (set.source.key set.id) (set.known history)) := by
  rw [set.handleSet_eq, decodeDataSet, set.lookup_reached]
  cases currentTemplate _ _ with
  | none => rfl
  | some template =>
    dsimp only [eventsWith]
    split <;> rfl

end DataSetIn

/-- After any datagrams and idle flushes, table and queue have the same keys, each once, and no more
than 1024. -/
theorem dataSet_template (history : List Input) :
    ((after history).templateOrder.Perm (after history).templates.keys ∧
      (after history).templateOrder.Nodup ∧ (after history).templateOrder.length ≤ 1024) ∧
    ∀ (chunk : StreamChunk) (set : DataSetIn chunk),
      ∃ front back, ((after history).onDatagram chunk).1 =
        front ++
          set.eventsWith (set.reached (after history))
            (currentTemplate (set.source.key set.id) (set.known history)) ++
          back := by
  have hok := ok_after history
  refine ⟨⟨hok.perm, hok.nodup, hok.bounded⟩, ?_⟩
  intro chunk set
  rcases onDatagram_cases (after history) chunk with
    ⟨hexport, -⟩ | ⟨source, sets, hexport, -, front, back, hevents⟩
  · rw [set.inExport] at hexport
    cases hexport
  · rw [set.inExport] at hexport
    cases hexport
    obtain ⟨later, hsplit⟩ := run_split (handleSet set.source) (after history)
      set.before (set.id, some set.data) set.later
    refine ⟨front ++ (run (handleSet set.source) (after history) set.before).1, later ++ back, ?_⟩
    rw [hevents, hsplit, ← set.eventsWith_current history]
    simp only [DataSetIn.reached, append_assoc]

/-! ## An options template -/

def v9Chunk (set : List UInt8) : StreamChunk :=
  hostChunk 1 .udp 2055 2055 ([0, 9, 0, 1] ++ List.replicate 16 0 ++ set)

/-- An options template with the id 256 and no fields. -/
def optionsChunk : StreamChunk := v9Chunk [0, 1, 0, 12, 1, 0, 0, 0, 0, 0, 0, 0]

def optionsDataChunk : StreamChunk := v9Chunk [1, 0, 0, 8, 1, 2, 3, 4]

/-- The data set is skipped, although its template is there. -/
theorem optionsData_skipped :
    currentTemplate ("10.0.0.1", 0, 256) (received [.datagram optionsChunk]) =
      some ⟨256, [], true⟩ ∧
      ((after [.datagram optionsChunk]).onDatagram optionsDataChunk).1.take 2 =
        skippedEvents (v9Source optionsDataChunk) 256 := by
  decide

end MarlinspikeDpi.NetFlow
