import MarlinspikeDpi.Foundation.Ledger
import MarlinspikeDpi.Modbus.Decoder

/-!
# No request is forgotten

The Modbus decoder handles chunks of any number of conversations in any order, with idle flushes in
between.

* `requests_accounted_iff`: when every request is reported once or parked.
-/

namespace MarlinspikeDpi.Modbus

open Engine Ledger Ledger.Keeper List ModbusDecoder

inductive Action where
  | received (chunk : StreamChunk)
  | idleFlush (timestamp : DateTime)

namespace Action

def request? : Action → Option (String × PendingModbus)
  | .received chunk =>
    match chunkMessage chunk with
    | some (.request key request) => some (key, request)
    | _ => none
  | .idleFlush _ => none

def movements : Action → List (Movement String PendingModbus)
  | .received chunk =>
    match chunkMessage chunk with
    | some (.request key request) => [.park key request]
    | some (.response key) => [.take key]
    | none => []
  | .idleFlush timestamp => [.drain fun _ request => isExpired timestamp request]

end Action

/-- The requests in a sequence of actions, in the order of their arrival. -/
def requestsOf (actions : List Action) : List PendingModbus :=
  actions.filterMap fun action => action.request?.map Prod.snd

/-- What the decoder says about a request, or about something else. -/
inductive Report where
  | paired (chunk : StreamChunk) (fields : ModbusFields) (request : PendingModbus)
  | unanswered (request : PendingModbus)
  | other (events : List BronzeEvent)

open Report

def Report.request? : Report → Option PendingModbus
  | .paired _ _ request => some request
  | .unanswered request => some request
  | .other _ => none

section

variable [External]

def Report.events : Report → List BronzeEvent
  | .paired chunk fields request => pairedEvents chunk fields request
  | .unanswered request => [partialRequest request]
  | .other events => events

variable (d : ModbusDecoder)

def act : Action → List BronzeEvent × ModbusDecoder
  | .received chunk => onStreamChunk d chunk
  | .idleFlush timestamp => onIdleFlush d timestamp

def reports : Action → List Report
  | .received chunk =>
    match parse chunk.payload chunk.context with
    | some fields =>
      if isRequest chunk.context then []
      else
        match d.pending.lookup (transactionKey chunk fields) with
        | some request => [.paired chunk fields request]
        | none => [.other (unpairedEvents chunk fields)]
    | none => [.other (onStreamChunk d chunk).1]
  | .idleFlush timestamp =>
    (d.pending.entries.filter fun entry => isExpired timestamp entry.2).map fun entry =>
      .unanswered entry.2

/-- A request of the action comes under a key that is not parked. -/
def FreshRequest (action : Action) : Prop := ∀ key request, action.request? = some (key, request) →
    d.pending.lookup key = none

/-! ## One action -/

lemma act_events (action : Action) : (act d action).1 = (reports d action).flatMap events := by
  cases action with
  | idleFlush timestamp =>
    simp only [act, onIdleFlush, reports, flatMap_map, events]
    exact map_eq_flatMap
  | received chunk =>
    simp only [act, reports, onStreamChunk]
    cases parse _ _ with
    | none => simp [events]
    | some fields =>
      dsimp only
      split
      · rfl
      · cases d.pending.lookup _ with
        | none => simp [events]
        | some request => simp [events]

lemma act_pending (action : Action) :
    (act d action).2.pending = Ledger.run d.pending action.movements := by
  cases action with
  | idleFlush timestamp => rfl
  | received chunk =>
    simp only [act, Action.movements, onStreamChunk_pending]
    cases chunkMessage chunk with
    | none => rfl
    | some message => cases message <;> rfl

lemma settled_reports (action : Action) :
    (↑((reports d action).filterMap request?) : Multiset PendingModbus) =
      settledAll d.pending action.movements := by
  cases action with
  | idleFlush timestamp =>
    simp [reports, Action.movements, settledAll, settled, filterMap_map, Function.comp_def,
      request?]
  | received chunk =>
    simp only [reports, Action.movements, chunkMessage]
    cases parse _ _ with
    | none => rfl
    | some fields =>
      dsimp only [Option.map]
      split
      · rfl
      · rw [settledAll_take]
        cases d.pending.lookup _ <;> rfl

omit [External] in
lemma arrived_movements (action : Action) :
    arrivedAll action.movements = ↑(action.request?.map Prod.snd).toList := by
  cases action with
  | idleFlush timestamp => rfl
  | received chunk =>
    simp only [Action.movements, Action.request?]
    cases chunkMessage chunk with
    | none => rfl
    | some message => cases message <;> rfl

omit [External] in
lemma lost_movements_iff (d : ModbusDecoder) (action : Action) :
    lostAll d.pending action.movements = 0 ↔ FreshRequest d action := by
  unfold FreshRequest
  cases action with
  | idleFlush timestamp => simp [Action.movements, Action.request?, lostAll, lost]
  | received chunk =>
    simp only [Action.movements, Action.request?]
    cases chunkMessage chunk with
    | none => simp [lostAll]
    | some message =>
      cases message with
      | response key => simp [lostAll, lost]
      | request key request => simp [lostAll, lost, valueAt]

/-! ## Sequences of actions -/

def keeper : Ledger.Keeper ModbusDecoder Action String PendingModbus where
  step d action := (act d action).2
  table := ModbusDecoder.pending
  movements _ action := action.movements
  table_step := act_pending

lemma collect_requests (actions : List Action) :
    keeper.collect (fun _ action => (action.request?.map Prod.snd).toList) d actions =
      requestsOf actions := by
  induction actions generalizing d with
  | nil => rfl
  | cons action actions ih =>
    simp only [collect, ih, requestsOf, filterMap_cons]
    cases action.request? <;> rfl

/-- The events of any sequence of chunks and flushes are those of its reports; and every request is
in exactly one report or still parked, if and only if no request arrives under a parked key. -/
theorem requests_accounted_iff (actions : List Action) :
    keeper.collect (fun d action => (act d action).1) ModbusDecoder.default actions =
        (keeper.collect reports ModbusDecoder.default actions).flatMap Report.events ∧
      ((↑(requestsOf actions) : Multiset PendingModbus) =
          ↑((keeper.collect reports ModbusDecoder.default actions).filterMap Report.request?) +
            values (keeper.stepAll ModbusDecoder.default actions).pending ↔
        keeper.Along FreshRequest ModbusDecoder.default actions) := by
  constructor
  · rw [flatMap_collect]
    exact congrArg (fun yield => keeper.collect yield default actions)
      (funext fun d => funext fun action => act_events d action)
  · have haccount := keeper.account_iff (s := default) (fun _ => True)
      (fun _ => arrived_movements) (fun d action => (settled_reports d action).symm)
      (fun _ _ _ => trivial) (fun d action _ => lost_movements_iff d action) trivial actions
    have hempty : values (keeper.table default) = 0 := rfl
    rw [hempty, zero_add, collect_requests, ← filterMap_collect] at haccount
    exact haccount

end

/-- Two requests of one conversation with the same transaction and unit id, then a flush. -/
def reusedKey : List Action :=
  [.received (hostChunk 1 .tcp 49152 502 [0, 1, 0, 0, 0, 6, 1, 3, 0, 0, 0, 1]),
    .received (hostChunk 2 .tcp 49152 502 [0, 1, 0, 0, 0, 6, 1, 3, 0, 9, 0, 1]),
    .idleFlush ⟨0⟩]

/-- The first of the two requests is in no report and not parked any more. -/
theorem reusedKey_forgets :
    letI : External := External.sample
    (requestsOf reusedKey).length = 2 ∧
      ((keeper.collect reports default reusedKey).filterMap
        request?).length = 1 ∧
      (keeper.stepAll default reusedKey).pending.entries = [] := by
  decide

end MarlinspikeDpi.Modbus
