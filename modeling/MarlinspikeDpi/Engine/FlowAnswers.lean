import MarlinspikeDpi.Engine.Session

/-!
# Flows do not disturb each other

As long as all flows fit into the table, the packets of other flows do not matter for the answers to
a flow.

* `answersTo_filter`: each flow is answered as if it were alone.
-/

namespace MarlinspikeDpi.Engine.DpiSession

open List AList Lru

def answersTo (flow : FlowKey) (s : DpiSession) : List FeedCall → List Classification
  | [] => []
  | call :: calls =>
    let later := answersTo flow (s.feed call.1 call.2).2 calls
    if call.1 = flow then (s.feed call.1 call.2).1 :: later else later

def forgetTime (state : FlowState) : FlowState := { state with lastSeen := 0 }

/-- What the answers to a flow depend on: the settings of the session and what it knows about the
flow. -/
def view (flow : FlowKey) (s : DpiSession) : DpiSession × Option FlowState :=
  ({ s with flows := ∅, tick := 0 }, (s.flows.lookup flow).map forgetTime)

variable {s : DpiSession}

lemma judge_forgetTime (packet : List UInt8) (state : FlowState) :
    (s.judge state packet).map id forgetTime = s.judge (forgetTime state) packet := by
  unfold judge
  cases extractL4Payload packet with
  | none => rfl
  | some l4 =>
    dsimp only
    cases s.registry.classifyName l4.1 l4.2.1 l4.2.2 <;> rfl

lemma verdict_forgetTime (packet : List UInt8) (state? : Option FlowState) (tick : UInt64) :
    (s.verdict state? tick packet).map id forgetTime =
      s.verdict (state?.map forgetTime) 0 packet := by
  cases state? with
  | none => exact judge_forgetTime packet _
  | some state =>
    simp only [verdict, Option.map_some, forgetTime]
    cases state.classification with
    | some tag => rfl
    | none =>
      dsimp only
      split
      · rfl
      · exact judge_forgetTime packet _

lemma feed_view {flow : FlowKey} (packet : List UInt8) :
    ((s.feed flow packet).1, view flow (s.feed flow packet).2) =
    let judged := (view flow s).1.verdict (view flow s).2 0 packet
    (judged.1, (view flow s).1, some judged.2) := by
  have hjudged := verdict_forgetTime (s := s) packet (s.flows.lookup flow) (s.tick + 1)
  rw [feed_eq, view, lookup_insert]
  exact congrArg (fun judged => (judged.1, (view flow s).1, some judged.2)) hjudged

/-- If no flow has to make room, the others are kept as they are. -/
lemma view_feed_other {flow other : FlowKey} (packet : List UInt8) (hother : flow ≠ other)
    (hkept : makeRoom stamp s.config.maxFlows s.flows other = s.flows) :
    view flow (s.feed other packet).2 = view flow s := by
  rw [feed_eq, hkept, view, lookup_insert_ne hother]
  rfl

lemma makeRoom_of_fit {flow : FlowKey} {flows : List FlowKey}
    (hfit : flows.length ≤ s.config.maxFlows)
    (htracked : s.flows.keys ⊆ flows) (hflow : flow ∈ flows) :
    makeRoom stamp s.config.maxFlows s.flows flow = s.flows := by
  by_cases hmem : flow ∈ s.flows
  · obtain ⟨state, hstate⟩ := Option.isSome_iff_exists.1 (lookup_isSome.2 hmem)
    exact makeRoom_of_lookup_eq_some hstate
  · have hnodup : (flow :: s.flows.keys).Nodup := nodup_cons.2 ⟨hmem, s.flows.keys_nodup⟩
    have hle := (hnodup.subperm (cons_subset.2 ⟨hflow, htracked⟩)).length_le
    rw [length_cons, AList.keys, List.keys, length_map] at hle
    exact makeRoom_of_length_lt (hle.trans hfit)

lemma answersTo_of_view {s' : DpiSession} {flow : FlowKey} {flows : List FlowKey}
    (calls : List FeedCall) (hview : view flow s = view flow s')
    (hfit : flows.length ≤ s.config.maxFlows) (hcalls : ∀ call ∈ calls, call.1 ∈ flows)
    (htracked : s.flows.keys ⊆ flows) :
    answersTo flow s calls = answersTo flow s' (calls.filter fun call => call.1 = flow) := by
  induction calls generalizing s s' with
  | nil => rfl
  | cons call calls ih =>
    obtain ⟨hcall, hcalls⟩ := forall_mem_cons.1 hcalls
    have hkept := makeRoom_of_fit hfit htracked hcall
    have hlater : (s.feed call.1 call.2).2.flows.keys ⊆ flows := by
      rw [feed_flows, hkept, keys_insert]
      exact cons_subset.2 ⟨hcall, fun _ hkey => htracked (mem_of_mem_erase hkey)⟩
    rw [answersTo]
    by_cases hflow : call.1 = flow
    · -- both sessions take this step
      subst hflow
      have hstep := (feed_view (s := s) call.2).trans (hview ▸ (feed_view (s := s') call.2).symm)
      obtain ⟨hanswer, hviews⟩ := Prod.mk.inj hstep
      rw [filter_cons_of_pos (by simp), answersTo, if_pos rfl, if_pos rfl, hanswer,
        ih hviews (by rwa [feed_config]) hcalls hlater]
    · rw [filter_cons_of_neg (by simpa using hflow), if_neg hflow]
      exact ih ((view_feed_other call.2 (Ne.symm hflow) hkept).trans hview)
        (by rwa [feed_config]) hcalls hlater

/-- If the table has room for all flows of a run, each flow is answered as if it were alone. -/
theorem answersTo_filter (config : DpiSessionConfig) (calls : List FeedCall) (flow : FlowKey)
    (hfit : (calls.map Prod.fst).dedup.length ≤ config.maxFlows) :
    answersTo flow (withConfig config) calls =
      answersTo flow (withConfig config) (calls.filter fun call => call.1 = flow) := by
  refine answersTo_of_view calls rfl hfit ?_ (nil_subset _)
  intro call hcall
  exact mem_dedup.2 (mem_map_of_mem hcall)

theorem answersTo_two_flows :
    answersTo (flowFrom 1) (withConfig {}) (unparsedCalls [1, 2, 1]) =
      answersTo (flowFrom 1) (withConfig {}) (unparsedCalls [1, 1]) :=
  answersTo_filter {} (unparsedCalls [1, 2, 1]) (flowFrom 1) (by decide)

end MarlinspikeDpi.Engine.DpiSession
