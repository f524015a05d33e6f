import MarlinspikeDpi.Foundation.Mealy

/-!
# Readers that wait for one piece of a stream after the other

A staged reader collects what it is fed in a buffer.

* `Leads.run`: a stream leads from one stage to another however it is cut.
* `served_iff`: one reader serves one key.
-/

namespace MarlinspikeDpi.Staged

open List Mealy

variable {κ σ α ε : Type}

inductive Move (σ α ε : Type) where
  /-- There is no whole piece in it. -/
  | wait (events : List ε)
  | go (events : List ε) (s : σ) (rest : List α)
  /-- Takes a piece and looks at the rest only when there is another input. -/
  | halt (events : List ε) (s : σ) (rest : List α)

def Move.events : Move σ α ε → List ε
  | wait events => events
  | go events _ _ => events
  | halt events _ _ => events

structure Reader (κ σ α ε : Type) where
  payload : κ → List α
  done : σ → Bool
  move : κ → σ → List α → Move σ α ε

open Staged.Reader

structure Progress (σ α : Type) where
  state : σ
  buf : List α

namespace Reader

variable (R : Reader κ σ α ε)

def loop (c : κ) : Nat → σ → List α → List ε × Progress σ α
  | 0, s, buf => ([], ⟨s, buf⟩)
  | rounds + 1, s, buf =>
    match R.move c s buf with
    | .wait events => (events, ⟨s, buf⟩)
    | .halt events s' rest => (events, ⟨s', rest⟩)
    | .go events s' rest => (events ++ (loop c rounds s' rest).1, (loop c rounds s' rest).2)

/-- One input. Each move takes something out of the buffer, so there are no more moves than
bytes. -/
def feed (p : Progress σ α) (c : κ) : List ε × Progress σ α :=
  if R.done p.state || (R.payload c).isEmpty then ([], p)
  else R.loop c ((p.buf ++ R.payload c).length + 1) p.state (p.buf ++ R.payload c)

lemma feed_of_done {p : Progress σ α} (h : R.done p.state = true)
    (c : κ) : R.feed p c = ([], p) := by
  rw [feed, h]
  rfl

variable {R} in
lemma feed_of_empty {c : κ} (h : R.payload c = []) (p : Progress σ α) : R.feed p c = ([], p) := by
  rw [feed, h, isEmpty_nil, Bool.or_true, if_pos rfl]

variable {R} in
lemma feed_of_new {p : Progress σ α} {c : κ} (hnew : R.done p.state = false)
    (h : R.payload c ≠ []) :
    R.feed p c = R.loop c ((p.buf ++ R.payload c).length + 1) p.state (p.buf ++ R.payload c) := by
  rw [feed, hnew, isEmpty_eq_false_iff.2 h]
  rfl

lemma run_of_done {p : Progress σ α} (h : R.done p.state = true)
    (cs : List κ) : run R.feed p cs = ([], p) := by
  induction cs with
  | nil => rfl
  | cons c cs ih =>
    rw [run_cons, R.feed_of_done h, ih]
    rfl

lemma forall_mem_feed {P : κ → ε → Prop}
    (h : ∀ c s buf, ∀ event ∈ (R.move c s buf).events, P c event)
    (p : Progress σ α) (c : κ) : ∀ event ∈ (R.feed p c).1, P c event := by
  have hloop : ∀ rounds s buf, ∀ event ∈ (R.loop c rounds s buf).1, P c event := by
    intro rounds
    induction rounds with
    | zero => exact fun s buf event hevent => absurd hevent not_mem_nil
    | succ rounds ih =>
      intro s buf event hevent
      have hmove := h c s buf event
      rw [loop] at hevent
      cases hcase : R.move c s buf with
      | wait events =>
        rw [hcase] at hevent hmove
        exact hmove hevent
      | halt events s' rest =>
        rw [hcase] at hevent hmove
        exact hmove hevent
      | go events s' rest =>
        rw [hcase] at hevent hmove
        exact (mem_append.1 hevent).elim hmove (ih s' rest event)
  rw [feed]
  split
  · exact fun event hevent => absurd hevent not_mem_nil
  · exact hloop _ _ _

def stream (cs : List κ) : List α := cs.flatMap R.payload

end Reader

/-! ## One output that counts -/

section

variable {R : Reader κ σ α ε} {select : ε → Bool}

def Move.Single (done : σ → Bool) (select : ε → Bool) : Move σ α ε → Prop
  | wait events => events.filter select = []
  | go events _ _ => events.filter select = []
  | halt events s _ => events.filter select = [] ∨ (events.filter select).length = 1 ∧ done s = true

def Single (R : Reader κ σ α ε) (select : ε → Bool) : Prop :=
  ∀ c s buf, (R.move c s buf).Single R.done select

namespace Single

variable (hsingle : Single R select)

include hsingle

lemma wait {c : κ} {s : σ} {buf : List α} {events : List ε} (h : R.move c s buf = .wait events) :
    events.filter select = [] := by
  have hmove := hsingle c s buf
  rwa [h] at hmove

lemma go {c : κ} {s s' : σ} {buf rest : List α} {events : List ε}
    (h : R.move c s buf = .go events s' rest) : events.filter select = [] := by
  have hmove := hsingle c s buf
  rwa [h] at hmove

lemma halt {c : κ} {s s' : σ} {buf rest : List α} {events : List ε}
    (h : R.move c s buf = .halt events s' rest) :
    events.filter select = [] ∨ (events.filter select).length = 1 ∧ R.done s' = true := by
  have hmove := hsingle c s buf
  rwa [h] at hmove

end Single

def Settled (R : Reader κ σ α ε) (select : ε → Bool) (result : List ε × Progress σ α) : Prop :=
  result.1.filter select = [] ∨ (result.1.filter select).length = 1 ∧ R.done result.2.state = true

lemma Single.loop (hsingle : Single R select) (c : κ) (rounds : Nat) (s : σ) (buf : List α) :
    Settled R select (R.loop c rounds s buf) := by
  induction rounds generalizing s buf with
  | zero => exact .inl rfl
  | succ rounds ih =>
    rw [Reader.loop]
    cases hmove : R.move c s buf with
    | wait events => exact .inl (hsingle.wait hmove)
    | halt events s' rest => exact hsingle.halt hmove
    | go events s' rest =>
      rw [Settled, filter_append, hsingle.go hmove]
      exact ih s' rest

lemma Single.feed (hsingle : Single R select) (p : Progress σ α)
    (c : κ) : Settled R select (R.feed p c) := by
  rw [Reader.feed]
  split
  · exact .inl rfl
  · exact hsingle.loop c _ _ _

lemma Single.length_run_le_one (hsingle : Single R select) (p : Progress σ α) (cs : List κ) :
    ((run R.feed p cs).1.filter select).length ≤ 1 := by
  induction cs generalizing p with
  | nil => exact Nat.zero_le 1
  | cons c cs ih =>
    rw [run_cons, filter_append]
    rcases hsingle.feed p c with hnone | ⟨hone, hdone⟩
    · rw [hnone]
      exact ih _
    · refine Nat.le_of_eq ?_
      rw [R.run_of_done hdone, filter_nil, append_nil, hone]

end

/-! ## Streams that are read -/

section

variable {R : Reader κ σ α ε} {select : ε → Bool} {last : σ} {piece bytes : List α}

/-- In the state `s` the reader waits for the piece, without an output that counts. -/
structure Waits (R : Reader κ σ α ε) (select : ε → Bool) (s : σ) (piece : List α) : Prop where
  new : R.done s = false
  wait : ∀ c part, part <+: piece → part ≠ piece → ∃ events, R.move c s part = .wait events ∧
    events.filter select = []

/-- In the state `last` the reader waits for the piece, and is done with it. -/
structure Last (R : Reader κ σ α ε) (select : ε → Bool) (last : σ) (piece : List α) : Prop
    extends Waits R select last piece where
  halt : ∀ c more, ∃ events s rest, R.move c last (piece ++ more) = .halt events s rest ∧
    R.done s = true

/-- In the state `s` the reader waits for the piece, and goes on to `s'`. -/
structure Stage (R : Reader κ σ α ε) (select : ε → Bool) (s s' : σ) (piece : List α) : Prop
    extends Waits R select s piece where
  some : piece ≠ []
  go : ∀ c more, ∃ events, R.move c s (piece ++ more) = .go events s' more ∧
    events.filter select = []

lemma Stage.feed {s s' : σ} (h : Stage R (fun _ => true) s s' piece) {c : κ}
    (hpayload : R.payload c = piece)
    (hwait : R.move c s' [] = .wait []) : R.feed ⟨s, []⟩ c = ([], ⟨s', []⟩) := by
  obtain ⟨events, hgo, hquiet⟩ := h.go c []
  rw [append_nil] at hgo
  obtain ⟨n, hn⟩ := Nat.exists_eq_add_one_of_ne_zero (Nat.ne_of_gt (length_pos_iff.2 h.some))
  rw [feed_of_new (p := ⟨s, []⟩) h.new (hpayload ▸ h.some), hpayload, nil_append, hn, loop, hgo]
  dsimp only
  rw [loop, hwait, ← filter_true events, hquiet]
  rfl

/-- From `s` the reader takes the pieces of the bytes one by one, without an output that counts, up
to the last one. -/
inductive Leads (R : Reader κ σ α ε) (select : ε → Bool) (last : σ) (piece : List α) : σ → List α →
    Prop where
  | here : Leads R select last piece last piece
  | stage {s s' : σ} {first bytes : List α} (hstage : Stage R select s s' first)
      (hleads : Leads R select last piece s' bytes) : Leads R select last piece s (first ++ bytes)

lemma part_or_more {tail : List α} {piece buf later : List α} (h : buf ++ later = piece ++ tail) :
    (buf <+: piece ∧ buf.length < piece.length) ∨ ∃ more, buf = piece ++ more ∧
      more ++ later = tail := by
  rcases append_eq_append_iff.1 h with ⟨rest, rfl, hlater⟩ | ⟨rest, rfl, htail⟩
  · cases rest with
    | nil => exact .inr ⟨[], by simp, by simpa using hlater⟩
    | cons a rest =>
      refine .inl ⟨prefix_append _ _, ?_⟩
      rw [length_append, length_cons]
      omega
  · exact .inr ⟨rest, rfl, htail.symm⟩

lemma Leads.new (hlast : Last R select last piece) {s : σ} (h : Leads R select last piece s bytes) :
    R.done s = false := by
  cases h with
  | here => exact hlast.new
  | stage hstage => exact hstage.new

lemma Leads.loop {tail : List α} (hlast : Last R select last piece) {s : σ}
    (h : Leads R select last piece s bytes) (c : κ)
    {rounds : Nat} {buf later : List α} (hrounds : buf.length < rounds)
    (hstream : buf ++ later = bytes ++ tail) :
    (∃ events p bytes', R.loop c rounds s buf = (events, p) ∧ events.filter select = [] ∧
        Leads R select last piece p.state bytes' ∧ p.buf ++ later = bytes' ++ tail ∧
          p.buf.length < bytes'.length) ∨
      ∃ more, more ++ later = tail ∧ R.done (R.loop c rounds s buf).2.state = true ∧
        (R.loop c rounds s buf).1.filter select =
          (R.move c last (piece ++ more)).events.filter select := by
  induction h generalizing rounds buf with
  | here =>
    obtain ⟨rounds, rfl⟩ := Nat.exists_eq_add_one_of_ne_zero (Nat.ne_zero_of_lt hrounds)
    rw [Reader.loop]
    rcases part_or_more hstream with ⟨hpart, hless⟩ | ⟨more, rfl, hmore⟩
    · obtain ⟨events, hmove, hquiet⟩ := hlast.wait c buf hpart fun heq => by simp [heq] at hless
      rw [hmove]
      exact .inl ⟨events, _, piece, rfl, hquiet, .here, hstream, hless⟩
    · obtain ⟨events, s', rest, hmove, hdone⟩ := hlast.halt c more
      refine .inr ⟨more, hmore, ?_⟩
      rw [hmove]
      exact ⟨hdone, rfl⟩
  | @stage s s' first bytes hstage hleads ih =>
    obtain ⟨rounds, rfl⟩ := Nat.exists_eq_add_one_of_ne_zero (Nat.ne_zero_of_lt hrounds)
    rw [Reader.loop]
    have hassoc := hstream
    rw [append_assoc] at hassoc
    rcases part_or_more hassoc with ⟨hpart, hless⟩ | ⟨more, rfl, hmore⟩
    · obtain ⟨events, hmove, hquiet⟩ := hstage.wait c buf hpart fun heq => by simp [heq] at hless
      rw [hmove]
      refine .inl ⟨events, _, first ++ bytes, rfl, hquiet, .stage hstage hleads, hstream, ?_⟩
      rw [length_append]
      exact Nat.lt_add_right _ hless
    · obtain ⟨events, hmove, hquiet⟩ := hstage.go c more
      have hpos := length_pos_iff.2 hstage.some
      rw [length_append] at hrounds
      have hfewer : more.length < rounds := by omega
      rw [hmove]
      dsimp only
      rw [filter_append, hquiet]
      rcases ih hfewer hmore with ⟨events', p, bytes', hloop, hquiet', hrest⟩ | hdone
      · refine .inl ⟨events ++ events', p, bytes', by rw [hloop], ?_, hrest⟩
        rw [filter_append, hquiet, hquiet']
        rfl
      · exact .inr hdone

lemma Leads.feed (hlast : Last R select last piece) {s : σ} {more : List α}
    (h : Leads R select last piece s bytes)
    (hsome : bytes ≠ []) {c : κ} (hpayload : R.payload c = bytes ++ more) :
    (R.feed ⟨s, []⟩ c).1.filter select = (R.move c last (piece ++ more)).events.filter select := by
  have hne : R.payload c ≠ [] := fun h => hsome (append_eq_nil_iff.1 (hpayload ▸ h)).1
  rw [feed_of_new (p := ⟨s, []⟩) (h.new hlast) hne]
  rcases h.loop hlast c (Nat.lt_succ_self _)
    (show R.payload c ++ [] = bytes ++ more by simp [hpayload]) with
    ⟨events, p, bytes', -, -, -, hbuf, hless⟩ | ⟨more', hmore, -, hevents⟩
  · have hlength := congrArg List.length hbuf
    simp only [length_append, length_nil] at hlength
    omega
  · obtain rfl : more' = more := by simpa using hmore
    exact hevents

/-- The outputs are those for the last piece and some of what comes behind it. -/
theorem Leads.run {tail : List α} (hlast : Last R select last piece) (cs later : List κ)
    {p : Progress σ α}
    (h : Leads R select last piece p.state bytes) (hless : p.buf.length < bytes.length)
    (hstream : p.buf ++ R.stream cs = bytes ++ tail) :
    ∃ c more, more <+: tail ∧ (run R.feed p (cs ++ later)).1.filter select =
      (R.move c last (piece ++ more)).events.filter select := by
  induction cs generalizing p bytes with
  | nil =>
    have hlength := congrArg List.length hstream
    simp only [stream, flatMap_nil, append_nil, length_append] at hlength
    omega
  | cons c cs ih =>
    rw [stream, flatMap_cons] at hstream
    rw [cons_append, run_cons, filter_append]
    by_cases hempty : R.payload c = []
    · rw [hempty] at hstream
      rw [feed_of_empty hempty]
      exact ih h hless hstream
    · rw [feed_of_new (h.new hlast) hempty]
      rw [← append_assoc] at hstream
      rcases h.loop hlast c (Nat.lt_succ_self _) hstream with
        ⟨events, p', bytes', hloop, hquiet, h', hbuf, hless'⟩ | ⟨more, hmore, hdone, hevents⟩
      · rw [hloop, hquiet]
        exact ih h' hless' hbuf
      · refine ⟨c, more, ⟨_, hmore⟩, ?_⟩
        rw [R.run_of_done hdone, hevents, filter_nil, append_nil]

/-- From `s` the reader takes the bytes with a number of outputs that count. -/
def Reads (R : Reader κ σ α ε) (select : ε → Bool) (n : Nat) (s : σ) (bytes : List α) : Prop :=
  ∃ last piece, Last R select last piece ∧ Leads R select last piece s bytes ∧
    ∀ c more, ((R.move c last (piece ++ more)).events.filter select).length = n

lemma Stage.reads {s s' : σ} (h : Stage R select s s' piece) {n : Nat}
    (hreads : Reads R select n s' bytes) : Reads R select n s (piece ++ bytes) := by
  obtain ⟨last, final, hlast, hleads, hcount⟩ := hreads
  exact ⟨last, final, hlast, .stage h hleads, hcount⟩

end

/-! ## Several streams -/

section

variable {ν : Type} [DecidableEq ν]

/-- The outputs that count carry the key of the input they are made for. -/
def Keyed (R : Reader κ σ α ε) (token : ε → Option ν) (key : κ → ν) : Prop :=
  ∀ p c, ∀ event ∈ (R.feed p c).1, ∀ k, token event = some k → k = key c

/-- For every key there is one output, and it is the one that is made if there are no inputs with
other keys. -/
def Served {τ : Type} (feed : τ → κ → List ε × τ) (token : ε → Option ν) (key : κ → ν) (p : τ)
    (cs : List κ) : Prop :=
  ∀ c ∈ cs, ∃ event, (Mealy.run feed p cs).1.filter (fun e => token e = some (key c)) = [event] ∧
    (Mealy.run feed p (cs.filter fun c' => key c' = key c)).1.filter
      (fun e => token e = some (key c)) = [event]

omit [DecidableEq ν] in
lemma Keyed.run {R : Reader κ σ α ε} {token : ε → Option ν} {key : κ → ν}
    (hkeyed : Keyed R token key) (p : Progress σ α) (cs : List κ) :
    ∀ event ∈ (run R.feed p cs).1, ∀ k, token event = some k → ∃ c ∈ cs, k = key c := by
  induction cs generalizing p with
  | nil => exact fun event hevent => absurd hevent not_mem_nil
  | cons c cs ih =>
    intro event hevent k hk
    rw [run_cons] at hevent
    rcases mem_append.1 hevent with hevent | hevent
    · exact ⟨c, mem_cons_self, hkeyed p c event hevent k hk⟩
    · obtain ⟨c', hc', hkey⟩ := ih _ event hevent k hk
      exact ⟨c', mem_cons_of_mem _ hc', hkey⟩

lemma Keyed.filter_run {R : Reader κ σ α ε} {token : ε → Option ν} {key : κ → ν}
    (hkeyed : Keyed R token key) (p : Progress σ α) {cs : List κ} {k : ν}
    (hsame : ∀ c ∈ cs, key c = k) :
    (Mealy.run R.feed p cs).1.filter (fun e => token e = some k) =
      (Mealy.run R.feed p cs).1.filter fun e => (token e).isSome := by
  apply filter_congr
  intro event hevent
  cases htoken : token event with
  | none => simp
  | some k' =>
    obtain ⟨c, hc, rfl⟩ := hkeyed.run p cs event hevent k' htoken
    simp [hsame c hc]

/-- If every key has a stream that the reader reads, with a number of outputs that count, then all
keys are served exactly if there is only one key, and this number is one. -/
theorem served_iff {R : Reader κ σ α ε} {token : ε → Option ν} {key : κ → ν}
    (hsingle : Single R fun e => (token e).isSome) (hkeyed : Keyed R token key) (init : σ)
    (count : ν → Nat) (cs : List κ)
    (hreads : ∀ c ∈ cs, ∃ bytes tail, bytes ≠ [] ∧
      Reads R (fun e => (token e).isSome) (count (key c)) init bytes ∧
      R.stream (cs.filter fun c' => key c' = key c) = bytes ++ tail) :
    Served R.feed token key ⟨init, []⟩ cs ↔ (∀ c ∈ cs, ∀ c' ∈ cs, key c = key c') ∧
      ∀ c ∈ cs, count (key c) = 1 := by
  -- what the reader makes of the stream of one key
  have halone : ∀ c ∈ cs, ((run R.feed ⟨init, []⟩ (cs.filter fun c' => key c' = key c)).1.filter
      fun e => token e = some (key c)).length = count (key c) := by
    intro c hc
    obtain ⟨bytes, tail, hne, hbytes, hstream⟩ := hreads c hc
    rw [hkeyed.filter_run ⟨init, []⟩ fun c' hc' => of_decide_eq_true (mem_filter.1 hc').2]
    obtain ⟨last, piece, hlast, hleads, hcount⟩ := hbytes
    obtain ⟨c', more, -, hrun⟩ :=
      hleads.run hlast _ [] (p := ⟨init, []⟩) (length_pos_iff.2 hne) hstream
    rw [← append_nil (cs.filter _), hrun, hcount]
  constructor
  · intro hserved
    refine ⟨?_, ?_⟩
    · intro c hc c' hc'
      obtain ⟨event, hevent, -⟩ := hserved c hc
      obtain ⟨event', hevent', -⟩ := hserved c' hc'
      have hmem : ∀ {k e}, (run R.feed ⟨init, []⟩ cs).1.filter (fun e => token e = some k) = [e] →
          e ∈ (run R.feed ⟨init, []⟩ cs).1.filter (fun e => (token e).isSome) ∧
            token e = some k := by
        intro k e hfilter
        obtain ⟨hin, htoken⟩ := mem_filter.1 (hfilter ▸ mem_singleton_self e)
        rw [decide_eq_true_eq] at htoken
        exact ⟨mem_filter.2 ⟨hin, by rw [htoken]; rfl⟩, htoken⟩
      obtain ⟨hin, htoken⟩ := hmem hevent
      obtain ⟨hin', htoken'⟩ := hmem hevent'
      -- the reader makes one output that counts at most
      have hle := hsingle.length_run_le_one ⟨init, []⟩ cs
      have hsame : event = event' := by
        obtain ⟨e, hlist⟩ := length_eq_one_iff.1 (Nat.le_antisymm hle (length_pos_of_mem hin))
        rw [hlist, mem_singleton] at hin hin'
        rw [hin, hin']
      rw [hsame, htoken'] at htoken
      exact (Option.some.inj htoken).symm
    · intro c hc
      obtain ⟨event, -, hevent⟩ := hserved c hc
      rw [← halone c hc, hevent]
      rfl
  · rintro ⟨hsame, hone⟩ c hc
    have hall : cs.filter (fun c' => key c' = key c) = cs :=
      filter_eq_self.2 fun c' hc' => decide_eq_true (hsame c' hc' c hc)
    obtain ⟨event, hevent⟩ := length_eq_one_iff.1 ((halone c hc).trans (hone c hc))
    refine ⟨event, ?_, hevent⟩
    rw [hall] at hevent
    exact hevent

end

end MarlinspikeDpi.Staged
