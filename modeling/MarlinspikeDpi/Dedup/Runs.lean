import MarlinspikeDpi.Dedup

/-!
# Sequences of calls to the duplicate filter

A `Call` holds the arguments of one call of `isDuplicate`.

* `duplicateOf_excluded_iff`: which calls can never be confused.
* `ask_exact`: in time order the filter is exact up to collisions.
-/

namespace MarlinspikeDpi.DedupEngine

open Bytes Text List Nat External SlidingWindow

structure Call where
  timestampNs : UInt64
  (srcIp dstIp : String)
  (srcPort dstPort : UInt16)
  protocol : String
deriving DecidableEq, Repr

namespace Call

variable (bucketNs : Nat) (c : Call)

def bucket : Nat :=
  if 0 < bucketNs then c.timestampNs.toNat / bucketNs else c.timestampNs.toNat

def keyBytes : List UInt8 :=
  utf8 c.srcIp ++ utf8 c.dstIp ++ toBe 2 c.srcPort.toNat ++ toBe 2 c.dstPort.toNat ++
    utf8 c.protocol

def identity : Nat × String × String × UInt16 × UInt16 × String :=
  (c.bucket bucketNs, c.srcIp, c.dstIp, c.srcPort, c.dstPort, c.protocol)

def preimage (bucketNs : Nat) (c : Call) : List UInt8 :=
  DedupEngine.preimage bucketNs c.timestampNs.toNat c.srcIp c.dstIp c.srcPort c.dstPort c.protocol

lemma preimage_eq : c.preimage bucketNs = toBe 8 (c.bucket bucketNs) ++ c.keyBytes := by
  simp [preimage, DedupEngine.preimage, bucket, keyBytes]

lemma toBe_port_inj {p q : UInt16} (h : toBe 2 p.toNat = toBe 2 q.toNat) : p = q := by
  have hvalue := congrArg beNat h
  rw [beNat_toBe p.toNat_lt, beNat_toBe q.toNat_lt] at hvalue
  exact UInt16.toNat_inj.1 hvalue

lemma bucket_lt : c.bucket bucketNs < 256 ^ 8 := by
  have htime : c.timestampNs.toNat < 256 ^ 8 := c.timestampNs.toNat_lt
  unfold bucket
  split
  · exact lt_of_le_of_lt (div_le_self _ _) htime
  · exact htime

lemma preimage_eq_iff {bucketNs : Nat} {c c' : Call} :
    c.preimage bucketNs = c'.preimage bucketNs ↔ c.bucket bucketNs = c'.bucket bucketNs ∧
      c.keyBytes = c'.keyBytes := by
  rw [preimage_eq, preimage_eq]
  constructor
  · intro h
    rcases append_inj h (by simp) with ⟨hbucket, hkey⟩
    have hvalue := congrArg beNat hbucket
    rw [beNat_toBe (bucket_lt bucketNs c), beNat_toBe (bucket_lt bucketNs c')] at hvalue
    exact ⟨hvalue, hkey⟩
  · rintro ⟨hbucket, hkey⟩
    rw [hbucket, hkey]

/-- The bytes are joined without separators: they give each part back where the addresses of one
call are as long as those of the other. -/
lemma identity_eq_of_preimage_eq {bucketNs : Nat} {c c' : Call}
    (h : c.preimage bucketNs = c'.preimage bucketNs)
    (hsrc : (utf8 c.srcIp).length = (utf8 c'.srcIp).length)
    (hdst : (utf8 c.dstIp).length = (utf8 c'.dstIp).length) :
    c.identity bucketNs = c'.identity bucketNs := by
  obtain ⟨hbucket, hkey⟩ := preimage_eq_iff.1 h
  simp only [keyBytes, append_assoc] at hkey
  obtain ⟨hsrcIp, hkey⟩ := append_inj hkey hsrc
  obtain ⟨hdstIp, hkey⟩ := append_inj hkey hdst
  obtain ⟨hsrcPort, hkey⟩ := append_inj hkey (by simp)
  obtain ⟨hdstPort, hprotocol⟩ := append_inj hkey (by simp)
  simp only [identity, hbucket, utf8_inj.1 hsrcIp, utf8_inj.1 hdstIp, toBe_port_inj hsrcPort,
    toBe_port_inj hdstPort, utf8_inj.1 hprotocol]

lemma sub_le_of_bucket_eq {bucketNs windowNs : Nat} (hbucket : 0 < bucketNs)
    (hwindow : bucketNs ≤ windowNs) {c c' : Call} (h : c.bucket bucketNs = c'.bucket bucketNs) :
    c'.timestampNs.toNat - windowNs ≤ c.timestampNs.toNat := by
  simp only [bucket, if_pos hbucket] at h
  have hlow := div_mul_le_self c.timestampNs.toNat bucketNs
  have hhigh := lt_div_mul_add hbucket (a := c'.timestampNs.toNat)
  rw [h] at hlow
  omega

end Call

section

variable [External]

def Call.digest (bucketNs : Nat) (c : Call) : List UInt8 := External.sha256 (c.preimage bucketNs)

variable (d : DedupEngine)

def ask (c : Call) : Bool × DedupEngine :=
  d.isDuplicate c.timestampNs.toNat c.srcIp c.dstIp c.srcPort c.dstPort c.protocol

def askAll (calls : List Call) : DedupEngine := calls.foldl (fun d c => (d.ask c).2) d

lemma ask_fst (c : Call) : (d.ask c).1 =
    (d.observe c.timestampNs.toNat (c.digest d.bucketNs)).1 := rfl

lemma ask_snd (c : Call) : (d.ask c).2.toSlidingWindow =
    (d.observe c.timestampNs.toNat (c.digest d.bucketNs)).2 := rfl

@[simp] lemma ask_bucketNs (c : Call) : (d.ask c).2.bucketNs = d.bucketNs := rfl

lemma askAll_concat (calls : List Call) (c : Call) :
    d.askAll (calls ++ [c]) = ((d.askAll calls).ask c).2 := by
  simp [askAll]

@[simp] lemma askAll_bucketNs (calls : List Call) : (d.askAll calls).bucketNs = d.bucketNs := by
  induction calls using List.reverseRecOn with
  | nil => rfl
  | append_singleton calls c ih => rw [askAll_concat, ask_bucketNs, ih]

lemma askAll_eq_run (calls : List Call) : (d.askAll calls).toSlidingWindow =
      d.run (calls.map fun c => (c.timestampNs.toNat, c.digest d.bucketNs)) := by
  induction calls using List.reverseRecOn with
  | nil => rfl
  | append_singleton calls c ih =>
    rw [askAll_concat, ask_snd, askAll_bucketNs, ih, map_append, map_singleton, run_concat]

/-! ## Being reported because of another call -/

/-- With `d` as the state before `a`: `b` is answered as a duplicate, and the entry it finds is the
one that `a` stored. -/
structure DuplicateOf (d : DedupEngine) (a : Call) (between : List Call) (b : Call) : Prop where
  stored : (d.ask a).1 = false
  kept : ∀ calls, calls <+: between →
    ((d.ask a).2.askAll calls).seen.lookup (a.digest d.bucketNs) = some a.timestampNs.toNat
  found : b.digest d.bucketNs = a.digest d.bucketNs
  reported : (((d.ask a).2.askAll between).ask b).1 = true

lemma duplicateOf_new (windowNs bucketNs : Nat) {a b : Call}
    (hdigest : b.digest bucketNs = a.digest bucketNs) (htime : b.timestampNs ≤ a.timestampNs) :
    DuplicateOf (new windowNs bucketNs) a [] b := by
  have hfresh : ((new windowNs bucketNs).ask a).1 = false := by
    rw [ask_fst, Bool.eq_false_iff, ne_eq, observe_duplicate_iff]
    rintro ⟨t, hentry, -⟩
    simp [new] at hentry
  have hentry : ((new windowNs bucketNs).ask a).2.seen.lookup (a.digest bucketNs) =
      some a.timestampNs.toNat := by
    rw [ask_snd]
    exact lookup_observe_eq_some.2 (Or.inr ⟨rfl, rfl, hfresh⟩)
  refine ⟨hfresh, ?_, hdigest, ?_⟩
  · intro calls hcalls
    obtain rfl : calls = [] := prefix_nil.1 hcalls
    exact hentry
  · refine observe_duplicate_iff.2 ⟨a.timestampNs.toNat, ?_, ?_⟩
    · show ((new windowNs bucketNs).ask a).2.seen.lookup (b.digest bucketNs) = _
      rw [hdigest]
      exact hentry
    · have hle : b.timestampNs.toNat ≤ a.timestampNs.toNat := htime
      exact le_trans (sub_le _ _) hle

/-- Neither of two calls can ever be reported because of the other one, in any state of an engine
with the given window and bucket length and whatever happens in between, exactly when their buckets
or their concatenated fields differ. -/
theorem duplicateOf_excluded_iff (hsha : Function.Injective External.sha256)
    (windowNs bucketNs : Nat) (a b : Call) :
    (∀ d : DedupEngine, d.window = windowNs → d.bucketNs = bucketNs → ∀ between,
      ¬ DuplicateOf d a between b ∧ ¬ DuplicateOf d b between a) ↔
      (a.bucket bucketNs ≠ b.bucket bucketNs ∨ a.keyBytes ≠ b.keyBytes) := by
  constructor
  · intro h
    by_contra hsame
    simp only [not_or, not_not] at hsame
    have hdigest : a.digest bucketNs = b.digest bucketNs :=
      congrArg sha256 (Call.preimage_eq_iff.2 hsame)
    rcases h (new windowNs bucketNs) rfl rfl [] with ⟨hab, hba⟩
    -- whichever has the earlier time is reported when it comes second
    rcases le_total b.timestampNs.toNat a.timestampNs.toNat with htime | htime
    · exact hab (duplicateOf_new windowNs bucketNs hdigest.symm htime)
    · exact hba (duplicateOf_new windowNs bucketNs hdigest htime)
  · intro hdiff d _ hbucket between
    subst hbucket
    have hne : a.digest d.bucketNs ≠ b.digest d.bucketNs := by
      intro hdigest
      rcases Call.preimage_eq_iff.1 (hsha hdigest) with ⟨hbucket, hkey⟩
      rcases hdiff with h | h
      · exact h hbucket
      · exact h hkey
    exact ⟨fun h => hne h.found.symm, fun h => hne h.found⟩

end

/-- Two records of one instant with different dotted addresses: `1.1.1.1` to `11.1.1.1`, and
`1.1.1.11` to `1.1.1.1`. -/
def dottedPair : Call × Call :=
  ({ timestampNs := 0, srcIp := "1.1.1.1", dstIp := "11.1.1.1", srcPort := 40000, dstPort := 502
     protocol := "modbus" },
   { timestampNs := 0, srcIp := "1.1.1.11", dstIp := "1.1.1.1", srcPort := 40000, dstPort := 502
     protocol := "modbus" })

/-- The second record of the pair is dropped as a duplicate of the first one, although nothing
collides under the hash. -/
theorem dottedPair_confused :
    dottedPair.1.identity 1000000000 ≠ dottedPair.2.identity 1000000000 ∧
      (letI : External := External.sample
       Function.Injective External.sha256 ∧
         DuplicateOf (new 5000000000 1000000000) dottedPair.1 [] dottedPair.2) := by
  let _ : External := sample
  refine ⟨by decide, Function.injective_id, ?_⟩
  exact duplicateOf_new 5000000000 1000000000 (by decide) (by decide)

/-- With the destination port changed the concatenations differ, and the two calls never meet. -/
theorem dottedPair_otherPort_separate :
    letI : External := sample
    Function.Injective sha256 ∧
      ∀ d : DedupEngine, d.window = 5000000000 → d.bucketNs = 1000000000 → ∀ between,
        ¬ DuplicateOf d dottedPair.1 between { dottedPair.2 with dstPort := 102 } ∧
          ¬ DuplicateOf d { dottedPair.2 with dstPort := 102 } between dottedPair.1 := by
  let _ : External := sample
  refine ⟨Function.injective_id, ?_⟩
  exact (duplicateOf_excluded_iff Function.injective_id 5000000000 1000000000 _ _).2
    (Or.inr (by decide))

section

variable [External]

/-! ## Exactness on calls in time order -/

/-- For calls in time order and a window no shorter than the bucket: a call is answered as new
exactly when no earlier call had the same bytes to hash, provided SHA-256 does not collide on the
calls made; and no entry is older than the window. -/
theorem ask_exact (windowNs bucketNs : Nat) (hbucket : 0 < bucketNs) (hwindow : bucketNs ≤ windowNs)
    (before after : List Call) (c : Call)
    (hsorted : (before ++ c :: after).Pairwise fun c c' => c.timestampNs ≤ c'.timestampNs)
    (hsha : ∀ c₁ ∈ before ++ c :: after, ∀ c₂ ∈ before ++ c :: after,
      c₁.digest bucketNs = c₂.digest bucketNs → c₁.preimage bucketNs = c₂.preimage bucketNs) :
    ((((new windowNs bucketNs).askAll before).ask c).1 = false ↔
      ∀ earlier ∈ before, earlier.preimage bucketNs ≠ c.preimage bucketNs) ∧
    ∀ digest firstSeen,
      (((new windowNs bucketNs).askAll before).ask c).2.seen.lookup digest = some firstSeen →
        c.timestampNs.toNat - windowNs ≤ firstSeen := by
  have hsame : ∀ earlier ∈ before, earlier.digest bucketNs = c.digest bucketNs →
      earlier.preimage bucketNs = c.preimage bucketNs := by
    intro earlier hearlier
    exact hsha earlier (mem_append_left _ hearlier) c (by simp)
  have htime : ∀ earlier ∈ before, earlier.timestampNs.toNat ≤ c.timestampNs.toNat := by
    intro earlier hearlier
    exact (pairwise_append.1 hsorted).2.2 earlier hearlier c mem_cons_self
  have hrun := askAll_eq_run (new windowNs bucketNs) before
  have hobserve : (((new windowNs bucketNs).askAll before).ask c).1 = true ↔
      ∃ earlier ∈ before, earlier.digest bucketNs = c.digest bucketNs := by
    rw [ask_fst, askAll_bucketNs, hrun]
    refine (run_observe_duplicate_iff ?_ ?_).trans ?_
    · intro o ho
      rcases mem_map.1 ho with ⟨earlier, hearlier, rfl⟩
      exact htime earlier hearlier
    · intro t ht
      rcases mem_map.1 ht with ⟨earlier, hearlier, heq⟩
      rcases Prod.mk.inj heq with ⟨rfl, hdigest⟩
      -- the same bytes are hashed, so both calls lie in one bucket
      have hpreimage := hsame earlier hearlier hdigest
      exact Call.sub_le_of_bucket_eq hbucket hwindow (Call.preimage_eq_iff.1 hpreimage).1
    · simp [new]
  constructor
  · rw [Bool.eq_false_iff, ne_eq, hobserve]
    constructor
    · intro hnone earlier hearlier hpreimage
      exact hnone ⟨earlier, hearlier, congrArg sha256 hpreimage⟩
    · rintro hnone ⟨earlier, hearlier, hdigest⟩
      exact hnone earlier hearlier (hsame earlier hearlier hdigest)
  · intro digest firstSeen hentry
    rw [ask_snd, hrun] at hentry
    have hold := observe_entries hentry
    rwa [run_window] at hold

end

/-- A call with the fields of an earlier one in the same bucket is a duplicate. -/
theorem dottedPair_repeated :
    letI : External := sample
    (((new 5000000000 1000000000).askAll [dottedPair.1]).ask
      { dottedPair.1 with timestampNs := 500 }).1 ≠ false := by
  let _ : External := sample
  intro hfresh
  have hexact := ask_exact 5000000000 1000000000 (by decide) (by decide) [dottedPair.1] []
    { dottedPair.1 with timestampNs := 500 } (by decide) (fun _ _ _ _ h => h)
  exact hexact.1.1 hfresh dottedPair.1 (by simp) (by decide)

end MarlinspikeDpi.DedupEngine
