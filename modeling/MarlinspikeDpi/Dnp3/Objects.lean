import MarlinspikeDpi.Dnp3.Dissector

/-!
# The object groups of an application message

The application data is a sequence of object headers, each followed by its range and its objects.

* `objectGroups_iff`: when the groups of all headers are returned.
-/

namespace MarlinspikeDpi.Dnp3

open Bytes List

/-! ## The walk of the decoder -/

def rangeBytes (qualifier : UInt8) : Nat :=
  match qualifier &&& 0x70 with
  | 0x00 | 0x10 => 2
  | 0x20 | 0x30 => 4
  | 0x40 | 0x50 => 8
  | _ => 0

def pushNew (groups : List UInt8) (group : UInt8) : List UInt8 :=
  if group ∈ groups then groups else groups ++ [group]

/-- The loop from an offset on.  It moves on by three bytes at least, so it ends within the fuel. -/
def objectGroupsLoop (appData : List UInt8) : Nat → Nat → List UInt8 → List UInt8
  | 0, _, groups => groups
  | fuel + 1, i, groups =>
    if i + 2 < appData.length then
      let groups := pushNew groups (byteAt appData i)
      let skip := rangeBytes (byteAt appData (i + 2))
      if skip = 0 then groups else objectGroupsLoop appData fuel (i + (3 + skip)) groups
    else groups

def extractObjectGroups (appData : List UInt8) : List UInt8 :=
  objectGroupsLoop appData appData.length 0 []

/-- The bytes that the loop takes for groups, where it has come to the front of the data. -/
def groupsFrom : Nat → List UInt8 → List UInt8
  | fuel + 1, group :: _ :: qualifier :: rest =>
    group :: if rangeBytes qualifier = 0 then []
      else groupsFrom fuel (rest.drop (rangeBytes qualifier))
  | _, _ => []

lemma groupsFrom_of_short {data : List UInt8} (fuel : Nat) (h : data.length ≤ 2) :
    groupsFrom fuel data = [] := by
  match fuel, data, h with
  | 0, _, _ => rfl
  | _ + 1, [], _ => rfl
  | _ + 1, [_], _ => rfl
  | _ + 1, [_, _], _ => rfl

lemma mem_of_mem_groupsFrom {data : List UInt8} {fuel : Nat} {x : UInt8}
    (h : x ∈ groupsFrom fuel data) : x ∈ data := by
  induction fuel, data using groupsFrom.induct with
  | case1 fuel group variation qualifier rest ih =>
    rcases mem_cons.1 h with rfl | hlater
    · exact mem_cons_self
    · split at hlater
      · cases hlater
      · have hrest := mem_of_mem_drop (ih hlater)
        exact mem_cons_of_mem _ (mem_cons_of_mem _ (mem_cons_of_mem _ hrest))
  | case2 fuel data hshort =>
    rw [groupsFrom] at h
    · cases h
    · exact hshort

lemma objectGroupsLoop_eq (appData : List UInt8) (fuel i : Nat) (groups : List UInt8) :
    objectGroupsLoop appData fuel i groups =
      (groupsFrom fuel (appData.drop i)).foldl pushNew groups := by
  induction fuel generalizing i groups with
  | zero => rfl
  | succ fuel ih =>
    rw [objectGroupsLoop]
    split
    · next hmore =>
      rw [drop_eq_byteAt_cons (show i < _ by omega), drop_eq_byteAt_cons (show i + 1 < _ by omega),
        drop_eq_byteAt_cons hmore, groupsFrom, foldl_cons]
      dsimp only
      split
      · rfl
      · rw [ih, drop_drop, Nat.add_assoc (i + 2), Nat.add_assoc i, ← Nat.add_assoc 2]
    · rw [groupsFrom_of_short _ (by rw [length_drop]; omega)]
      rfl

lemma foldl_pushNew (xs groups : List UInt8) :
    xs.foldl pushNew groups = groups ++ (xs.filter fun x => x ∉ groups).eraseDups := by
  induction xs generalizing groups with
  | nil => simp
  | cons x xs ih =>
    rw [foldl_cons, ih]
    by_cases hmem : x ∈ groups
    · rw [pushNew, if_pos hmem, filter_cons_of_neg (by simpa using hmem)]
    · have hlater : (xs.filter fun y => y ∉ groups ++ [x]) =
          (xs.filter fun y => y ∉ groups).filter fun y => !y == x := by
        rw [filter_filter]
        apply filter_congr
        intro y _
        rw [Bool.eq_iff_iff]
        simp [and_comm]
      rw [pushNew, if_neg hmem, filter_cons_of_pos (by simpa using hmem), eraseDups_cons, hlater,
        append_assoc, singleton_append]

lemma extractObjectGroups_eq (appData : List UInt8) :
    extractObjectGroups appData = (groupsFrom appData.length appData).eraseDups := by
  rw [extractObjectGroups, objectGroupsLoop_eq, foldl_pushNew]
  simp

/-! ## Headers with their ranges and objects -/

/-- The bytes of the range field, by the range specifier in the lower half of the qualifier: start
and stop of one, two or four bytes as indexes or as addresses, nothing, a count of one, two or four
bytes, or the number of objects of variable size. -/
def rangeLength (qualifier : UInt8) : Option Nat :=
  match qualifier &&& 0x0F with
  | 0 | 3 => some 2
  | 1 | 4 => some 4
  | 2 | 5 => some 8
  | 6 => some 0
  | 7 | 0xB => some 1
  | 8 => some 2
  | 9 => some 4
  | _ => none

structure ObjectHeader where
  (group variation qualifier : UInt8)
  (range objects : List UInt8)
  range_length : rangeLength qualifier = some range.length

open ObjectHeader

namespace ObjectHeader

def encode (h : ObjectHeader) : List UInt8 :=
  [h.group, h.variation, h.qualifier] ++ (h.range ++ h.objects)

def behind (h : ObjectHeader) : Nat := h.range.length + h.objects.length

lemma length_encode (h : ObjectHeader) : h.encode.length = 3 + h.behind := by
  simp only [encode, behind, length_append, length_cons, length_nil]

end ObjectHeader

/-- The walk leaves every header where the next one is, and the last one where less than a header is
left. -/
def InStep : List ObjectHeader → Prop
  | [] => True
  | [h] => rangeBytes h.qualifier = 0 ∨ h.behind ≤ rangeBytes h.qualifier + 2
  | h :: headers => (0 < h.behind ∧ rangeBytes h.qualifier = h.behind) ∧ InStep headers

lemma inStep_cons_cons (h h' : ObjectHeader) (headers : List ObjectHeader) :
    InStep (h :: h' :: headers) ↔ (0 < h.behind ∧ rangeBytes h.qualifier = h.behind) ∧
      InStep (h' :: headers) := by
  rw [InStep]
  exact fun hnil => cons_ne_nil _ _ hnil

lemma groupsFrom_encode (h : ObjectHeader) (rest : List UInt8)
    (fuel : Nat) : groupsFrom (fuel + 1) (h.encode ++ rest) =
      h.group :: if rangeBytes h.qualifier = 0 then []
        else groupsFrom fuel ((h.range ++ h.objects ++ rest).drop (rangeBytes h.qualifier)) := rfl

lemma groupsFrom_encode_of_step {h : ObjectHeader}
    (hstep : 0 < h.behind ∧ rangeBytes h.qualifier = h.behind) (rest : List UInt8) (fuel : Nat) :
    groupsFrom (fuel + 1) (h.encode ++ rest) = h.group :: groupsFrom fuel rest := by
  rw [groupsFrom_encode, if_neg (by omega), drop_left' (length_append.trans hstep.2.symm)]

lemma length_le_encoded (headers : List ObjectHeader) :
    3 * headers.length ≤ (headers.flatMap encode).length := by
  induction headers with
  | nil => exact Nat.zero_le _
  | cons x headers ih =>
    rw [flatMap_cons, length_append, x.length_encode, length_cons]
    omega

lemma groupsFrom_of_inStep {fuel : Nat} {headers : List ObjectHeader} (h : InStep headers)
    (hfuel : headers.length ≤ fuel) : groupsFrom fuel (headers.flatMap encode) =
      headers.map group := by
  induction headers generalizing fuel with
  | nil => exact groupsFrom_of_short fuel (Nat.zero_le 2)
  | cons x headers ih =>
    obtain ⟨fuel, rfl⟩ := Nat.exists_eq_add_of_le' (Nat.le_trans (Nat.le_add_left 1 _) hfuel)
    cases headers with
    | nil =>
      rw [flatMap_singleton, ← append_nil x.encode, groupsFrom_encode]
      rw [InStep] at h
      split
      · rfl
      · next hgo =>
        rw [groupsFrom_of_short]
        · rfl
        · have hbehind : (x.range ++ x.objects).length = x.behind := length_append
          rw [append_nil, length_drop]
          omega
    | cons x' headers =>
      rw [flatMap_cons, groupsFrom_encode_of_step h.1, ih h.2 (Nat.le_of_succ_le_succ hfuel)]
      rfl

/-! ## Every content of the same shape -/

namespace ObjectHeader

variable (h : ObjectHeader)

def shape : UInt8 × Nat × Nat := (h.qualifier, h.range.length, h.objects.length)

/-- A header of the same shape with the group, and one byte throughout its range and its objects. -/
def fill (group byte : UInt8) : ObjectHeader :=
  { group
    variation := 0
    qualifier := h.qualifier
    range := List.replicate h.range.length byte
    objects := List.replicate h.objects.length byte
    range_length := by rw [h.range_length, length_replicate] }

lemma shape_fill (group byte : UInt8) : (h.fill group byte).shape = h.shape := by
  simp only [shape, fill, length_replicate]

lemma behind_fill (group byte : UInt8) : (h.fill group byte).behind = h.behind := by
  simp only [behind, fill, length_replicate]

lemma encode_fill (group byte : UInt8) :
    (h.fill group byte).encode = [group, 0, h.qualifier] ++ replicate h.behind byte := by
  rw [behind, replicate_add]
  rfl

lemma qualifier_ne : h.qualifier ≠ 0xFF := by
  intro hff
  have hlen := h.range_length
  have hnone : rangeLength 0xFF = none := rfl
  rw [hff] at hlen
  cases hlen

end ObjectHeader

lemma inStep_congr {headers headers' : List ObjectHeader}
    (h : headers.map shape = headers'.map shape) : InStep headers ↔ InStep headers' := by
  induction headers generalizing headers' with
  | nil =>
    obtain rfl := map_eq_nil_iff.1 h.symm
    exact Iff.rfl
  | cons x headers ih =>
    cases headers' with
    | nil => cases h
    | cons x' headers' =>
      rw [map_cons, map_cons, cons.injEq] at h
      obtain ⟨hshape, hlater⟩ := h
      have hq : x.qualifier = x'.qualifier := congrArg Prod.fst hshape
      have hbehind : x.behind = x'.behind := by
        have hrange : x.range.length = x'.range.length := congrArg (fun t => t.2.1) hshape
        have hobjects : x.objects.length = x'.objects.length := congrArg (fun t => t.2.2) hshape
        rw [behind, behind, hrange, hobjects]
      have htail := ih hlater
      cases headers with
      | nil =>
        obtain rfl := map_eq_nil_iff.1 hlater.symm
        rw [InStep, InStep, hq, hbehind]
      | cons y headers =>
        cases headers' with
        | nil => cases hlater
        | cons y' headers' => rw [inStep_cons_cons, inStep_cons_cons, hq, hbehind, htail]

lemma not_mem_tail_fill (h : ObjectHeader) : 0xFF ∉ [0, h.qualifier] ++ replicate h.behind 0 := by
  intro hmem
  rcases mem_append.1 hmem with hhead | hbehind
  · simp only [mem_cons, not_mem_nil, or_false] at hhead
    rcases hhead with hff | hff
    · exact absurd hff (by decide)
    · exact h.qualifier_ne hff.symm
  · exact absurd (eq_of_mem_replicate hbehind) (by decide)

lemma not_mem_flatMap_fill (headers : List ObjectHeader) :
    0xFF ∉ (headers.map fun h => h.fill 0 0).flatMap encode := by
  intro hmem
  obtain ⟨h', hh', hff⟩ := mem_flatMap.1 hmem
  obtain ⟨h, -, rfl⟩ := mem_map.1 hh'
  rw [h.encode_fill] at hff
  rcases mem_cons.1 hff with hgroup | hlater
  · exact absurd hgroup (by decide)
  · exact not_mem_tail_fill h hlater

lemma length_flatMap_fill (headers : List ObjectHeader) :
    ((headers.map fun h => h.fill 0 0).flatMap encode).length =
      (headers.flatMap encode).length := by
  rw [flatMap_map, length_flatMap, length_flatMap]
  simp only [length_encode, behind_fill]

lemma not_mem_map_group_fill (headers : List ObjectHeader) :
    0xFF ∉ (headers.map fun h => h.fill 0 0).map group := by
  intro hmem
  rw [map_map] at hmem
  obtain ⟨h, -, hff⟩ := mem_map.1 hmem
  exact absurd (show (0 : UInt8) = 0xFF from hff) (by decide)

lemma map_shape_fill (headers : List ObjectHeader) :
    (headers.map fun h => h.fill 0 0).map shape = headers.map shape := by
  rw [map_map]
  exact map_congr_left fun h _ => h.shape_fill 0 0

lemma mem_groupsFrom_of_short {fuel : Nat} {rest : List UInt8} {h : ObjectHeader}
    (hgo : rangeBytes h.qualifier ≠ 0) (hshort : rangeBytes h.qualifier < h.behind)
    (hleft : rangeBytes h.qualifier + 2 < h.behind + rest.length) :
    0xFF ∈ groupsFrom (fuel + 2) ((h.fill 0 0xFF).encode ++ rest) := by
  have hq : (h.fill 0 0xFF).qualifier = h.qualifier := rfl
  obtain ⟨k, hk⟩ := Nat.exists_eq_add_of_lt hshort
  have hdrop : ((h.fill 0 0xFF).range ++ (h.fill 0 0xFF).objects ++ rest).drop
      (rangeBytes h.qualifier) = 0xFF :: (replicate k 0xFF ++ rest) := by
    have hbytes : (h.fill 0 0xFF).range ++ (h.fill 0 0xFF).objects =
        replicate (rangeBytes h.qualifier) 0xFF ++ 0xFF :: replicate k 0xFF := by
      rw [← replicate_succ, ← replicate_add, ← Nat.add_assoc, ← hk]
      exact (replicate_add _ _ _).symm
    rw [hbytes, append_assoc, drop_left' length_replicate]
    rfl
  rw [groupsFrom_encode, hq, if_neg hgo, hdrop]
  match hlater : replicate k 0xFF ++ rest, show 2 ≤ (replicate k 0xFF ++ rest).length by
    rw [length_append, length_replicate]; omega with
  | variation :: qualifier :: later, _ => exact mem_cons_of_mem _ mem_cons_self

lemma not_mem_groupsFrom_of_long {fuel : Nat} {rest : List UInt8} {h h' : ObjectHeader}
    (hlong : rangeBytes h.qualifier = 0 ∨ h.behind < rangeBytes h.qualifier) (hrest : 0xFF ∉ rest) :
    0xFF ∉ groupsFrom (fuel + 1) ((h.fill 0 0).encode ++ ((h'.fill 0xFF 0).encode ++ rest)) := by
  have hq : (h.fill 0 0).qualifier = h.qualifier := rfl
  rw [groupsFrom_encode, hq]
  intro hmem
  rcases mem_cons.1 hmem with hgroup | hlater
  · exact absurd (show (0xFF : UInt8) = 0 from hgroup) (by decide)
  split at hlater
  · cases hlater
  · next hgo =>
    obtain ⟨k, hk⟩ := Nat.exists_eq_add_of_lt (hlong.resolve_left hgo)
    have hbehind := length_append.trans (h.behind_fill 0 0)
    have hdrop := mem_of_mem_groupsFrom hlater
    rw [hk, Nat.add_assoc, ← drop_drop, drop_left' hbehind, h'.encode_fill] at hdrop
    -- the group of the next header is dropped
    have hin : 0xFF ∈ ([0, h'.qualifier] ++ replicate h'.behind 0 ++ rest).drop k := hdrop
    rcases mem_append.1 (mem_of_mem_drop hin) with hnext | hlast
    · exact not_mem_tail_fill h' hnext
    · exact hrest hlast

/-- If the walk is not in step, there is a content for which it misses a group or reports another
byte. -/
theorem exists_misread {headers : List ObjectHeader} (h : ¬ InStep headers) :
    ∃ headers' : List ObjectHeader, headers'.map shape = headers.map shape ∧
      ∀ fuel, headers'.length < fuel →
        (0xFF ∈ groupsFrom fuel (headers'.flatMap encode) ↔ 0xFF ∉ headers'.map group) := by
  induction headers with
  | nil => exact absurd trivial h
  | cons x headers ih =>
    have hgroup : ∀ byte, (0xFF : UInt8) ≠ (x.fill 0 byte).group :=
      fun _ => show (0xFF : UInt8) ≠ 0 by decide
    by_cases hshort : rangeBytes x.qualifier ≠ 0 ∧ rangeBytes x.qualifier < x.behind ∧
        rangeBytes x.qualifier + 2 < x.behind + (headers.flatMap encode).length
    · refine ⟨x.fill 0 0xFF :: headers.map fun y => y.fill 0 0, ?_, fun fuel hfuel =>
        iff_of_true ?_ ?_⟩
      · rw [map_cons, map_cons, x.shape_fill, map_shape_fill]
      · obtain ⟨n, rfl⟩ :=
          Nat.exists_eq_add_of_le' (show 2 ≤ fuel by rw [length_cons] at hfuel; omega)
        rw [flatMap_cons]
        exact mem_groupsFrom_of_short hshort.1 hshort.2.1
          (by rw [length_flatMap_fill]; exact hshort.2.2)
      · rw [map_cons, mem_cons]
        exact not_or_intro (hgroup _) (not_mem_map_group_fill headers)
    · cases headers with
      | nil =>
        rw [InStep] at h
        simp only [flatMap_nil, length_nil, Nat.add_zero] at hshort
        omega
      | cons x' headers =>
        rw [inStep_cons_cons] at h
        by_cases hstep : 0 < x.behind ∧ rangeBytes x.qualifier = x.behind
        · -- the first header is left at the second, and the rest is misread
          obtain ⟨later, hshape, hread⟩ := ih fun hin => h ⟨hstep, hin⟩
          have hstep' : 0 < (x.fill 0 0).behind ∧
              rangeBytes (x.fill 0 0).qualifier = (x.fill 0 0).behind := by
            rw [x.behind_fill]
            exact hstep
          refine ⟨x.fill 0 0 :: later, ?_, fun fuel hfuel => ?_⟩
          · rw [map_cons, map_cons, x.shape_fill, hshape]
          · obtain ⟨n, rfl⟩ := Nat.exists_eq_add_of_le' (Nat.one_le_of_lt hfuel)
            rw [flatMap_cons, groupsFrom_encode_of_step hstep', map_cons, mem_cons, mem_cons,
              or_iff_right (hgroup 0), or_iff_right (hgroup 0)]
            exact hread n (Nat.lt_of_succ_lt_succ hfuel)
        · have hlong : rangeBytes x.qualifier = 0 ∨ x.behind < rangeBytes x.qualifier := by
            have hlen := x'.length_encode
            rw [flatMap_cons, length_append] at hshort
            omega
          refine ⟨x.fill 0 0 :: x'.fill 0xFF 0 :: headers.map fun y => y.fill 0 0, ?_,
            fun fuel hfuel => iff_of_false ?_ (not_not_intro ?_)⟩
          · simp only [map_cons, shape_fill, map_shape_fill]
          · obtain ⟨n, rfl⟩ := Nat.exists_eq_add_of_le' (Nat.one_le_of_lt hfuel)
            exact not_mem_groupsFrom_of_long hlong (not_mem_flatMap_fill headers)
          · rw [map_cons, map_cons]
            exact mem_cons_of_mem _ mem_cons_self

/-- For every content of the fields the groups of the headers are returned, each where it first
occurs, if and only if the walk is in step. -/
theorem objectGroups_iff (headers : List ObjectHeader) :
    (∀ headers' : List ObjectHeader, headers'.map ObjectHeader.shape =
      headers.map ObjectHeader.shape →
      extractObjectGroups (headers'.flatMap ObjectHeader.encode) =
        (headers'.map ObjectHeader.group).eraseDups) ↔
      InStep headers := by
  constructor
  · intro hall
    by_contra hnot
    obtain ⟨headers', hshape, hread⟩ := exists_misread hnot
    have hgroups := hall headers' hshape
    rw [extractObjectGroups_eq] at hgroups
    have hfuel := length_le_encoded headers'
    have hsome : 0 < headers'.length := by
      refine length_pos_iff.2 ?_
      rintro rfl
      exact hnot (by rw [map_eq_nil_iff.1 hshape.symm]; trivial)
    refine not_iff_self ((hread (headers'.flatMap encode).length (by omega)).symm.trans ?_)
    rw [← mem_eraseDups, ← mem_eraseDups (l := headers'.map group), ← hgroups]
  · intro hin headers' hshape
    have hfuel := length_le_encoded headers'
    rw [extractObjectGroups_eq, groupsFrom_of_inStep ((inStep_congr hshape).2 hin) (by omega)]

/-- A header without range and objects: a read request for all objects of a class. -/
def classPoll (variation : UInt8) : ObjectHeader := ⟨60, variation, 0x06, [], [], rfl⟩

/-- An integrity poll names group 60 only; the qualifier of its second header is reported as a
group. -/
theorem integrityPoll_groups :
    extractObjectGroups
      ([classPoll 2, classPoll 3, classPoll 4, classPoll 1].flatMap ObjectHeader.encode) = [60, 6] ∧
      ([classPoll 2, classPoll 3, classPoll 4, classPoll 1].map ObjectHeader.group).eraseDups =
        [60] := by
  decide

end MarlinspikeDpi.Dnp3
