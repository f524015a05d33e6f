import MarlinspikeDpi.Coap.Decoder

/-!
# Options are read as they were written

The number of an option is written as the difference to the one before it, and differences and
lengths in one of three forms.

* `options_read_iff`: which lists of options are recovered.
-/

namespace MarlinspikeDpi.Coap

open Bytes Text List Checked ParsedOptions

/-! ## Differences and lengths -/

def nibble (n : Nat) : Nat := if n < 13 then n else if n < 269 then 13 else 14

def extension (n : Nat) : List UInt8 :=
  if n < 13 then [] else if n < 269 then [UInt8.ofNat (n - 13)] else toBe 2 (n - 269)

lemma nibble_lt (n : Nat) : nibble n < 15 := by
  unfold nibble
  split
  · omega
  · split <;> omega

lemma getElem?_append_length (front : List UInt8) (b : UInt8) (rest : List UInt8) :
    (front ++ b :: rest)[front.length]? = some b := by
  rw [getElem?_append_right le_rfl, Nat.sub_self, getElem?_cons_zero]

lemma decodeExtended_append (front rest : List UInt8) {n : Nat} (hn : n < 65536) :
    decodeExtended (UInt8.ofNat (nibble n)) (front ++ (extension n ++ rest)) front.length =
      .ok (some (n, front.length + (extension n).length)) := by
  by_cases hsmall : n < 13
  · have htable : ∀ k : Fin 13, UInt8.ofNat k.val ≤ 12 ∧ (UInt8.ofNat k.val).toNat = k.val := by
      decide
    obtain ⟨hle, hvalue⟩ := htable ⟨n, hsmall⟩
    rw [nibble, if_pos hsmall, decodeExtended, if_pos hle, hvalue, extension, if_pos hsmall]
    rfl
  by_cases hbyte : n < 269
  · have hread : (UInt8.ofNat (n - 13)).toNat + 13 = n := by
      rw [UInt8.toNat_ofNat', Nat.mod_eq_of_lt (by omega)]
      omega
    simp only [nibble, extension, if_neg hsmall, if_pos hbyte, singleton_append]
    change Except.ok (((front ++ UInt8.ofNat (n - 13) :: rest)[front.length]?).map fun b =>
      (b.toNat + 13, front.length + 1)) = _
    rw [getElem?_append_length, Option.map_some, hread]
    rfl
  · obtain ⟨hi, lo, hbytes⟩ : ∃ hi lo, toBe 2 (n - 269) = [hi, lo] := ⟨_, _, rfl⟩
    have hvalue : hi.toNat * 256 + lo.toNat = n - 269 := by
      have hback := beNat_toBe (show n - 269 < 256 ^ 2 by omega)
      rw [hbytes, beNat, reverse_cons, reverse_singleton, singleton_append, leNat_cons, leNat_cons,
        leNat_nil] at hback
      omega
    have hsecond : (front ++ hi :: lo :: rest)[front.length + 1]? = some lo := by
      rw [getElem?_append_right (Nat.le_add_right _ _), Nat.add_sub_cancel_left]
      rfl
    simp only [nibble, extension, if_neg hsmall, if_neg hbyte, hbytes, cons_append, nil_append]
    rw [decodeExtended, if_neg (by decide), if_neg (by decide), if_pos (by decide)]
    rw [getElem?_append_length, hsecond]
    dsimp only
    rw [hvalue, addU16, if_neg (by omega), Nat.sub_add_cancel (Nat.not_lt.1 hbyte)]
    rfl

/-- The two fields of an option, difference and length, and the position of its value. -/
def optionHeader (nb : UInt8) (buf : List UInt8)
    (pos : Nat) : Checked (Option (Nat × Nat × Nat)) := do
  match ← decodeExtended ((nb >>> 4) &&& 0x0F) buf pos with
  | none => return none
  | some (delta, pos) =>
    match ← decodeExtended (nb &&& 0x0F) buf pos with
    | none => return none
    | some (length, pos) => return some (delta, length, pos)

lemma parseOptionsLoop_header {buf : List UInt8} {nb : UInt8} {pos : Nat}
    (hnb : buf[pos]? = some nb)
    (hmarker : nb ≠ 0xFF) (herror : (nb >>> 4) &&& 0x0F ≠ 15) (rounds current : Nat)
    (opts : ParsedOptions) :
    parseOptionsLoop (rounds + 1) buf pos current opts = (optionHeader nb buf (pos + 1)).bind fun
        | none => .ok none
        | some (delta, length, next) =>
          if buf.length < next + length ∨ 65535 < current + delta then .ok none
          else
            parseOptionsLoop rounds buf (next + length) (current + delta)
              (opts.record (current + delta) (slice buf next length)) := by
  rw [parseOptionsLoop, hnb, optionHeader]
  dsimp only
  rw [if_neg hmarker, if_neg herror]
  cases decodeExtended _ buf _ with
  | error panic => rfl
  | ok found =>
    cases found with
    | none => rfl
    | some found =>
      obtain ⟨delta, next⟩ := found
      change (decodeExtended (nb &&& 0x0F) buf next >>= _) =
        (decodeExtended (nb &&& 0x0F) buf next >>= _).bind _
      cases decodeExtended _ buf next with
      | error panic => rfl
      | ok found =>
        cases found with
        | none => rfl
        | some found =>
          change (if _ then _ else if _ then _ else _) = if _ then _ else _
          rw [ite_or]
          rfl

/-! ## Options on the wire -/

structure CoapOption where
  number : UInt16
  value : List UInt8
  fits : value.length < 65536

/-- The first byte has the nibbles of the difference and of the length. -/
def encodeOption (delta : Nat) (value : List UInt8) : List UInt8 :=
  UInt8.ofNat (nibble delta * 16 + nibble value.length) ::
    (extension delta ++ (extension value.length ++ value))

def encodeOptions : Nat → List CoapOption → List UInt8
  | _, [] => []
  | current, o :: options =>
    encodeOption (o.number.toNat - current) o.value ++ encodeOptions o.number.toNat options

def encodePayload : Option (List UInt8) → List UInt8
  | none => []
  | some payload => 0xFF :: payload

lemma encodeOption_nibbles (delta length : Nat) :
    let nb := UInt8.ofNat (nibble delta * 16 + nibble length)
    nb ≠ 0xFF ∧ (nb >>> 4) &&& 0x0F ≠ 15 ∧ (nb >>> 4) &&& 0x0F = UInt8.ofNat (nibble delta) ∧
      nb &&& 0x0F = UInt8.ofNat (nibble length) := by
  have htable : ∀ d l : Fin 15, UInt8.ofNat (d.val * 16 + l.val) ≠ 0xFF ∧
        (UInt8.ofNat (d.val * 16 + l.val) >>> 4) &&& 0x0F ≠ 15 ∧
        (UInt8.ofNat (d.val * 16 + l.val) >>> 4) &&& 0x0F = UInt8.ofNat d.val ∧
        UInt8.ofNat (d.val * 16 + l.val) &&& 0x0F = UInt8.ofNat l.val := by decide
  exact htable ⟨nibble delta, nibble_lt delta⟩ ⟨nibble length, nibble_lt length⟩

lemma optionHeader_encode (front rest : List UInt8) {delta length : Nat} (hdelta : delta < 65536)
    (hlength : length < 65536) :
    optionHeader (UInt8.ofNat (nibble delta * 16 + nibble length))
        (front ++ (extension delta ++ (extension length ++ rest))) front.length =
      .ok (some (delta, length, (front ++ extension delta ++ extension length).length)) := by
  obtain ⟨-, -, hhigh, hlow⟩ := encodeOption_nibbles delta length
  have hread := decodeExtended_append (front ++ extension delta) rest hlength
  rw [append_assoc, ← length_append, length_append] at hread
  rw [optionHeader, hhigh, hlow, decodeExtended_append front _ hdelta]
  change (decodeExtended _ _ _ >>= _) = _
  rw [hread]
  rfl

lemma parseOptionsLoop_encodeOption (rounds current delta : Nat) (front value rest : List UInt8)
    (opts : ParsedOptions) (hnumber : current + delta < 65536) (hvalue : value.length < 65536) :
    parseOptionsLoop (rounds + 1) (front ++ (encodeOption delta value ++ rest)) front.length current
      opts = parseOptionsLoop rounds (front ++ (encodeOption delta value ++ rest))
        (front ++ encodeOption delta value).length (current + delta)
          (opts.record (current + delta) value) := by
  obtain ⟨hmarker, herror, -, -⟩ := encodeOption_nibbles delta value.length
  generalize hbuf : front ++ (encodeOption delta value ++ rest) = buf
  let nb := UInt8.ofNat (nibble delta * 16 + nibble value.length)
  have hnb : buf[front.length]? = some nb := by
    rw [← hbuf]
    exact getElem?_append_length _ _ _
  have hheader := optionHeader_encode (front ++ [nb]) (value ++ rest)
    (show delta < 65536 by omega) hvalue
  generalize hbefore : front ++ [nb] ++ extension delta ++ extension value.length =
    before at hheader
  have hbehind : buf = before ++ (value ++ rest) := by
    simp [← hbuf, ← hbefore, encodeOption, nb]
  have hend : before.length + value.length = (front ++ encodeOption delta value).length := by
    simp [← hbefore, encodeOption]
    omega
  have hslice : slice buf before.length value.length = value := by
    rw [slice, hbehind, drop_left, take_left]
  have hsame : front ++ [nb] ++ (extension delta ++ (extension value.length ++ (value ++ rest))) =
      buf := by
    simp [← hbuf, encodeOption, nb]
  rw [hsame, length_append, length_singleton] at hheader
  rw [parseOptionsLoop_header hnb hmarker herror, hheader]
  change (if _ then _ else _) = _
  rw [if_neg (not_or.2 ⟨by simp [hbehind], by omega⟩), hslice, hend]

def recordOption (opts : ParsedOptions) (o : CoapOption) : ParsedOptions :=
  opts.record o.number.toNat o.value

lemma parseOptionsLoop_encode (options : List CoapOption) (rounds current : Nat)
    (front : List UInt8)
    (payload : Option (List UInt8)) (opts : ParsedOptions) (hrounds : options.length < rounds)
    (hcurrent : ∀ o ∈ options, current ≤ o.number.toNat)
    (hsorted : options.Pairwise fun a b => a.number.toNat ≤ b.number.toNat) :
    parseOptionsLoop rounds (front ++ (encodeOptions current options ++ encodePayload payload))
        front.length current opts =
      .ok (some (options.foldl recordOption opts,
        (front ++ encodeOptions current options).length + if payload.isSome then 1 else 0)) := by
  induction options generalizing rounds current front opts with
  | nil =>
    obtain ⟨rounds, rfl⟩ := Nat.exists_eq_add_one_of_ne_zero (Nat.ne_zero_of_lt hrounds)
    cases payload with
    | none => simp [parseOptionsLoop, encodeOptions, encodePayload]
    | some payload =>
      simp only [encodeOptions, encodePayload, nil_append, parseOptionsLoop]
      simp
  | cons o options ih =>
    obtain ⟨hfirst, hlater⟩ := pairwise_cons.1 hsorted
    obtain ⟨rounds, rfl⟩ := Nat.exists_eq_add_one_of_ne_zero (Nat.ne_zero_of_lt hrounds)
    have hle := hcurrent o mem_cons_self
    have hnumber := Nat.add_sub_cancel' hle
    have hlt : current + (o.number.toNat - current) < 65536 := by
      rw [hnumber]
      exact o.number.toNat_lt
    have hrest := ih rounds _ (front ++ encodeOption (o.number.toNat - current) o.value)
      (recordOption opts o) (Nat.lt_of_succ_lt_succ hrounds) hfirst hlater
    rw [append_assoc, append_assoc] at hrest
    rw [encodeOptions, append_assoc, parseOptionsLoop_encodeOption _ _ _ _ _ _ _ hlt o.fits,
      hnumber]
    exact hrest

lemma length_le_length_encodeOptions (current : Nat) (options : List CoapOption) :
    options.length ≤ (encodeOptions current options).length := by
  induction options generalizing current with
  | nil => exact le_rfl
  | cons o options ih =>
    have hrest := ih o.number.toNat
    rw [encodeOptions, encodeOption, length_append, length_cons, length_cons]
    omega

/-! ## What the loop recovers -/

def valuesOf (number : Nat) (options : List CoapOption) : List (List UInt8) :=
  (options.filter fun o => o.number.toNat == number).map CoapOption.value

lemma valuesOf_cons (number : Nat) (o : CoapOption) (options : List CoapOption) :
    valuesOf number (o :: options) =
      (if o.number.toNat = number then [o.value] else []) ++ valuesOf number options := by
  unfold valuesOf
  by_cases hnumber : o.number.toNat = number <;> simp [hnumber]

def formatNumber (value : List UInt8) : UInt32 :=
  value.foldl (fun a b => (a <<< 8) ||| UInt32.ofNat b.toNat) 0

lemma record_eq (opts : ParsedOptions) (number : Nat) (value : List UInt8) :
    opts.record number value =
      { uriHost := if number = 3 then some (utf8Lossy value) else opts.uriHost
        uriPath := opts.uriPath ++ if number = 11 then [utf8Lossy value] else []
        uriQuery := opts.uriQuery ++ if number = 15 then [utf8Lossy value] else []
        contentFormat := if number = 12 then some (formatNumber value)
          else opts.contentFormat } := by
  unfold record
  split
  · simp
  · simp
  · simp
  · simp [formatNumber]
  · rename_i hhost hpath hquery hformat
    rw [if_neg hhost, if_neg hpath, if_neg hquery, if_neg hformat, append_nil, append_nil]

lemma foldl_recordOption (options : List CoapOption) (opts : ParsedOptions) :
    options.foldl recordOption opts =
      { uriHost := ((valuesOf 3 options).map utf8Lossy).getLast?.or opts.uriHost
        uriPath := opts.uriPath ++ (valuesOf 11 options).map utf8Lossy
        uriQuery := opts.uriQuery ++ (valuesOf 15 options).map utf8Lossy
        contentFormat :=
          ((valuesOf 12 options).map formatNumber).getLast?.or opts.contentFormat } := by
  induction options generalizing opts with
  | nil => simp [valuesOf]
  | cons o options ih =>
    have hlast : ∀ {α : Type} (read : List UInt8 → α) (number : Nat) (before : Option α),
        ((valuesOf number options).map read).getLast?.or
            (if o.number.toNat = number then some (read o.value) else before) =
          ((valuesOf number (o :: options)).map read).getLast?.or before := by
      intro α read number before
      rw [valuesOf_cons]
      split
      · rw [map_append, getLast?_append, Option.or_assoc]
        rfl
      · rfl
    have hall : ∀ (number : Nat) (before : List String),
        (before ++ if o.number.toNat = number then [utf8Lossy o.value] else []) ++
            (valuesOf number options).map utf8Lossy =
          before ++ (valuesOf number (o :: options)).map utf8Lossy := by
      intro number before
      rw [valuesOf_cons, append_assoc]
      split <;> rfl
    rw [foldl_cons, ih, recordOption, record_eq]
    simp only [hlast, hall]

lemma formatNumber_eq (value : List UInt8) : formatNumber value = UInt32.ofNat (beNat value) :=
  foldl_shiftLeft_or_uint32 value

/-- All values of the four options are there, in their order. -/
structure Recovers (options : List CoapOption) (opts : ParsedOptions) : Prop where
  uriHost : opts.uriHost.toList = (valuesOf 3 options).map utf8Lossy
  uriPath : opts.uriPath = (valuesOf 11 options).map utf8Lossy
  uriQuery : opts.uriQuery = (valuesOf 15 options).map utf8Lossy
  contentFormat : opts.contentFormat.toList.map UInt32.toNat = (valuesOf 12 options).map beNat

lemma toList_getLast?_eq_iff {α : Type} (xs : List α) : xs.getLast?.toList = xs ↔
    xs.length ≤ 1 := by
  match xs with
  | [] => simp
  | [x] => simp
  | x :: y :: xs =>
    refine iff_of_false (fun h => ?_) (by simp)
    have hlen := congrArg length h
    rw [getLast?_cons_cons] at hlen
    have hone := Option.length_toList_le (o := (y :: xs).getLast?)
    simp only [length_cons] at hlen
    omega

lemma map_formatNumber_eq_iff (values : List (List UInt8)) :
    (values.map formatNumber).getLast?.toList.map UInt32.toNat = values.map beNat ↔
      values.length ≤ 1 ∧ ∀ value ∈ values, beNat value < 2 ^ 32 := by
  match values with
  | [] => simp
  | [value] =>
    simp only [formatNumber_eq, map_cons, map_nil, getLast?_singleton, Option.toList_some,
      UInt32.toNat_ofNat', cons.injEq, and_true, length_singleton, le_refl, true_and, mem_singleton,
      forall_eq]
    exact Nat.mod_eq_iff_lt (by decide)
  | value :: second :: values =>
    refine iff_of_false (fun h => ?_) (fun h => absurd h.1 (by simp))
    have hlen := congrArg length h
    have hone := Option.length_toList_le (o :=
      ((value :: second :: values).map formatNumber).getLast?)
    simp only [length_map, length_cons] at hlen
    omega

lemma recovers_iff (options : List CoapOption) :
    Recovers options (options.foldl recordOption default) ↔
      (valuesOf 3 options).length ≤ 1 ∧ (valuesOf 12 options).length ≤ 1 ∧
        ∀ value ∈ valuesOf 12 options, beNat value < 2 ^ 32 := by
  have hhost := toList_getLast?_eq_iff ((valuesOf 3 options).map utf8Lossy)
  have hformat := map_formatNumber_eq_iff (valuesOf 12 options)
  rw [length_map] at hhost
  rw [foldl_recordOption]
  simp only [ParsedOptions.default, Option.or_none, nil_append]
  constructor
  · rintro ⟨hosts, -, -, formats⟩
    exact ⟨hhost.1 hosts, hformat.1 formats⟩
  · rintro ⟨hosts, formats⟩
    exact ⟨hhost.2 hosts, rfl, rfl, hformat.2 formats⟩

/-! ## Any bytes -/

/-- The value of the two further bytes, if the nibble asks for them and they are there. -/
def wideAt (nibble : UInt8) (buf : List UInt8) (pos : Nat) : List Nat :=
  if nibble = 14 then
    match buf[pos]?, buf[pos + 1]? with
    | some hi, some lo => [hi.toNat * 256 + lo.toNat]
    | _, _ => []
  else []

def wideFieldsLoop : Nat → List UInt8 → Nat → Nat → List Nat
  | 0, _, _, _ => []
  | rounds + 1, buf, pos, current =>
    match buf[pos]? with
    | none => []
    | some nb =>
      if nb = 0xFF ∨ (nb >>> 4) &&& 0x0F = 15 then []
      else
        wideAt ((nb >>> 4) &&& 0x0F) buf (pos + 1) ++
          match decodeExtended ((nb >>> 4) &&& 0x0F) buf (pos + 1) with
          | .ok (some (delta, pos)) =>
            wideAt (nb &&& 0x0F) buf pos ++
              match decodeExtended (nb &&& 0x0F) buf pos with
              | .ok (some (length, pos)) =>
                if buf.length < pos + length ∨ 65535 < current + delta then []
                else wideFieldsLoop rounds buf (pos + length) (current + delta)
              | _ => []
          | _ => []

def wideFields (buf : List UInt8) (pos : Nat) : List Nat :=
  wideFieldsLoop (buf.length - pos + 1) buf pos 0

lemma decodeExtended_cases (nibble : UInt8) (buf : List UInt8) (pos : Nat) :
    (decodeExtended nibble buf pos = .error .addOverflow ∧ ∃ v ∈ wideAt nibble buf pos, 65266 < v) ∨
      ∃ found, decodeExtended nibble buf pos = .ok found ∧
        (∀ n next, found = some (n, next) → pos ≤ next) ∧
        ∀ v ∈ wideAt nibble buf pos, v ≤ 65266 := by
  by_cases hsmall : nibble ≤ 12
  · have hwide : nibble ≠ 14 := by
      rintro rfl
      exact absurd hsmall (by decide)
    rw [decodeExtended, if_pos hsmall, wideAt, if_neg hwide]
    refine .inr ⟨_, rfl, ?_, nofun⟩
    rintro n next ⟨⟩
    exact le_rfl
  by_cases hone : nibble = 13
  · subst hone
    refine .inr ⟨buf[pos]?.map fun b => (b.toNat + 13, pos + 1), rfl, ?_, nofun⟩
    rintro n next hfound
    obtain ⟨b, -, hb⟩ := Option.map_eq_some_iff.1 hfound
    cases hb
    exact Nat.le_succ pos
  by_cases htwo : nibble = 14
  · rw [decodeExtended, if_neg hsmall, if_neg hone, if_pos htwo, wideAt, if_pos htwo]
    cases hhi : buf[pos]? with
    | none => exact .inr ⟨none, rfl, nofun, nofun⟩
    | some hi =>
      cases hlo : buf[pos + 1]? with
      | none => exact .inr ⟨none, rfl, nofun, nofun⟩
      | some lo =>
        dsimp only
        by_cases hover : 65535 < hi.toNat * 256 + lo.toNat + 269
        · rw [addU16, if_pos hover]
          exact .inl ⟨rfl, _, mem_singleton_self _, by omega⟩
        · rw [addU16, if_neg hover]
          refine .inr ⟨some (hi.toNat * 256 + lo.toNat + 269, pos + 2), rfl, ?_, ?_⟩
          · rintro n next ⟨⟩
            exact Nat.le_add_right pos 2
          · intro v hv
            rw [mem_singleton.1 hv]
            omega
  · rw [decodeExtended, if_neg hsmall, if_neg hone, if_neg htwo, wideAt, if_neg htwo]
    exact .inr ⟨none, rfl, nofun, nofun⟩

def wideHeader (nb : UInt8) (buf : List UInt8) (pos : Nat) : List Nat :=
  wideAt ((nb >>> 4) &&& 0x0F) buf pos ++
    match decodeExtended ((nb >>> 4) &&& 0x0F) buf pos with
    | .ok (some (_, pos)) => wideAt (nb &&& 0x0F) buf pos
    | _ => []

lemma optionHeader_cases (nb : UInt8) (buf : List UInt8) (pos : Nat) :
    (optionHeader nb buf pos = .error .addOverflow ∧ ∃ v ∈ wideHeader nb buf pos, 65266 < v) ∨
      ∃ found, optionHeader nb buf pos = .ok found ∧
        (∀ delta length next, found = some (delta, length, next) → pos ≤ next) ∧
        ∀ v ∈ wideHeader nb buf pos, v ≤ 65266 := by
  unfold optionHeader wideHeader
  rcases decodeExtended_cases _ buf pos with
    ⟨hdelta, v, hv, hover⟩ | ⟨found, hdelta, hnext, hwide⟩
  · rw [hdelta]
    exact .inl ⟨rfl, v, mem_append_left _ hv, hover⟩
  rw [hdelta]
  cases found with
  | none => exact .inr ⟨none, rfl, nofun, by simpa using hwide⟩
  | some found =>
    obtain ⟨delta, next⟩ := found
    have hpos := hnext delta next rfl
    change ((decodeExtended (nb &&& 0x0F) buf next >>= _) = _ ∧ _) ∨
      ∃ found, (decodeExtended (nb &&& 0x0F) buf next >>= _) = _ ∧ _
    rcases decodeExtended_cases _ buf next with
      ⟨hlength, v, hv, hover⟩ | ⟨found, hlength, hafter, hwide'⟩
    · rw [hlength]
      exact .inl ⟨rfl, v, mem_append_right _ hv, hover⟩
    rw [hlength]
    have hall := forall_mem_append.2 ⟨hwide, hwide'⟩
    cases found with
    | none => exact .inr ⟨none, rfl, nofun, hall⟩
    | some found =>
      obtain ⟨length, after⟩ := found
      refine .inr ⟨some _, rfl, ?_, hall⟩
      rintro _ _ _ ⟨⟩
      exact Nat.le_trans hpos (hafter length after rfl)

lemma wideFieldsLoop_header {buf : List UInt8} {nb : UInt8} {pos : Nat} (hnb : buf[pos]? = some nb)
    (hmarker : nb ≠ 0xFF) (herror : (nb >>> 4) &&& 0x0F ≠ 15) (rounds current : Nat) :
    wideFieldsLoop (rounds + 1) buf pos current = wideHeader nb buf (pos + 1) ++
        match optionHeader nb buf (pos + 1) with
        | .ok (some (delta, length, next)) =>
          if buf.length < next + length ∨ 65535 < current + delta then []
          else wideFieldsLoop rounds buf (next + length) (current + delta)
        | _ => [] := by
  rw [wideFieldsLoop, hnb, optionHeader, wideHeader]
  dsimp only
  rw [if_neg (not_or.2 ⟨hmarker, herror⟩), append_assoc]
  congr 1
  cases decodeExtended ((nb >>> 4) &&& 0x0F) buf (pos + 1) with
  | error panic => rfl
  | ok found =>
    cases found with
    | none => rfl
    | some found =>
      obtain ⟨delta, next⟩ := found
      dsimp only [bind, Except.bind]
      cases decodeExtended (nb &&& 0x0F) buf next with
      | error panic => rfl
      | ok found =>
        cases found with
        | none => rfl
        | some found => rfl

/-- One round of the loop: it is over, with an overflow exactly if it comes to a field above 65266,
or it goes on with a position behind this one. -/
theorem parseOptionsLoop_succ (buf : List UInt8) (pos current : Nat) (opts : ParsedOptions) :
    (∃ result, (∀ n, parseOptionsLoop (n + 1) buf pos current opts = result) ∧
        ∀ n, (∃ found, result = .ok found) ↔
          ∀ v ∈ wideFieldsLoop (n + 1) buf pos current, v ≤ 65266) ∨
      ∃ pos' current' opts', pos < pos' ∧ pos' ≤ buf.length ∧
        (∀ n, parseOptionsLoop (n + 1) buf pos current opts =
          parseOptionsLoop n buf pos' current' opts') ∧
        ∀ n, (∀ v ∈ wideFieldsLoop (n + 1) buf pos current, v ≤ 65266) ↔
          ∀ v ∈ wideFieldsLoop n buf pos' current', v ≤ 65266 := by
  cases hnb : buf[pos]? with
  | none =>
    simp only [parseOptionsLoop, wideFieldsLoop, hnb]
    exact .inl ⟨_, fun _ => rfl, fun _ => iff_of_true ⟨_, rfl⟩ nofun⟩
  | some nb =>
    by_cases hmarker : nb = 0xFF
    · simp only [parseOptionsLoop, wideFieldsLoop, hnb, if_pos hmarker, if_pos (Or.inl hmarker)]
      exact .inl ⟨_, fun _ => rfl, fun _ => iff_of_true ⟨_, rfl⟩ nofun⟩
    by_cases herror : (nb >>> 4) &&& 0x0F = 15
    · simp only [parseOptionsLoop, wideFieldsLoop, hnb, if_neg hmarker, if_pos herror,
        if_pos (Or.inr herror)]
      exact .inl ⟨_, fun _ => rfl, fun _ => iff_of_true ⟨_, rfl⟩ nofun⟩
    simp only [parseOptionsLoop_header hnb hmarker herror, wideFieldsLoop_header hnb hmarker herror]
    rcases optionHeader_cases nb buf (pos + 1) with ⟨hheader, v, hv, hover⟩ | ⟨found, hheader,
      hnext, hwide⟩
    · rw [hheader]
      refine .inl ⟨.error .addOverflow, fun _ => rfl, fun _ => iff_of_false nofun fun hall => ?_⟩
      exact absurd (hall v (mem_append_left _ hv)) (Nat.not_le.2 hover)
    have hfront : ∀ fields, (∀ v ∈ wideHeader nb buf (pos + 1) ++ fields, v ≤ 65266) ↔
      ∀ v ∈ fields, v ≤ 65266 := fun fields => forall_mem_append.trans (and_iff_right hwide)
    simp only [hheader, hfront]
    cases found with
    | none => exact .inl ⟨.ok none, fun _ => rfl, fun _ => iff_of_true ⟨_, rfl⟩ nofun⟩
    | some found =>
      obtain ⟨delta, length, next⟩ := found
      have hpos := hnext delta length next rfl
      dsimp only [Except.bind]
      by_cases hstop : buf.length < next + length ∨ 65535 < current + delta
      · simp only [if_pos hstop]
        exact .inl ⟨.ok none, fun _ => rfl, fun _ => iff_of_true ⟨_, rfl⟩ nofun⟩
      · simp only [if_neg hstop]
        refine .inr ⟨next + length, current + delta,
          opts.record (current + delta) (slice buf next length),
          by omega, by omega, fun _ => rfl, fun _ => Iff.rfl⟩

lemma parseOptionsLoop_rounds {buf : List UInt8} {pos : Nat} (current : Nat) {rounds rounds' : Nat}
    (opts : ParsedOptions) (hrounds : buf.length - pos < rounds)
    (hrounds' : buf.length - pos < rounds') :
    parseOptionsLoop rounds buf pos current opts =
      parseOptionsLoop rounds' buf pos current opts := by
  induction rounds generalizing rounds' pos current opts with
  | zero => exact absurd hrounds (Nat.not_lt_zero _)
  | succ rounds ih =>
    obtain ⟨rounds', rfl⟩ := Nat.exists_eq_add_one_of_ne_zero (Nat.ne_zero_of_lt hrounds')
    rcases parseOptionsLoop_succ buf pos current opts with
      ⟨result, hover, -⟩ | ⟨pos', current', opts', hlt, hle, hon, -⟩
    · rw [hover, hover]
    · rw [hon, hon]
      exact ih current' opts' (by omega) (by omega)

lemma exists_parseOptionsLoop_iff (rounds : Nat) (buf : List UInt8) (pos current : Nat)
    (opts : ParsedOptions) : (∃ found, parseOptionsLoop rounds buf pos current opts = .ok found) ↔
      ∀ v ∈ wideFieldsLoop rounds buf pos current, v ≤ 65266 := by
  induction rounds generalizing pos current opts with
  | zero => exact iff_of_true ⟨_, rfl⟩ nofun
  | succ rounds ih =>
    rcases parseOptionsLoop_succ buf pos current opts with
      ⟨result, hover, hiff⟩ | ⟨pos', current', opts', -, -, hon, hiff⟩
    · rw [hover]
      exact hiff rounds
    · rw [hon, hiff]
      exact ih pos' current' opts'

/-! ## The result -/

/-- Options as a message has them: in the order of their numbers. -/
structure OptionList where
  list : List CoapOption
  sorted : list.Pairwise fun a b => a.number.toNat ≤ b.number.toNat

/-- For every list of options, with a payload or without, the options and the place of the payload
are found; all values are recovered if and only if Uri-Host and Content-Format come once at most,
and the latter has 32 bits. -/
theorem options_read_iff (front : List UInt8) (options : OptionList) (payload : Option (List UInt8))
    (buf : List UInt8) (pos : Nat) :
    (∃ opts,
      parseOptions (front ++ (encodeOptions 0 options.list ++ encodePayload payload)) front.length =
          .ok (some (opts, (front ++ encodeOptions 0 options.list).length + if payload.isSome then 1
            else 0)) ∧
        (Recovers options.list opts ↔
          (valuesOf 3 options.list).length ≤ 1 ∧ (valuesOf 12 options.list).length ≤ 1 ∧
            ∀ value ∈ valuesOf 12 options.list, beNat value < 2 ^ 32)) ∧
      (∀ rounds, buf.length - pos < rounds →
        parseOptionsLoop rounds buf pos 0 ParsedOptions.default = parseOptions buf pos) ∧
      ((∃ found, parseOptions buf pos = .ok found) ↔ ∀ v ∈ wideFields buf pos, v ≤ 65266) := by
  refine ⟨?_, ?_, ?_⟩
  · refine ⟨_, ?_, recovers_iff options.list⟩
    refine parseOptionsLoop_encode options.list _ 0 front payload _ ?_
      (fun _ _ => Nat.zero_le _) options.sorted
    have hle := length_le_length_encodeOptions 0 options.list
    simp only [length_append]
    omega
  · exact fun rounds hrounds => parseOptionsLoop_rounds 0 _ hrounds (Nat.lt_succ_self _)
  · exact exists_parseOptionsLoop_iff _ buf pos 0 _

/-- The smallest field that overflows, as the difference of the first option. -/
theorem wideDelta_overflows :
    parseOptions [0xE0, 0xFE, 0xF3] 0 = .error .addOverflow ∧
      wideFields [0xE0, 0xFE, 0xF3] 0 = [65267] :=
  ⟨rfl, rfl⟩

end MarlinspikeDpi.Coap
