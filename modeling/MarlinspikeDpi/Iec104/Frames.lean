import MarlinspikeDpi.Foundation.Framing
import MarlinspikeDpi.Iec104.Dissector

/-!
# APDUs and the frames that are made of them

* `Control` — the control fields of the three formats, with the bits that have no meaning;
* `Apdu` — a control field and what is behind it, with its `encode` and the
  `fields` it is to be reported with;
* `framing` — where an APDU begins and ends;
* `parseIec104Frames_spec` — the frames of any bytes are those of the APDUs at their
  front, as many as there are.
-/

namespace MarlinspikeDpi.Iec104

open Bytes List

/-! ## APDUs -/

inductive Control where
  | i (sendSequence receiveSequence : Fin (2 ^ 15)) (spare : Fin 2)
  | s (spare : Fin (2 ^ 14)) (receiveSequence : Fin (2 ^ 15)) (spare' : Fin 2)
  | u (function : Fin (2 ^ 6)) (spare1 spare2 spare3 : UInt8)

namespace Control

def encode : Control → List UInt8
  | i ns nr spare => toLe 2 (2 * ns) ++ toLe 2 (2 * nr + spare)
  | s spare nr spare' => toLe 2 (4 * spare + 1) ++ toLe 2 (2 * nr + spare')
  | u function spare1 spare2 spare3 => [UInt8.ofNat (4 * function + 3), spare1, spare2, spare3]

lemma length_encode (c : Control) : c.encode.length = 4 := by
  cases c <;> rfl

lemma exists_encode (c0 c1 c2 c3 : UInt8) : ∃ c : Control, c.encode = [c0, c1, c2, c3] := by
  have hlow : toLe 2 (leNat [c0, c1]) = [c0, c1] := toLe_leNat [c0, c1]
  have hhigh : toLe 2 (leNat [c2, c3]) = [c2, c3] := toLe_leNat [c2, c3]
  have hn : leNat [c0, c1] < 256 ^ 2 := leNat_lt (w := 2) rfl
  have hm : leNat [c2, c3] < 256 ^ 2 := leNat_lt (w := 2) rfl
  have hc0 : c0.toNat = leNat [c0, c1] % 256 := by
    have hlt := c0.toNat_lt
    rw [leNat_cons]
    omega
  generalize leNat [c0, c1] = n at *
  generalize leNat [c2, c3] = m at *
  have hm2 : 2 * (m / 2) + m % 2 = m := by omega
  rcases (by omega : n % 2 = 0 ∨ n % 4 = 1 ∨ n % 4 = 3) with heven | hone | hthree
  · refine ⟨i ⟨n / 2, by omega⟩ ⟨m / 2, by omega⟩ ⟨m % 2, by omega⟩, ?_⟩
    have hn2 : 2 * (n / 2) = n := by omega
    simp only [encode, hn2, hm2, hlow, hhigh]
    rfl
  · refine ⟨s ⟨n / 4, by omega⟩ ⟨m / 2, by omega⟩ ⟨m % 2, by omega⟩, ?_⟩
    have hn4 : 4 * (n / 4) + 1 = n := by omega
    simp only [encode, hn4, hm2, hlow, hhigh]
    rfl
  · refine ⟨u ⟨c0.toNat / 4, by have hlt := c0.toNat_lt; omega⟩ c1 c2 c3, ?_⟩
    have hc4 : 4 * (c0.toNat / 4) + 3 = c0.toNat := by omega
    simp only [encode, hc4, UInt8.ofNat_toNat]

end Control

/-- The bytes behind the control field are the ASDU of an I frame. -/
structure Apdu where
  control : Control
  behind : List UInt8
  behind_fits : behind.length ≤ 251

open Apdu

namespace Apdu

def encode (a : Apdu) : List UInt8 :=
  [0x68, UInt8.ofNat (4 + a.behind.length)] ++ (a.control.encode ++ a.behind)

lemma length_encode (a : Apdu) : a.encode.length = 6 + a.behind.length := by
  rw [encode, length_append, length_append, a.control.length_encode]
  simp only [length_cons, length_nil]
  omega

lemma toNat_length (a : Apdu) : (UInt8.ofNat (4 + a.behind.length)).toNat = 4 + a.behind.length :=
  UInt8.toNat_ofNat_of_lt' (Nat.lt_succ_of_le (Nat.add_le_add_left a.behind_fits 4))

def fields (a : Apdu) : Iec104Fields :=
  match a.control with
  | .i ns nr _ =>
    { frameType := "i"
      sendSequence := some (UInt16.ofNat ns)
      receiveSequence := some (UInt16.ofNat nr)
      typeId := if 6 ≤ a.behind.length then some (byteAt a.behind 0) else none
      causeOfTransmission :=
        if 6 ≤ a.behind.length then some (UInt16.ofNat ((byteAt a.behind 2).toNat % 64)) else none
      commonAddress := if 6 ≤ a.behind.length then some (UInt16.ofNat (leNat (slice a.behind 4 2)))
        else none
      informationObjectAddress :=
        if 9 ≤ a.behind.length then some (UInt32.ofNat (leNat (slice a.behind 6 3))) else none
      payload := a.behind }
  | .s _ nr _ => { frameType := "s", receiveSequence := some (UInt16.ofNat nr) }
  | .u function _ _ _ =>
    { frameType := "u", uFormat := some (iec104UFormatName (UInt8.ofNat (4 * function + 3))) }

end Apdu

/-! ## One frame -/

lemma u16FromLe_toLe {n : Nat} (h : n < 256 ^ 2) : u16FromLe (byteAt (toLe 2 n) 0)
    (byteAt (toLe 2 n) 1) = UInt16.ofNat n := by
  have hbytes : [byteAt (toLe 2 n) 0, byteAt (toLe 2 n) 1] = toLe 2 n := rfl
  rw [u16FromLe, hbytes, leNat_toLe h]

lemma ofNat_shiftRight_one {n : Nat} (h : n < 256 ^ 2) :
    UInt16.ofNat n >>> 1 = UInt16.ofNat (n / 2) := by
  have hone : UInt16.toNat 1 % 16 = 1 := rfl
  apply UInt16.toNat_inj.1
  rw [UInt16.toNat_shiftRight, UInt16.toNat_ofNat', UInt16.toNat_ofNat',
    Nat.mod_eq_of_lt (show n < 2 ^ 16 from h), Nat.mod_eq_of_lt (show n / 2 < 2 ^ 16 by omega)]
  exact Nat.shiftRight_eq_div_pow n 1

lemma u16FromLe_and (lo hi : UInt8) : u16FromLe lo hi &&& 0x003F =
    UInt16.ofNat (lo.toNat % 64) := by
  apply UInt16.toNat_inj.1
  rw [UInt16.toNat_and, u16FromLe, UInt16.toNat_ofNat', UInt16.toNat_ofNat', leNat_cons, leNat_cons]
  refine (Nat.and_two_pow_sub_one_eq_mod _ 6).trans ?_
  omega

lemma or_shiftLeft (b0 b1 b2 : UInt8) :
    b0.toUInt32 ||| b1.toUInt32 <<< 8 ||| b2.toUInt32 <<< 16 =
      UInt32.ofNat (leNat [b0, b1, b2]) := by
  have h0 := b0.toNat_lt
  have h1 := b1.toNat_lt
  have hlow : b0.toNat ||| 2 ^ 8 * b1.toNat = 2 ^ 8 * b1.toNat + b0.toNat := by
    rw [Nat.or_comm, Nat.two_pow_add_eq_or_of_lt h0]
  have hall : 2 ^ 8 * b1.toNat + b0.toNat ||| 2 ^ 16 * b2.toNat =
      2 ^ 16 * b2.toNat + (2 ^ 8 * b1.toNat + b0.toNat) := by
    rw [Nat.or_comm]
    exact (Nat.two_pow_add_eq_or_of_lt (by omega) b2.toNat).symm
  apply UInt32.toNat_inj.1
  rw [UInt32.toNat_or, UInt32.toNat_or, toNat_toUInt32_shiftLeft b1 (by decide),
    toNat_toUInt32_shiftLeft b2 (by decide), UInt8.toNat_toUInt32, UInt32.toNat_ofNat', leNat_cons,
      leNat_cons,
    leNat_cons, leNat_nil]
  refine (congrArg (· ||| 2 ^ 16 * b2.toNat) hlow).trans (hall.trans ?_)
  have h2 := b2.toNat_lt
  omega

lemma sequence_eq (n : Fin (2 ^ 15)) (spare : Fin 2) :
    u16FromLe (byteAt (toLe 2 (2 * n + spare)) 0) (byteAt (toLe 2 (2 * n + spare)) 1) >>> 1 =
      UInt16.ofNat n := by
  have hlt : 2 * (n : Nat) + spare < 256 ^ 2 := by omega
  rw [u16FromLe_toLe hlt, ofNat_shiftRight_one hlt]
  exact congrArg _ (by omega)

lemma iFields_encode (ns nr : Fin (2 ^ 15)) (spare : Fin 2) (asdu : List UInt8)
    (hfits : asdu.length ≤ 251) :
    iFields (Control.i ns nr spare).encode asdu =
      (⟨.i ns nr spare, asdu, hfits⟩ : Apdu).fields := by
  have hsend : u16FromLe (byteAt (Control.i ns nr spare).encode 0)
      (byteAt (Control.i ns nr spare).encode 1) >>> 1 = UInt16.ofNat ns := sequence_eq ns 0
  have hreceive : u16FromLe (byteAt (Control.i ns nr spare).encode 2)
      (byteAt (Control.i ns nr spare).encode 3) >>> 1 = UInt16.ofNat nr := sequence_eq nr spare
  rw [iFields, fields, hsend, hreceive]
  by_cases hsix : 6 ≤ asdu.length
  · have hcommon : u16FromLe (byteAt asdu 4) (byteAt asdu 5) =
        UInt16.ofNat (leNat (slice asdu 4 2)) := by
      match asdu, hsix with
      | a0 :: a1 :: a2 :: a3 :: a4 :: a5 :: rest, _ => rfl
    by_cases hnine : 9 ≤ asdu.length
    · have hobject :
        (byteAt asdu 6).toUInt32 ||| (byteAt asdu 7).toUInt32 <<< 8 ||| (byteAt asdu 8).toUInt32 <<<
          16 = UInt32.ofNat (leNat (slice asdu 6 3)) := by
        match asdu, hnine with
        | a0 :: a1 :: a2 :: a3 :: a4 :: a5 :: a6 :: a7 :: a8 :: rest,
          _ => exact or_shiftLeft a6 a7 a8
      simp only [hsix, hnine, decide_true, and_self, if_true, u16FromLe_and, hcommon, hobject]
    · simp only [hsix, hnine, decide_true, and_false, if_true, if_false, u16FromLe_and, hcommon]
  · have hnine : ¬ 9 ≤ asdu.length := by omega
    simp only [hsix, hnine, decide_false, Bool.false_eq_true, and_false, if_false]

lemma parseIec104Frame_encode (a : Apdu) : parseIec104Frame a.encode = some a.fields := by
  obtain ⟨control, asdu, hfits⟩ := a
  have hlong : ¬ ((⟨control, asdu, hfits⟩ : Apdu).encode.length < 6 ∨
      byteAt (⟨control, asdu, hfits⟩ : Apdu).encode 0 ≠ 0x68) := by
    rw [length_encode]
    rintro (hshort | hstart)
    · omega
    · exact hstart rfl
  have hcontrol : slice (⟨control, asdu, hfits⟩ : Apdu).encode 2 4 = control.encode :=
    slice_append_self control.length_encode
  have hasdu : (⟨control, asdu, hfits⟩ : Apdu).encode.drop 6 = asdu := by
    show (control.encode ++ asdu).drop 4 = asdu
    rw [← control.length_encode, drop_left]
  rw [parseIec104Frame, if_neg hlong, hcontrol, hasdu]
  dsimp only
  have hbit : ∀ n : Nat, UInt8.ofNat n &&& 0x01 = 0 ↔ n % 2 = 0 := fun n =>
    ofNat_and_low_eq_iff n (k := 1) (by decide) rfl
  have hbits : ∀ (n : Nat) (value : UInt8), UInt8.ofNat n &&& 0x03 = value ↔ n % 4 = value.toNat :=
    fun n _ =>
    ofNat_and_low_eq_iff n (k := 2) (by decide) rfl
  cases control with
  | i ns nr spare =>
    have hfirst : byteAt (Control.i ns nr spare).encode 0 = UInt8.ofNat (2 * ns) := rfl
    rw [hfirst, if_pos ((hbit _).2 (Nat.mul_mod_right 2 ns)), iFields_encode ns nr spare asdu hfits]
  | s spare nr spare' =>
    have hfirst : byteAt (Control.s spare nr spare').encode 0 = UInt8.ofNat (4 * spare + 1) := rfl
    have hreceive : u16FromLe (byteAt (Control.s spare nr spare').encode 2)
        (byteAt (Control.s spare nr spare').encode 3) >>> 1 = UInt16.ofNat nr :=
          sequence_eq nr spare'
    rw [hfirst, if_neg (mt (hbit _).1 (by omega)),
      if_pos ((hbits _ _).2 (Nat.mul_add_mod 4 spare 1)), sFields, hreceive]
    rfl
  | u function spare1 spare2 spare3 =>
    have hfirst : byteAt (Control.u function spare1 spare2 spare3).encode 0 =
      UInt8.ofNat (4 * function + 3) := rfl
    have hthree : (4 * (function : Nat) + 3) % 4 = 3 := Nat.mul_add_mod 4 function 3
    rw [hfirst, if_neg (mt (hbit _).1 (by omega)),
      if_neg (mt (hbits _ 0x01).1 (by rw [hthree]; decide)), if_pos ((hbits _ _).2 hthree)]
    rfl

/-! ## The frames at the front -/

/-- An APDU begins with 0x68 and a length of four bytes at least. -/
def framing : Framing UInt8 where
  next bs :=
    if 2 ≤ bs.length ∧ byteAt bs 0 = 0x68 ∧ 4 ≤ (byteAt bs 1).toNat ∧
      2 + (byteAt bs 1).toNat ≤ bs.length then
      some (bs.take (2 + (byteAt bs 1).toNat), bs.drop (2 + (byteAt bs 1).toNat))
    else none
  shrinks := by
    intro bs frame rest h
    split at h
    · cases h
      rw [length_drop]
      omega
    · cases h
  stable := by
    intro bs frame rest more h
    split at h
    · next hframe =>
        cases h
        obtain ⟨hlong, hstart, hlen, hfits⟩ := hframe
        have hbyte : ∀ i, i < 2 → byteAt (bs ++ more) i = byteAt bs i := by
          intro i hi
          exact byteAt_eq_of_take_eq (take_append_of_le_length hlong) hi
        rw [hbyte 0 (by decide), hbyte 1 (by decide),
          if_pos ⟨by rw [length_append]; omega, hstart, hlen,
          by rw [length_append]; omega⟩, take_append_of_le_length hfits,
            drop_append_of_le_length hfits]
    · cases h

lemma next_encode (a : Apdu) (rest : List UInt8) :
    framing.next (a.encode ++ rest) = some (a.encode, rest) := by
  set count := byteAt (a.encode ++ rest) 1
  have hlen := a.length_encode
  have hsecond : count.toNat = 4 + a.behind.length := a.toNat_length
  have htotal : 2 + count.toNat = a.encode.length := by omega
  have hframe : 2 ≤ (a.encode ++ rest).length ∧ byteAt (a.encode ++ rest) 0 = 0x68 ∧
      4 ≤ count.toNat ∧ 2 + count.toNat ≤ (a.encode ++ rest).length := by
    rw [length_append]
    exact ⟨by omega, rfl, by omega, by omega⟩
  refine (if_pos hframe).trans ?_
  rw [htotal, take_left, drop_left]

lemma exists_apdu {bs frame rest : List UInt8} (h : framing.next bs = some (frame, rest)) :
    ∃ a : Apdu, a.encode = frame ∧ frame ++ rest = bs := by
  have hcases : (2 ≤ bs.length ∧ byteAt bs 0 = 0x68 ∧ 4 ≤ (byteAt bs 1).toNat ∧
    2 + (byteAt bs 1).toNat ≤ bs.length) ∧
      (bs.take (2 + (byteAt bs 1).toNat), bs.drop (2 + (byteAt bs 1).toNat)) = (frame, rest) := by
    unfold framing at h
    dsimp only at h
    split at h
    · next hframe => exact ⟨hframe, Option.some.inj h⟩
    · cases h
  obtain ⟨⟨-, hstart, hlen, hfits⟩, hparts⟩ := hcases
  cases hparts
  obtain ⟨a, ha⟩ : ∃ a : Apdu, a.encode = bs.take (2 + (byteAt bs 1).toNat) := by
    have hsix : 6 ≤ bs.length := by omega
    match bs, hsix with
    | b0 :: len :: c0 :: c1 :: c2 :: c3 :: more, _ =>
      have hlen : 4 ≤ len.toNat := hlen
      have hfits : 2 + len.toNat ≤ more.length + 6 := hfits
      have hlt := len.toNat_lt
      have hbehind : (more.take (len.toNat - 4)).length = len.toNat - 4 :=
        length_take_of_le (by omega)
      obtain ⟨control, hcontrol⟩ := Control.exists_encode c0 c1 c2 c3
      refine ⟨⟨control, more.take (len.toNat - 4), by omega⟩, ?_⟩
      have htotal : 2 + (byteAt (b0 :: len :: c0 :: c1 :: c2 :: c3 :: more) 1).toNat =
          len.toNat - 4 + 6 := by
        show 2 + len.toNat = len.toNat - 4 + 6
        omega
      have hbyte : UInt8.ofNat (4 + (more.take (len.toNat - 4)).length) = len := by
        rw [hbehind, Nat.add_sub_cancel' hlen, UInt8.ofNat_toNat]
      show [0x68, UInt8.ofNat (4 + (more.take (len.toNat - 4)).length)] ++
        (control.encode ++ more.take (len.toNat - 4)) = _
      rw [hcontrol, hbyte, htotal, show b0 = 0x68 from hstart]
      rfl
  exact ⟨a, ha, take_append_drop _ bs⟩

lemma parseFramesLoop_encode (front : List UInt8) (a : Apdu) (rest : List UInt8) (fuel : Nat) :
    parseFramesLoop (front ++ (a.encode ++ rest)) (fuel + 1) front.length =
      a.fields :: parseFramesLoop (front ++ (a.encode ++ rest)) fuel
        (front.length + a.encode.length) := by
  set buf := front ++ (a.encode ++ rest)
  have hlen : buf.length = front.length + (6 + a.behind.length + rest.length) := by
    rw [length_append, length_append, a.length_encode]
  have hstart : byteAt buf front.length = 0x68 := byteAt_append_right front _ 0
  have hsecond : (byteAt buf (front.length + 1)).toNat = 4 + a.behind.length := by
    rw [byteAt_append_right]
    exact a.toNat_length
  have htotal : 2 + (4 + a.behind.length) = a.encode.length := by
    rw [a.length_encode]
    omega
  have hapdu : slice buf front.length a.encode.length = a.encode := by
    rw [slice_append_right (Nat.le_refl _), Nat.sub_self, slice_append_self rfl]
  rw [parseFramesLoop]
  simp only [hstart, hsecond]
  rw [if_pos (by omega), if_neg (by simp), if_neg (by omega), htotal, hapdu,
    parseIec104Frame_encode]

lemma parseFramesLoop_of_next_eq_none {bs : List UInt8} (front : List UInt8)
    (h : framing.next bs = none)
    (fuel : Nat) : parseFramesLoop (front ++ bs) fuel front.length = [] := by
  have hnot : ¬ (2 ≤ bs.length ∧ byteAt bs 0 = 0x68 ∧ 4 ≤ (byteAt bs 1).toNat ∧
      2 + (byteAt bs 1).toNat ≤ bs.length) := by
    intro hframe
    have hsome : framing.next bs = some _ := if_pos hframe
    rw [h] at hsome
    cases hsome
  have hstart : byteAt (front ++ bs) front.length = byteAt bs 0 := byteAt_append_right front bs 0
  have hlen : (front ++ bs).length = front.length + bs.length := length_append
  cases fuel with
  | zero => rfl
  | succ fuel =>
    rw [parseFramesLoop]
    simp only [hstart, byteAt_append_right, hlen]
    split
    · split
      · rfl
      · next hfirst =>
          rw [if_pos]
          have hbyte : byteAt bs 0 = 0x68 := by
            by_contra hne
            exact hfirst hne
          by_contra hfits
          exact hnot ⟨by omega, hbyte, by omega, by omega⟩
    · rfl

lemma parseFramesLoop_eq (front bs : List UInt8) (fuel : Nat) :
    ∃ apdus : List Apdu, (framing.drainFuel fuel bs).1 = apdus.map encode ∧
      parseFramesLoop (front ++ bs) fuel front.length = apdus.map fields := by
  induction fuel generalizing front bs with
  | zero => exact ⟨[], rfl, rfl⟩
  | succ fuel ih =>
    rw [Framing.drainFuel]
    cases hnext : framing.next bs with
    | none => exact ⟨[], rfl, parseFramesLoop_of_next_eq_none front hnext _⟩
    | some found =>
      obtain ⟨frame, rest⟩ := found
      obtain ⟨a, rfl, rfl⟩ := exists_apdu hnext
      obtain ⟨apdus, hdrain, hloop⟩ := ih _ rest
      refine ⟨a :: apdus, ?_, ?_⟩
      · dsimp only
        rw [hdrain, map_cons]
      · rw [append_assoc, length_append] at hloop
        rw [parseFramesLoop_encode, hloop, map_cons]

lemma map_fields_eq {as bs : List Apdu} (h : as.map encode = bs.map encode) :
    as.map fields = bs.map fields := by
  have hparse : ∀ xs : List Apdu, (xs.map fields).map some =
      (xs.map encode).map parseIec104Frame := by
    simp [parseIec104Frame_encode]
  apply map_injective_iff.2 (Option.some_injective _)
  rw [hparse, hparse, h]

lemma parseIec104Frames_of_drain {bs : List UInt8} {apdus : List Apdu}
    (h : (framing.drain bs).1 = apdus.map encode) : parseIec104Frames bs = apdus.map fields := by
  obtain ⟨found, hdrain, hloop⟩ := parseFramesLoop_eq [] bs _
  exact hloop.trans (map_fields_eq (hdrain.symm.trans h))

lemma next_take_encode {n : Nat} (a : Apdu) (h : n < a.encode.length) :
    framing.next (a.encode.take n) = none := by
  cases hnext : framing.next _ with
  | none => rfl
  | some found =>
    -- otherwise the same APDU would be found in the whole
    obtain ⟨frame, rest⟩ := found
    have hwhole := framing.stable (a.encode.drop n) hnext
    have hself := next_encode a []
    rw [append_nil] at hself
    rw [take_append_drop, hself] at hwhole
    have hnil : rest ++ a.encode.drop n = [] := (congrArg Prod.snd (Option.some.inj hwhole)).symm
    have hlen := congrArg List.length (append_eq_nil_iff.1 hnil).2
    rw [length_drop, length_nil] at hlen
    omega

/-- The bytes begin with a whole APDU. -/
def Begins (bs : List UInt8) : Prop := ∃ (a : Apdu) (rest : List UInt8), bs = a.encode ++ rest

/-- APDUs followed by a proper part of one are reported in order. -/
theorem parseIec104Frames_spec (data : List UInt8) :
    (∀ (apdus : List Apdu) (next : Apdu) (n : Nat), n < next.encode.length →
      data = apdus.flatMap Apdu.encode ++ next.encode.take n →
        parseIec104Frames data = apdus.map Apdu.fields) ∧
    ∃ (apdus : List Apdu) (rest : List UInt8), data = apdus.flatMap Apdu.encode ++ rest ∧
      ¬ Begins rest ∧ parseIec104Frames data = apdus.map Apdu.fields ∧
      ∀ (apdus' : List Apdu) (rest' : List UInt8), data = apdus'.flatMap Apdu.encode ++ rest' →
        apdus'.map Apdu.encode <+: apdus.map Apdu.encode := by
  have hdrain := framing.drain_encoded_append encode encode next_encode
  constructor
  · rintro apdus next n hn rfl
    apply parseIec104Frames_of_drain
    rw [hdrain, framing.drain_of_next_eq_none (next_take_encode next hn), append_nil]
  · obtain ⟨apdus, hfound, hloop⟩ := parseFramesLoop_eq [] data data.length
    have hfound : (framing.drain data).1 = apdus.map encode := hfound
    refine ⟨apdus, (framing.drain data).2, ?_, ?_, hloop, ?_⟩
    · have hjoin := framing.flatten_drain_append (fun h => (exists_apdu h).choose_spec.2) data
      rw [hfound, ← flatMap_def] at hjoin
      exact hjoin.symm
    · rintro ⟨a, rest, hrest⟩
      have hnone := framing.next_drain_snd data
      rw [hrest, next_encode] at hnone
      cases hnone
    · rintro apdus' rest' rfl
      rw [← hfound, hdrain]
      exact prefix_append _ _

/-- An I frame whose length is 254, one more than the standard allows. -/
def longApdu : Apdu := ⟨.i 0 0 0, List.replicate 250 0, by rw [length_replicate]; decide⟩

/-- It is reported as a frame; and of an ASDU with less than six bytes the type is not reported. -/
theorem longApdu_reported :
    longApdu.encode.take 2 = [0x68, 254] ∧ parseIec104Frames longApdu.encode = [longApdu.fields] ∧
      parseIec104Frames [0x68, 5, 0, 0, 0, 0, 100] =
        [⟨"i", some 0, some 0, none, none, none, none, none, [100]⟩] := by
  have hlen : UInt8.ofNat (4 + longApdu.behind.length) = 254 := by
    rw [longApdu, length_replicate]
    rfl
  refine ⟨congrArg (fun len => [0x68, len]) hlen, ?_, rfl⟩
  have hdrain : framing.drain ([longApdu].flatMap encode) = ([longApdu].map encode, []) :=
    framing.drain_encoded encode encode next_encode [longApdu]
  rw [flatMap_singleton] at hdrain
  exact @parseIec104Frames_of_drain _ [longApdu] (congrArg Prod.fst hdrain)

end MarlinspikeDpi.Iec104
