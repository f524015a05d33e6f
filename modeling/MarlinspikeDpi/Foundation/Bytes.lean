import Mathlib.Data.Nat.Digits.Lemmas
import Mathlib.Tactic.Ring

/-!
# Fixed-width integers in byte strings

Byte strings are lists of `UInt8`.
-/

namespace MarlinspikeDpi.Bytes

open List

/-! ## Looking into a buffer -/

variable (bs : List UInt8)

/-- The `n` bytes of `bs` that start at offset `i` (fewer when `bs` is too short). -/
def slice (i n : Nat) : List UInt8 := (bs.drop i).take n

/-- The byte at offset `i`; a read past the end yields `0`, so callers check the length first. -/
def byteAt (i : Nat) : UInt8 := bs.getD i 0

variable {xs ys : List UInt8}

lemma slice_append_left {i n : Nat} (h : i + n ≤ xs.length) :
    slice (xs ++ ys) i n = slice xs i n := by
  have hi : i ≤ xs.length := by omega
  have hn : n ≤ (xs.drop i).length := by
    rw [length_drop]
    omega
  simp only [slice]
  rw [drop_append_of_le_length hi, take_append_of_le_length hn]

lemma slice_append_right {i n : Nat} (h : xs.length ≤ i) :
    slice (xs ++ ys) i n = slice ys (i - xs.length) n := by
  simp only [slice, drop_append, drop_of_length_le h, nil_append]

lemma slice_append_self {n : Nat} (h : xs.length = n) : slice (xs ++ ys) 0 n = xs := by
  subst h
  simp [slice]

lemma slice_self {xs : List UInt8} {n : Nat} (h : xs.length = n) : slice xs 0 n = xs := by
  subst h
  simp [slice]

lemma slice_eq_of_take_eq {n i len : Nat} (hsame : xs.take n = ys.take n)
    (hwithin : i + len ≤ n) : slice xs i len = slice ys i len := by
  have hcut : ∀ bs : List UInt8, slice bs i len = slice (bs.take n) i len := by
    intro bs
    rw [slice, slice, drop_take, take_take, Nat.min_eq_left (by omega)]
  rw [hcut xs, hcut ys, hsame]

lemma slice_flatMap {α : Type} {f : α → List UInt8} {w : Nat} (hf : ∀ a, (f a).length = w)
    (front after : List UInt8) {items : List α} {i : Nat} (hi : i < items.length) :
    slice (front ++ (items.flatMap f ++ after)) (front.length + i * w) w = f items[i] := by
  induction items generalizing front i with
  | nil => exact absurd hi (Nat.not_lt_zero i)
  | cons item items ih =>
    cases i with
    | zero => simp [slice, ← hf item]
    | succ i =>
      have hlater := ih (front ++ f item) (Nat.lt_of_succ_lt_succ hi)
      simpa [hf, Nat.succ_mul, Nat.add_assoc, Nat.add_comm w] using hlater

lemma byteAt_append_right (xs ys : List UInt8) (i : Nat) : byteAt (xs ++ ys)
    (xs.length + i) = byteAt ys i := by
  rw [byteAt, byteAt, getD_eq_getElem?_getD, getD_eq_getElem?_getD,
    getElem?_append_right (Nat.le_add_right _ _), Nat.add_sub_cancel_left]

lemma drop_eq_byteAt_cons {bs : List UInt8} {i : Nat} (h : i < bs.length) :
    bs.drop i = byteAt bs i :: bs.drop (i + 1) := by
  rw [drop_eq_getElem_cons h, byteAt, getD_eq_getElem?_getD, getElem?_eq_getElem h]
  rfl

lemma byteAt_eq_of_take_eq {n i : Nat} (hsame : xs.take n = ys.take n)
    (hwithin : i < n) : byteAt xs i = byteAt ys i := by
  have hcut : ∀ bs : List UInt8, byteAt bs i = byteAt (bs.take n) i := by
    intro bs
    rw [byteAt, byteAt, getD_eq_getElem?_getD, getD_eq_getElem?_getD, getElem?_take_of_lt hwithin]
  rw [hcut xs, hcut ys, hsame]

lemma toNat_and_low (b : UInt8) (k : Nat) (mask : UInt8) (hmask : mask.toNat = 2 ^ k - 1) :
    (b &&& mask).toNat = b.toNat % 2 ^ k := by
  rw [UInt8.toNat_and, hmask, Nat.and_two_pow_sub_one_eq_mod]

lemma ofNat_and_low_eq_iff (n : Nat) {k : Nat} (hk : k ≤ 8) {mask value : UInt8}
    (hmask : mask.toNat = 2 ^ k - 1) :
    UInt8.ofNat n &&& mask = value ↔ n % 2 ^ k = value.toNat := by
  rw [← UInt8.toNat_inj, toNat_and_low _ k _ hmask, UInt8.toNat_ofNat',
    Nat.mod_mod_of_dvd _ (Nat.pow_dvd_pow 2 hk)]

/-! ## Values of byte strings -/

def leNat : Nat := Nat.ofDigits 256 (bs.map UInt8.toNat)

def beNat : Nat := leNat bs.reverse

@[simp] lemma leNat_nil : leNat [] = 0 := rfl

@[simp] lemma leNat_cons (b : UInt8) (bs : List UInt8) :
    leNat (b :: bs) = b.toNat + 256 * leNat bs := by
  simp [leNat, Nat.ofDigits_cons]

/-! ## Fixed-width encoders -/

/-- The `w` little-endian bytes of `n`; the part of `n` above `256 ^ w` is cut off. -/
def toLe : Nat → Nat → List UInt8
  | 0, _ => []
  | w + 1, n => UInt8.ofNat n :: toLe w (n / 256)

variable (w : Nat)

def toBe (n : Nat) : List UInt8 := (toLe w n).reverse

@[simp] lemma length_toLe (n : Nat) : (toLe w n).length = w := by
  induction w generalizing n with
  | zero => rfl
  | succ w ih => simp [toLe, ih]

@[simp] lemma length_toBe (n : Nat) : (toBe w n).length = w := by
  simp [toBe]

lemma leNat_toLe_mod (n : Nat) : leNat (toLe w n) = n % 256 ^ w := by
  induction w generalizing n with
  | zero => simp [toLe, Nat.mod_one]
  | succ w ih =>
    have hbyte : (UInt8.ofNat n).toNat = n % 256 := by simp
    calc
      leNat (toLe (w + 1) n)
          = n % 256 + 256 * (n / 256 % 256 ^ w) := by rw [toLe, leNat_cons, ih, hbyte]
      _ = n % (256 * 256 ^ w) := (Nat.mod_mul).symm
      _ = n % 256 ^ (w + 1) := by rw [Nat.pow_succ, Nat.mul_comm]

lemma leNat_toLe {w n : Nat} (h : n < 256 ^ w) : leNat (toLe w n) = n := by
  rw [leNat_toLe_mod, Nat.mod_eq_of_lt h]

lemma beNat_toBe {w n : Nat} (h : n < 256 ^ w) : beNat (toBe w n) = n := by
  simp [beNat, toBe, leNat_toLe h]

lemma toLe_leNat : toLe bs.length (leNat bs) = bs := by
  induction bs with
  | nil => rfl
  | cons b bs ih =>
    have hlow : UInt8.ofNat (b.toNat + 256 * leNat bs) = b := by
      apply UInt8.toNat_inj.1
      have hlt := b.toNat_lt
      rw [UInt8.toNat_ofNat']
      omega
    have hhigh : (b.toNat + 256 * leNat bs) / 256 = leNat bs := by
      have hlt := b.toNat_lt
      omega
    rw [leNat_cons, length_cons, toLe, hlow, hhigh, ih]

variable {w}

lemma toBe_beNat {bs : List UInt8} (h : bs.length = w) : toBe w (beNat bs) = bs := by
  rw [toBe, beNat, ← h, ← length_reverse, toLe_leNat, reverse_reverse]

lemma leNat_lt {bs : List UInt8} (h : bs.length = w) : leNat bs < 256 ^ w := by
  subst h
  have hmod := leNat_toLe_mod bs.length (leNat bs)
  rw [toLe_leNat] at hmod
  rw [hmod]
  exact Nat.mod_lt _ (Nat.pow_pos (by decide))

lemma beNat_lt {bs : List UInt8} (h : bs.length = w) : beNat bs < 256 ^ w :=
  leNat_lt (bs.length_reverse.trans h)

/-! ## Bytes shifted into a word -/

lemma beNat_concat (bytes : List UInt8) (b : UInt8) :
    beNat (bytes ++ [b]) = beNat bytes * 256 + b.toNat := by
  rw [beNat, reverse_append, reverse_singleton, singleton_append, leNat_cons, ← beNat]
  omega

lemma beNat_append (front behind : List UInt8) :
    beNat (front ++ behind) = beNat front * 256 ^ behind.length + beNat behind := by
  induction behind using List.reverseRecOn with
  | nil => simp [beNat]
  | append_singleton behind b ih =>
    rw [← append_assoc, beNat_concat, beNat_concat, ih, length_append, length_singleton]
    ring_nf

lemma pow_length_le_beNat (front : List UInt8) {b : UInt8} (hb : 1 ≤ b.toNat)
    (behind : List UInt8) : 256 ^ behind.length ≤ beNat (front ++ b :: behind) := by
  have hone : beNat [b] = b.toNat := by simp [beNat]
  calc
    256 ^ behind.length = 1 * 256 ^ behind.length := (Nat.one_mul _).symm
    _ ≤ b.toNat * 256 ^ behind.length := Nat.mul_le_mul_right _ hb
    _ ≤ beNat ([b] ++ behind) := by
      rw [beNat_append]
      exact Nat.le_add_right _ _
    _ ≤ beNat (front ++ b :: behind) := by
      rw [beNat_append front]
      exact Nat.le_add_left _ _

lemma shiftLeft_or_bitVec (hw : 8 ≤ w) (n : Nat) (b : UInt8) :
    (BitVec.ofNat w n <<< 8) ||| BitVec.ofNat w b.toNat = BitVec.ofNat w (n * 256 + b.toNat) := by
  obtain ⟨k, rfl⟩ := Nat.exists_eq_add_of_le' hw
  have hb : b.toNat < 2 ^ 8 := b.toNat_lt
  have hpow : 2 ^ (k + 8) = 256 * 2 ^ k := by rw [Nat.pow_add, Nat.mul_comm]
  have hhigh : (BitVec.ofNat (k + 8) n <<< 8).toNat = (n % 2 ^ k) <<< 8 := by
    rw [BitVec.toNat_shiftLeft, BitVec.toNat_ofNat, Nat.shiftLeft_eq, Nat.shiftLeft_eq,
      Nat.mul_comm, hpow,
      Nat.mul_mod_mul_left, Nat.mod_mod_of_dvd n (Nat.dvd_mul_left _ _), Nat.mul_comm]
  have hlow : (BitVec.ofNat (k + 8) b.toNat).toNat = b.toNat := by
    rw [BitVec.toNat_ofNat, Nat.mod_eq_of_lt]
    exact hb.trans_le (Nat.pow_le_pow_right (by decide) hw)
  have hrest : (n * 256 + b.toNat) % 256 = b.toNat := by omega
  have hquot : (n * 256 + b.toNat) / 256 = n := by omega
  apply BitVec.eq_of_toNat_eq
  calc
    ((BitVec.ofNat (k + 8) n <<< 8) ||| BitVec.ofNat (k + 8) b.toNat).toNat
        = (n % 2 ^ k) <<< 8 + b.toNat := by
          rw [BitVec.toNat_or, hhigh, hlow, Nat.shiftLeft_add_eq_or_of_lt hb]
    _ = b.toNat + 256 * (n % 2 ^ k) := by rw [Nat.shiftLeft_eq, Nat.add_comm, Nat.mul_comm]
    _ = (n * 256 + b.toNat) % (256 * 2 ^ k) := by rw [Nat.mod_mul, hrest, hquot]
    _ = (BitVec.ofNat (k + 8) (n * 256 + b.toNat)).toNat := by rw [BitVec.toNat_ofNat, hpow]

lemma foldl_shiftLeft_or_bitVec (hw : 8 ≤ w) (n : Nat) (bytes : List UInt8) :
    bytes.foldl (fun (v : BitVec w) b => (v <<< 8) ||| BitVec.ofNat w b.toNat) (BitVec.ofNat w n) =
      BitVec.ofNat w (n * 256 ^ bytes.length + beNat bytes) := by
  induction bytes using List.reverseRecOn with
  | nil =>
    rw [length_nil, Nat.pow_zero, Nat.mul_one]
    rfl
  | append_singleton bytes b ih =>
    rw [foldl_append, ih, foldl_cons, foldl_nil, shiftLeft_or_bitVec hw, beNat_concat,
      length_append, length_singleton]
    ring_nf

lemma shiftLeft_or_uint32 (n : Nat) (b : UInt8) :
    (UInt32.ofNat n <<< 8) ||| UInt32.ofNat b.toNat = UInt32.ofNat (n * 256 + b.toNat) :=
  UInt32.toBitVec_inj.mp (shiftLeft_or_bitVec (by decide) n b)

lemma foldl_shiftLeft_or_uint32 (bytes : List UInt8) :
    bytes.foldl (fun (v : UInt32) b => (v <<< 8) ||| UInt32.ofNat b.toNat) 0 =
      UInt32.ofNat (beNat bytes) := by
  induction bytes using List.reverseRecOn with
  | nil => rfl
  | append_singleton bytes b ih =>
    rw [foldl_append, ih, foldl_cons, foldl_nil, shiftLeft_or_uint32, beNat_concat]

/-! ## Formats with a choice of byte order -/

inductive ByteOrder where
  | little
  | big
deriving DecidableEq, Repr

namespace ByteOrder

def encode : ByteOrder → Nat → Nat → List UInt8
  | little => toLe
  | big => toBe

def decode : ByteOrder → List UInt8 → Nat
  | little => leNat
  | big => beNat

@[simp] lemma length_encode (order : ByteOrder) (w n : Nat) : (order.encode w n).length = w := by
  cases order with
  | little => exact length_toLe w n
  | big => exact length_toBe w n

lemma decode_encode (order : ByteOrder) {w n : Nat} (h : n < 256 ^ w) :
    order.decode (order.encode w n) = n := by
  cases order with
  | little => exact leNat_toLe h
  | big => exact beNat_toBe h

end ByteOrder

lemma toNat_toUInt32_shiftLeft (b : UInt8) {k : UInt32} (hk : k.toNat ≤ 24) :
    (b.toUInt32 <<< k).toNat = 2 ^ k.toNat * b.toNat := by
  have hb : b.toNat * 2 ^ k.toNat < 2 ^ 8 * 2 ^ 24 :=
    Nat.mul_lt_mul_of_lt_of_le b.toNat_lt (Nat.pow_le_pow_right (by decide) hk) (by decide)
  rw [UInt32.toNat_shiftLeft, Nat.mod_eq_of_lt (show k.toNat < 32 by omega), Nat.shiftLeft_eq,
    Nat.mul_comm (2 ^ k.toNat)]
  exact Nat.mod_eq_of_lt hb

lemma or_shiftLeft_beNat (b0 b1 b2 b3 : UInt8) :
    b0.toUInt32 <<< 24 ||| b1.toUInt32 <<< 16 ||| b2.toUInt32 <<< 8 ||| b3.toUInt32 =
      UInt32.ofNat (beNat [b0, b1, b2, b3]) := by
  have h1 := b1.toNat_lt
  have h2 := b2.toNat_lt
  have h3 := b3.toNat_lt
  have hor : ∀ i n m : Nat, m < 2 ^ i → 2 ^ i * n ||| m = 2 ^ i * n + m := fun i n m hm =>
    (Nat.two_pow_add_eq_or_of_lt hm n).symm
  have hlt : beNat [b0, b1, b2, b3] < 2 ^ 32 := by
    have hfour : [b0, b1, b2, b3].length = 4 := rfl
    exact (beNat_lt hfour).trans_le (by decide)
  apply UInt32.toNat_inj.1
  rw [UInt32.toNat_or, UInt32.toNat_or, UInt32.toNat_or, toNat_toUInt32_shiftLeft b0 (by decide),
    toNat_toUInt32_shiftLeft b1 (by decide), toNat_toUInt32_shiftLeft b2 (by decide),
      UInt8.toNat_toUInt32,
    UInt32.toNat_ofNat', Nat.mod_eq_of_lt hlt]
  show 2 ^ 24 * b0.toNat ||| 2 ^ 16 * b1.toNat ||| 2 ^ 8 * b2.toNat ||| b3.toNat =
    beNat [b0, b1, b2, b3]
  calc
    2 ^ 24 * b0.toNat ||| 2 ^ 16 * b1.toNat ||| 2 ^ 8 * b2.toNat ||| b3.toNat
        = 2 ^ 16 * (2 ^ 8 * b0.toNat + b1.toNat) ||| 2 ^ 8 * b2.toNat ||| b3.toNat := by
          rw [hor 24 _ _ (by omega)]
          congr 2
          omega
    _ = 2 ^ 8 * (2 ^ 16 * b0.toNat + 2 ^ 8 * b1.toNat + b2.toNat) ||| b3.toNat := by
          rw [hor 16 _ _ (by omega)]
          congr 1
          omega
    _ = beNat [b0, b1, b2, b3] := by
          rw [hor 8 _ _ (by omega)]
          simp only [beNat, reverse_cons, reverse_nil, nil_append, cons_append, leNat_cons,
            leNat_nil]
          omega

end MarlinspikeDpi.Bytes
