import MarlinspikeDpi.Foundation.Bytes
import MarlinspikeDpi.Foundation.Checked
import MarlinspikeDpi.Foundation.Text
import Mathlib.Tactic.IntervalCases

/-!
# Texts and the bytes they are made of

Texts are measured and cut in bytes.  A cut within a character is a panic (`splitText`).
-/

namespace MarlinspikeDpi.Text

open List Nat

/-! ## Offsets -/

/-- `len`: the number of bytes. -/
def byteLen : List Char → Nat
  | [] => 0
  | c :: cs => c.utf8Size + byteLen cs

/-- The characters in front of an offset and those behind it, if no character is cut. -/
def splitAtByte : List Char → Nat → Option (List Char × List Char)
  | cs, 0 => some ([], cs)
  | [], _ + 1 => none
  | c :: cs, n + 1 =>
    if c.utf8Size ≤ n + 1 then (splitAtByte cs (n + 1 - c.utf8Size)).map fun halves =>
      (c :: halves.1, halves.2)
    else none

def splitText (cs : List Char) (n : Nat) : Checked (List Char × List Char) :=
  match splitAtByte cs n with
  | some halves => .ok halves
  | none => .error (.charBoundary n)

lemma byteLen_append (cs ds : List Char) : byteLen (cs ++ ds) = byteLen cs + byteLen ds := by
  induction cs with
  | nil => exact (zero_add _).symm
  | cons c cs ih => rw [cons_append, byteLen, byteLen, ih, add_assoc]

lemma splitAtByte_append (front behind : List Char) :
    splitAtByte (front ++ behind) (byteLen front) = some (front, behind) := by
  induction front with
  | nil =>
    cases behind with
    | nil => rfl
    | cons c cs => rfl
  | cons c front ih =>
    obtain ⟨n, hn⟩ := exists_eq_add_one_of_ne_zero (ne_zero_of_lt c.utf8Size_pos)
    have hlen : byteLen (c :: front) = n + byteLen front + 1 := by
      rw [byteLen]
      omega
    have hrest : n + byteLen front + 1 - c.utf8Size = byteLen front := by omega
    rw [hlen, cons_append, splitAtByte, if_pos (by omega), hrest, ih]
    rfl

/-! ## ASCII bytes -/

/-- A sequence that is under way: the next byte is none of the ASCII bytes, and the character will
not be one. -/
structure Utf8Partial.Proper (p : Utf8Partial) : Prop where
  owes : 1 ≤ p.owed
  low : 0x80 ≤ p.low.toNat
  high : p.high.toNat ≤ 0xBF
  wide : 2 ≤ p.bits ∨ 2 ≤ p.owed ∧ 2 ≤ p.bits * 64 + p.low.toNat % 64

lemma proper_utf8Start (b : UInt8) : ∀ p ∈ (utf8Start b).2, p.Proper := by
  have hlow : 0x80 ≤ (0x80 : UInt8).toNat := le_refl _
  have hhigh : (0xBF : UInt8).toNat ≤ 0xBF := le_refl _
  intro p hp
  unfold utf8Start at hp
  -- the cases are those of the first byte
  split at hp
  · cases hp
  split at hp
  · rename_i hrange
    have hfrom : 0xC2 ≤ b.toNat := hrange.1
    have hto : b.toNat ≤ 0xDF := hrange.2
    cases hp
    refine ⟨le_refl 1, hlow, hhigh, .inl ?_⟩
    dsimp only
    rw [Bytes.toNat_and_low b 5 0x1F rfl]
    omega
  -- after 0xE0 and 0xF0 the range of the next byte excludes what fits fewer bytes
  split at hp
  · cases hp
    exact ⟨by decide, by decide, by decide, .inr (by decide)⟩
  split at hp
  · cases hp
    exact ⟨by decide, by decide, by decide, .inl (by decide)⟩
  split at hp
  · rename_i hrange
    have hfrom : 0xE1 ≤ b.toNat := hrange.1
    have hto : b.toNat ≤ 0xEF := hrange.2
    cases hp
    refine ⟨le_succ 1, hlow, hhigh, .inr ⟨le_refl 2, ?_⟩⟩
    dsimp only
    rw [Bytes.toNat_and_low b 4 0x0F rfl]
    omega
  split at hp
  · cases hp
    exact ⟨by decide, by decide, by decide, .inr (by decide)⟩
  split at hp
  · rename_i hrange
    have hfrom : 0xF1 ≤ b.toNat := hrange.1
    have hto : b.toNat ≤ 0xF3 := hrange.2
    cases hp
    refine ⟨le_add_left 1 2, hlow, hhigh, .inr ⟨le_succ 2, ?_⟩⟩
    dsimp only
    rw [Bytes.toNat_and_low b 3 0x07 rfl]
    omega
  split at hp
  · cases hp
    exact ⟨by decide, by decide, by decide, .inl (by decide)⟩
  · cases hp

namespace Utf8Partial.Proper

lemma two_le_bits {p : Utf8Partial} {b : UInt8} (hp : p.Proper) (hrange : p.low ≤ b ∧ b ≤ p.high) :
    2 ≤ p.bits * 64 + (b &&& 0x3F).toNat := by
  have hfrom : p.low.toNat ≤ b.toNat := hrange.1
  have hto : b.toNat ≤ p.high.toNat := hrange.2
  have hlow := hp.low
  have hhigh := hp.high
  rw [Bytes.toNat_and_low b 6 0x3F rfl]
  rcases hp.wide with hwide | ⟨-, hwide⟩ <;> omega

lemma next {p : Utf8Partial} {b : UInt8} (hp : p.Proper) (hrange : p.low ≤ b ∧ b ≤ p.high)
    (howed : p.owed ≠ 1) :
    (⟨p.owed - 1, 0x80, 0xBF, p.bits * 64 + (b &&& 0x3F).toNat⟩ : Utf8Partial).Proper := by
  have howes := hp.owes
  exact ⟨by dsimp only; omega, le_refl _, le_refl _, .inl (hp.two_le_bits hrange)⟩

lemma ascii_le_last {p : Utf8Partial} {b : UInt8} (hp : p.Proper) (howed : p.owed = 1) :
    0x80 ≤ p.bits * 64 + (b &&& 0x3F).toNat := by
  rcases hp.wide with hwide | ⟨hmore, -⟩ <;> omega

end Utf8Partial.Proper

lemma toNat_ofNat (n : Nat) : (Char.ofNat n).toNat = n ∨ (Char.ofNat n).toNat = 0 := by
  by_cases hvalid : n.isValidChar
  · rw [Char.ofNat, dif_pos hvalid]
    exact .inl rfl
  · rw [Char.ofNat, dif_neg hvalid]
    exact .inr rfl

lemma toNat_ofNat_ascii {a : UInt8} (ha : a < 0x80) : (Char.ofNat a.toNat).toNat = a.toNat := by
  have hlt : a.toNat < 0x80 := ha
  have hvalid : a.toNat.isValidChar := .inl (by omega)
  rw [Char.ofNat, dif_pos hvalid]
  rfl

lemma ne_of_le_of_lt {n : Nat} {a : UInt8} (hn : 0x80 ≤ n) (ha : a < 0x80) (hpos : 0 < a) :
    Char.ofNat a.toNat ≠ Char.ofNat n := by
  have hlt : a.toNat < 0x80 := ha
  have hzero : 0 < a.toNat := hpos
  intro h
  have hnat := congrArg Char.toNat h
  rw [toNat_ofNat_ascii ha] at hnat
  rcases toNat_ofNat n with hsame | hnone <;> omega

lemma not_mem_utf8Start {a b : UInt8} (ha : a < 0x80) (hpos : 0 < a) (hne : b ≠ a) :
    Char.ofNat a.toNat ∉ (utf8Start b).1 := by
  have hreplacement : Char.ofNat a.toNat ≠ replacement := ne_of_le_of_lt (by decide) ha hpos
  unfold utf8Start
  split
  · rename_i hb
    intro hmem
    have hnat := congrArg Char.toNat (mem_singleton.1 hmem)
    rw [toNat_ofNat_ascii ha, toNat_ofNat_ascii hb] at hnat
    exact hne (UInt8.toNat_inj.1 hnat.symm)
  -- the start of a longer sequence has no character yet
  · repeat' split
    all_goals first | exact not_mem_nil | exact fun hmem => hreplacement (mem_singleton.1 hmem)

lemma not_mem_utf8LossyFrom {a : UInt8} {state : Option Utf8Partial} (ha : a < 0x80) (hpos : 0 < a)
    (hstate : ∀ p ∈ state, p.Proper) {bytes : List UInt8} (h : a ∉ bytes) :
    Char.ofNat a.toNat ∉ utf8LossyFrom state bytes := by
  have hreplacement : Char.ofNat a.toNat ≠ replacement := ne_of_le_of_lt (by decide) ha hpos
  induction bytes generalizing state with
  | nil =>
    cases state with
    | none => exact not_mem_nil
    | some p => exact fun hmem => hreplacement (mem_singleton.1 hmem)
  | cons b bytes ih =>
    obtain ⟨hb, hbytes⟩ := ne_and_not_mem_of_not_mem_cons h
    have hstart : Char.ofNat a.toNat ∉ (utf8Start b).1 ++ utf8LossyFrom (utf8Start b).2 bytes := by
      rw [mem_append, not_or]
      exact ⟨not_mem_utf8Start ha hpos hb.symm, ih (proper_utf8Start b) hbytes⟩
    cases state with
    | none => exact hstart
    | some p =>
      have hp := hstate p rfl
      rw [utf8LossyFrom]
      split
      · rename_i hrange
        split
        · rename_i howed
          rw [mem_cons, not_or]
          exact ⟨ne_of_le_of_lt (hp.ascii_le_last howed) ha hpos, ih (by simp) hbytes⟩
        · rename_i howed
          exact ih (fun p' hp' => Option.some.inj hp' ▸ hp.next hrange howed) hbytes
      · rw [mem_cons, not_or]
        exact ⟨hreplacement, hstart⟩

def Waits (state : Option Utf8Partial) : Prop := ∀ p ∈ state, 0x80 ≤ p.low.toNat

lemma waits_none : Waits none := by
  intro p hp
  cases hp

lemma waits_utf8Start (b : UInt8) : Waits (utf8Start b).2 :=
  fun p hp => (proper_utf8Start b p hp).low

lemma waits_some (owed bits : Nat) : Waits (some ⟨owed, 0x80, 0xBF, bits⟩) := by
  intro p hp
  cases hp
  exact le_refl _

lemma Waits.not_in_range {p : Utf8Partial} (h : Waits (some p)) {a : UInt8} (ha : a < 0x80) :
    ¬ (p.low ≤ a ∧ a ≤ p.high) := by
  have hlt : a.toNat < 0x80 := ha
  have hlow := h p rfl
  rintro ⟨hle, -⟩
  have hle : p.low.toNat ≤ a.toNat := hle
  omega

lemma utf8LossyFrom_append_ascii {a : UInt8} {state : Option Utf8Partial} (ha : a < 0x80)
    (more : List UInt8) (hstate : Waits state) (bytes : List UInt8) :
    utf8LossyFrom state (bytes ++ a :: more) =
      utf8LossyFrom state bytes ++ Char.ofNat a.toNat :: utf8LossyFrom none more := by
  induction bytes generalizing state with
  | nil =>
    cases state with
    | none =>
      simp only [nil_append, utf8LossyFrom, utf8Start_of_ascii ha]
      rfl
    | some p =>
      simp only [nil_append, utf8LossyFrom, if_neg (hstate.not_in_range ha), utf8Start_of_ascii ha]
      rfl
  | cons b bytes ih =>
    cases state with
    | none => rw [cons_append, utf8LossyFrom, utf8LossyFrom, ih (waits_utf8Start b), append_assoc]
    | some p =>
      rw [cons_append, utf8LossyFrom, utf8LossyFrom]
      split
      · split
        · rw [ih waits_none, cons_append]
        · exact ih (waits_some _ _)
      · rw [ih (waits_utf8Start b), cons_append, append_assoc]

lemma utf8ValidFrom_append_ascii {a : UInt8} {state : Option Utf8Partial} (ha : a < 0x80)
    (more : List UInt8) (hstate : Waits state) (bytes : List UInt8) :
    utf8ValidFrom state (bytes ++ a :: more) =
      (utf8ValidFrom state bytes && utf8ValidFrom none more) := by
  induction bytes generalizing state with
  | nil =>
    cases state with
    | none =>
      simp only [nil_append, utf8ValidFrom, utf8Start_of_ascii ha, decide_eq_true ha]
      rfl
    | some p =>
      have hrange := hstate.not_in_range ha
      rw [nil_append, utf8ValidFrom, utf8ValidFrom, ← Bool.decide_and, decide_eq_false hrange]
      rfl
  | cons b bytes ih =>
    cases state with
    | none => rw [cons_append, utf8ValidFrom, utf8ValidFrom, ih (waits_utf8Start b), Bool.and_assoc]
    | some p =>
      have hnext : Waits (if p.owed = 1 then none else some ⟨p.owed - 1, 0x80, 0xBF, 0⟩) := by
        split
        · exact waits_none
        · exact waits_some _ _
      rw [cons_append, utf8ValidFrom, utf8ValidFrom, ih hnext, ← Bool.and_assoc]

/-! ## Lines -/

def terminated (lines : List (List UInt8)) : List UInt8 := lines.flatMap (· ++ [13, 10])

lemma utf8LossyFrom_terminated (lines : List (List UInt8)) : utf8LossyFrom none (terminated lines) =
      (lines.map fun line => utf8LossyFrom none line ++ ['\r']).flatMap (· ++ ['\n']) := by
  induction lines with
  | nil => rfl
  | cons line lines ih =>
    have hbytes : terminated (line :: lines) = line ++ 13 :: ([] ++ 10 :: terminated lines) := by
      simp [terminated]
    rw [hbytes, utf8LossyFrom_append_ascii (by decide) _ waits_none,
      utf8LossyFrom_append_ascii (by decide) _ waits_none, ih]
    simp [utf8LossyFrom]

lemma utf8ValidFrom_terminated (lines : List (List UInt8)) :
    utf8ValidFrom none (terminated lines) = lines.all (utf8ValidFrom none) := by
  induction lines with
  | nil => rfl
  | cons line lines ih =>
    have hbytes : terminated (line :: lines) = line ++ 13 :: ([] ++ 10 :: terminated lines) := by
      simp [terminated]
    rw [hbytes, utf8ValidFrom_append_ascii (by decide) _ waits_none,
      utf8ValidFrom_append_ascii (by decide) _ waits_none, ih]
    rfl

lemma splitOn_terminated {lines : List (List UInt8)} (h : ∀ line ∈ lines, 10 ∉ line) :
    (utf8LossyFrom none (terminated lines)).splitOn '\n' =
      (lines.map fun line => utf8LossyFrom none line ++ ['\r']) ++ [[]] := by
  rw [utf8LossyFrom_terminated, Separated.splitOn_terminated]
  intro text htext
  obtain ⟨line, hline, rfl⟩ := mem_map.1 htext
  have hnone : '\n' ∉ utf8LossyFrom none line :=
    not_mem_utf8LossyFrom (a := 10) (by decide) (by decide) (by simp) (h line hline)
  rw [mem_append, not_or]
  exact ⟨hnone, by decide⟩

/-! ## Numbers of three digits -/

def threeDigits (n : Nat) : List Char :=
  [(n / 100).digitChar, (n / 10 % 10).digitChar, (n % 10).digitChar]

def threeDigitBytes (n : Nat) : List UInt8 :=
  [UInt8.ofNat (48 + n / 100), UInt8.ofNat (48 + n / 10 % 10), UInt8.ofNat (48 + n % 10)]

lemma digit_byte :
    ∀ d < 10, UInt8.ofNat (48 + d) < 0x80 ∧
      Char.ofNat (UInt8.ofNat (48 + d)).toNat = Nat.digitChar d := by
  decide

lemma digitChar_spec :
    ∀ d < 10, (Nat.digitChar d).isDigit = true ∧ Nat.digitChar d ≠ '+' ∧
      (Nat.digitChar d).toNat - '0'.toNat = d := by
  decide

variable {n : Nat}

lemma byteLen_threeDigits (h : n < 1000) : byteLen (threeDigits n) = 3 := by
  have hsize : ∀ d < 10, (Nat.digitChar d).utf8Size = 1 := by decide
  simp only [threeDigits, byteLen, hsize (n / 100) (by omega), hsize (n / 10 % 10) (by omega),
    hsize (n % 10) (by omega)]

lemma ascii_threeDigitBytes (h : n < 1000) : ∀ b ∈ threeDigitBytes n, b < 0x80 :=
  forall_mem_cons.2 ⟨(digit_byte _ (by omega)).1,
    forall_mem_cons.2 ⟨(digit_byte _ (by omega)).1,
      forall_mem_singleton.2 (digit_byte _ (by omega)).1⟩⟩

lemma map_threeDigitBytes (h : n < 1000) : ((threeDigitBytes n).map fun b => Char.ofNat b.toNat) =
    threeDigits n := by
  simp only [threeDigitBytes, threeDigits, map_cons, map_nil, (digit_byte (n / 100) (by omega)).2,
    (digit_byte (n / 10 % 10) (by omega)).2, (digit_byte (n % 10) (by omega)).2]

lemma utf8LossyFrom_threeDigitBytes (h : n < 1000) (more : List UInt8) :
    utf8LossyFrom none (threeDigitBytes n ++ more) = threeDigits n ++ utf8LossyFrom none more := by
  rw [utf8LossyFrom_of_ascii (ascii_threeDigitBytes h), map_threeDigitBytes h]

lemma utf8Strict_threeDigitBytes (h : n < 1000) :
    utf8Strict (threeDigitBytes n) = some (String.ofList (threeDigits n)) := by
  have hvalid : utf8ValidFrom none (threeDigitBytes n) = true := by
    rw [← append_nil (threeDigitBytes n), utf8ValidFrom_of_ascii (ascii_threeDigitBytes h)]
    rfl
  have htext := utf8LossyFrom_threeDigitBytes h []
  rw [append_nil] at htext
  rw [utf8Strict, if_pos hvalid, utf8Lossy, htext]
  rfl

lemma parseUnsigned_threeDigits (h : n < 1000) (bound : Nat) :
    parseUnsigned bound (String.ofList (threeDigits n)) = if n < bound then some n else none := by
  obtain ⟨ha, hplus, hva⟩ := digitChar_spec (n / 100) (by omega)
  obtain ⟨hb, -, hvb⟩ := digitChar_spec (n / 10 % 10) (by omega)
  obtain ⟨hc, -, hvc⟩ := digitChar_spec (n % 10) (by omega)
  have hvalue : Nat.ofDigitChars 10 (threeDigits n) 0 = n := by
    simp only [threeDigits, Nat.ofDigitChars, foldl_cons, foldl_nil, hva, hvb, hvc]
    omega
  have hparse : parseDigits (threeDigits n) = some n := by
    rw [parseDigits, if_pos (by simp [threeDigits, ha, hb, hc]), hvalue]
  rw [parseUnsigned, String.toList_ofList]
  split
  · rename_i heq
    exact absurd (List.cons.inj heq).1 hplus
  · rw [hparse, Option.filter_some]
    simp

/-! ## Whole characters -/

lemma utf8_eq (s : String) : utf8 s = s.toList.flatMap String.utf8EncodeChar := by
  have h : s.toByteArray.data.toList = s.toList.utf8Encode.data.toList := by
    rw [String.utf8Encode_toList]
  rw [utf8, String.toUTF8_eq_toByteArray, h]
  exact congrArg _ (data_toByteArray)

lemma utf8Start_two {k : Nat} (hlow : 2 ≤ k) (hhigh : k < 32) :
    utf8Start (UInt8.ofNat (k + 192)) = ([], some ⟨1, 0x80, 0xBF, k⟩) := by
  interval_cases k <;> rfl

lemma utf8Start_three {k : Nat} (h : k < 16) : utf8Start (UInt8.ofNat (k + 224)) =
      ([], some ⟨2, if k = 0 then 0xA0 else 0x80, if k = 13 then 0x9F else 0xBF, k⟩) := by
  interval_cases k <;> rfl

lemma utf8Start_four {k : Nat} (h : k < 5) : utf8Start (UInt8.ofNat (k + 240)) =
      ([], some ⟨3, if k = 0 then 0x90 else 0x80, if k = 4 then 0x8F else 0xBF, k⟩) := by
  interval_cases k <;> rfl

section

variable {low high : UInt8} {m : Nat} (hm : m < 64) (hlow : low.toNat ≤ m + 128)
    (hhigh : m + 128 ≤ high.toNat)

include hm hlow hhigh

lemma continuation_byte :
    (low ≤ UInt8.ofNat (m + 128) ∧ UInt8.ofNat (m + 128) ≤ high) ∧
      (UInt8.ofNat (m + 128) &&& 0x3F).toNat = m := by
  have hbyte : (UInt8.ofNat (m + 128)).toNat = m + 128 :=
    UInt8.toNat_ofNat_of_lt' (show m + 128 < 256 by omega)
  rw [UInt8.le_iff_toNat_le, UInt8.le_iff_toNat_le, Bytes.toNat_and_low _ 6 _ rfl, hbyte]
  exact ⟨⟨hlow, hhigh⟩, by omega⟩

lemma utf8LossyFrom_next (bits : Nat) (more : List UInt8) (owed : Nat) :
    utf8LossyFrom (some ⟨owed + 2, low, high, bits⟩) (UInt8.ofNat (m + 128) :: more) =
      utf8LossyFrom (some ⟨owed + 1, 0x80, 0xBF, bits * 64 + m⟩) more := by
  obtain ⟨hrange, hbits⟩ := continuation_byte hm hlow hhigh
  rw [utf8LossyFrom, if_pos hrange, hbits]
  exact if_neg (by simp)

lemma utf8LossyFrom_last (bits : Nat) (more : List UInt8) :
    utf8LossyFrom (some ⟨1, low, high, bits⟩) (UInt8.ofNat (m + 128) :: more) =
      Char.ofNat (bits * 64 + m) :: utf8LossyFrom none more := by
  obtain ⟨hrange, hbits⟩ := continuation_byte hm hlow hhigh
  rw [utf8LossyFrom, if_pos hrange, hbits]
  exact if_pos rfl

end

section

lemma utf8LossyFrom_two {v : Nat} (more : List UInt8) (hlow : 128 ≤ v) (hhigh : v ≤ 2047) :
    utf8LossyFrom none (UInt8.ofNat (v / 64 % 32 + 192) :: UInt8.ofNat (v % 64 + 128) :: more) =
      Char.ofNat v :: utf8LossyFrom none more := by
  have hvalue : v / 64 % 32 * 64 + v % 64 = v := by omega
  rw [utf8LossyFrom, utf8Start_two (by omega) (by omega), nil_append,
    utf8LossyFrom_last (by omega) (show 0x80 ≤ _ by omega) (show _ ≤ 0xBF by omega), hvalue]

lemma utf8LossyFrom_three {v : Nat} (more : List UInt8) (hlow : 2048 ≤ v) (hhigh : v ≤ 65535)
    (hvalid : v < 0xD800 ∨ 0xDFFF < v) :
    utf8LossyFrom none (UInt8.ofNat (v / 4096 % 16 + 224) :: UInt8.ofNat (v / 64 % 64 + 128) ::
        UInt8.ofNat (v % 64 + 128) :: more) = Char.ofNat v :: utf8LossyFrom none more := by
  -- the second byte tells that three were needed, and that the character is no surrogate
  have hleast : (if v / 4096 % 16 = 0 then (0xA0 : UInt8) else 0x80).toNat ≤ v / 64 % 64 + 128 := by
    split
    · show 0xA0 ≤ _
      omega
    · show 0x80 ≤ _
      omega
  have hmost : v / 64 % 64 + 128 ≤ (if v / 4096 % 16 = 13 then (0x9F : UInt8) else 0xBF).toNat := by
    split
    · show _ ≤ 0x9F
      omega
    · show _ ≤ 0xBF
      omega
  have hvalue : (v / 4096 % 16 * 64 + v / 64 % 64) * 64 + v % 64 = v := by omega
  rw [utf8LossyFrom, utf8Start_three (by omega), nil_append,
    utf8LossyFrom_next (by omega) hleast hmost _ _ 0,
    utf8LossyFrom_last (by omega) (show 0x80 ≤ _ by omega) (show _ ≤ 0xBF by omega), hvalue]

lemma utf8LossyFrom_four {v : Nat} (more : List UInt8) (hlow : 65536 ≤ v) (hhigh : v < 0x110000) :
    utf8LossyFrom none (UInt8.ofNat (v / 262144 % 8 + 240) :: UInt8.ofNat (v / 4096 % 64 + 128) ::
        UInt8.ofNat (v / 64 % 64 + 128) :: UInt8.ofNat (v % 64 + 128) :: more) =
      Char.ofNat v :: utf8LossyFrom none more := by
  have hleast : (if v / 262144 % 8 = 0 then (0x90 : UInt8) else 0x80).toNat ≤
      v / 4096 % 64 + 128 := by
    split
    · show 0x90 ≤ _
      omega
    · show 0x80 ≤ _
      omega
  have hmost : v / 4096 % 64 + 128 ≤ (if v / 262144 % 8 = 4 then (0x8F : UInt8)
      else 0xBF).toNat := by
    split
    · show _ ≤ 0x8F
      omega
    · show _ ≤ 0xBF
      omega
  have hvalue : ((v / 262144 % 8 * 64 + v / 4096 % 64) * 64 + v / 64 % 64) * 64 + v % 64 = v := by
    omega
  rw [utf8LossyFrom, utf8Start_four (by omega), nil_append,
    utf8LossyFrom_next (by omega) hleast hmost _ _ 1,
    utf8LossyFrom_next (by omega) (show 0x80 ≤ _ by omega) (show _ ≤ 0xBF by omega) _ _ 0,
    utf8LossyFrom_last (by omega) (show 0x80 ≤ _ by omega) (show _ ≤ 0xBF by omega), hvalue]

end

lemma utf8LossyFrom_encodeChar (c : Char) (more : List UInt8) :
    utf8LossyFrom none (String.utf8EncodeChar c ++ more) = c :: utf8LossyFrom none more := by
  have hchar : Char.ofNat c.val.toNat = c := Char.ofNat_toNat c
  have hvalid := c.valid
  rw [String.utf8EncodeChar]
  split
  · next hone =>
      have hbyte : (UInt8.ofNat c.val.toNat).toNat = c.val.toNat :=
        UInt8.toNat_ofNat_of_lt' (show c.val.toNat < 256 by omega)
      have hascii : UInt8.ofNat c.val.toNat < 0x80 := by
        rw [UInt8.lt_iff_toNat_lt, hbyte]
        exact lt_succ_of_le hone
      rw [singleton_append, utf8LossyFrom, utf8Start_of_ascii hascii, hbyte, hchar]
      rfl
  split
  · exact (utf8LossyFrom_two more (by omega) (by omega)).trans (by rw [hchar])
  split
  · exact (utf8LossyFrom_three more (by omega) (by omega) (by omega)).trans (by rw [hchar])
  · exact (utf8LossyFrom_four more (by omega) (by omega)).trans (by rw [hchar])

lemma utf8Lossy_utf8 (s : String) : utf8Lossy (utf8 s) = s := by
  have hlist : ∀ cs : List Char, utf8LossyFrom none (cs.flatMap String.utf8EncodeChar) = cs := by
    intro cs
    induction cs with
    | nil => rfl
    | cons c cs ih => rw [flatMap_cons, utf8LossyFrom_encodeChar, ih]
  rw [utf8Lossy, utf8_eq, hlist, String.ofList_toList]

end MarlinspikeDpi.Text
