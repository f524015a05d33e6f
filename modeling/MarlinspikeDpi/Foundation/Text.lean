import Mathlib.Data.String.Basic
import MarlinspikeDpi.Foundation.Separated

/-!
# Rendering numbers and bytes as text

The format strings of the modelled code use decimal numbers (`toString`), zero-padded lower-case
hexadecimal (`hexPad`) and the `Debug` forms of options and byte vectors.
-/

namespace MarlinspikeDpi.Text

open List Nat

def hexDigit (n : Nat) : Char :=
  if n < 10 then Char.ofNat (48 + n) else Char.ofNat (87 + n)

/-- The last `w` hexadecimal digits of `n`, most significant first. -/
def hexDigits : Nat → Nat → List Char
  | 0, _ => []
  | w + 1, n => hexDigits w (n / 16) ++ [hexDigit (n % 16)]

/-- `n` in exactly `w` lower-case hexadecimal digits. -/
def hexPad (w n : Nat) : String := String.ofList (hexDigits w n)

def hexEncode (bytes : List UInt8) : String :=
  String.ofList (bytes.flatMap fun b => hexDigits 2 b.toNat)

def debugOption : Option Nat → String
  | none => "None"
  | some n => "Some(" ++ toString n ++ ")"

def debugBytes (bytes : List UInt8) : String :=
  "[" ++ ", ".intercalate (bytes.map fun b => toString b.toNat) ++ "]"

def utf8 (s : String) : List UInt8 := s.toUTF8.data.toList

lemma utf8_inj {s t : String} : utf8 s = utf8 t ↔ s = t := by
  refine ⟨fun h => ?_, congrArg utf8⟩
  exact String.toByteArray_inj.1 (ByteArray.ext (Array.toList_inj.1 h))

lemma exists_of_mem_hexDigits {w n : Nat} {c : Char} (h : c ∈ hexDigits w n) :
    ∃ d < 16, c = hexDigit d := by
  induction w generalizing n with
  | zero => exact absurd h not_mem_nil
  | succ w ih =>
    rcases mem_append.1 h with h | h
    · exact ih h
    · exact ⟨n % 16, mod_lt n (by decide), mem_singleton.1 h⟩

lemma not_mem_hexDigits {c : Char} (hc : ∀ d < 16, c ≠ hexDigit d)
    (w n : Nat) : c ∉ hexDigits w n := by
  intro h
  obtain ⟨d, hd, hdigit⟩ := exists_of_mem_hexDigits h
  exact hc d hd hdigit

lemma newline_not_mem_hexDigits (w n : Nat) : '\n' ∉ hexDigits w n :=
  not_mem_hexDigits (by decide) w n

lemma hexDigits_append_inj {w m n : Nat} {xs ys : List Char} (hm : m < 16 ^ w) (hn : n < 16 ^ w) :
    hexDigits w m ++ xs = hexDigits w n ++ ys ↔ m = n ∧ xs = ys := by
  induction w generalizing m n xs ys with
  | zero => simp [hexDigits, Nat.lt_one_iff.1 hm, Nat.lt_one_iff.1 hn]
  | succ w ih =>
    have hdigit : ∀ i < 16, ∀ j < 16, hexDigit i = hexDigit j → i = j := by decide
    rw [Nat.pow_succ] at hm hn
    rw [hexDigits, hexDigits, append_assoc, append_assoc,
      ih (Nat.div_lt_of_lt_mul (by omega)) (Nat.div_lt_of_lt_mul (by omega)), singleton_append,
        singleton_append,
      cons.injEq]
    constructor
    · rintro ⟨hhigh, hlow, rfl⟩
      have hmod := hdigit _ (Nat.mod_lt _ (by decide)) _ (Nat.mod_lt _ (by decide)) hlow
      exact ⟨by omega, rfl⟩
    · rintro ⟨rfl, rfl⟩
      exact ⟨rfl, rfl, rfl⟩

/-! ## Decimal numbers -/

lemma isDigit_of_mem_repr {n : Nat} {c : Char} (h : c ∈ n.repr.toList) : c.isDigit = true := by
  rw [toList_repr] at h
  exact isDigit_of_mem_toDigits (by decide) (by decide) h

lemma repr_ne_nil (n : Nat) : n.repr.toList ≠ [] := by
  rw [toList_repr]
  exact toDigits_ne_nil

lemma toList_repr_negSucc (n : Nat) : (Int.negSucc n).repr.toList = '-' :: (n + 1).repr.toList := by
  rw [Int.repr, String.toList_append]
  rfl

lemma mem_repr_int {n : Int} {c : Char} (h : c ∈ n.repr.toList) : c = '-' ∨ c.isDigit = true := by
  cases n with
  | ofNat n => exact .inr (isDigit_of_mem_repr h)
  | negSucc n =>
    rw [toList_repr_negSucc, mem_cons] at h
    exact h.imp_right isDigit_of_mem_repr

def parseDigits (digits : List Char) : Option Nat :=
  if digits ≠ [] ∧ digits.all Char.isDigit = true then some (Nat.ofDigitChars 10 digits 0) else none

lemma parseDigits_repr (n : Nat) : parseDigits n.repr.toList = some n := by
  have hdigits : n.repr.toList.all Char.isDigit = true :=
    all_eq_true.2 fun _ h => isDigit_of_mem_repr h
  rw [parseDigits, if_pos ⟨repr_ne_nil n, hdigits⟩, toList_repr, ofDigitChars_ten_toDigits]

lemma toList_repr_injective {m n : Nat} (h : m.repr.toList = n.repr.toList) : m = n := by
  have hparse := parseDigits_repr m
  rw [h, parseDigits_repr] at hparse
  exact (Option.some.inj hparse).symm

lemma colon_not_mem_toString (n : Nat) : ':' ∉ (toString n).toList :=
  fun h => absurd (isDigit_of_mem_repr h) (by decide)

lemma append_colon_inj {s s' t t' : String} (ht : ':' ∉ t.toList) (ht' : ':' ∉ t'.toList) :
    s ++ ":" ++ t = s' ++ ":" ++ t' ↔ s = s' ∧ t = t' := by
  constructor
  · intro h
    have hlist := congrArg String.toList h
    simp only [String.toList_append, append_assoc] at hlist
    exact (Separated.append_cons_inj_of_not_mem ht ht' hlist).imp String.toList_inj.1
      String.toList_inj.1
  · rintro ⟨rfl, rfl⟩
    rfl

/-- `parse` for an unsigned type of the given size: one plus sign may stand in front. -/
def parseUnsigned (bound : Nat) (s : String) : Option Nat :=
  let digits := match s.toList with
    | '+' :: digits => digits
    | digits => digits
  (parseDigits digits).filter (· < bound)

/-- `parse::<i8>`. -/
def parseI8 (s : String) : Option Int :=
  match s.toList with
  | '-' :: digits => ((parseDigits digits).filter (· ≤ 128)).map fun n => -(n : Int)
  | '+' :: digits => ((parseDigits digits).filter (· ≤ 127)).map fun n => (n : Int)
  | digits => ((parseDigits digits).filter (· ≤ 127)).map fun n => (n : Int)

/-! ## Lossy UTF-8 -/

/-- A character of which the first bytes were read: how many are owed, the range of the next one,
and the bits so far. -/
structure Utf8Partial where
  owed : Nat
  (low high : UInt8)
  bits : Nat

def replacement : Char := Char.ofNat 0xFFFD

/-- The first byte of a character: a whole character, the start of one, or a byte that starts
none. -/
def utf8Start (b : UInt8) : List Char × Option Utf8Partial :=
  if b < 0x80 then ([Char.ofNat b.toNat], none)
  else if 0xC2 ≤ b ∧ b ≤ 0xDF then ([], some ⟨1, 0x80, 0xBF, (b &&& 0x1F).toNat⟩)
  else if b = 0xE0 then ([], some ⟨2, 0xA0, 0xBF, 0⟩)
  else if b = 0xED then ([], some ⟨2, 0x80, 0x9F, 0xD⟩)
  else if 0xE1 ≤ b ∧ b ≤ 0xEF then ([], some ⟨2, 0x80, 0xBF, (b &&& 0x0F).toNat⟩)
  else if b = 0xF0 then ([], some ⟨3, 0x90, 0xBF, 0⟩)
  else if 0xF1 ≤ b ∧ b ≤ 0xF3 then ([], some ⟨3, 0x80, 0xBF, (b &&& 0x07).toNat⟩)
  else if b = 0xF4 then ([], some ⟨3, 0x80, 0x8F, 4⟩)
  else ([replacement], none)

/-- Decode from within a character, if there is one.  A sequence that breaks off is replaced as a
whole, and decoding restarts at the byte that broke it. -/
def utf8LossyFrom : Option Utf8Partial → List UInt8 → List Char
  | none, [] => []
  | some _, [] => [replacement]
  | none, b :: bytes => (utf8Start b).1 ++ utf8LossyFrom (utf8Start b).2 bytes
  | some p, b :: bytes =>
    if p.low ≤ b ∧ b ≤ p.high then
      let bits := p.bits * 64 + (b &&& 0x3F).toNat
      if p.owed = 1 then Char.ofNat bits :: utf8LossyFrom none bytes
      else utf8LossyFrom (some ⟨p.owed - 1, 0x80, 0xBF, bits⟩) bytes
    else
      replacement :: ((utf8Start b).1 ++ utf8LossyFrom (utf8Start b).2 bytes)

/-- `String::from_utf8_lossy`. -/
def utf8Lossy (bytes : List UInt8) : String := String.ofList (utf8LossyFrom none bytes)

/-! ## Strict UTF-8 -/

def utf8ValidFrom : Option Utf8Partial → List UInt8 → Bool
  | none, [] => true
  | some _, [] => false
  | none, b :: bytes =>
    -- a byte that starts no character has neither a character nor a remainder to its name
    (b < 0x80 || (utf8Start b).2.isSome) && utf8ValidFrom (utf8Start b).2 bytes
  | some p, b :: bytes =>
    p.low ≤ b && b ≤ p.high &&
      utf8ValidFrom (if p.owed = 1 then none else some ⟨p.owed - 1, 0x80, 0xBF, 0⟩) bytes

/-- `std::str::from_utf8`. -/
def utf8Strict (bytes : List UInt8) : Option String :=
  if utf8ValidFrom none bytes then some (utf8Lossy bytes) else none

lemma utf8Start_of_ascii {b : UInt8} (h : b < 0x80) : utf8Start b = ([Char.ofNat b.toNat], none) :=
  if_pos h

lemma utf8LossyFrom_of_ascii {bytes : List UInt8} (h : ∀ b ∈ bytes, b < 0x80) (more : List UInt8) :
    utf8LossyFrom none (bytes ++ more) = (bytes.map fun b => Char.ofNat b.toNat) ++
      utf8LossyFrom none more := by
  induction bytes with
  | nil => rfl
  | cons b bytes ih =>
    rw [forall_mem_cons] at h
    rw [cons_append, utf8LossyFrom, utf8Start_of_ascii h.1, ih h.2]
    rfl

lemma utf8ValidFrom_of_ascii {bytes : List UInt8} (h : ∀ b ∈ bytes, b < 0x80) (more : List UInt8) :
    utf8ValidFrom none (bytes ++ more) = utf8ValidFrom none more := by
  induction bytes with
  | nil => rfl
  | cons b bytes ih =>
    rw [forall_mem_cons] at h
    rw [cons_append, utf8ValidFrom, utf8Start_of_ascii h.1, ih h.2, decide_eq_true h.1]
    rfl

/-! ## Lossy UTF-16 -/

def utf16LossyFrom : List UInt16 → List Char
  | [] => []
  | [u] => if 0xD800 ≤ u ∧ u < 0xE000 then [replacement] else [Char.ofNat u.toNat]
  | u :: v :: units =>
    if (0xD800 ≤ u ∧ u < 0xDC00) ∧ 0xDC00 ≤ v ∧ v < 0xE000 then
      Char.ofNat (0x10000 + (u.toNat - 0xD800) * 0x400 + (v.toNat - 0xDC00)) :: utf16LossyFrom units
    else
      -- a surrogate that is not the first of a pair is replaced
      (if 0xD800 ≤ u ∧ u < 0xE000 then replacement else Char.ofNat u.toNat) :: utf16LossyFrom
        (v :: units)

/-- `String::from_utf16_lossy`. -/
def utf16Lossy (units : List UInt16) : String := String.ofList (utf16LossyFrom units)

/-! ## Trimming and comparing -/

/-- The characters with the Unicode property `White_Space`. -/
def isWhiteSpace (c : Char) : Bool :=
  let n := c.toNat
  (0x09 ≤ n && n ≤ 0x0D) || n == 0x20 || n == 0x85 || n == 0xA0 || n == 0x1680 ||
    (0x2000 ≤ n && n ≤ 0x200A) || n == 0x2028 || n == 0x2029 || n == 0x202F || n == 0x205F ||
    n == 0x3000

def trimEndMatches (p : Char → Bool) (s : String) : String :=
  String.ofList (s.toList.reverse.dropWhile p).reverse

/-- `trim_matches`: at both ends. -/
def trimMatches (p : Char → Bool) (s : String) : String :=
  trimEndMatches p (String.ofList (s.toList.dropWhile p))

lemma trimMatches_of_none {p : Char → Bool} {cs : List Char} (h : ∀ c ∈ cs, p c = false) :
    trimMatches p (String.ofList cs) = String.ofList cs := by
  have hdrop : ∀ {ds : List Char}, (∀ c ∈ ds, p c = false) → ds.dropWhile p = ds := by
    intro ds hds
    cases ds with
    | nil => rfl
    | cons d ds => exact dropWhile_cons_of_neg (by simp [hds d mem_cons_self])
  rw [trimMatches, trimEndMatches, String.toList_ofList, String.toList_ofList, hdrop h,
    hdrop fun c hc => h c (mem_reverse.1 hc), reverse_reverse]

def toAsciiLowercase (s : String) : String := String.ofList (s.toList.map Char.toLower)

def toAsciiUppercase (s : String) : String := String.ofList (s.toList.map Char.toUpper)

def contains (needle s : String) : Bool :=
  s.toList.tails.any fun tail => needle.toList.isPrefixOf tail

def startsWith (start s : String) : Bool := start.toList.isPrefixOf s.toList

def endsWith (suffix s : String) : Bool := suffix.toList.isSuffixOf s.toList

def eqIgnoreAsciiCase (s t : String) : Bool :=
  s.toList.map Char.toLower == t.toList.map Char.toLower

end MarlinspikeDpi.Text
