import MarlinspikeDpi.Foundation.Bytes
import MarlinspikeDpi.Foundation.Text

/-!
# Addresses, timestamps and the packet context

The small value types that every layer of the engine shares: MAC and IP addresses with their text
forms, capture timestamps, and the per-packet context handed to dissectors.
-/

namespace MarlinspikeDpi

open Bytes Text List

/-! ## Timestamps -/

/-- A `DateTime<Utc>`: nanoseconds since the Unix epoch. -/
structure DateTime where
  nanos : Int
deriving DecidableEq, Repr

namespace DateTime

/-- `as u64` on a signed 64-bit number: wrap around. -/
def asU64 (n : Int) : Nat := (n % 2 ^ 64).toNat

/-- `timestamp_nanos_opt`: `none` when the count does not fit a signed 64-bit number. -/
def timestampNanosOpt (t : DateTime) : Option Int :=
  if -2 ^ 63 ≤ t.nanos ∧ t.nanos < 2 ^ 63 then some t.nanos else none

def timestampMicros (t : DateTime) : Int := t.nanos / 1000

/-- `(a - b).num_seconds()`: whole seconds, rounded towards zero. -/
def numSecondsSince (a b : DateTime) : Int := (a.nanos - b.nanos).tdiv 1000000000

lemma numSecondsSince_nonneg_iff {a b : DateTime} : 0 ≤ numSecondsSince a b ↔
    b.nanos < a.nanos + 1000000000 := by
  rw [numSecondsSince]
  generalize hd : a.nanos - b.nanos = d
  by_cases h : 0 ≤ d
  · rw [Int.tdiv_eq_ediv_of_nonneg h]
    omega
  · have hneg : d.tdiv 1000000000 = -(-d / 1000000000) := by
      rw [← Int.tdiv_eq_ediv_of_nonneg (by omega : 0 ≤ -d), Int.neg_tdiv, Int.neg_neg]
    rw [hneg]
    omega

end DateTime

/-! ## Addresses -/

structure MacAddr where
  (b0 b1 b2 b3 b4 b5 : UInt8)
deriving DecidableEq, Repr

namespace MacAddr

def zero : MacAddr := ⟨0, 0, 0, 0, 0, 0⟩

/-- The six bytes of a frame that start at offset `i`. -/
def ofBytes (bs : List UInt8) (i : Nat) : MacAddr :=
  ⟨byteAt bs i, byteAt bs (i + 1), byteAt bs (i + 2), byteAt bs (i + 3), byteAt bs (i + 4),
    byteAt bs (i + 5)⟩

end MacAddr

def formatMac (mac : MacAddr) : String :=
  ":".intercalate ([mac.b0, mac.b1, mac.b2, mac.b3, mac.b4, mac.b5].map fun b => hexPad 2 b.toNat)

structure Ipv4Addr where
  (a b c d : UInt8)
deriving DecidableEq, Repr

namespace Ipv4Addr

def unspecified : Ipv4Addr := ⟨0, 0, 0, 0⟩

/-- The four bytes of a header that start at offset `i`. -/
def ofBytes (bs : List UInt8) (i : Nat) : Ipv4Addr :=
  ⟨byteAt bs i, byteAt bs (i + 1), byteAt bs (i + 2), byteAt bs (i + 3)⟩

def display (ip : Ipv4Addr) : String :=
  ".".intercalate ([ip.a, ip.b, ip.c, ip.d].map fun b => toString b.toNat)

lemma splitOn_display (ip : Ipv4Addr) :
    ip.display.toList.splitOn '.' = [ip.a, ip.b, ip.c, ip.d].map fun b => b.toNat.repr.toList := by
  have hdot : ∀ part ∈ ([ip.a, ip.b, ip.c, ip.d].map fun b => b.toNat.repr.toList), '.' ∉ part := by
    intro part hpart hmem
    obtain ⟨b, -, rfl⟩ := mem_map.1 hpart
    exact absurd (isDigit_of_mem_repr hmem) (by decide)
  have hjoined : ip.display.toList = ['.'].intercalate
      ([ip.a, ip.b, ip.c, ip.d].map fun b => b.toNat.repr.toList) := by
    rw [display, String.toList_intercalate, map_map]
    rfl
  rw [hjoined]
  exact splitOn_intercalate '.' hdot (by simp)

lemma display_injective {ip ip' : Ipv4Addr} (h : ip.display = ip'.display) : ip = ip' := by
  have hparts := ip.splitOn_display
  rw [h, ip'.splitOn_display] at hparts
  have hbyte : ∀ b b' : UInt8, b'.toNat.repr.toList = b.toNat.repr.toList → b = b' :=
    fun b b' hrepr => UInt8.toNat_inj.1 (toList_repr_injective hrepr.symm)
  simp only [map_cons, map_nil, List.cons.injEq, and_true] at hparts
  obtain ⟨ha, hb, hc, hd⟩ := hparts
  obtain ⟨a, b, c, d⟩ := ip
  rw [hbyte a _ ha, hbyte b _ hb, hbyte c _ hc, hbyte d _ hd]

end Ipv4Addr

/-- An IPv6 address as its eight 16-bit segments. -/
structure Ipv6Addr where
  segments : List UInt16
  length_eq : segments.length = 8
deriving DecidableEq

namespace Ipv6Addr

def longestZeroRun (segments : List UInt16) : Nat × Nat :=
  let step := fun (acc : Nat × (Nat × Nat) × (Nat × Nat)) (segment : UInt16) =>
    let (i, current, longest) := acc
    if segment = 0 then
      let current := if current.2 = 0 then (i, 1) else (current.1, current.2 + 1)
      (i + 1, current, if longest.2 < current.2 then current else longest)
    else
      (i + 1, (0, 0), longest)
  (segments.foldl step (0, (0, 0), (0, 0))).2.2

def joinSegments (segments : List UInt16) : String :=
  ":".intercalate (segments.map fun s => String.ofList (Nat.toDigits 16 s.toNat))

/-- The standard text form: `::` for the longest run of zeros, and IPv4-mapped addresses with the
IPv4 part in dotted decimal. -/
def display (ip : Ipv6Addr) : String :=
  match ip.segments with
  | [0, 0, 0, 0, 0, 0xffff, hi, lo] =>
    "::ffff:" ++ Ipv4Addr.display
      ⟨UInt8.ofNat (hi.toNat / 256), UInt8.ofNat hi.toNat, UInt8.ofNat (lo.toNat / 256),
        UInt8.ofNat lo.toNat⟩
  | segments =>
    let (start, len) := longestZeroRun segments
    if 1 < len then
      joinSegments (segments.take start) ++ "::" ++ joinSegments (segments.drop (start + len))
    else
      joinSegments segments

end Ipv6Addr

inductive IpAddr where
  | v4 (addr : Ipv4Addr)
  | v6 (addr : Ipv6Addr)
deriving DecidableEq

namespace IpAddr

def display : IpAddr → String
  | v4 addr => addr.display
  | v6 addr => addr.display

end IpAddr

/-- The unspecified IPv4 address stands for "no address". -/
def ipToString : IpAddr → Option String
  | .v4 addr => if addr = Ipv4Addr.unspecified then none else some addr.display
  | .v6 addr => some addr.display

def nonZeroU16 (value : UInt16) : Option UInt16 :=
  if value = 0 then none else some value

def be16 (hi lo : UInt8) : UInt16 := UInt16.ofNat (hi.toNat * 256 + lo.toNat)

/-- What a dissector is told about the packet around its payload. -/
structure PacketContext where
  (srcMac dstMac : MacAddr)
  (srcIp dstIp : IpAddr)
  (srcPort dstPort : UInt16)
  vlanId : Option UInt16
  timestamp : Nat
deriving DecidableEq

end MarlinspikeDpi
