import MarlinspikeDpi.Foundation.SlidingWindow
import MarlinspikeDpi.External

/-!
# Suppression of records seen by several collectors

A record is identified by the SHA-256 of its time bucket, endpoints, ports and protocol key, written
one after the other without separators.
-/

namespace MarlinspikeDpi

open Bytes Text

/-- The filter over digests, and the length of a time bucket; all times in nanoseconds. -/
structure DedupEngine extends SlidingWindow (List UInt8) where
  bucketNs : Nat

namespace DedupEngine

def new (windowNs bucketNs : Nat) : DedupEngine :=
  { seen := ∅
    window := windowNs
    bucketNs }

def preimage (bucketNs timestampNs : Nat) (srcIp dstIp : String) (srcPort dstPort : UInt16)
    (protocol : String) : List UInt8 :=
  let bucket := if 0 < bucketNs then timestampNs / bucketNs else timestampNs
  toBe 8 bucket ++ utf8 srcIp ++ utf8 dstIp ++ toBe 2 srcPort.toNat ++ toBe 2 dstPort.toNat ++
    utf8 protocol

section

variable [External]

def computeHash (d : DedupEngine) (timestampNs : Nat) (srcIp dstIp : String)
    (srcPort dstPort : UInt16) (protocol : String) : List UInt8 :=
      External.sha256 (preimage d.bucketNs timestampNs srcIp dstIp srcPort dstPort protocol)

/-- `true` if the record is to be dropped. -/
def isDuplicate (d : DedupEngine) (timestampNs : Nat) (srcIp dstIp : String)
    (srcPort dstPort : UInt16) (protocol : String) : Bool × DedupEngine :=
  let (duplicate, filter) :=
    d.observe timestampNs (d.computeHash timestampNs srcIp dstIp srcPort dstPort protocol)
  (duplicate, { d with toSlidingWindow := filter })

end

end DedupEngine
end MarlinspikeDpi
