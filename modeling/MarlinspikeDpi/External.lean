import MarlinspikeDpi.Net

/-!
# Code outside the repository

The engine calls a few functions of other crates whose exact output is not reproduced here: SHA-256,
the `Debug` rendering of text, and the conversion of a Unix time to a `DateTime`.
-/

namespace MarlinspikeDpi

/-- The third-party functions used by the engine. -/
class External where
  /-- `Sha256::digest`. -/
  sha256 : List UInt8 → List UInt8
  /-- `{:?}` on a text: quoted, with escapes. -/
  debugText : String → String
  /-- `Utc.timestamp_opt(secs, nanos).single()`. -/
  timestampOpt : Int → Nat → Option DateTime

namespace External

/-- The last whole second of the calendar range of `DateTime<Utc>`. -/
def maxSeconds : Int := 8210266876799

/-- Documented behaviour of `timestamp_opt` from the epoch on: every whole second of the calendar
range, with a proper nanosecond part, is converted exactly. -/
def ConvertsUnixTime [External] : Prop :=
  ∀ (secs : Int) (nanos : Nat), 0 ≤ secs → secs ≤ maxSeconds → nanos < 1000000000 →
    timestampOpt secs nanos = some ⟨secs * 1000000000 + nanos⟩

/-- An executable stand-in, for evaluating the model on concrete inputs.  Its `sha256` is not a hash
but the identity, so that equal digests come from equal inputs. -/
@[reducible] def sample : External where
  sha256 := id
  debugText s := "\"" ++ s ++ "\""
  timestampOpt secs nanos :=
    if -8334601228800 ≤ secs ∧ secs ≤ maxSeconds ∧ nanos < 1000000000 then
      some ⟨secs * 1000000000 + nanos⟩
    else
      none

lemma sample_convertsUnixTime : @ConvertsUnixTime sample := by
  intro secs nanos hlow hhigh hnanos
  have hrange : -8334601228800 ≤ secs ∧ secs ≤ maxSeconds ∧ nanos < 1000000000 :=
    ⟨by omega, hhigh, hnanos⟩
  simp only [timestampOpt]
  exact if_pos hrange

end External
end MarlinspikeDpi
