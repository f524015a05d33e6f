import Mathlib.Data.Sym.Sym2
import MarlinspikeDpi.Engine.Decoder

/-!
# Which conversations share a session key

The peers are sorted as texts, so that the key is the same for both directions.

* `sessionKeys_eq_iff`: which keys are equal.
-/

namespace MarlinspikeDpi.Engine

open List Text

/-! ## Sorted pairs -/

lemma ite_le_comm {α β : Type} [LinearOrder α] (f : α → α → β) (x y : α) :
    (if x ≤ y then f x y else f y x) = if y ≤ x then f y x else f x y := by
  rcases lt_trichotomy x y with h | rfl | h
  · rw [if_pos h.le, if_neg h.not_ge]
  · rfl
  · rw [if_neg h.not_ge, if_pos h.le]

lemma makeIpSessionKey_comm (a b : IpAddr) (p q : UInt16) (transport : String) :
    makeIpSessionKey a b p q transport = makeIpSessionKey b a q p transport :=
  ite_le_comm (fun l r => transport ++ ":" ++ l ++ ":" ++ r) _ _

lemma ite_le_inj {α : Type} (text : α → String) (key : String → String → String → String)
    (hkey : ∀ {t t' a a' b b'}, key t (text a) (text b) = key t' (text a') (text b') →
      t = t' ∧ a = a' ∧ b = b')
    (t t' : String) (x y x' y' : α) :
    (if text x ≤ text y then key t (text x) (text y) else key t (text y) (text x)) =
        (if text x' ≤ text y' then key t' (text x') (text y') else key t' (text y') (text x')) ↔
      t = t' ∧ s(x, y) = s(x', y') := by
  constructor
  · intro h
    split at h <;> split at h <;> obtain ⟨rfl, rfl, rfl⟩ := hkey h <;> simp
  · rintro ⟨rfl, h⟩
    rcases Sym2.eq_iff.1 h with ⟨rfl, rfl⟩ | ⟨rfl, rfl⟩
    · rfl
    · exact ite_le_comm (key t) _ _

/-! ## IPv4 endpoints -/

abbrev Endpoint : Type := Ipv4Addr × UInt16

def endpointText (e : Endpoint) : String := e.1.display ++ ":" ++ toString e.2.toNat

lemma colon_not_mem_display (ip : Ipv4Addr) : ':' ∉ ip.display.toList := by
  intro h
  rw [Ipv4Addr.display, String.toList_intercalate] at h
  obtain ⟨part, hpart, hmem⟩ := (Separated.mem_intercalate (by decide)).1 h
  simp only [map_map, mem_map] at hpart
  obtain ⟨b, -, rfl⟩ := hpart
  exact colon_not_mem_toString _ hmem

lemma append_endpoint_inj {t t' : String} {e e' : Endpoint} :
    t ++ ":" ++ endpointText e = t' ++ ":" ++ endpointText e' ↔ t = t' ∧ e = e' := by
  have hassoc : ∀ (t : String) (e : Endpoint), t ++ ":" ++ endpointText e =
      t ++ ":" ++ e.1.display ++ ":" ++ toString e.2.toNat := by
    simp [endpointText, String.append_assoc]
  constructor
  · intro h
    rw [hassoc, hassoc, append_colon_inj (colon_not_mem_toString _) (colon_not_mem_toString _),
      append_colon_inj (colon_not_mem_display _) (colon_not_mem_display _)] at h
    obtain ⟨⟨ht, hip⟩, hport⟩ := h
    have hnumber := toList_repr_injective (congrArg String.toList hport)
    exact ⟨ht, Prod.ext (Ipv4Addr.display_injective hip) (UInt16.toNat_inj.1 hnumber)⟩
  · rintro ⟨rfl, rfl⟩
    rfl

/-! ## MAC addresses -/

lemma hexDigits_two_append_inj {b c : UInt8} {xs ys : List Char} :
    hexDigits 2 b.toNat ++ xs = hexDigits 2 c.toNat ++ ys ↔ b = c ∧ xs = ys := by
  rw [hexDigits_append_inj b.toNat_lt c.toNat_lt, UInt8.toNat_inj]

lemma formatMac_append_inj {m m' : MacAddr} {s s' : String} :
    formatMac m ++ s = formatMac m' ++ s' ↔ m = m' ∧ s = s' := by
  obtain ⟨b0, b1, b2, b3, b4, b5⟩ := m
  obtain ⟨c0, c1, c2, c3, c4, c5⟩ := m'
  rw [← String.toList_inj, ← @String.toList_inj s]
  simp [formatMac, hexPad, hexDigits_two_append_inj, and_assoc]

/-- The keys do not depend on the direction. Two of IPv4 endpoints, or of MAC addresses, are equal
exactly if the protocols and the unordered pairs of peers are. -/
theorem sessionKeys_eq_iff :
    (∀ a b p q t, makeIpSessionKey a b p q t = makeIpSessionKey b a q p t) ∧
      (∀ (x y x' y' : Endpoint) (t t' : String), makeIpSessionKey (.v4 x.1) (.v4 y.1) x.2 y.2 t =
        makeIpSessionKey (.v4 x'.1) (.v4 y'.1) x'.2 y'.2 t' ↔ t = t' ∧ s(x, y) = s(x', y')) ∧
      ∀ (m n m' n' : MacAddr) (k k' : String),
        makeLayer2SessionKey m n k = makeLayer2SessionKey m' n' k' ↔
          k = k' ∧ s(m, n) = s(m', n') := by
  refine ⟨makeIpSessionKey_comm, fun x y x' y' t t' => ?_, fun m n m' n' k k' => ?_⟩
  · refine ite_le_inj endpointText (fun t l r => t ++ ":" ++ l ++ ":" ++ r)
      (fun h => ?_) t t' x y x' y'
    obtain ⟨h, hb⟩ := append_endpoint_inj.1 h
    obtain ⟨ht, ha⟩ := append_endpoint_inj.1 h
    exact ⟨ht, ha, hb⟩
  · refine ite_le_inj formatMac (fun k l r => "l2:" ++ l ++ ":" ++ r ++ ":" ++ k)
      (fun h => ?_) k k' m n m' n'
    simp only [String.append_assoc, String.append_right_inj, formatMac_append_inj] at h
    exact ⟨h.2.2, h.1, h.2.1⟩

end MarlinspikeDpi.Engine
