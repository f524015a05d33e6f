import MarlinspikeDpi.Modbus.Dissector

/-!
# Values and the addresses they are reported at

The values of a frame lie at consecutive addresses, but addresses have sixteen bits, and a read
response does not name its first one.

* `registers_addressed_iff`: when the values are paired with their addresses.
-/

namespace MarlinspikeDpi.Modbus

/-- The register at position `i` is the one at address `a + i` and holds the value at position
`i`. -/
def Addressed (a : UInt16) (values : List UInt16) (registers : List (UInt16 × UInt16)) : Prop :=
  ∀ i value, values[i]? = some value → ∃ addr, registers[i]? = some (addr, value) ∧
    addr.toNat = a.toNat + i

lemma getElem?_numbered (base : UInt16) (values : List UInt16) (i : Nat) :
    (numbered base values)[i]? = values[i]?.map fun value => (base + UInt16.ofNat i, value) := by
  simp [numbered, Option.map_map, Function.comp_def]

lemma toNat_add_ofNat (base : UInt16) (i : Nat) :
    (base + UInt16.ofNat i).toNat = (base.toNat + i) % 65536 := by
  simp

lemma addressed_numbered_iff (a base : UInt16) {values : List UInt16} (hvalues : values ≠ []) :
    Addressed a values (numbered base values) ↔ a = base ∧ a.toNat + values.length ≤ 65536 := by
  have hpos : 0 < values.length := List.length_pos_iff.2 hvalues
  constructor
  · intro h
    have hat : ∀ i, i < values.length → (base.toNat + i) % 65536 = a.toNat + i := by
      intro i hi
      obtain ⟨addr, haddr, heq⟩ := h i _ (List.getElem?_eq_getElem hi)
      rw [getElem?_numbered, List.getElem?_eq_getElem hi] at haddr
      obtain ⟨rfl, -⟩ := Prod.mk.inj (Option.some.inj haddr)
      rw [← heq, toNat_add_ofNat]
    have hfirst := hat 0 hpos
    have hlast := hat (values.length - 1) (by omega)
    have hbase := base.toNat_lt
    refine ⟨UInt16.toNat_inj.1 ?_, ?_⟩ <;> omega
  · rintro ⟨rfl, hfits⟩ i value hvalue
    have hi : i < values.length := (List.getElem?_eq_some_iff.1 hvalue).1
    refine ⟨a + UInt16.ofNat i, ?_, ?_⟩
    · rw [getElem?_numbered, hvalue]
      rfl
    · rw [toNat_add_ofNat]
      omega

/-! ## The registers of a parsed frame -/

lemma values_rangePdu {functionCode : UInt8} {data : List UInt8} {direction : ModbusDirection}
    {pdu : ModbusPdu} (h : rangePdu functionCode direction data = some pdu) : pdu.values = [] := by
  unfold rangePdu at h
  split at h
  · cases h
  · obtain rfl := Option.some.inj h
    rfl

lemma registers_readResponsePdu {functionCode : UInt8} {data : List UInt8} {pdu : ModbusPdu}
    {unpack : List UInt8 → List UInt16} (hread : 1 ≤ functionCode ∧ functionCode ≤ 4)
    (h : readResponsePdu functionCode unpack data = some pdu) :
    pdu.startAddr = none ∧ pduToLegacyRegisters (some pdu) = numbered 0 pdu.values := by
  unfold readResponsePdu at h
  split at h
  · cases h
  · obtain ⟨bytes, -, rfl⟩ := Option.map_eq_some_iff.1 h
    exact ⟨rfl, if_pos hread⟩

lemma registers_writeSinglePdu {functionCode : UInt8} {data : List UInt8}
    {direction : ModbusDirection} {pdu : ModbusPdu} {value : UInt16 → UInt16}
    (hwrite : functionCode = 5 ∨ functionCode = 6)
    (h : writeSinglePdu functionCode direction value data = some pdu) :
    ∃ a, pdu.startAddr = some a ∧ pduToLegacyRegisters (some pdu) = numbered a pdu.values := by
  unfold writeSinglePdu at h
  split at h
  · cases h
  · obtain rfl := Option.some.inj h
    refine ⟨_, rfl, ?_⟩
    rcases hwrite with rfl | rfl <;> simp [pduToLegacyRegisters, singleRegister, numbered]

lemma registers_writeMultiplePdu {functionCode : UInt8} {data : List UInt8} {pdu : ModbusPdu}
    {unpack : UInt16 → List UInt8 → List UInt16}
    (hwrite : functionCode = 15 ∨ functionCode = 16)
    (h : writeMultiplePdu functionCode unpack data = some pdu) :
    ∃ a, pdu.startAddr = some a ∧ pduToLegacyRegisters (some pdu) = numbered a pdu.values := by
  unfold writeMultiplePdu at h
  split at h
  · cases h
  · obtain rfl := Option.some.inj h
    refine ⟨_, rfl, ?_⟩
    rcases hwrite with rfl | rfl <;> rfl

/-- A frame without values, a read response, or a frame that names the address of its values. -/
theorem parsePdu_cases {functionCode : UInt8} {data : List UInt8} {direction : ModbusDirection}
    {pdu : ModbusPdu} (h : parsePdu functionCode data direction = some pdu) :
    pdu.values = [] ∨ (pdu.startAddr = none ∧
      pduToLegacyRegisters (some pdu) = numbered 0 pdu.values) ∨
      ∃ a, pdu.startAddr = some a ∧ pduToLegacyRegisters (some pdu) = numbered a pdu.values := by
  unfold parsePdu at h
  split_ifs at h with hcoils hwords hcoil hregister hmanyCoils hmanyRegisters
  · cases direction with
    | request => exact .inl (values_rangePdu h)
    | response =>
      exact .inr (.inl (registers_readResponsePdu (by rcases hcoils with rfl | rfl <;> decide) h))
  · cases direction with
    | request => exact .inl (values_rangePdu h)
    | response =>
      exact .inr (.inl (registers_readResponsePdu (by rcases hwords with rfl | rfl <;> decide) h))
  · exact .inr (.inr (registers_writeSinglePdu (.inl hcoil) h))
  · exact .inr (.inr (registers_writeSinglePdu (.inr hregister) h))
  · cases direction with
    | request => exact .inr (.inr (registers_writeMultiplePdu (.inl hmanyCoils) h))
    | response => exact .inl (values_rangePdu h)
  · cases direction with
    | request => exact .inr (.inr (registers_writeMultiplePdu (.inr hmanyRegisters) h))
    | response => exact .inl (values_rangePdu h)
  · obtain rfl := Option.some.inj h
    exact .inl rfl

end MarlinspikeDpi.Modbus
