import MarlinspikeDpi.Foundation.Ber
import MarlinspikeDpi.Foundation.Utf8
import MarlinspikeDpi.Kerberos.Messages

/-!
# Requests to a key distribution centre

What an AS-REQ or a TGS-REQ encodes is described element by element (`KdcReq.Encodes`), with lengths
in any definite form of up to four bytes, and with any content of the elements that are not looked
for, such as the data of the pre-authentication.

* `parseKdcReq_of_encodes`: every field is returned as it was encoded.
-/

namespace MarlinspikeDpi.Kerberos

open Bytes Text Ber List LengthForm

/-! ## Elements -/

variable {form : LengthForm} {tag : UInt8} {bytes : List UInt8} {described : List UInt8 → Prop}

lemma berLength_octets {n : Nat} (hfits : form.Fits n) (hcount : form.count ≤ 4)
    (rest : List UInt8) : berLength (form.octets n ++ rest) = some (n, (form.octets n).length) := by
  cases form with
  | short =>
    obtain ⟨hlow, hbyte⟩ := first_short hfits
    rw [octets, singleton_append, berLength, if_pos hlow, hbyte]
    rfl
  | long count =>
    obtain ⟨hpos, -, hn⟩ := hfits
    obtain ⟨hhigh, hnBytes⟩ := first_long hpos hcount
    have hwhole : ¬(count = 0 ∨ 4 < count ∨
        (UInt8.ofNat (128 + count) :: (toBe count n ++ rest)).length < 1 + count) := by
      have hcount' : count ≤ 4 := hcount
      rw [length_cons, length_append, length_toBe]
      omega
    rw [octets, cons_append, berLength, if_neg hhigh, hnBytes]
    rw [if_neg hwhole, take_left' (length_toBe _ _), beNat_toBe hn, length_cons, length_toBe,
      Nat.add_comm]

lemma berTlv_tlv {content : List UInt8} (hfits : form.Fits content.length)
    (hcount : form.count ≤ 4) (rest : List UInt8) :
    berTlv (tlv form tag content ++ rest) = some (tag, content, (tlv form tag content).length) := by
  set behind := form.octets content.length ++ (content ++ rest)
  have hbytes : tlv form tag content ++ rest = tag :: behind := by
    rw [tlv, cons_append, append_assoc]
  have hlength : (tlv form tag content).length = 1 + (form.octets content.length).length +
      content.length := by
    rw [tlv, length_cons, length_append]
    omega
  have hwhole : ¬(tag :: behind).length < 1 + (form.octets content.length).length +
      content.length := by
    rw [← hbytes, length_append]
    omega
  have hcontent : slice (tag :: behind) (1 + (form.octets content.length).length) content.length =
      content := by
    have hhead : (tag :: form.octets content.length).length =
        1 + (form.octets content.length).length := by
      rw [length_cons, Nat.add_comm]
    rw [← cons_append, slice_append_right (Nat.le_of_eq hhead), hhead, Nat.sub_self]
    exact slice_append_self rfl
  rw [hbytes, hlength, berTlv, berLength_octets hfits hcount, Option.bind_some]
  dsimp only
  rw [if_neg hwhole, hcontent]

variable {fields : List Field} {bytes : List UInt8}

lemma tlvIterFrom_of_fields (h : Fields 4 fields bytes) {fuel : Nat} (hfuel : bytes.length ≤ fuel) :
    List.Forall₂ (fun field item => field.1 = item.1 ∧ field.2 item.2) fields
      (tlvIterFrom fuel bytes) := by
  induction h generalizing fuel with
  | nil => cases fuel <;> exact .nil
  | cons helement _ ih =>
    obtain ⟨form, content, hfits, hcount, hdescribed, rfl⟩ := helement
    match fuel, hfuel with
    | fuel + 1, hfuel =>
      rw [tlvIterFrom, berTlv_tlv hfits hcount]
      dsimp only
      rw [drop_left]
      refine .cons ⟨rfl, hdescribed⟩ (ih ?_)
      rw [length_append, tlv, length_cons] at hfuel
      omega

lemma tlvIter_of_fields (h : Fields 4 fields bytes) :
    List.Forall₂ (fun field item => field.1 = item.1 ∧ field.2 item.2) fields (tlvIter bytes) :=
  tlvIterFrom_of_fields h le_rfl

lemma findChild_of_fields (h : Fields 4 fields bytes) (tag : UInt8) :
    match fields.find? fun field => field.1 == tag with
    | none => findChild bytes tag = none
    | some field => ∃ content, field.2 content ∧ findChild bytes tag = some content := by
  have hitems := tlvIter_of_fields h
  unfold findChild
  generalize tlvIter bytes = items at hitems ⊢
  clear h
  induction hitems with
  | nil => rfl
  | @cons field item fields items hfield _ ih =>
    obtain ⟨htag, hdescribed⟩ := hfield
    rw [findSome?_cons, find?_cons]
    by_cases hsame : item.1 = tag
    · rw [if_pos hsame, htag, hsame, beq_self_eq_true]
      exact ⟨item.2, hdescribed, rfl⟩
    · rw [if_neg hsame, htag, beq_false_of_ne hsame]
      exact ih

lemma exists_findChild_tlv
    (h : IsTlv 4 tag described bytes) : ∃ content, described content ∧
      findChild bytes tag = some content := by
  have hfields : Fields 4 [(tag, described)] bytes := by
    have hcons := Fields.cons h .nil
    rwa [append_nil] at hcons
  have hchild := findChild_of_fields hfields tag
  rwa [find?_cons, beq_self_eq_true] at hchild

lemma bind_findChild_tlv {α : Type} (h : IsTlv 4 tag described bytes) {read : List UInt8 → Option α}
    {value : Option α}
    (hread : ∀ content, described content → read content = value) :
      (findChild bytes tag).bind read = value := by
  obtain ⟨content, hcontent, hchild⟩ := exists_findChild_tlv h
  rw [hchild]
  exact hread content hcontent

section

variable {slots : List Slot} {bytes : List UInt8} (h : Fields 4 (present slots) bytes)
    (hnodup : (slots.map Prod.fst).Nodup)

include h hnodup

lemma exists_findChild_mem {tag : UInt8} {described : List UInt8 → Prop}
    (hmem : (tag, some described) ∈ slots) :
    ∃ content, described content ∧ findChild bytes tag = some content := by
  have hchild := findChild_of_fields h tag
  rwa [find?_present hnodup hmem] at hchild

lemma bind_findChild_mem {tag : UInt8} {described : List UInt8 → Prop} {α : Type}
    (hmem : (tag, some described) ∈ slots)
    {read : List UInt8 → Option α} {value : Option α}
    (hread : ∀ content, described content → read content = value) :
    (findChild bytes tag).bind read = value := by
  obtain ⟨content, hcontent, hchild⟩ := exists_findChild_mem h hnodup hmem
  rw [hchild]
  exact hread content hcontent

lemma bind_findChild_slot {tag : UInt8} {α β : Type} {o : Option α}
    {described : α → List UInt8 → Prop}
    (hmem : (tag, o.map described) ∈ slots) {read : List UInt8 → Option β} {value : α → Option β}
    (hread : ∀ a content, described a content → read content = value a) :
    (findChild bytes tag).bind read = o.bind value := by
  cases o with
  | none =>
    have hchild := findChild_of_fields h tag
    rw [find?_present hnodup hmem] at hchild
    exact congrArg (Option.bind · read) hchild
  | some a => exact bind_findChild_mem h hnodup hmem (hread a)

end

/-! ## Requests -/

structure PrincipalName where
  nameType : Int
  components : List String

open PrincipalName

structure KdcReq where
  (pvno msgType : Int)
  padata : Option (List UInt8)
  options : UInt32
  cname : Option PrincipalName
  realm : String
  sname : Option PrincipalName
  fromTime : Option String
  till : String
  rtime : Option String
  nonce : UInt32
  etypes : List Int32
  (addresses encAuthorizationData additionalTickets : Option (List UInt8))

def IsInteger (value : Int) (content : List UInt8) : Prop :=
  content ≠ [] ∧ content.length ≤ 8 ∧ signed content = value

def IsText (text : String) (content : List UInt8) : Prop := content = utf8 text

/-- A BIT STRING of 32 flags or more, behind the number of bits that are not used. -/
def IsFlags (flags : UInt32) (content : List UInt8) : Prop :=
  ∃ unused more, content = unused :: (toBe 4 flags.toNat ++ more)

/-- The components with slashes between them; a name without components is none. -/
def PrincipalName.text (name : PrincipalName) : Option String :=
  if name.components = [] then none else some ("/".intercalate name.components)

/-- The encryption types with commas between them; an empty list is none. -/
def etypeText (etypes : List Int32) : Option String :=
  if etypes = [] then none else some
    (",".intercalate (etypes.map fun etype => toString etype.toInt))

def PrincipalName.slots (name : PrincipalName) : List Slot :=
  [(ctx ||| 0, some (IsTlv 4 tagInteger (IsInteger name.nameType))), (ctx ||| 1,
      some
        (IsTlv 4 tagSequence
          (Fields 4 (name.components.map fun text => (tagGeneralString, IsText text)))))]

namespace KdcReq

def bodySlots (req : KdcReq) : List Slot :=
  [(ctx ||| 0, some (IsTlv 4 tagBitString (IsFlags req.options))),
    (ctx ||| 1, req.cname.map fun name => IsTlv 4 tagSequence (Fields 4 (present name.slots))),
    (ctx ||| 2, some (IsTlv 4 tagGeneralString (IsText req.realm))),
    (ctx ||| 3, req.sname.map fun name => IsTlv 4 tagSequence (Fields 4 (present name.slots))),
    (ctx ||| 4, req.fromTime.map fun time => IsTlv 4 tagGeneralizedTime (IsText time)),
    (ctx ||| 5, some (IsTlv 4 tagGeneralizedTime (IsText req.till))),
    (ctx ||| 6, req.rtime.map fun time => IsTlv 4 tagGeneralizedTime (IsText time)),
    (ctx ||| 7, some (IsTlv 4 tagInteger (IsInteger req.nonce.toNat))),
    (ctx ||| 8,
      some
        (IsTlv 4 tagSequence
          (Fields 4 (req.etypes.map fun etype => (tagInteger, IsInteger etype.toInt))))),
    (ctx ||| 9, req.addresses.map Eq),
    (ctx ||| 10, req.encAuthorizationData.map Eq),
    (ctx ||| 11, req.additionalTickets.map Eq)]

def slots (req : KdcReq) : List Slot :=
  [(ctx ||| 1, some (IsTlv 4 tagInteger (IsInteger req.pvno))),
    (ctx ||| 2, some (IsTlv 4 tagInteger (IsInteger req.msgType))),
    (ctx ||| 3, req.padata.map Eq),
    (ctx ||| 4, some (IsTlv 4 tagSequence (Fields 4 (present req.bodySlots))))]

/-- The bytes are an encoding of the request. -/
def Encodes (req : KdcReq) (content : List UInt8) : Prop :=
  IsTlv 4 tagSequence (Fields 4 (present req.slots)) content

def message (req : KdcReq) : KrbMsg :=
  { pvno := some req.pvno, msgType := some req.msgType, options := some req.options,
    cname := req.cname.bind PrincipalName.text, realm := some req.realm,
    sname := req.sname.bind PrincipalName.text, fromTime := req.fromTime, till := some req.till,
    rtime := req.rtime, nonce := some req.nonce.toNat, etypes := etypeText req.etypes }

end KdcReq

/-! ## Values -/

variable {content : List UInt8}

lemma berInteger_of {value : Int} (h : IsInteger value content) :
    berInteger content = some value := by
  obtain ⟨hne, hlen, rfl⟩ := h
  have hrange : ¬(content = [] ∨ 8 < content.length) := not_or.mpr ⟨hne, Nat.not_lt.mpr hlen⟩
  rw [berInteger, if_neg hrange]
  exact congrArg some (toInt_foldl_signExtend hne hlen)

lemma parseInteger_of {value : Int} (h : IsTlv 4 tagInteger (IsInteger value) content) :
    parseInteger content = some value :=
  bind_findChild_tlv h fun _ => berInteger_of

lemma berString_of {text : String} (h : IsText text content) : berString content = text := by
  rw [berString, h, utf8Lossy_utf8]

lemma map_berString_of {text : String} (h : IsTlv 4 tag (IsText text) content) :
    (findChild content tag).map berString = some text := by
  rw [Option.map_eq_bind]
  exact bind_findChild_tlv h fun _ htext => congrArg some (berString_of htext)

lemma filterMap_tlvIter {α β : Type} {described : α → List UInt8 → Prop}
    {read : List UInt8 → Option β}
    {value : α → β} (hread : ∀ a content, described a content → read content = some (value a))
    {as : List α}
    (h : Fields 4 (as.map fun a => (tag, described a)) bytes) :
    (tlvIter bytes).filterMap (fun child => if child.1 = tag then read child.2 else none) =
      as.map value := by
  have hitems := tlvIter_of_fields h
  rw [List.forall₂_map_left_iff] at hitems
  generalize tlvIter bytes = items at hitems ⊢
  clear h
  induction hitems with
  | nil => rfl
  | @cons a item as items hitem _ ih =>
    obtain ⟨htag, hdescribed⟩ := hitem
    have hhead : (if item.1 = tag then read item.2 else none) = some (value a) := by
      rw [if_pos htag.symm]
      exact hread a item.2 hdescribed
    simp only [filterMap_cons, hhead, ih, map_cons]

lemma parsePrincipalName_of {name : PrincipalName}
    (h : IsTlv 4 tagSequence (Fields 4 (present name.slots)) content) :
      parsePrincipalName content = name.text := by
  refine bind_findChild_tlv h fun seq hseq => ?_
  have hnodup : (name.slots.map Prod.fst).Nodup := by
    show [ctx ||| 0, ctx ||| 1].Nodup
    decide
  refine bind_findChild_mem hseq hnodup (.tail _ (.head _)) fun nameStringCtx hstrings => ?_
  refine bind_findChild_tlv hstrings fun nameSeq hnames => ?_
  have hread : ∀ (text : String) (c : List UInt8), IsText text c → some (berString c) = some text :=
    fun text c hc => congrArg some (berString_of hc)
  simp only [filterMap_tlvIter hread hnames, map_id', text]

lemma parseEtypeList_of {etypes : List Int32}
    (h : IsTlv 4 tagSequence
      (Fields 4 (etypes.map fun etype => (tagInteger, IsInteger etype.toInt))) content) :
    parseEtypeList content = etypeText etypes := by
  refine bind_findChild_tlv h fun seq hseq => ?_
  have hread : ∀ (etype : Int32) (c : List UInt8), IsInteger etype.toInt c →
      (berInteger c).map toString = some (toString etype.toInt) := by
    intro etype c hc
    rw [berInteger_of hc]
    rfl
  simp only [filterMap_tlvIter hread hseq, etypeText, map_eq_nil_iff]

lemma parseOptions_of {flags : UInt32} (h : IsTlv 4 tagBitString (IsFlags flags) content) :
    parseOptions content = some flags := by
  refine bind_findChild_tlv h ?_
  rintro bs ⟨unused, more, rfl⟩
  have hlen : (toBe 4 flags.toNat).length = 4 := length_toBe _ _
  have hval : beNat (toBe 4 flags.toNat) = flags.toNat := beNat_toBe flags.toNat_lt
  have hlong : ¬(unused :: (toBe 4 flags.toNat ++ more)).length < 2 := by
    rw [length_cons, length_append]
    omega
  rw [drop_one, tail_cons]
  match toBe 4 _, hlen, hval with
  | [b0, b1, b2, b3], _, hval =>
    refine congrArg some ?_
    show (0 : UInt32) ||| b0.toUInt32 <<< 24 ||| b1.toUInt32 <<< 16 ||| b2.toUInt32 <<<
      8 ||| b3.toUInt32 <<< 0 = flags
    rw [UInt32.zero_or, UInt32.shiftLeft_zero, or_shiftLeft_beNat, hval, UInt32.ofNat_toNat]

/-! ## Whole requests -/

namespace KdcReq

lemma addReqBody_of {req : KdcReq} {body : List UInt8} (h : Fields 4 (present req.bodySlots) body)
      (m : KrbMsg) : m.addReqBody body = { m with
        options := some req.options
        cname := req.cname.bind text
        realm := some req.realm
        sname := req.sname.bind text
        fromTime := req.fromTime
        till := some req.till
        rtime := req.rtime
        nonce := some req.nonce.toNat
        etypes := etypeText req.etypes } := by
  have hnodup : (req.bodySlots.map Prod.fst).Nodup := by
    show [ctx ||| 0, ctx ||| 1, ctx ||| 2, ctx ||| 3, ctx ||| 4, ctx ||| 5, ctx ||| 6, ctx ||| 7,
      ctx ||| 8, ctx ||| 9, ctx ||| 10, ctx ||| 11].Nodup
    decide
  have hoptions : (ctxInner body 0).bind parseOptions = some req.options :=
    bind_findChild_mem h hnodup (by simp [bodySlots]) fun _ => parseOptions_of
  have hcname : (ctxInner body 1).bind parsePrincipalName = req.cname.bind text :=
    bind_findChild_slot h hnodup (o := req.cname) (by simp [bodySlots]) fun _ _ =>
      parsePrincipalName_of
  have hrealm : (ctxInner body 2).bind parseRealm = some req.realm :=
    bind_findChild_mem h hnodup (by simp [bodySlots]) fun _ => map_berString_of
  have hsname : (ctxInner body 3).bind parsePrincipalName = req.sname.bind text :=
    bind_findChild_slot h hnodup (o := req.sname) (by simp [bodySlots]) fun _ _ =>
      parsePrincipalName_of
  have hfrom : (ctxInner body 4).bind parseKerberosTime = req.fromTime.bind some :=
    bind_findChild_slot h hnodup (o := req.fromTime) (by simp [bodySlots]) fun _ _ =>
      map_berString_of
  have htill : (ctxInner body 5).bind parseKerberosTime = some req.till :=
    bind_findChild_mem h hnodup (by simp [bodySlots]) fun _ => map_berString_of
  have hrtime : (ctxInner body 6).bind parseKerberosTime = req.rtime.bind some :=
    bind_findChild_slot h hnodup (o := req.rtime) (by simp [bodySlots]) fun _ _ => map_berString_of
  have hnonce : (ctxInner body 7).bind parseInteger = some (req.nonce.toNat : Int) :=
    bind_findChild_mem h hnodup (by simp [bodySlots]) fun _ => parseInteger_of
  have hetypes : (ctxInner body 8).bind parseEtypeList = etypeText req.etypes :=
    bind_findChild_mem h hnodup (by simp [bodySlots]) fun _ => parseEtypeList_of
  rw [Option.bind_fun_some] at hfrom hrtime
  rw [KrbMsg.addReqBody, hoptions, hcname, hrealm, hsname, hfrom, htill, hrtime, hnonce, hetypes]

/-- Every field is returned as it was encoded. What the request says does not depend on its
`padata`. -/
theorem parseKdcReq_of_encodes {req : KdcReq} {content : List UInt8} (h : req.Encodes content) :
    parseKdcReq content = req.message := by
  have hnodup : (req.slots.map Prod.fst).Nodup := by
    show [ctx ||| 1, ctx ||| 2, ctx ||| 3, ctx ||| 4].Nodup
    decide
  obtain ⟨seq, hseq, hfindSeq⟩ := exists_findChild_tlv h
  have hpvno : (ctxInner seq 1).bind parseInteger = some req.pvno :=
    bind_findChild_mem hseq hnodup (by simp [slots]) fun _ => parseInteger_of
  have hmsgType : (ctxInner seq 2).bind parseInteger = some req.msgType :=
    bind_findChild_mem hseq hnodup (by simp [slots]) fun _ => parseInteger_of
  have hmem : (ctx ||| 4, some (IsTlv 4 tagSequence (Fields 4 (present req.bodySlots)))) ∈
    req.slots := by simp [slots]
  obtain ⟨bodyCtx, hbodyCtx, hfindCtx⟩ := exists_findChild_mem hseq hnodup hmem
  obtain ⟨body, hbody, hfindBody⟩ := exists_findChild_tlv hbodyCtx
  rw [parseKdcReq, hfindSeq]
  dsimp only
  rw [hpvno, hmsgType, ctxInner, hfindCtx]
  dsimp only
  rw [hfindBody]
  exact addReqBody_of hbody _

/-- An AS-REQ without a server and without optional times, with tags of a request in its
`padata`. -/
def asReq (components : List String) (etypes : List Int32) : KdcReq :=
  { pvno := 5, msgType := 10, padata := some [0xA4, 0x02, 0x30, 0x00], options := 0x40810010,
    cname := some ⟨1, components⟩, realm := "OT", sname := none, fromTime := none, till := "2037Z",
    rtime := none, nonce := 7, etypes, addresses := none, encAuthorizationData := none,
    additionalTickets := none }

def asReqName (names : List UInt8) : List UInt8 :=
  tlv .short (ctx ||| 0) (tlv .short tagInteger [1]) ++
    (tlv .short (ctx ||| 1) (tlv .short tagSequence names) ++ [])

def asReqBody (names etypes : List UInt8) : List UInt8 :=
  tlv .short (ctx ||| 0) (tlv .short tagBitString [0x00, 0x40, 0x81, 0x00, 0x10]) ++
    (tlv .short (ctx ||| 1) (tlv .short tagSequence (asReqName names)) ++
      (tlv .short (ctx ||| 2) (tlv .short tagGeneralString [0x4F, 0x54]) ++
        (tlv .short (ctx ||| 5) (tlv .short tagGeneralizedTime [0x32, 0x30, 0x33, 0x37, 0x5A]) ++
          (tlv .short (ctx ||| 7) (tlv .short tagInteger [7]) ++
            (tlv .short (ctx ||| 8) (tlv .short tagSequence etypes) ++ [])))))

def asReqContent (names etypes : List UInt8) : List UInt8 :=
  tlv .short tagSequence <| tlv .short (ctx ||| 1) (tlv .short tagInteger [5]) ++
      (tlv .short (ctx ||| 2) (tlv .short tagInteger [10]) ++
        (tlv .short (ctx ||| 3) [0xA4, 0x02, 0x30, 0x00] ++
          (tlv .short (ctx ||| 4) (tlv .short tagSequence (asReqBody names etypes)) ++ [])))

lemma asReq_encodes {components : List String} {etypes : List Int32} {names numbers : List UInt8}
    (hnames : Fields 4 (components.map fun text => (tagGeneralString, IsText text)) names)
    (hnumbers : Fields 4 (etypes.map fun etype => (tagInteger, IsInteger etype.toInt)) numbers)
    (hsmall : names.length + numbers.length < 32) :
    (asReq components etypes).Encodes (asReqContent names numbers) := by
  have hlength : ∀ (tag : UInt8) (content : List UInt8), (tlv .short tag content).length =
    content.length + 2 := fun _ _ => rfl
  have hflags : IsFlags 0x40810010 [0x00, 0x40, 0x81, 0x00, 0x10] := ⟨0x00, [], by decide⟩
  have hnameType : IsInteger 1 [1] := ⟨by decide, by decide, by decide⟩
  have hnonce : IsInteger 7 [7] := ⟨by decide, by decide, by decide⟩
  have hpvno : IsInteger 5 [5] := ⟨by decide, by decide, by decide⟩
  have hmsgType : IsInteger 10 [10] := ⟨by decide, by decide, by decide⟩
  have hnameSeq : Fields 4 (present (PrincipalName.slots ⟨1, components⟩)) (asReqName names) :=
    .cons (isTlv_wrapped hnameType (by decide)) (.cons (isTlv_wrapped hnames (by omega)) .nil)
  have hnameLength : (asReqName names).length = names.length + 9 := by
    simp only [asReqName, length_append, hlength, length_cons, length_nil]
    omega
  have hbody : Fields 4 (present (asReq components etypes).bodySlots) (asReqBody names numbers) :=
    .cons (isTlv_wrapped hflags (by decide)) <| .cons (isTlv_wrapped hnameSeq (by omega)) <|
        .cons (isTlv_wrapped rfl (by decide)) <| .cons (isTlv_wrapped rfl (by decide)) <|
            .cons (isTlv_wrapped hnonce (by decide)) <| .cons
              (isTlv_wrapped hnumbers (by omega)) .nil
  have hbodyLength : (asReqBody names numbers).length = names.length + numbers.length + 46 := by
    simp only [asReqBody, length_append, hlength, length_cons, length_nil, hnameLength]
    omega
  refine isTlv_short (.cons (isTlv_wrapped hpvno (by decide)) <| .cons
    (isTlv_wrapped hmsgType (by decide)) <|
      .cons (isTlv_short rfl (by decide)) <| .cons (isTlv_wrapped hbody (by omega)) .nil) ?_
  simp only [length_append, hlength, length_cons, length_nil, hbodyLength]
  omega

def hmiName : List UInt8 := tlv .short tagGeneralString [0x68, 0x6D, 0x69] ++ []

def hmiEtype : List UInt8 := tlv .short tagInteger [0x12] ++ []

/-- A request of "hmi" for the encryption type 18. -/
theorem asReq_parsed :
    (asReq ["hmi"] [18]).Encodes (asReqContent hmiName hmiEtype) ∧
      parseKdcReq (asReqContent hmiName hmiEtype) = (asReq ["hmi"] [18]).message := by
  have htext : IsText "hmi" [0x68, 0x6D, 0x69] := rfl
  have hnumber : IsInteger 18 [0x12] := ⟨by decide, by decide, by decide⟩
  have h : (asReq ["hmi"] [18]).Encodes (asReqContent hmiName hmiEtype) :=
    asReq_encodes (.cons (isTlv_short htext (by decide)) .nil)
      (.cons (isTlv_short hnumber (by decide)) .nil) (by decide)
  exact ⟨h, parseKdcReq_of_encodes h⟩

/-- A name without components and an empty list of encryption types are returned as missing. -/
theorem emptyReq_parsed :
    (asReq [] []).Encodes (asReqContent [] []) ∧ (asReq [] []).cname = some ⟨1, []⟩ ∧
      (parseKdcReq (asReqContent [] [])).cname = none ∧
        (parseKdcReq (asReqContent [] [])).etypes = none :=
  ⟨asReq_encodes .nil .nil (by decide), rfl, by decide, by decide⟩

end KdcReq

end MarlinspikeDpi.Kerberos
