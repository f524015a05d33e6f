import MarlinspikeDpi.Foundation.Escape
import MarlinspikeDpi.Foundation.Text

/-!
# Points, their text form and the grammar that reads it

InfluxDB line protocol writes a point as `measurement,tag=value,… field=value,… timestamp`, one
point a line.
-/

namespace MarlinspikeDpi.LineProtocol

open Separated List Nat Escaping Text

/-! ## The three escape sets -/

def measurementEscaping : Escaping Char where
  esc := '\\'
  escaped := fun c => c == ',' || c == ' '
  stop := fun c => c == ',' || c == ' '
  escaped_of_stop := fun _ h => h
  esc_not_stop := rfl

def componentEscaping : Escaping Char where
  esc := '\\'
  escaped := fun c => c == ',' || c == '=' || c == ' '
  stop := fun c => c == ',' || c == '=' || c == ' '
  escaped_of_stop := fun _ h => h
  esc_not_stop := rfl

/-- Inside quotes the backslash is escaped as well, and only a quote ends the text. -/
def quotedEscaping : Escaping Char where
  esc := '\\'
  escaped := fun c => c == '"' || c == '\\'
  stop := fun c => c == '"'
  escaped_of_stop := fun _ h => by simp [h]
  esc_not_stop := rfl

/-! ## Numbers -/

def parseInt : List Char → Option Int
  | '-' :: digits => (Text.parseDigits digits).map fun n => -(n : Int)
  | digits => (Text.parseDigits digits).map fun n => (n : Int)

lemma parseInt_repr (n : Int) : parseInt n.repr.toList = some n := by
  cases n with
  | ofNat n =>
    have hhead : ∀ ds, n.repr.toList ≠ '-' :: ds := by
      intro ds h
      have hmem : '-' ∈ n.repr.toList := by
        rw [h]
        exact mem_cons_self
      have := isDigit_of_mem_repr hmem
      exact absurd this (by decide)
    have hparse : parseInt n.repr.toList = (parseDigits n.repr.toList).map fun m => (m : Int) := by
      rw [parseInt.eq_2 _ hhead]
    exact hparse.trans (by rw [parseDigits_repr]; rfl)
  | negSucc n =>
    rw [toList_repr_negSucc, parseInt, parseDigits_repr]
    rfl

/-! ## Field values -/

variable (c : Char)

def isNumeric : Bool := c.isDigit || c == '.' || c == '-' || c == '+' || c == 'e' || c == 'E'

def IsFloat (token : List Char) : Prop := token ≠ [] ∧ token.all isNumeric = true

instance (token : List Char) : Decidable (IsFloat token) := inferInstanceAs (Decidable (_ ∧ _))

abbrev FloatToken := {token : List Char // IsFloat token}

inductive FieldValue where
  | bool (value : Bool)
  | int (value : Int)
  | uint (value : Nat)
  | float (token : FloatToken)
  | text (value : List Char)
deriving DecidableEq

def FieldValue.render : FieldValue → List Char
  | .bool value => [if value then 't' else 'f']
  | .int value => value.repr.toList ++ ['i']
  | .uint value => value.repr.toList ++ ['u']
  | .float token => token.1
  | .text value => '"' :: (quotedEscaping.escape value ++ ['"'])

def trueTokens : List (List Char) := ["t", "T", "true", "True", "TRUE"].map String.toList

def falseTokens : List (List Char) := ["f", "F", "false", "False", "FALSE"].map String.toList

def parseToken (token : List Char) : Option FieldValue :=
  if token ∈ trueTokens then some (.bool true)
  else if token ∈ falseTokens then some (.bool false)
  else if token.getLast? = some 'i' then (parseInt token.dropLast).map .int
  else if token.getLast? = some 'u' then (Text.parseDigits token.dropLast).map .uint
  else if h : IsFloat token then some (.float ⟨token, h⟩)
  else none

def inToken : Bool := c != ',' && c != ' '

def parseValue : List Char → Option (FieldValue × List Char)
  | '"' :: text =>
    match quotedEscaping.scan text with
    | (value, '"' :: rest) => some (.text value, rest)
    | _ => none
  | text => (parseToken (text.takeWhile inToken)).map fun value => (value, text.dropWhile inToken)

/-! ## Points -/

structure Point where
  measurement : List Char
  tags : List (List Char × List Char)
  fields : List (List Char × FieldValue)
  timestamp : Option Int
deriving DecidableEq

def renderTag (tag : List Char × List Char) : List Char :=
  ',' :: (componentEscaping.escape tag.1 ++ '=' :: componentEscaping.escape tag.2)

def renderField (field : List Char × FieldValue) : List Char :=
  componentEscaping.escape field.1 ++ '=' :: field.2.render

def renderTimestamp : Option Int → List Char
  | none => []
  | some t => ' ' :: t.repr.toList

def render (p : Point) : List Char :=
  measurementEscaping.escape p.measurement ++ (p.tags.flatMap renderTag ++
    ' ' :: ([','].intercalate (p.fields.map renderField) ++ renderTimestamp p.timestamp))

def parseTags : Nat → List Char → Option (List (List Char × List Char) × List Char)
  | n + 1, ',' :: text =>
    match componentEscaping.scan text with
    | (key, '=' :: text) =>
      let (value, rest) := componentEscaping.scan text
      if key = [] ∨ value = [] then none
      else (parseTags n rest).map fun (tags, rest) => ((key, value) :: tags, rest)
    | _ => none
  | _, text => some ([], text)

/-- The fields at the start of a text, of which there is at least one. -/
def parseFields : Nat → List Char → Option (List (List Char × FieldValue) × List Char)
  | 0, _ => none
  | n + 1, text =>
    match componentEscaping.scan text with
    | (key, '=' :: text) =>
      if key = [] then none
      else (parseValue text).bind fun
        | (value, ',' :: rest) =>
          (parseFields n rest).map fun (fields, rest) => ((key, value) :: fields, rest)
        | (value, rest) => some ([(key, value)], rest)
    | _ => none

def parseTimestamp : List Char → Option (Option Int)
  | [] => some none
  | ' ' :: digits => (parseInt digits).map some
  | _ => none

def parse (line : List Char) : Option Point :=
  if line.head? = some '#' then none
  else
    let (measurement, rest) := measurementEscaping.scan line
    if measurement = [] then none
    else (parseTags line.length rest).bind fun
      | (tags, ' ' :: rest) =>
        (parseFields line.length rest).bind fun (fields, rest) =>
          (parseTimestamp rest).map fun timestamp => ⟨measurement, tags, fields, timestamp⟩
      | _ => none

/-! ## Reading values back -/

def isTokenChar : Bool := isNumeric c || c == 't' || c == 'f' || c == 'i' || c == 'u'

variable {c}

lemma isTokenChar_of_isDigit (h : c.isDigit = true) : isTokenChar c = true := by
  simp [isTokenChar, isNumeric, h]

lemma isTokenChar_of_mem_repr {n : Int} (h : c ∈ n.repr.toList) : isTokenChar c = true := by
  rcases mem_repr_int h with rfl | h
  · rfl
  · exact isTokenChar_of_isDigit h

def FieldValue.isToken : FieldValue → Bool
  | .text _ => false
  | _ => true

lemma isTokenChar_of_mem_render {v : FieldValue} (hv : v.isToken = true) (hc : c ∈ v.render) :
    isTokenChar c = true := by
  cases v with
  | bool value => cases value <;> (rw [FieldValue.render, mem_singleton] at hc; subst hc; rfl)
  | int n =>
    rw [FieldValue.render, mem_append, mem_singleton] at hc
    rcases hc with hc | rfl
    · exact isTokenChar_of_mem_repr hc
    · rfl
  | uint n =>
    rw [FieldValue.render, mem_append, mem_singleton] at hc
    rcases hc with hc | rfl
    · exact isTokenChar_of_isDigit (isDigit_of_mem_repr hc)
    · rfl
  | float token =>
    have hnumeric : isNumeric c = true := all_eq_true.1 token.2.2 c hc
    simp [isTokenChar, hnumeric]
  | text value => exact Bool.noConfusion hv

lemma not_mem_booleans {token : List Char} (hhead : token.head? = some c)
    (hc : isNumeric c = true) : token ∉ trueTokens ∧ token ∉ falseTokens := by
  have hbooleans : (trueTokens ++ falseTokens).all (fun b => !(b.head?.any isNumeric)) = true := by
    decide
  have hnot : token ∉ trueTokens ++ falseTokens := by
    intro hmem
    have hplain := all_eq_true.1 hbooleans token hmem
    rw [hhead, Option.any_some, hc] at hplain
    exact Bool.noConfusion hplain
  rw [mem_append, not_or] at hnot
  exact hnot

lemma exists_head?_repr (n : Nat) (tail : List Char) :
    ∃ c, (n.repr.toList ++ tail).head? = some c ∧ isNumeric c = true := by
  obtain ⟨c, ds, hds⟩ := exists_cons_of_ne_nil (repr_ne_nil n)
  have hdigit : c.isDigit = true := isDigit_of_mem_repr (n := n) (by rw [hds]; exact mem_cons_self)
  refine ⟨c, by rw [hds]; rfl, ?_⟩
  simp [isNumeric, hdigit]

lemma exists_head?_repr_int (n : Int) (tail : List Char) :
    ∃ c, (n.repr.toList ++ tail).head? = some c ∧ isNumeric c = true := by
  cases n with
  | ofNat n => exact exists_head?_repr n tail
  | negSucc n =>
    rw [toList_repr_negSucc]
    exact ⟨'-', rfl, rfl⟩

lemma parseToken_render {v : FieldValue} (hv : v.isToken = true) :
    parseToken v.render = some v := by
  cases v with
  | bool value => cases value <;> decide
  | int n =>
    obtain ⟨c, hhead, hc⟩ := exists_head?_repr_int n ['i']
    obtain ⟨htrue, hfalse⟩ := not_mem_booleans hhead hc
    rw [FieldValue.render, parseToken, if_neg htrue, if_neg hfalse, getLast?_concat,
      dropLast_concat, parseInt_repr]
    rfl
  | uint n =>
    obtain ⟨c, hhead, hc⟩ := exists_head?_repr n ['u']
    obtain ⟨htrue, hfalse⟩ := not_mem_booleans hhead hc
    rw [FieldValue.render, parseToken, if_neg htrue, if_neg hfalse, getLast?_concat,
      dropLast_concat, parseDigits_repr]
    rfl
  | float token =>
    obtain ⟨token, hne, hnumeric⟩ := token
    obtain ⟨c, cs, rfl⟩ := exists_cons_of_ne_nil hne
    have hall : ∀ d ∈ c :: cs, isNumeric d = true := all_eq_true.1 hnumeric
    have hhead : (c :: cs).head? = some c := rfl
    obtain ⟨htrue, hfalse⟩ := not_mem_booleans hhead (hall c mem_cons_self)
    -- the suffixes of the two integer kinds are no characters of a float
    have hlast : ∀ d, isNumeric d = false → (c :: cs).getLast? ≠ some d := by
      intro d hd hlast
      rw [hall d (mem_of_getLast? hlast)] at hd
      exact Bool.noConfusion hd
    rw [FieldValue.render, parseToken, if_neg htrue, if_neg hfalse, if_neg (hlast 'i' rfl),
      if_neg (hlast 'u' rfl), dif_pos ⟨hne, hnumeric⟩]
  | text value => exact Bool.noConfusion hv

lemma parseValue_render {tail : List Char} (v : FieldValue)
    (htail : ∀ c ∈ tail.head?, inToken c = false) :
      parseValue (v.render ++ tail) = some (v, tail) := by
  by_cases hv : v.isToken = true
  · -- a token has none of the characters that end one, so it is cut off where it was written
    have htoken : ∀ c ∈ v.render, inToken c = true := by
      intro c hc
      have hchar : isTokenChar c = true := isTokenChar_of_mem_render hv hc
      simp only [inToken, Bool.and_eq_true, bne_iff_ne, ne_eq]
      constructor <;> (rintro rfl; exact absurd hchar (by decide))
    -- and it is not taken for a quoted text
    have hquote : ∀ rest, v.render ++ tail ≠ '"' :: rest := by
      intro rest h
      rcases append_eq_cons_iff.1 h with ⟨-, htl⟩ | ⟨cs, hcs, -⟩
      · exact absurd (htail '"' (by rw [htl]; rfl)) (by decide)
      · have hmem : '"' ∈ v.render := by
          rw [hcs]
          exact mem_cons_self
        exact absurd (isTokenChar_of_mem_render hv hmem) (by decide)
    have hstop : tail.takeWhile inToken = [] ∧ tail.dropWhile inToken = tail := by
      cases tail with
      | nil => exact ⟨rfl, rfl⟩
      | cons c tail =>
        have hc : inToken c = false := htail c rfl
        simp [hc]
    have htake : (v.render ++ tail).takeWhile inToken = v.render := by
      rw [takeWhile_append_of_pos htoken, hstop.1, append_nil]
    have hdrop : (v.render ++ tail).dropWhile inToken = tail := by
      rw [dropWhile_append_of_pos htoken, hstop.2]
    rw [parseValue.eq_2 _ hquote, htake, hdrop, parseToken_render hv]
    rfl
  · cases v with
    | text value =>
      have hscan : quotedEscaping.scan (quotedEscaping.escape value ++ '"' :: tail) =
          (value, '"' :: tail) := scan_escape rfl (.inl rfl)
      simp only [FieldValue.render, cons_append, append_assoc, nil_append, parseValue, hscan]
    | _ => exact absurd rfl hv

/-! ## Reading fields and tags back -/

def PlainKey (key : List Char) : Prop := key ≠ [] ∧ key.all (fun c => c.isLower || c == '_') = true

instance (key : List Char) : Decidable (PlainKey key) := inferInstanceAs (Decidable (_ ∧ _))

lemma PlainKey.not_mem {key : List Char} (h : PlainKey key) (hc : (c.isLower || c == '_') = false) :
    c ∉ key := by
  intro hmem
  rw [all_eq_true.1 h.2 c hmem] at hc
  exact Bool.noConfusion hc

lemma scan_key {key rest : List Char} (h : PlainKey key) :
    componentEscaping.scan (componentEscaping.escape key ++ '=' :: rest) = (key, '=' :: rest) :=
  scan_escape rfl (.inr fun hlast =>
    absurd (mem_of_getLast? hlast) (h.not_mem (c := '\\') (by decide)))

/-- A text that ends the fields of a line: nothing, or the blank before the timestamp. -/
def EndsFields (tail : List Char) : Prop := ∀ c ∈ tail.head?, c = ' '

lemma parseFields_render {tail : List Char} {fields : List (List Char × FieldValue)} {fuel : Nat}
    (hne : fields ≠ []) (hkeys : ∀ f ∈ fields, PlainKey f.1) (hfuel : fields.length ≤ fuel)
    (htail : EndsFields tail) :
    parseFields fuel ([','].intercalate (fields.map renderField) ++ tail) =
      some (fields, tail) := by
  -- by induction on the fields: each round spends one unit of fuel and ends at the comma it wrote
  induction fields generalizing fuel with
  | nil => exact absurd rfl hne
  | cons f fields ih =>
    obtain ⟨fuel, rfl⟩ : ∃ n, fuel = n + 1 := exists_eq_add_one.2 (by simp at hfuel; omega)
    have hkey : PlainKey f.1 := hkeys f mem_cons_self
    cases fields with
    | nil =>
      have hend : ∀ c ∈ tail.head?, inToken c = false := by
        intro c hc
        rw [htail c hc]
        rfl
      have hcomma : ∀ rest, tail ≠ ',' :: rest := by
        rintro rest rfl
        exact absurd (htail ',' rfl) (by decide)
      simp only [map_cons, map_nil, intercalate_singleton, renderField,
        append_assoc, cons_append, parseFields, scan_key hkey, if_neg hkey.1,
        parseValue_render f.2 hend, Option.bind_some]
    | cons g fields =>
      have hfuel' : (g :: fields).length ≤ fuel := by simpa using hfuel
      have hrest := ih (cons_ne_nil _ _) (fun f' hf' => hkeys f' (mem_cons_of_mem _ hf')) hfuel'
      simp only [map_cons, intercalate_cons_cons, renderField, append_assoc,
        cons_append, nil_append, parseFields, scan_key hkey, if_neg hkey.1] at hrest ⊢
      rw [parseValue_render f.2 (by intro c hc; cases hc; rfl)]
      simp only [Option.bind_some]
      rw [hrest]
      rfl

def ReadableTag (value : List Char) : Prop := value ≠ [] ∧ value.getLast? ≠ some '\\'

lemma parseTags_cons {n : Nat} {t : List Char × List Char} {text : List Char}
    (hkey : PlainKey t.1) : parseTags (n + 1) (renderTag t ++ text) =
      if (componentEscaping.scan (componentEscaping.escape t.2 ++ text)).1 = [] then none
      else (parseTags n (componentEscaping.scan (componentEscaping.escape t.2 ++ text)).2).map
        fun (tags, rest) =>
          ((t.1, (componentEscaping.scan (componentEscaping.escape t.2 ++ text)).1) :: tags,
            rest) := by
  simp only [renderTag, cons_append, append_assoc, parseTags, scan_key hkey, hkey.1, false_or]

lemma exists_stop_tags (tags : List (List Char × List Char)) (tail : List Char) :
    ∃ c rest, tags.flatMap renderTag ++ ' ' :: tail = c :: rest ∧ componentEscaping.stop c = true ∧
      measurementEscaping.stop c = true := by
  cases tags with
  | nil => exact ⟨' ', tail, rfl, rfl, rfl⟩
  | cons t tags => exact ⟨',', _, rfl, rfl, rfl⟩

lemma parseTags_blank (n : Nat) (tail : List Char) :
    parseTags n (' ' :: tail) = some ([], ' ' :: tail) := by
  cases n <;> rfl

lemma parseTags_render {n : Nat} {tags : List (List Char × List Char)} {tail : List Char}
    (hkeys : ∀ t ∈ tags, PlainKey t.1) (hn : tags.length ≤ n)
    (hread : ∀ t ∈ tags, ReadableTag t.2) :
    parseTags n (tags.flatMap renderTag ++ ' ' :: tail) = some (tags, ' ' :: tail) := by
  induction tags generalizing n with
  | nil => exact parseTags_blank n tail
  | cons t tags ih =>
    obtain ⟨n, rfl⟩ : ∃ m, n = m + 1 := exists_eq_add_one.2 (by simp at hn; omega)
    obtain ⟨hne, hlast⟩ := hread t mem_cons_self
    obtain ⟨c, rest, htext, hstop, -⟩ := exists_stop_tags tags tail
    have hscan : componentEscaping.scan (componentEscaping.escape t.2 ++ c :: rest) =
      (t.2, c :: rest) := scan_escape hstop (.inr hlast)
    have hrest := ih (n := n) (fun u hu => hkeys u (mem_cons_of_mem _ hu)) (by simpa using hn)
      fun u hu => hread u (mem_cons_of_mem _ hu)
    rw [htext] at hrest
    rw [flatMap_cons, append_assoc, htext, parseTags_cons (hkeys t mem_cons_self), hscan,
      if_neg hne, hrest]
    rfl

lemma readable_of_parseTags {n : Nat} {tags : List (List Char × List Char)} {tail : List Char}
    {rest : List Char} (hkeys : ∀ t ∈ tags, PlainKey t.1) (hn : tags.length ≤ n)
    (hparse : parseTags n (tags.flatMap renderTag ++ ' ' :: tail) = some (tags, rest)) :
    ∀ t ∈ tags, ReadableTag t.2 := by
  induction tags generalizing n rest with
  | nil => simp
  | cons t tags ih =>
    obtain ⟨n, rfl⟩ : ∃ m, n = m + 1 := exists_eq_add_one.2 (by simp at hn; omega)
    obtain ⟨c, text, htext, hstop, -⟩ := exists_stop_tags tags tail
    rw [flatMap_cons, append_assoc, htext, parseTags_cons (hkeys t mem_cons_self)] at hparse
    split at hparse
    · cases hparse
    · rename_i hne
      rw [Option.map_eq_some_iff] at hparse
      obtain ⟨⟨tags', rest'⟩, hparse, hsame⟩ := hparse
      simp only [Prod.mk.injEq, List.cons.injEq] at hsame
      obtain ⟨⟨hvalue, rfl⟩, rfl⟩ := hsame
      have hvalue : (componentEscaping.scan (componentEscaping.escape t.2 ++ c :: text)).1 = t.2 :=
        congrArg Prod.snd hvalue
      -- the value came back, so it does not end in a backslash, and the rest is where it was
      -- written
      have hlast : t.2.getLast? ≠ some '\\' := (scan_escape_iff rfl hstop).1 hvalue
      rw [hvalue] at hne
      rw [scan_escape hstop (.inr hlast), ← htext] at hparse
      have htags := ih (fun u hu => hkeys u (mem_cons_of_mem _ hu)) (by simpa using hn) hparse
      intro u hu
      rcases mem_cons.1 hu with rfl | hu
      · exact ⟨hne, hlast⟩
      · exact htags u hu

/-! ## Reading points back -/

/-- A point whose keys the writer chose and that has a field. -/
structure Point.WellKeyed (p : Point) : Prop where
  tags : ∀ t ∈ p.tags, PlainKey t.1
  fields : ∀ f ∈ p.fields, PlainKey f.1
  nonempty : p.fields ≠ []

/-- A point that can be read back from its line. -/
structure Point.Readable (p : Point) : Prop where
  measurement_ne_nil : p.measurement ≠ []
  measurement_head : p.measurement.head? ≠ some '#'
  measurement_last : p.measurement.getLast? ≠ some '\\'
  tags : ∀ t ∈ p.tags, ReadableTag t.2

lemma parseTimestamp_render (timestamp : Option Int) :
    parseTimestamp (renderTimestamp timestamp) = some timestamp := by
  cases timestamp with
  | none => rfl
  | some t => rw [renderTimestamp, parseTimestamp, parseInt_repr]; rfl

lemma endsFields_renderTimestamp (timestamp : Option Int) :
    EndsFields (renderTimestamp timestamp) := by
  cases timestamp with
  | none => intro c hc; cases hc
  | some t => intro c hc; cases hc; rfl

variable {p : Point}

lemma head?_render (hne : p.measurement ≠ []) : (render p).head? = some '#' ↔
    p.measurement.head? = some '#' := by
  obtain ⟨c, cs, hcs⟩ := exists_cons_of_ne_nil hne
  rw [render, hcs]
  cases hc : measurementEscaping.escaped c with
  | true =>
    have hhash : c ≠ '#' := by
      rintro rfl
      exact absurd hc (by decide)
    rw [escape_cons_of_escaped hc]
    simpa using ⟨fun h => absurd h (by decide), fun h => absurd h hhash⟩
  | false =>
    rw [escape_cons_of_plain hc]
    simp

lemma length_le_length_render (p : Point) :
    p.tags.length ≤ (render p).length ∧ p.fields.length ≤ (render p).length := by
  have htags : p.tags.length ≤ (p.tags.flatMap renderTag).length :=
    length_le_length_flatMap (fun _ => cons_ne_nil _ _) p.tags
  have hfields : (p.fields.map renderField).length ≤
      ([','].intercalate (p.fields.map renderField)).length := by
    refine length_le_length_intercalate fun x hx => ?_
    obtain ⟨f, -, rfl⟩ := mem_map.1 hx
    simp [renderField]
  rw [length_map] at hfields
  simp only [render, length_append, length_cons]
  omega

lemma parse_render (h : p.WellKeyed) (hread : p.Readable) : parse (render p) = some p := by
  obtain ⟨htagFuel, hfieldFuel⟩ := length_le_length_render p
  have hhead : (render p).head? ≠ some '#' := by
    rw [Ne, head?_render hread.measurement_ne_nil]
    exact hread.measurement_head
  obtain ⟨c, rest, htext, -, hstop⟩ :=
    exists_stop_tags p.tags ([','].intercalate _ ++ renderTimestamp _)
  have hscan : measurementEscaping.scan (render p) = (p.measurement, c :: rest) := by
    rw [render, htext]
    exact scan_escape hstop (.inr hread.measurement_last)
  have htags : parseTags (render p).length (p.tags.flatMap renderTag ++
      ' ' :: ([','].intercalate (p.fields.map renderField) ++ renderTimestamp p.timestamp)) =
        some
          (p.tags,
            ' ' :: ([','].intercalate (p.fields.map renderField) ++ renderTimestamp p.timestamp)) :=
    parseTags_render h.tags htagFuel hread.tags
  have hfields := parseFields_render h.nonempty h.fields hfieldFuel
    (endsFields_renderTimestamp p.timestamp)
  rw [parse, if_neg hhead]
  simp only [hscan, if_neg hread.measurement_ne_nil, ← htext, htags, Option.bind_some, hfields,
    parseTimestamp_render, Option.map_some]

lemma parse_eq_some {line : List Char} {p : Point} (h : parse line = some p) :
    line.head? ≠ some '#' ∧ p.measurement ≠ [] ∧ (measurementEscaping.scan line).1 = p.measurement ∧
      ∃ rest, parseTags line.length (measurementEscaping.scan line).2 = some (p.tags, rest) := by
  rw [parse] at h
  split at h
  · cases h
  rename_i hhead
  dsimp only at h
  split at h
  · cases h
  rename_i hne
  rw [Option.bind_eq_some_iff] at h
  obtain ⟨⟨tags, text⟩, htags, h⟩ := h
  -- only a blank may follow the tags
  split at h
  · rename_i tags' text' hpair
    obtain ⟨rfl, rfl⟩ := Prod.mk.inj hpair
    rw [Option.bind_eq_some_iff] at h
    obtain ⟨⟨fields, rest⟩, -, h⟩ := h
    rw [Option.map_eq_some_iff] at h
    obtain ⟨timestamp, -, rfl⟩ := h
    exact ⟨hhead, hne, rfl, _, htags⟩
  · cases h

lemma readable_of_parse (h : p.WellKeyed) (hparse : parse (render p) = some p) : p.Readable := by
  obtain ⟨hhead, hne, hmeasurement, rest, htags⟩ := parse_eq_some hparse
  obtain ⟨c, tail, htext, -, hstop⟩ :=
    exists_stop_tags p.tags ([','].intercalate _ ++ renderTimestamp _)
  have hline : render p = measurementEscaping.escape p.measurement ++ c :: tail := by
    rw [render, htext]
  have hlast : p.measurement.getLast? ≠ some '\\' := by
    rw [hline] at hmeasurement
    exact (scan_escape_iff rfl hstop).1 hmeasurement
  -- with the measurement read in full, the tags were read from where they stand
  have hscan : measurementEscaping.scan (render p) = (p.measurement, c :: tail) := by
    rw [hline]
    exact scan_escape hstop (.inr hlast)
  rw [hscan, ← htext] at htags
  exact
    { measurement_ne_nil := hne
      measurement_head := fun hhash => hhead ((head?_render hne).2 hhash)
      measurement_last := hlast
      tags := readable_of_parseTags h.tags (length_le_length_render p).1 htags }

lemma parse_render_iff (h : p.WellKeyed) : parse (render p) = some p ↔ p.Readable :=
  ⟨readable_of_parse h, parse_render h⟩

/-! ## Many points, one a line -/

def lines (text : List Char) : List (List Char) :=
  if text = [] then [] else text.splitOn '\n'

/-- A point without a line break in a text of its own. -/
structure Point.OneLine (p : Point) : Prop where
  measurement : '\n' ∉ p.measurement
  tags : ∀ t ∈ p.tags, '\n' ∉ t.2
  fields : ∀ f ∈ p.fields, ∀ value, f.2 = .text value → '\n' ∉ value

lemma newline_mem_escape {text : List Char} {E : Escaping Char} (hesc : E.esc = '\\') :
  '\n' ∈ E.escape text ↔ '\n' ∈ text := mem_escape (by rw [hesc]; decide)

lemma newline_mem_fieldValue {v : FieldValue} : '\n' ∈ v.render ↔
    ∃ value, v = .text value ∧ '\n' ∈ value := by
  by_cases hv : v.isToken = true
  · refine ⟨fun h => absurd (isTokenChar_of_mem_render hv h) (by decide), ?_⟩
    rintro ⟨value, rfl, -⟩
    exact Bool.noConfusion hv
  · cases v with
    | text value => simp [FieldValue.render, newline_mem_escape (E := quotedEscaping) rfl]
    | _ => exact absurd rfl hv

lemma newline_not_mem_timestamp (timestamp : Option Int) : '\n' ∉ renderTimestamp timestamp := by
  cases timestamp with
  | none => exact not_mem_nil
  | some t =>
    intro h
    rw [renderTimestamp, mem_cons] at h
    rcases h with h | h
    · exact absurd h (by decide)
    · exact absurd (isTokenChar_of_mem_repr h) (by decide)

lemma newline_mem_renderTag {t : List Char × List Char} (hkey : PlainKey t.1) : '\n' ∈ renderTag t ↔
    '\n' ∈ t.2 := by
  have hnot : '\n' ∉ t.1 := hkey.not_mem (by decide)
  simp [renderTag, newline_mem_escape (E := componentEscaping) rfl, hnot]

lemma newline_mem_renderField {f : List Char × FieldValue} (hkey : PlainKey f.1) :
    '\n' ∈ renderField f ↔ ∃ value, f.2 = .text value ∧ '\n' ∈ value := by
  have hnot : '\n' ∉ f.1 := hkey.not_mem (by decide)
  simp [renderField, newline_mem_escape (E := componentEscaping) rfl, hnot, newline_mem_fieldValue]

lemma newline_not_mem_render_iff (h : p.WellKeyed) : '\n' ∉ render p ↔ p.OneLine := by
  have htags : '\n' ∈ p.tags.flatMap renderTag ↔ ∃ t ∈ p.tags, '\n' ∈ t.2 := by
    rw [mem_flatMap]
    exact exists_congr fun t => and_congr_right fun ht => newline_mem_renderTag (h.tags t ht)
  have hfields : '\n' ∈ [','].intercalate (p.fields.map renderField) ↔
      ∃ f ∈ p.fields, ∃ value, f.2 = .text value ∧ '\n' ∈ value := by
    rw [mem_intercalate (by decide)]
    simp only [mem_map, exists_exists_and_eq_and]
    exact exists_congr fun f => and_congr_right fun hf => newline_mem_renderField (h.fields f hf)
  have hrender : '\n' ∈ render p ↔ '\n' ∈ p.measurement ∨ (∃ t ∈ p.tags, '\n' ∈ t.2) ∨
      ∃ f ∈ p.fields, ∃ value, f.2 = .text value ∧ '\n' ∈ value := by
    simp [render, newline_mem_escape (E := measurementEscaping) rfl, ← htags, ← hfields,
      newline_not_mem_timestamp]
  rw [hrender]
  constructor
  · intro hnot
    exact
      { measurement := fun hm => hnot (.inl hm)
        tags := fun t ht hmem => hnot (.inr (.inl ⟨t, ht, hmem⟩))
        fields := fun f hf value hvalue hmem => hnot (.inr (.inr ⟨f, hf, value, hvalue, hmem⟩)) }
  · rintro hone (hm | ⟨t, ht, hmem⟩ | ⟨f, hf, value, hvalue, hmem⟩)
    · exact hone.measurement hm
    · exact hone.tags t ht hmem
    · exact hone.fields f hf value hvalue hmem

def renderLines (ps : List Point) : List Char := ['\n'].intercalate (ps.map render)

lemma render_ne_nil (p : Point) : render p ≠ [] := by
  simp [render]

lemma renderLines_eq_nil {ps : List Point} : renderLines ps = [] ↔ ps = [] := by
  cases ps with
  | nil => simp [renderLines]
  | cons p ps =>
    cases ps with
    | nil => simp [renderLines, render_ne_nil]
    | cons q ps => simp [renderLines, intercalate_cons_cons, render_ne_nil]

lemma lines_renderLines {ps : List Point} (h : ∀ p ∈ ps, '\n' ∉ render p) :
    lines (renderLines ps) = ps.map render := by
  rw [lines]
  split
  · rename_i hnil
    rw [renderLines_eq_nil.1 hnil]
    rfl
  · rename_i hne
    have hmap : ps.map render ≠ [] := fun hnil => hne (renderLines_eq_nil.2 (map_eq_nil_iff.1 hnil))
    refine splitOn_intercalate '\n' ?_ hmap
    intro line hline
    obtain ⟨p, hp, rfl⟩ := mem_map.1 hline
    exact h p hp

lemma length_lines_renderLines (ps : List Point) :
    (lines (renderLines ps)).length = ps.length + (ps.flatMap render).count '\n' := by
  cases ps with
  | nil => rfl
  | cons p ps =>
    have hne : renderLines (p :: ps) ≠ [] := fun hnil => cons_ne_nil _ _ (renderLines_eq_nil.1 hnil)
    rw [lines, if_neg hne, length_splitOn, renderLines, map_cons, count_intercalate, flatMap_def,
      map_cons, length_map, length_cons]
    omega

lemma map_parse_lines_iff {ps : List Point} (h : ∀ p ∈ ps, p.WellKeyed) :
    (lines (renderLines ps)).map parse = ps.map some ↔ ∀ p ∈ ps, p.Readable ∧ p.OneLine := by
  constructor
  · intro hparse
    -- as many lines as points leave no line break inside a point
    have hlength : (lines (renderLines ps)).length = ps.length := by
      simpa using congrArg List.length hparse
    rw [length_lines_renderLines, add_eq_left, count_eq_zero] at hlength
    have hbreak : ∀ p ∈ ps, '\n' ∉ render p := fun p hp hmem =>
      hlength (mem_flatMap.2 ⟨p, hp, hmem⟩)
    rw [lines_renderLines hbreak, map_map, map_inj_left] at hparse
    intro p hp
    exact ⟨(parse_render_iff (h p hp)).1 (hparse p hp), (newline_not_mem_render_iff (h p hp)).1
      (hbreak p hp)⟩
  · intro hgood
    have hbreak : ∀ p ∈ ps, '\n' ∉ render p := fun p hp =>
      (newline_not_mem_render_iff (h p hp)).2 (hgood p hp).2
    rw [lines_renderLines hbreak, map_map, map_inj_left]
    intro p hp
    exact parse_render (h p hp) (hgood p hp).1

end MarlinspikeDpi.LineProtocol
