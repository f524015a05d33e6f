import MarlinspikeDpi.Output.ZeekRows

/-!
# Events as Zeek JSON logs

The model of the two public renderers of `output/zeek.rs`.

* `rows_complete_iff`: when a transaction has both of its rows.
-/

namespace MarlinspikeDpi.Zeek

open Text List Event Row

/-! ## The renderers -/

def zeekNativeProtocols : List String :=
  ["dns", "http", "ssl", "tls", "ssh", "modbus", "dnp3", "smb2", "kerberos", "ldap", "dhcp", "ntp",
    "snmp", "rdp"]

def isZeekNative (proto : String) : Bool :=
  zeekNativeProtocols.any fun n => toAsciiLowercase proto == n || startsWith n
    (toAsciiLowercase proto)

def Event.protoLower (e : Event) : String := toAsciiLowercase (e.envelope.protocol.getD "")

def pushRow (out : String) (row : Row) : String :=
  (out ++ String.ofList (Json.ofMap row).render).push '\n'

section

variable [Locale]

/-- The protocol row of a transaction, as `render_event` chooses it. -/
def txRow (e : Event) (tx : ProtocolTransaction) : Option Row :=
  if e.protoLower = "dns" then some (renderDns e tx)
  else if e.protoLower = "http" then some (renderHttp e tx)
  else if e.protoLower = "ssl" ∨ e.protoLower = "tls" then some (renderSsl e tx)
  else if e.protoLower = "ssh" then some (renderSsh e tx)
  else if e.protoLower = "modbus" then some (renderModbus e tx)
  else if e.protoLower = "dnp3" then some (renderDnp3 e tx)
  else if startsWith "smb" e.protoLower then some (renderSmb e tx)
  else if e.protoLower = "kerberos" then some (renderKerberos e tx)
  else if e.protoLower = "ldap" then some (renderLdap e tx)
  else if e.protoLower = "dhcp" then some (renderDhcp e tx)
  else if e.protoLower = "ntp" then some (renderNtp e tx)
  else if e.protoLower = "snmp" then some (renderSnmp e tx)
  else if e.protoLower = "rdp" then some (renderRdp e tx)
  else if e.protoLower ≠ "" ∧ isZeekNative e.protoLower = false then some (renderIcs e tx)
  else none

def Event.rows? (e : Event) : Option (List Row) :=
  match e.family with
  | .protocolTransaction tx => some (renderConn e :: (txRow e tx).toList)
  | .assetObservation obs => some [renderSoftware e obs]
  | .parseAnomaly an => some [renderWeird e an]
  | .processReading _ | .extractedArtifact _ | .topologyObservation _ => none

def renderEvent (e : Event) : Option String :=
  match e.rows? with
  | none => none
  | some rows =>
    if rows.isEmpty then none
    else
      let out := rows.foldl pushRow ""
      if out.isEmpty then none else some out

/-- The choice of the protocol row, as `render_many` repeats it. -/
def txRowMany (e : Event) (tx : ProtocolTransaction) : Option Row :=
  if e.protoLower = "dns" then some (renderDns e tx)
  else if e.protoLower = "http" then some (renderHttp e tx)
  else if e.protoLower = "ssl" ∨ e.protoLower = "tls" then some (renderSsl e tx)
  else if e.protoLower = "ssh" then some (renderSsh e tx)
  else if e.protoLower = "modbus" then some (renderModbus e tx)
  else if e.protoLower = "dnp3" then some (renderDnp3 e tx)
  else if startsWith "smb" e.protoLower then some (renderSmb e tx)
  else if e.protoLower = "kerberos" then some (renderKerberos e tx)
  else if e.protoLower = "ldap" then some (renderLdap e tx)
  else if e.protoLower = "dhcp" then some (renderDhcp e tx)
  else if e.protoLower = "ntp" then some (renderNtp e tx)
  else if e.protoLower = "snmp" then some (renderSnmp e tx)
  else if e.protoLower = "rdp" then some (renderRdp e tx)
  else if e.protoLower ≠ "" ∧ isZeekNative e.protoLower = false then some (renderIcs e tx)
  else none

/-- The state of the loop: the session keys that have their connection row, and the output. -/
structure Progress where
  seenSessions : List String
  out : String

def Progress.step (p : Progress) (e : Event) : Progress :=
  match e.family with
  | .protocolTransaction tx =>
    let key := e.envelope.sessionKey
    let isNewSession := !p.seenSessions.contains key
    let seen := if isNewSession then key :: p.seenSessions else p.seenSessions
    let out := if isNewSession then pushRow p.out (renderConn e) else p.out
    match txRowMany e tx with
    | some row => ⟨seen, pushRow out row⟩
    | none => ⟨seen, out⟩
  | _ =>
    match renderEvent e with
    | some rendered => ⟨p.seenSessions, p.out ++ rendered⟩
    | none => p

def renderMany (events : List Event) : String := (events.foldl Progress.step ⟨[], ""⟩).out

end

/-! ## The text of some rows -/

def text (rows : List Row) : String := rows.foldl pushRow ""

def rowLines (s : String) : List (List Char) := (s.toList.splitOn '\n').dropLast

def rowText (row : Row) : List Char := (Json.ofMap row).render

lemma toList_foldl_pushRow (rows : List Row) (out : String) :
    (rows.foldl pushRow out).toList = out.toList ++ (rows.map rowText).flatMap (· ++ ['\n']) := by
  induction rows generalizing out with
  | nil => simp
  | cons row rows ih =>
    rw [foldl_cons, ih]
    simp [pushRow, rowText]

lemma toList_text (rows : List Row) : (text rows).toList = (rows.map rowText).flatMap
    (· ++ ['\n']) := by
  rw [text, toList_foldl_pushRow]
  rfl

lemma append_text (out : String) (rows : List Row) : out ++ text rows = rows.foldl pushRow out := by
  apply String.toList_inj.1
  rw [String.toList_append, toList_text, toList_foldl_pushRow]

lemma rowLines_text (rows : List Row) : rowLines (text rows) = rows.map rowText := by
  have hone : ∀ line ∈ rows.map rowText, '\n' ∉ line := by
    intro line hline
    obtain ⟨row, -, rfl⟩ := mem_map.1 hline
    exact Json.newline_not_mem_render _
  rw [rowLines, toList_text, Separated.splitOn_terminated hone, dropLast_concat]

lemma text_isEmpty {rows : List Row} (h : rows ≠ []) : (text rows).isEmpty = false := by
  obtain ⟨row, rows, rfl⟩ := exists_cons_of_ne_nil h
  rw [← Bool.not_eq_true, String.isEmpty_iff, ← String.toList_eq_nil_iff, toList_text]
  simp

/-! ## The protocol logs -/

def nativeLogs : List (String × String) :=
  [("dns", "dns"), ("http", "http"), ("ssl", "ssl"), ("tls", "ssl"), ("ssh", "ssh"),
    ("modbus", "modbus"),
    ("dnp3", "dnp3"), ("kerberos", "kerberos"), ("ldap", "ldap"), ("dhcp", "dhcp"), ("ntp", "ntp"),
    ("snmp", "snmp"), ("rdp", "rdp")]

/-- The log of a protocol that has a renderer of its own; there are two for file sharing. -/
def nativeLog? (tx : ProtocolTransaction) (name : String) : Option String :=
  if startsWith "smb" name then some (if isMapping tx then "smb_mapping" else "smb_files")
  else nativeLogs.lookup name

def logOf (tx : ProtocolTransaction) (name : String) : String := (nativeLog? tx name).getD "ics"

def LeftOut (name : String) : Prop :=
  startsWith "smb" name = false ∧ nativeLogs.lookup name = none ∧
    ∃ n ∈ zeekNativeProtocols, startsWith n name = true

instance (name : String) : Decidable (LeftOut name) := inferInstanceAs (Decidable (_ ∧ _ ∧ _))

lemma startsWith_smb_of_mem_nativeLogs {name log : String} (h : (name, log) ∈ nativeLogs) :
    startsWith "smb" name = false := by
  have hall : ∀ entry ∈ nativeLogs, startsWith "smb" entry.1 = false := by decide
  exact hall (name, log) h

lemma toLower_toLower (c : Char) : c.toLower.toLower = c.toLower := by
  by_cases hupper : c.val ≥ 'A'.val ∧ c.val ≤ 'Z'.val
  · have hval : c.toLower.val = c.val + ('a'.val - 'A'.val) := congrArg Char.val (dif_pos hupper)
    refine dif_neg ?_
    rintro ⟨-, hle⟩
    have hfirst := UInt32.le_iff_toNat_le.1 hupper.1
    have hlast := UInt32.le_iff_toNat_le.1 hupper.2
    rw [hval, UInt32.le_iff_toNat_le] at hle
    simp at hfirst hlast hle
    omega
  · exact congrArg Char.toLower (dif_neg hupper)

lemma toAsciiLowercase_idem (s : String) :
    toAsciiLowercase (toAsciiLowercase s) = toAsciiLowercase s := by
  simp only [toAsciiLowercase, String.toList_ofList, map_map, Function.comp_def, toLower_toLower]

lemma isZeekNative_protoLower (e : Event) :
    isZeekNative e.protoLower = true ↔
      ∃ n ∈ zeekNativeProtocols, startsWith n e.protoLower = true := by
  have hself : ∀ n : String, startsWith n n = true := by simp [startsWith]
  have hlower : toAsciiLowercase e.protoLower = e.protoLower := toAsciiLowercase_idem _
  rw [isZeekNative, any_eq_true, hlower]
  refine exists_congr fun n => and_congr_right fun _ => ?_
  rw [Bool.or_eq_true, beq_iff_eq]
  constructor
  · rintro (hsame | hstart)
    · rw [hsame]
      exact hself n
    · exact hstart
  · exact Or.inr

lemma protoLower_ne_empty {e : Event} (h : e.envelope.protocol.getD "" ≠ "") :
    e.protoLower ≠ "" := by
  intro hempty
  apply h
  have hchars : (toAsciiLowercase (e.envelope.protocol.getD "")).toList = [] := by
    rw [← protoLower, hempty]
    rfl
  rw [toAsciiLowercase, String.toList_ofList, map_eq_nil_iff] at hchars
  exact String.toList_eq_nil_iff.1 hchars

lemma logOf_ne_conn (tx : ProtocolTransaction) (name : String) : logOf tx name ≠ "conn" := by
  have hall : ∀ entry ∈ nativeLogs, entry.2 ≠ "conn" := by decide
  rw [logOf, nativeLog?]
  split
  · split <;> simp
  · cases hlog : nativeLogs.lookup name with
    | none => simp
    | some log =>
      obtain ⟨before, after, hsplit, -⟩ := lookup_eq_some_iff.1 hlog
      exact hall (name, log) (by rw [hsplit]; simp)

section

variable [Locale] (e : Event)

lemma path_renderSmb (tx : ProtocolTransaction) :
    path (renderSmb e tx) = some (if isMapping tx then "smb_mapping" else "smb_files") := by
  rw [renderSmb]
  split <;> exact path_row _ _ (by simp)

lemma path_renderModbus (tx : ProtocolTransaction) : path (renderModbus e tx) = some "modbus" := by
  have htyped : ∀ m, "_path" ∉ (modbusTyped m).map Prod.fst := by
    intro m
    rw [modbusTyped]
    cases m.startAddr <;> cases m.qty <;> split <;> simp
  rw [renderModbus]
  refine path_row _ _ ?_
  split
  · exact htyped _
  · exact htyped _
  · simp

lemma path_renderDnp3 (tx : ProtocolTransaction) : path (renderDnp3 e tx) = some "dnp3" := by
  refine path_row _ _ ?_
  split
  · split <;> split <;> simp
  · simp

lemma path_renderIcs (tx : ProtocolTransaction) : path (renderIcs e tx) = some "ics" := by
  have hpayload : ∀ fields : List (String × Json),
      "_path" ∉ (fields.map fun f => ("pf_" ++ f.1, f.2)).map Prod.fst := by
    intro fields hmem
    rw [map_map, mem_map] at hmem
    obtain ⟨f, -, hkey⟩ := hmem
    have hchars := congrArg String.toList hkey
    simp at hchars
  rw [renderIcs]
  refine path_row _ _ ?_
  rw [map_append, mem_append, not_or]
  refine ⟨?_, hpayload _⟩
  cases tx.requestSummary <;> cases tx.responseSummary <;> split <;> split <;> simp

variable {e} {tx : ProtocolTransaction}

lemma path_txRow_native {name log : String} (h : (name, log) ∈ nativeLogs)
    (hname : e.protoLower = name) : (txRow e tx).map path = some (some log) := by
  have hsmb : startsWith "smb" name = false := startsWith_smb_of_mem_nativeLogs h
  simp only [nativeLogs, mem_cons, Prod.mk.injEq, not_mem_nil, or_false] at h
  rcases h with ⟨rfl, rfl⟩ | ⟨rfl, rfl⟩ | ⟨rfl, rfl⟩ | ⟨rfl, rfl⟩ | ⟨rfl, rfl⟩ | ⟨rfl, rfl⟩ | ⟨rfl,
    rfl⟩ | ⟨rfl, rfl⟩ | ⟨rfl, rfl⟩ | ⟨rfl, rfl⟩ | ⟨rfl, rfl⟩ | ⟨rfl, rfl⟩ | ⟨rfl, rfl⟩ <;>
    simp only [txRow, hname, hsmb, String.reduceEq, if_true, if_false, or_true, or_false,
      Option.map_some, Option.some.injEq, path_renderModbus, path_renderDnp3, Bool.false_eq_true]
  all_goals exact path_row _ _ (by simp)

variable (tx)

lemma txRow_of_lookup_eq_none (h : nativeLogs.lookup e.protoLower = none) : txRow e tx =
      if startsWith "smb" e.protoLower then some (renderSmb e tx)
      else if e.protoLower ≠ "" ∧ isZeekNative e.protoLower = false then some (renderIcs e tx)
      else none := by
  rw [lookup_eq_none_iff] at h
  simp only [nativeLogs, forall_mem_cons, bne_iff_ne, ne_eq] at h
  simp only [txRow, h, if_false, or_self]

lemma path_txRow (hname : e.protoLower ≠ "") : (txRow e tx).map path =
      if LeftOut e.protoLower then none else some (some (logOf tx e.protoLower)) := by
  -- the chain compares with the names of the table, and with one start that none of them has
  cases hlog : nativeLogs.lookup e.protoLower with
  | some log =>
    have hmem : (e.protoLower, log) ∈ nativeLogs := by
      obtain ⟨before, after, hsplit, -⟩ := lookup_eq_some_iff.1 hlog
      rw [hsplit]
      simp
    have hleft : ¬ LeftOut e.protoLower := by
      rintro ⟨-, hnone, -⟩
      rw [hlog] at hnone
      cases hnone
    have hsmb : startsWith "smb" e.protoLower = false := startsWith_smb_of_mem_nativeLogs hmem
    rw [if_neg hleft, path_txRow_native hmem rfl, logOf, nativeLog?, hsmb, hlog]
    rfl
  | none =>
    rw [txRow_of_lookup_eq_none tx hlog]
    cases hsmb : startsWith "smb" _ with
    | true =>
      have hleft : ¬ LeftOut e.protoLower := by
        rintro ⟨hnot, -⟩
        rw [hsmb] at hnot
        cases hnot
      rw [if_neg hleft, logOf, nativeLog?, hsmb]
      simp [path_renderSmb]
    | false =>
      have hlogOf : logOf tx e.protoLower = "ics" := by
        rw [logOf, nativeLog?, hsmb, hlog]
        rfl
      have hleft : LeftOut e.protoLower ↔ isZeekNative e.protoLower = true := by
        rw [isZeekNative_protoLower]
        exact ⟨fun h => h.2.2, fun h => ⟨hsmb, hlog, h⟩⟩
      rw [hlogOf]
      cases hnative : isZeekNative _ with
      | true => simp [hleft, hnative]
      | false => simp [hleft, hnative, hname, path_renderIcs]

variable {row : Row} {e : Event} {tx : ProtocolTransaction} {p : Progress}

lemma path_ne_conn_of_txRow (h : txRow e tx = some row) : row.path ≠ some "conn" := by
  have hname : e.protoLower ≠ "" := by
    intro hempty
    have hnone : nativeLogs.lookup e.protoLower = none := by rw [hempty]; decide
    have hsmb : startsWith "smb" e.protoLower = false := by rw [hempty]; decide
    rw [txRow_of_lookup_eq_none tx hnone, hsmb, hempty] at h
    simp at h
  have hpath := path_txRow tx hname
  rw [h] at hpath
  split at hpath
  · cases hpath
  · rw [Option.some.inj hpath]
    exact fun hconn => logOf_ne_conn _ _ (Option.some.inj hconn)

/-! ## Whole events -/

def Event.rows (e : Event) : List Row := e.rows?.getD []

lemma rows?_ne_nil {rows : List Row} (h : e.rows? = some rows) : rows ≠ [] := by
  rw [rows?] at h
  split at h <;> cases h <;> simp

lemma renderEvent_eq (e : Event) : renderEvent e = e.rows?.map text := by
  rw [renderEvent]
  cases hrows : e.rows? with
  | none => rfl
  | some rows =>
    have hne : rows ≠ [] := rows?_ne_nil hrows
    have hempty : rows.isEmpty = false := by simpa using hne
    have hout : (rows.foldl pushRow "").isEmpty = false := text_isEmpty hne
    simp only [hempty, hout, Bool.false_eq_true, if_false]
    rfl

/-! ## Many events -/

def Row.isConn (row : Row) : Bool := row.path == some "conn"

def connKeys (events : List Event) : List String :=
  (events.filter fun e => e.rows.any Row.isConn).map fun e => e.envelope.sessionKey

variable (before : List Event)

/-- The rows of an event without a connection row whose session key had one before. -/
def keptRows (e : Event) : List Row :=
  e.rows.filter fun row => !(row.isConn && (connKeys before).contains e.envelope.sessionKey)

def withoutRepeats : List Event → List Event → List Row
  | _, [] => []
  | before, e :: events => keptRows before e ++ withoutRepeats (before ++ [e]) events

lemma txRowMany_eq (e : Event) (tx : ProtocolTransaction) : txRowMany e tx = txRow e tx := rfl

/-- The loop has seen the session keys of the connection rows so far. -/
def Progress.Seen (p : Progress) (before : List Event) : Prop := ∀ key, key ∈ p.seenSessions ↔
    key ∈ connKeys before

lemma connKeys_concat (e : Event) :
    connKeys (before ++ [e]) = connKeys before ++ if e.rows.any isConn then [e.envelope.sessionKey]
      else [] := by
  rw [connKeys, filter_append]
  cases h : e.rows.any _ <;> simp [connKeys, h]

lemma rows_transaction (h : e.family = .protocolTransaction tx) :
    e.rows = renderConn e :: (txRow e tx).toList := by
  rw [rows, rows?, h]
  rfl

lemma path_renderConn (e : Event) : (renderConn e).path = some "conn" := path_row _ _ (by simp)

lemma isConn_renderConn (e : Event) : (renderConn e).isConn = true := by
  rw [isConn, path_renderConn]
  rfl

lemma isConn_of_mem_rows (h : ∀ tx, e.family ≠ .protocolTransaction tx) (hrow : row ∈ e.rows) :
    row.isConn = false := by
  rw [rows, rows?] at hrow
  split at hrow
  · rename_i tx htx
    exact absurd htx (h tx)
  · rename_i obs _
    obtain rfl : row = renderSoftware e obs := by simpa using hrow
    have hpath : (renderSoftware e obs).path = some "software" := by
      refine path_startRow _ ?_
      cases obs.hostnames <;> simp [stampFields]
    rw [isConn, hpath]
    decide
  · rename_i an _
    obtain rfl : row = renderWeird e an := by simpa using hrow
    have hpath : (renderWeird e an).path = some "weird" :=
      path_startRow _ (by simp [stampFields, idFields])
    rw [isConn, hpath]
    decide
  all_goals exact absurd hrow not_mem_nil

variable {before}

lemma keptRows_transaction (h : e.family = .protocolTransaction tx) : keptRows before e =
      (if (connKeys before).contains e.envelope.sessionKey then [] else [renderConn e]) ++
        (txRow e tx).toList := by
  have hproto : ∀ row ∈ (txRow e tx).toList, row.isConn = false := by
    intro row hrow
    have hne : row.path ≠ some "conn" := path_ne_conn_of_txRow (Option.mem_toList.1 hrow)
    rw [isConn, beq_eq_false_iff_ne]
    exact hne
  have hkept : (txRow e tx).toList.filter
      (fun row => !(row.isConn && (connKeys before).contains e.envelope.sessionKey)) =
        (txRow e tx).toList := by
    rw [filter_eq_self]
    intro row hrow
    rw [hproto row hrow]
    rfl
  rw [keptRows, rows_transaction h, filter_cons, hkept, isConn_renderConn]
  cases (connKeys before).contains e.envelope.sessionKey <;> rfl

lemma keptRows_other (h : ∀ tx, e.family ≠ .protocolTransaction tx) :
    keptRows before e = e.rows := by
  rw [keptRows, filter_eq_self]
  intro row hrow
  rw [isConn_of_mem_rows h hrow]
  rfl

lemma any_isConn_transaction (h : e.family = .protocolTransaction tx) :
    e.rows.any isConn = true := by
  rw [rows_transaction h, any_cons, isConn_renderConn, Bool.true_or]

lemma any_isConn_other (h : ∀ tx, e.family ≠ .protocolTransaction tx) :
    e.rows.any isConn = false := by
  rw [any_eq_false]
  intro row hrow
  rw [isConn_of_mem_rows h hrow]
  exact Bool.false_ne_true

lemma step_transaction (h : e.family = .protocolTransaction tx) : p.step e =
      { seenSessions :=
          if p.seenSessions.contains e.envelope.sessionKey then p.seenSessions
          else e.envelope.sessionKey :: p.seenSessions
        out := ((if p.seenSessions.contains e.envelope.sessionKey then [] else [renderConn e]) ++
          (txRow e tx).toList).foldl pushRow p.out } := by
  rw [Progress.step, h]
  simp only [txRowMany_eq]
  cases p.seenSessions.contains _ <;> cases txRow e tx <;> rfl

lemma step_other (h : ∀ tx, e.family ≠ .protocolTransaction tx) :
    p.step e = { seenSessions := p.seenSessions, out := e.rows.foldl pushRow p.out } := by
  have hround : p.step e = match renderEvent e with
      | some rendered => ⟨p.seenSessions, p.out ++ rendered⟩
      | none => p := by
    rw [Progress.step]
    split
    · rename_i tx htx
      exact absurd htx (h tx)
    · rfl
  -- what the event alone gives is appended as it is
  rw [hround, renderEvent_eq, rows]
  cases e.rows? with
  | none => rfl
  | some rows =>
    simp only [Option.map_some, append_text]
    rfl

lemma step_out (hseen : p.Seen before) (e : Event) :
    (p.step e).out = (keptRows before e).foldl pushRow p.out ∧ (p.step e).Seen (before ++ [e]) := by
  by_cases h : ∃ tx, e.family = .protocolTransaction tx
  · obtain ⟨tx, htx⟩ := h
    have hsame : p.seenSessions.contains e.envelope.sessionKey =
        (connKeys before).contains e.envelope.sessionKey := by
      rw [Bool.eq_iff_iff, contains_iff_mem, contains_iff_mem]
      exact hseen _
    rw [step_transaction htx, keptRows_transaction htx, hsame]
    refine ⟨rfl, fun key => ?_⟩
    rw [connKeys_concat, any_isConn_transaction htx]
    have hkey := hseen key
    cases hnew : (connKeys before).contains _ with
    | true =>
      -- the key is noted once more in the history, but not in the set
      have hmem : e.envelope.sessionKey ∈ connKeys before := contains_iff_mem.1 hnew
      simp only [if_true, mem_append, mem_singleton, hkey]
      exact ⟨Or.inl, fun hor => hor.elim id fun heq => heq ▸ hmem⟩
    | false => simp [hkey, or_comm]
  · rw [not_exists] at h
    rw [step_other h, keptRows_other h]
    refine ⟨rfl, fun key => ?_⟩
    rw [connKeys_concat, any_isConn_other h]
    simpa using hseen key

lemma out_foldl_step (hseen : p.Seen before) (events : List Event) :
    (events.foldl Progress.step p).out = (withoutRepeats before events).foldl pushRow p.out := by
  induction events generalizing p before with
  | nil => rfl
  | cons e events ih =>
    obtain ⟨hout, hnext⟩ := step_out hseen e
    rw [foldl_cons, ih hnext, hout, withoutRepeats, foldl_append]

lemma renderMany_eq (events : List Event) : renderMany events = text (withoutRepeats [] events) :=
  out_foldl_step (p := ⟨[], ""⟩) (fun _ => Iff.rfl) events

lemma getD_renderEvent (e : Event) : (renderEvent e).getD "" = text e.rows := by
  rw [renderEvent_eq, rows]
  cases e.rows? <;> rfl

lemma paths_transaction (hfamily : e.family = .protocolTransaction tx) (hname : e.protoLower ≠ "") :
    e.rows.map path = some "conn" :: if LeftOut e.protoLower then []
      else [some (logOf tx e.protoLower)] := by
  have hrow := path_txRow tx hname
  rw [rows_transaction hfamily, map_cons, path_renderConn, ← Option.toList_map, hrow]
  split <;> rfl

/-- The output for an event is its rows, one a line. A named transaction has a connection row and a
row in the log of its protocol, and no other, exactly when its name is not left out. -/
theorem rows_complete_iff (e : Event) (tx : ProtocolTransaction)
    (hfamily : e.family = .protocolTransaction tx) (hname : e.envelope.protocol.getD "" ≠ "")
    (events : List Event) :
    (renderEvent e = some (text e.rows) ∧ rowLines (text e.rows) = e.rows.map rowText) ∧
      (e.rows.map Row.path = [some "conn", some (logOf tx e.protoLower)] ↔ ¬ LeftOut e.protoLower) ∧
      (∀ e' ∈ events, (renderEvent e').getD "" = text e'.rows) ∧
      renderMany events = text (withoutRepeats [] events) := by
  have houtput : renderEvent e = some (text e.rows) := by
    rw [renderEvent_eq, rows, rows?, hfamily]
    rfl
  have hpaths : e.rows.map path = [some "conn", some (logOf tx e.protoLower)] ↔
      ¬ LeftOut e.protoLower := by
    rw [paths_transaction hfamily (protoLower_ne_empty hname)]
    by_cases hleft : LeftOut e.protoLower <;> simp [hleft]
  exact ⟨⟨houtput, rowLines_text e.rows⟩, hpaths, fun e' _ => getD_renderEvent e',
    renderMany_eq events⟩

end

def namedEvent (protocol : String) : Event where
  bronze := newEvent "capture"
    { timestamp := ⟨0⟩, interfaceId := 0, segmentHash := "", frameIndex := 0, sessionKey :=
      "session",
      srcMac := none, dstMac := none, srcIp := none, dstIp := none, srcPort := none, dstPort :=
        none,
      vlanId := none, transport := .tcp, protocol := some protocol, bytesCount := 0, packetCount :=
        0 }
    (.protocolTransaction
      { operation := "read", status := "ok", requestSummary := none, responseSummary := none,
        objectRefs := [], values := [], attributes := OrderedMap.empty, modbus := none })
  protocolFields := none

theorem modbus_complete :
    letI : Locale := Locale.sample
    (namedEvent "Modbus").rows.map path = [some "conn", some "modbus"] := by
  have hleft : ¬ LeftOut (namedEvent "Modbus").protoLower := by decide
  exact (@rows_complete_iff Locale.sample (namedEvent "Modbus") _ rfl (by decide) []).2.1.2 hleft

/-- The name that the decoder of DNP3 secure authentication gives its transactions. -/
theorem dnp3Sav5_leftOut :
    letI : Locale := Locale.sample
    (namedEvent "dnp3_sav5").rows.map path = [some "conn"] := by
  have hleft : LeftOut (namedEvent "dnp3_sav5").protoLower := by decide
  rw [@paths_transaction Locale.sample (namedEvent "dnp3_sav5") _ rfl (by decide), if_pos hleft]

end MarlinspikeDpi.Zeek
