import MarlinspikeDpi.Foundation.Bytes
import MarlinspikeDpi.Foundation.Framing
import MarlinspikeDpi.Foundation.Text

/-!
# NetBIOS framing and the SMB2 header

Messages are preceded by four bytes: a type and a length of three bytes.
-/

namespace MarlinspikeDpi.Smb2

open Bytes Text List

/-! ## NetBIOS framing -/

variable (buf : List UInt8)

def readU24Be : Nat := beNat (slice buf 1 3)

def netbiosNext : Option (List UInt8 × List UInt8) :=
  if buf.length < 4 then none
  else
    let total := 4 + readU24Be buf
    if buf.length < total then none else some ((buf.take total).drop 4, buf.drop total)

variable {buf}

lemma netbiosNext_eq_some {frame rest : List UInt8} (h : netbiosNext buf = some (frame, rest)) :
    4 + readU24Be buf ≤ buf.length ∧ frame = (buf.take (4 + readU24Be buf)).drop 4 ∧
      rest = buf.drop (4 + readU24Be buf) := by
  unfold netbiosNext at h
  dsimp only at h
  split at h
  · cases h
  · split at h
    · cases h
    · rename_i hlong
      cases h
      exact ⟨Nat.not_lt.1 hlong, rfl, rfl⟩

lemma netbiosNext_shrinks {frame rest : List UInt8} (h : netbiosNext buf = some (frame, rest)) :
    rest.length < buf.length := by
  obtain ⟨hlong, -, rfl⟩ := netbiosNext_eq_some h
  rw [length_drop]
  omega

lemma netbiosNext_append {frame rest : List UInt8} (more : List UInt8)
    (h : netbiosNext buf = some (frame, rest)) :
    netbiosNext (buf ++ more) = some (frame, rest ++ more) := by
  obtain ⟨hlong, rfl, rfl⟩ := netbiosNext_eq_some h
  have hlength : readU24Be (buf ++ more) = readU24Be buf :=
    congrArg beNat (slice_append_left (by omega))
  have hfour : ¬ (buf ++ more).length < 4 := by
    rw [length_append]
    omega
  have htotal : ¬ (buf ++ more).length < 4 + readU24Be buf := by
    rw [length_append]
    omega
  rw [netbiosNext, if_neg hfour, hlength]
  dsimp only
  rw [if_neg htotal, take_append_of_le_length hlong, drop_append_of_le_length hlong]

def netbios : Framing UInt8 := ⟨netbiosNext, netbiosNext_shrinks, netbiosNext_append⟩

lemma netbios_next (buf : List UInt8) : netbios.next buf = netbiosNext buf := rfl

/-! ## PDUs -/

def u16At (data : List UInt8) (i : Nat) : UInt16 := UInt16.ofNat (leNat (slice data i 2))

def u32At (data : List UInt8) (i : Nat) : UInt32 := UInt32.ofNat (leNat (slice data i 4))

def u64At (data : List UInt8) (i : Nat) : UInt64 := UInt64.ofNat (leNat (slice data i 8))

def smb2HeaderLen : Nat := 64

structure Pdu where
  statusOrReserved : UInt32
  command : UInt16
  flags : UInt32
  messageId : UInt64
  treeId : UInt32
  sessionId : UInt64
  body : List UInt8

def readPdu (pdu : List UInt8) : Pdu where
  statusOrReserved := u32At pdu 8
  command := u16At pdu 12
  flags := u32At pdu 16
  messageId := u64At pdu 24
  treeId := u32At pdu 36
  sessionId := u64At pdu 40
  body := pdu.drop smb2HeaderLen

def Pdu.isResponse (p : Pdu) : Bool := p.flags &&& 1 != 0

def Pdu.ntStatus (p : Pdu) : UInt32 := if p.isResponse then p.statusOrReserved else 0

/-! ## Texts -/

/-- Pairs of bytes, the low one first; a byte that is left over is dropped. -/
def utf16Units : List UInt8 → List UInt16
  | lo :: hi :: bytes => UInt16.ofNat (lo.toNat + 256 * hi.toNat) :: utf16Units bytes
  | _ => []

def decodeUtf16le (bytes : List UInt8) : String :=
  utf16Lossy ((utf16Units bytes).takeWhile fun u => u != 0)

def hex8 (n : UInt32) : String := "0x" ++ hexPad 8 n.toNat

def ntStatusName (status : UInt32) : String :=
  match status with
  | 0x00000000 => "ok"
  | 0xC000006D => "STATUS_LOGON_FAILURE"
  | 0xC0000022 => "STATUS_ACCESS_DENIED"
  | 0xC0000034 => "STATUS_OBJECT_NAME_NOT_FOUND"
  | 0xC000003A => "STATUS_OBJECT_PATH_NOT_FOUND"
  | 0xC000000F => "STATUS_NO_SUCH_FILE"
  | 0xC0000043 => "STATUS_SHARING_VIOLATION"
  | 0xC0000203 => "STATUS_USER_SESSION_DELETED"
  | 0xC000035C => "STATUS_NETWORK_SESSION_EXPIRED"
  | other => "status_" ++ hex8 other

def fsctlPipeTransceive : UInt32 := 0x0011C017

def fsctlName (code : UInt32) : String :=
  match code with
  | 0x00060194 => "FSCTL_DFS_GET_REFERRALS"
  | 0x0011C017 => "FSCTL_PIPE_TRANSCEIVE"
  | 0x00140204 => "FSCTL_VALIDATE_NEGOTIATE_INFO"
  | 0x00090094 => "FSCTL_GET_REPARSE_POINT"
  | 0x000900A4 => "FSCTL_SET_REPARSE_POINT"
  | 0x00090000 => "FSCTL_REQUEST_OPLOCK_LEVEL_1"
  | 0x00090004 => "FSCTL_REQUEST_OPLOCK_LEVEL_2"
  | 0x00140170 => "FSCTL_QUERY_NETWORK_INTERFACE_INFO"
  | 0x00101194 => "FSCTL_SRV_COPYCHUNK"
  | 0x00144064 => "FSCTL_SRV_ENUMERATE_SNAPSHOTS"
  | _ => "FSCTL_UNKNOWN"

def createDispositionName (d : UInt32) : String :=
  match d with
  | 0 => "FILE_SUPERSEDE"
  | 1 => "FILE_OPEN"
  | 2 => "FILE_CREATE"
  | 3 => "FILE_OPEN_IF"
  | 4 => "FILE_OVERWRITE"
  | 5 => "FILE_OVERWRITE_IF"
  | other => "disposition_" ++ toString other.toNat

/-- Severity and reason for a pipe, by the end of its name in lower case. -/
def classifyPipeTransceive (pipeName : String) : String × String :=
  let lower := String.ofList (pipeName.toList.map Char.toLower)
  if endsWith "svcctl" lower then
    ("high",
     "smb2: FSCTL_PIPE_TRANSCEIVE on \\PIPE\\svcctl — SCM access (classic lateral-movement vector)")
  else if endsWith "samr" lower then
    ("high", "smb2: FSCTL_PIPE_TRANSCEIVE on \\PIPE\\samr — SAM remote access")
  else if endsWith "atsvc" lower then
    ("high", "smb2: FSCTL_PIPE_TRANSCEIVE on \\PIPE\\atsvc — Task Scheduler remote access")
  else if endsWith "drsuapi" lower then
    ("high", "smb2: FSCTL_PIPE_TRANSCEIVE on \\PIPE\\drsuapi — AD replication/DCSync")
  else if endsWith "lsarpc" lower || endsWith "lsass" lower then
    ("medium", "smb2: FSCTL_PIPE_TRANSCEIVE on \\PIPE\\lsarpc — LSA remote procedure call")
  else if endsWith "winreg" lower then
    ("medium", "smb2: FSCTL_PIPE_TRANSCEIVE on \\PIPE\\winreg — remote registry access")
  else if endsWith "spoolss" lower then
    ("medium",
      "smb2: FSCTL_PIPE_TRANSCEIVE on \\PIPE\\spoolss — print spooler (PrintNightmare surface)")
  else ("medium", "smb2: FSCTL_PIPE_TRANSCEIVE — named pipe I/O")

def isServerPort (port : UInt16) : Bool := port == 445 || port == 139

end MarlinspikeDpi.Smb2
