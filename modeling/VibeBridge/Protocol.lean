import VibeBridge.Core

/-!
The commands and status bytes of the board protocol (`vb-protocol`), the
messages and errors of a HID transport (`vb-transport`), and the splitting of a
long payload into the frames of one report each.
-/
namespace VibeBridge.Protocol

def HID_REPORT_LEN : Nat := 64
def HID_HEADER_SIZE : Nat := 6
def HID_MAX_PAYLOAD : Nat := HID_REPORT_LEN - HID_HEADER_SIZE
def PLUGIN_HINT_MAX : Nat := 24

/-- Report id of the reports from host to board. -/
def REPORT_ID_DEVICE_BOUND : UInt8 := 0x20

inductive Cmd
  | RequestSession
  | SessionResponse
  | SessionInvalid
  | SessionHeartbeat
  | SessionFocus
  | KeyEvent
  | EncoderEvent
  | PermissionRes
  | AbortSession
  | SendKey
  | Vt100Stream
  | UiScaleChange
  | StatusUpdate
  | TokenUsage
  | TurnAppend
  | PermissionReq
  | AgentMeta
  | FeedbackEvent
  | Error
  deriving DecidableEq, Repr

/-- The `Debug` form of a command, which error texts show. -/
def Cmd.debug : Cmd → String
  | .RequestSession => "RequestSession"
  | .SessionResponse => "SessionResponse"
  | .SessionInvalid => "SessionInvalid"
  | .SessionHeartbeat => "SessionHeartbeat"
  | .SessionFocus => "SessionFocus"
  | .KeyEvent => "KeyEvent"
  | .EncoderEvent => "EncoderEvent"
  | .PermissionRes => "PermissionRes"
  | .AbortSession => "AbortSession"
  | .SendKey => "SendKey"
  | .Vt100Stream => "Vt100Stream"
  | .UiScaleChange => "UiScaleChange"
  | .StatusUpdate => "StatusUpdate"
  | .TokenUsage => "TokenUsage"
  | .TurnAppend => "TurnAppend"
  | .PermissionReq => "PermissionReq"
  | .AgentMeta => "AgentMeta"
  | .FeedbackEvent => "FeedbackEvent"
  | .Error => "Error"

/-- The status bytes of SESSION_RESPONSE. -/
inductive SessionStatusByte
  | Ok
  | Created
  | InvalidS
  | Expired
  | PoolFull
  | Reclaimed
  | Disconnected
  deriving DecidableEq, Repr

def SessionStatusByte.byte : SessionStatusByte → UInt8
  | .Ok => 0x00
  | .Created => 0x01
  | .InvalidS => 0x02
  | .Expired => 0x03
  | .PoolFull => 0x04
  | .Reclaimed => 0x05
  | .Disconnected => 0x06

/-- The state bytes of STATUS_UPDATE. -/
inductive SessionStateByte
  | Connected
  | Disconnected
  | Run
  | Wait
  | Done
  | Error
  deriving DecidableEq, Repr

def SessionStateByte.byte : SessionStateByte → UInt8
  | .Connected => 0x00
  | .Disconnected => 0x01
  | .Run => 0x02
  | .Wait => 0x03
  | .Done => 0x04
  | .Error => 0x05

/-- The decision bytes of PERMISSION_RES. -/
inductive PermissionDecisionByte
  | Allow
  | Deny
  | Always
  deriving DecidableEq, Repr

def PermissionDecisionByte.byte : PermissionDecisionByte → UInt8
  | .Allow => 0x00
  | .Deny => 0x01
  | .Always => 0x02

/-- The role bytes of TURN_APPEND. -/
inductive TurnRoleByte
  | User
  | Assistant
  | Tool
  | System
  deriving DecidableEq, Repr

def TurnRoleByte.byte : TurnRoleByte → UInt8
  | .User => 0x00
  | .Assistant => 0x01
  | .Tool => 0x02
  | .System => 0x03

/-! ## Transport -/

/-- One message over HID. -/
structure HidMessage where
  cmd : Cmd
  sid : UInt16
  payload : List UInt8
  deriving DecidableEq, Repr

inductive TransportError
  | NotConnected
  | Io (msg : String)
  | Decode (msg : String)
  | Timeout
  deriving DecidableEq, Repr

def TransportError.display : TransportError → String
  | .NotConnected => "transport not connected"
  | .Io msg => s!"transport io error: {msg}"
  | .Decode msg => s!"transport decode error: {msg}"
  | .Timeout => "transport timeout"

/-! ## Frames -/

structure HidFrame where
  report_id : UInt8
  cmd : Cmd
  sid : UInt16
  payload : List UInt8
  deriving DecidableEq, Repr

section
variable {α : Type}

/-- At most `fuel` chunks of `size` elements from the front of a list. -/
def chunksFrom (size : Nat) : Nat → List α → List (List α)
  | 0, _ => []
  | _ + 1, [] => []
  | fuel + 1, x :: xs => (x :: xs).take size :: chunksFrom size fuel ((x :: xs).drop size)

/-- `slice::chunks`: consecutive chunks of `size` elements, the last one shorter. -/
def chunks (size : Nat) (l : List α) : List (List α) := chunksFrom size l.length l

theorem chunksFrom_flatten {size : Nat} (positive : 0 < size) (fuel : Nat) (l : List α) (enough : l.length ≤ fuel) :
    (chunksFrom size fuel l).flatten = l := by
  induction fuel generalizing l with
  | zero => simpa [chunksFrom,eq_comm] using enough
  | succ fuel ih =>
    cases l with
    | nil => rfl
    | cons x xs =>
      rw [chunksFrom,List.flatten_cons,ih _ (by simp at enough ⊢; omega),List.take_append_drop]

/-- No chunk is empty. -/
theorem chunksFrom_ne_nil {size : Nat} (positive : 0 < size) (fuel : Nat) (l : List α) : [] ∉ chunksFrom size fuel l := by
  induction fuel generalizing l with
  | zero => simp [chunksFrom]
  | succ fuel ih =>
    cases l with
    | nil => simp [chunksFrom]
    | cons x xs =>
      rw [chunksFrom,List.mem_cons,not_or]
      refine ⟨?_,ih _⟩
      rw [eq_comm,List.take_eq_nil_iff,not_or]
      exact ⟨by omega,by simp⟩

theorem chunksFrom_bound {size : Nat} (fuel : Nat) (l : List α) {chunk : List α} (mem : chunk ∈ chunksFrom size fuel l) :
    chunk.length ≤ size := by
  induction fuel generalizing l with
  | zero => simp [chunksFrom] at mem
  | succ fuel ih =>
    cases l with
    | nil => simp [chunksFrom] at mem
    | cons x xs =>
      rw [chunksFrom,List.mem_cons] at mem
      rcases mem with rfl | rest
      · exact List.length_take_le _ _
      · exact ih _ rest

theorem chunksFrom_length {size : Nat} (positive : 0 < size) (fuel : Nat) (l : List α) (enough : l.length ≤ fuel) :
    (chunksFrom size fuel l).length = (l.length + size - 1) / size := by
  induction fuel generalizing l with
  | zero =>
    have empty : l.length = 0 := by omega
    rw [chunksFrom,empty,List.length_nil,Nat.div_eq_of_lt (by omega)]
  | succ fuel ih =>
    cases l with
    | nil => rw [chunksFrom,List.length_nil,List.length_nil,Nat.div_eq_of_lt (by omega)]
    | cons x xs =>
      have shorter : ((x :: xs).drop size).length ≤ fuel := by simp at enough ⊢; omega
      rw [chunksFrom,List.length_cons,ih _ shorter,List.length_drop]
      by_cases more : size < (x :: xs).length
      · have one : (x :: xs).length + size - 1 = (x :: xs).length - size + size - 1 + size := by omega
        rw [one,Nat.add_div_right _ positive]
      · have none : (x :: xs).length - size + size - 1 < size := by omega
        have one : (x :: xs).length + size - 1 = (x :: xs).length - 1 + size := by simp
        rw [Nat.div_eq_of_lt none,one,Nat.add_div_right _ positive,Nat.div_eq_of_lt (by omega)]

theorem chunks_bound {size : Nat} {l chunk : List α} (mem : chunk ∈ chunks size l) : chunk.length ≤ size :=
  chunksFrom_bound l.length l mem

/-- The number of chunks is the length divided by the size, rounded up. -/
theorem chunks_length {size : Nat} (positive : 0 < size) (l : List α) :
    (chunks size l).length = (l.length + size - 1) / size :=
  chunksFrom_length positive l.length l (Nat.le_refl _)

/-- More fuel than elements changes nothing. -/
theorem chunksFrom_enough {size : Nat} (positive : 0 < size) (fuel : Nat) (l : List α) (enough : l.length ≤ fuel) :
    chunksFrom size fuel l = chunks size l := by
  have same : ∀ (fuel fuel' : Nat) (l : List α), l.length ≤ fuel → l.length ≤ fuel' →
      chunksFrom size fuel l = chunksFrom size fuel' l := by
    intro fuel
    induction fuel with
    | zero =>
      intro fuel' l enough _
      rw [List.length_eq_zero_iff.mp (Nat.le_zero.mp enough)]
      cases fuel' <;> rfl
    | succ fuel ih =>
      intro fuel' l enough enough'
      cases l with
      | nil => cases fuel' <;> rfl
      | cons x xs =>
        obtain ⟨fuel',rfl⟩ : ∃ n, fuel' = n + 1 := ⟨fuel' - 1,by simp at enough'; omega⟩
        have shorter := List.length_drop (i := size) (l := x :: xs)
        rw [List.length_cons] at enough enough' shorter
        rw [chunksFrom,chunksFrom,ih fuel' _ (by omega) (by omega)]
  exact same fuel l.length l enough (Nat.le_refl _)

/-- A whole chunk in front. -/
theorem chunks_append {size : Nat} (positive : 0 < size) {chunk : List α} (whole : chunk.length = size) (rest : List α) :
    chunks size (chunk ++ rest) = chunk :: chunks size rest := by
  cases chunk with
  | nil =>
    rw [List.length_nil] at whole
    omega
  | cons x xs =>
    have enough : rest.length ≤ (xs ++ rest).length := by simp
    rw [chunks,List.cons_append,List.length_cons,chunksFrom,← List.cons_append,List.take_append_of_le_length (by omega),
      List.take_of_length_le (by omega),List.drop_append_of_le_length (by omega),List.drop_of_length_le (by omega),
      List.nil_append,chunksFrom_enough positive _ rest enough]

/-- Pieces of the length of a chunk, put together, are cut where they were put together. -/
theorem chunks_flatMap {β : Type} {size : Nat} (positive : 0 < size) (f : β → List α) (xs : List β)
    (whole : ∀ x ∈ xs, (f x).length = size) : chunks size (xs.flatMap f) = xs.map f := by
  induction xs with
  | nil => rfl
  | cons x rest ih =>
    rw [List.flatMap_cons,chunks_append positive (whole x List.mem_cons_self),List.map_cons,
      ih (fun y later => whole y (List.mem_cons_of_mem x later))]

/-- The chunks of a list put together are the list. -/
theorem chunks_flatten {size : Nat} (positive : 0 < size) (l : List α) : (chunks size l).flatten = l :=
  chunksFrom_flatten positive l.length l (Nat.le_refl _)

end

/-- A payload as the frames that carry it to the board, in order; an empty
    payload is one empty frame. -/
def split_host_to_board (cmd : Cmd) (sid : UInt16) (payload : List UInt8) : List HidFrame :=
  if payload.isEmpty then [⟨REPORT_ID_DEVICE_BOUND, cmd, sid, []⟩]
  else (chunks HID_MAX_PAYLOAD payload).map (fun chunk => ⟨REPORT_ID_DEVICE_BOUND, cmd, sid, chunk⟩)

/-- A payload that fits into one report is one frame. -/
theorem split_short (cmd : Cmd) (sid : UInt16) (payload : List UInt8) (fits : payload.length ≤ HID_MAX_PAYLOAD) :
    split_host_to_board cmd sid payload = [⟨REPORT_ID_DEVICE_BOUND, cmd, sid, payload⟩] := by
  unfold split_host_to_board
  cases payload with
  | nil => simp
  | cons b bs =>
    have none : (b :: bs).drop HID_MAX_PAYLOAD = [] := List.drop_eq_nil_iff.mpr fits
    have whole : (b :: bs).take HID_MAX_PAYLOAD = b :: bs := List.take_of_length_le fits
    have rest : chunksFrom HID_MAX_PAYLOAD bs.length ([] : List UInt8) = [] := by cases bs <;> rfl
    simp [chunks,chunksFrom,none,whole,rest]

end VibeBridge.Protocol
