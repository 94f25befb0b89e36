import Mathlib.Algebra.Ring.Nat
import VibeBridge.Protocol

/-!
The payloads of the commands (`vb_protocol::payloads`), byte for byte.
-/
namespace VibeBridge.Payloads
open VibeBridge.Text VibeBridge.Core VibeBridge.Protocol

/-- `to_le_bytes`: the low `count` bytes of a number, least significant first. -/
def to_le_bytes : Nat → Nat → List UInt8
  | 0, _ => []
  | count + 1, value => UInt8.ofNat (value % 256) :: to_le_bytes count (value / 256)

/-- `from_le_bytes`. -/
def from_le_bytes : List UInt8 → Nat
  | [] => 0
  | byte :: rest => byte.toNat + 256 * from_le_bytes rest

theorem to_le_bytes_length (count value : Nat) : (to_le_bytes count value).length = count := by
  induction count generalizing value with
  | zero => rfl
  | succ count ih => simp [to_le_bytes,ih]

theorem from_to_le_bytes (count value : Nat) : from_le_bytes (to_le_bytes count value) = value % 256 ^ count := by
  induction count generalizing value with
  | zero => simp [to_le_bytes,from_le_bytes,Nat.mod_one]
  | succ count ih =>
    have low : (UInt8.ofNat (value % 256)).toNat = value % 256 := by simp
    rw [to_le_bytes,from_le_bytes,ih,low,Nat.pow_succ',Nat.mod_mul]

theorem from_le_bytes_bound (bytes : List UInt8) : from_le_bytes bytes < 256 ^ bytes.length := by
  induction bytes with
  | nil => simp [from_le_bytes]
  | cons byte rest ih =>
    have low := byte.toNat_lt
    rw [from_le_bytes,List.length_cons,Nat.pow_succ]
    omega

theorem to_from_le_bytes (bytes : List UInt8) : to_le_bytes bytes.length (from_le_bytes bytes) = bytes := by
  induction bytes with
  | nil => rfl
  | cons byte rest ih =>
    have low := byte.toNat_lt
    have digit : (byte.toNat + 256 * from_le_bytes rest) % 256 = byte.toNat := by omega
    have others : (byte.toNat + 256 * from_le_bytes rest) / 256 = from_le_bytes rest := by omega
    rw [List.length_cons,from_le_bytes,to_le_bytes,digit,others,ih,UInt8.ofNat_toNat]

def encode_token_usage (usage : TokenUsage) : List UInt8 :=
  to_le_bytes 8 usage.input.toNat ++ to_le_bytes 8 usage.output.toNat ++ to_le_bytes 8 usage.cost_cents.toNat

def decode_token_usage (payload : List UInt8) : Option TokenUsage :=
  if payload.length < 24 then none
  else
    some {
      input := UInt64.ofNat (from_le_bytes (payload.take 8))
      output := UInt64.ofNat (from_le_bytes ((payload.drop 8).take 8))
      cost_cents := UInt64.ofNat (from_le_bytes ((payload.drop 16).take 8)) }

theorem from_to_le_bytes_uint64 (value : UInt64) : UInt64.ofNat (from_le_bytes (to_le_bytes 8 value.toNat)) = value := by
  rw [from_to_le_bytes,Nat.mod_eq_of_lt (by have := value.toNat_lt; omega),UInt64.ofNat_toNat]

/-- A usage reads back as it was encoded. -/
theorem decode_encode_token_usage (usage : TokenUsage) : decode_token_usage (encode_token_usage usage) = some usage := by
  obtain ⟨input,output,cost_cents⟩ := usage
  have size := fun value : UInt64 => to_le_bytes_length 8 value.toNat
  have long : ¬ (encode_token_usage ⟨input,output,cost_cents⟩).length < 24 := by simp [encode_token_usage,size]
  have first : (encode_token_usage ⟨input,output,cost_cents⟩).take 8 = to_le_bytes 8 input.toNat := by
    simp [encode_token_usage,size]
  have second : ((encode_token_usage ⟨input,output,cost_cents⟩).drop 8).take 8 = to_le_bytes 8 output.toNat := by
    simp [encode_token_usage,size]
  have third : ((encode_token_usage ⟨input,output,cost_cents⟩).drop 16).take 8 = to_le_bytes 8 cost_cents.toNat := by
    have front : (to_le_bytes 8 input.toNat).drop 16 = [] := List.drop_eq_nil_of_le (by rw [size]; omega)
    have all : (to_le_bytes 8 cost_cents.toNat).take 8 = to_le_bytes 8 cost_cents.toNat :=
      List.take_of_length_le (by rw [size])
    simp [encode_token_usage,size,List.drop_append,front,all]
  rw [decode_token_usage,if_neg long,first,second,third]
  simp only [from_to_le_bytes_uint64]

/-- `str::is_char_boundary`: the two ends, and every byte that does not continue a character. -/
def is_char_boundary (bytes : List UInt8) (index : Nat) : Bool :=
  index == 0 || match bytes[index]? with
    | some byte => byte &&& 0xC0 != 0x80
    | none => index == bytes.length

/-- The greatest character boundary up to an index, by counting down. -/
def char_cut (bytes : List UInt8) : Nat → Nat
  | 0 => 0
  | cut + 1 => if is_char_boundary bytes (cut + 1) then cut + 1 else char_cut bytes cut

def encode_turn_append (role : TurnRoleByte) (text : String) : List UInt8 :=
  let bytes := as_bytes text
  let max_text := HID_MAX_PAYLOAD - 1
  let truncated := if bytes.length > max_text then bytes.take (char_cut bytes max_text) else bytes
  role.byte :: truncated

def decode_turn_append (payload : List UInt8) : Option (TurnRoleByte × String) :=
  match payload with
  | [] => none
  | byte :: chunk => do
    let role ←
      if byte = 0 then some .User
      else if byte = 1 then some .Assistant
      else if byte = 2 then some .Tool
      else if byte = 3 then some .System
      else none
    let text ← from_utf8 chunk
    some (role, text)

def encode_permission_request (req_id : UInt64) (tool args_summary : String) : List UInt8 :=
  let tool_len := min (as_bytes tool).length 24
  let buf := to_le_bytes 8 req_id.toNat ++ [UInt8.ofNat tool_len] ++ (as_bytes tool).take tool_len
  let remaining := HID_MAX_PAYLOAD - buf.length
  let args_len := min (as_bytes args_summary).length remaining
  buf ++ (as_bytes args_summary).take args_len

def decode_permission_request (payload : List UInt8) : Option (UInt64 × String × String) :=
  if payload.length < 9 then none
  else
    let req_id := UInt64.ofNat (from_le_bytes (payload.take 8))
    let tool_len := (payload.getD 8 0).toNat
    if 9 + tool_len > payload.length then none
    else do
      let tool ← from_utf8 ((payload.drop 9).take tool_len)
      let args ← from_utf8 (payload.drop (9 + tool_len))
      some (req_id, tool, args)

/-! ### Sizes -/

theorem char_cut_le (bytes : List UInt8) (index : Nat) : char_cut bytes index ≤ index := by
  induction index with
  | zero => exact le_rfl
  | succ index ih =>
    rw [char_cut]
    split
    · exact le_rfl
    · exact Nat.le_succ_of_le ih

theorem token_usage_size (usage : TokenUsage) : (encode_token_usage usage).length = 24 := by
  simp [encode_token_usage,to_le_bytes_length]

theorem turn_append_size (role : TurnRoleByte) (text : String) : (encode_turn_append role text).length ≤ HID_MAX_PAYLOAD := by
  have max : HID_MAX_PAYLOAD = 58 := rfl
  rw [encode_turn_append]
  by_cases long : (as_bytes text).length > HID_MAX_PAYLOAD - 1
  · have cut := char_cut_le (as_bytes text) (HID_MAX_PAYLOAD - 1)
    rw [if_pos long,List.length_cons,List.length_take]
    omega
  · rw [if_neg long,List.length_cons]
    omega

/-- At most 24 bytes of the tool, and what is left for the arguments. -/
theorem permission_request_size (req_id : UInt64) (tool args_summary : String) :
    (encode_permission_request req_id tool args_summary).length ≤ HID_MAX_PAYLOAD := by
  have max : HID_MAX_PAYLOAD = 58 := rfl
  simp only [encode_permission_request,List.length_append,List.length_take,to_le_bytes_length,List.length_singleton]
  omega

def encode_permission_response (req_id : UInt64) (decision : PermissionDecisionByte) : List UInt8 :=
  to_le_bytes 8 req_id.toNat ++ [decision.byte]

def decode_permission_response (payload : List UInt8) : Option (UInt64 × PermissionDecisionByte) :=
  if payload.length < 9 then none
  else
    let req_id := UInt64.ofNat (from_le_bytes (payload.take 8))
    let byte := payload.getD 8 0
    if byte = 0 then some (req_id, .Allow)
    else if byte = 1 then some (req_id, .Deny)
    else if byte = 2 then some (req_id, .Always)
    else none

/-- A decision reads back as the board encoded it. -/
theorem decode_encode_permission_response (req_id : UInt64) (decision : PermissionDecisionByte) :
    decode_permission_response (encode_permission_response req_id decision) = some (req_id,decision) := by
  have size := to_le_bytes_length 8 req_id.toNat
  have front : (encode_permission_response req_id decision).take 8 = to_le_bytes 8 req_id.toNat := by
    simp [encode_permission_response,size]
  have last : (encode_permission_response req_id decision).getD 8 0 = decision.byte := by
    simp [encode_permission_response,List.getD,size]
  have long : ¬ (encode_permission_response req_id decision).length < 9 := by
    simp [encode_permission_response,size]
  unfold decode_permission_response
  rw [if_neg long,front,last]
  simp only [from_to_le_bytes_uint64]
  cases decision <;> rfl

def encode_agent_meta (kind : UInt8) (cwd branch : String) : List UInt8 :=
  let cwd_max := HID_MAX_PAYLOAD - (2 + min (as_bytes branch).length 16)
  let cwd_len := min (min (as_bytes cwd).length cwd_max) 255
  let buf := [kind, UInt8.ofNat cwd_len] ++ (as_bytes cwd).take cwd_len
  let remaining := HID_MAX_PAYLOAD - buf.length
  let branch_len := min (as_bytes branch).length remaining
  buf ++ (as_bytes branch).take branch_len

def decode_agent_meta (payload : List UInt8) : Option (UInt8 × String × String) :=
  if payload.length < 2 then none
  else
    let kind := payload.getD 0 0
    let cwd_len := (payload.getD 1 0).toNat
    if 2 + cwd_len > payload.length then none
    else do
      let cwd ← from_utf8 ((payload.drop 2).take cwd_len)
      let branch ← from_utf8 (payload.drop (2 + cwd_len))
      some (kind, cwd, branch)

/-- Both lengths are cut at what is left of a report. -/
theorem agent_meta_size (kind : UInt8) (cwd branch : String) : (encode_agent_meta kind cwd branch).length ≤ HID_MAX_PAYLOAD := by
  have max : HID_MAX_PAYLOAD = 58 := rfl
  simp only [encode_agent_meta,List.length_append,List.length_take,List.length_cons,List.length_nil]
  omega

end VibeBridge.Payloads
