import VibeBridge.Envelope

/-!
The hexadecimal of `terminal.stream`. Bytes are read back from their encoding
(`hex_decode_encode`), a text is decoded when it has an even number of digits and no
other characters (`hex_decode_text`), and what it is decoded to is encoded as the text in
lower case (`hex_decode_some`). The loops take their bytes by index; none of their
accesses is out of bounds (`hex_decode_indexed_eq`, `hex_encode_indexed_eq`).
-/
namespace VibeBridge.Envelope
open VibeBridge.Text

/-- The two digits of a byte. -/
def hex_pair (byte : UInt8) : List Char := [HEX.getD (byte >>> 4).toNat '0',HEX.getD (byte &&& 0x0f).toNat '0']

def hex_encode (bytes : List UInt8) : String := String.ofList (bytes.flatMap hex_pair)

/-! ## Access by index -/

/-- An index beyond the end, which panics. -/
structure OutOfBounds where
  index : Nat
  length : Nat
  deriving DecidableEq

/-- `xs[index]` -/
def at_index {α : Type} (xs : List α) (index : Nat) : Except OutOfBounds α :=
  match xs[index]? with
  | some x => .ok x
  | none => .error ⟨index,xs.length⟩

/-- The loop of `hex_decode` from an index on, with what is decoded so far. -/
def hex_decode_from (bytes : List UInt8) (idx : Nat) (out : List UInt8) : Except OutOfBounds (Option (List UInt8)) :=
  if idx < bytes.length then do
    match hex_nibble (← at_index bytes idx) with
    | none => return none
    | some hi =>
      match hex_nibble (← at_index bytes (idx + 1)) with
      | none => return none
      | some lo => hex_decode_from bytes (idx + 2) (out ++ [(hi <<< 4) ||| lo])
  else return some out
termination_by bytes.length - idx

def hex_decode_indexed (input : String) : Except OutOfBounds (Option (List UInt8)) :=
  let bytes := as_bytes input
  if bytes.length % 2 ≠ 0 then .ok none else hex_decode_from bytes 0 []

/-- The digits of a byte, each by its index. -/
def hex_pair_indexed (byte : UInt8) : Except OutOfBounds (List Char) := do
  let high ← at_index HEX (byte >>> 4).toNat
  let low ← at_index HEX (byte &&& 0x0f).toNat
  return [high,low]

def hex_encode_indexed (bytes : List UInt8) : Except OutOfBounds String := do
  let pairs ← bytes.mapM hex_pair_indexed
  return String.ofList pairs.flatten

theorem at_index_inside {α : Type} (front rest : List α) (x : α) : at_index (front ++ x :: rest) front.length = .ok x := by
  rw [at_index,List.getElem?_append_right (Nat.le_refl _),Nat.sub_self]
  rfl

/-- From an even distance to the end no index is beyond it. -/
theorem hex_decode_from_eq (front rest : List UInt8) (even : rest.length % 2 = 0) (out : List UInt8) :
    hex_decode_from (front ++ rest) front.length out = .ok ((hex_decode_bytes rest).map (out ++ ·)) := by
  match rest with
  | [] =>
    rw [hex_decode_from,if_neg (by simp)]
    simp [hex_decode_bytes]
    rfl
  | [_] => simp at even
  | hi :: lo :: rest =>
    have second : at_index (front ++ hi :: lo :: rest) (front.length + 1) = .ok lo := by
      have there := at_index_inside (front ++ [hi]) rest lo
      simpa using there
    rw [hex_decode_from,if_pos (by simp),at_index_inside]
    simp only [bind,Except.bind,second,hex_decode_bytes]
    cases hex_nibble hi with
    | none => rfl
    | some high =>
      cases hex_nibble lo with
      | none => rfl
      | some low =>
        have later := hex_decode_from_eq (front ++ [hi,lo]) rest
          (by simp only [List.length_cons] at even; omega) (out ++ [(high <<< 4) ||| low])
        simp only [List.length_append,List.length_cons,List.length_nil,List.append_assoc,List.cons_append,
          List.nil_append] at later
        simp only [later]
        cases hex_decode_bytes rest <;> simp [pure]

/-- No access of `hex_decode` is out of bounds, of no text. -/
theorem hex_decode_indexed_eq (input : String) : hex_decode_indexed input = .ok (hex_decode input) := by
  rw [hex_decode_indexed,hex_decode]
  by_cases even : (as_bytes input).length % 2 = 0
  · have whole := hex_decode_from_eq [] (as_bytes input) even []
    simp only [List.nil_append,List.length_nil] at whole
    rw [if_neg (by simpa using even),if_neg (by simpa using even),whole]
    simp
  · rw [if_pos even,if_pos even]

/-! ## Digits -/

def HEX_DIGITS : List Char := "0123456789abcdefABCDEF".toList

/-- The character of a byte that is ASCII. -/
def char_of (byte : UInt8) : Char := Char.ofNat byte.toNat

theorem nibble_range : ∀ n < 256, hex_nibble (UInt8.ofNat n) = none ∨
    (char_of (UInt8.ofNat n) ∈ HEX_DIGITS ∧ (char_of (UInt8.ofNat n)).val.toUInt8 = UInt8.ofNat n ∧
      ∃ value < 16, hex_nibble (UInt8.ofNat n) = some (UInt8.ofNat value) ∧
        HEX.getD value '0' = (char_of (UInt8.ofNat n)).toLower) := by
  decide +kernel

/-- What a byte is that has a value. -/
theorem nibble_some {byte value : UInt8} (read : hex_nibble byte = some value) :
    char_of byte ∈ HEX_DIGITS ∧ (char_of byte).val.toUInt8 = byte ∧ value.toNat < 16 ∧
      HEX.getD value.toNat '0' = (char_of byte).toLower := by
  have range := nibble_range byte.toNat byte.toNat_lt
  rw [UInt8.ofNat_toNat] at range
  rcases range with none | ⟨digit,same,number,small,found,lower⟩
  · rw [none] at read
    cases read
  · have value_eq : value = UInt8.ofNat number := Option.some.inj (read.symm.trans found)
    have number_eq : value.toNat = number := by
      rw [value_eq,UInt8.toNat_ofNat']
      omega
    exact ⟨digit,same,by omega,by rw [number_eq]; exact lower⟩

theorem digit_nibble : ∀ c ∈ HEX_DIGITS, c.val ≤ 127 ∧ (hex_nibble c.val.toUInt8).isSome = true :=
  List.forall_iff_forall_mem.mp (by decide +kernel)

theorem pair_range : ∀ high < 16, ∀ low < 16,
    hex_pair ((UInt8.ofNat high <<< 4) ||| UInt8.ofNat low) = [HEX.getD high '0',HEX.getD low '0'] := by
  decide +kernel

/-- Two values and the byte that they make. -/
theorem hex_pair_joined {high low : UInt8} (small : high.toNat < 16) (small' : low.toNat < 16) :
    hex_pair ((high <<< 4) ||| low) = [HEX.getD high.toNat '0',HEX.getD low.toNat '0'] := by
  have pair := pair_range high.toNat small low.toNat small'
  rwa [UInt8.ofNat_toNat,UInt8.ofNat_toNat] at pair

theorem byte_range : ∀ n < 256, hex_decode_bytes ((hex_pair (UInt8.ofNat n)).map (fun c => c.val.toUInt8)) = some [UInt8.ofNat n] ∧
    (hex_pair (UInt8.ofNat n)).Forall (fun c => c.val ≤ 127) ∧
    hex_pair_indexed (UInt8.ofNat n) = .ok (hex_pair (UInt8.ofNat n)) := by
  decide +kernel

theorem pair_byte (byte : UInt8) : hex_decode_bytes ((hex_pair byte).map (fun c => c.val.toUInt8)) = some [byte] ∧
    (∀ c ∈ hex_pair byte, c.val ≤ 127) ∧ hex_pair_indexed byte = .ok (hex_pair byte) := by
  have range := byte_range byte.toNat byte.toNat_lt
  rwa [UInt8.ofNat_toNat,List.forall_iff_forall_mem] at range

theorem hex_encode_indexed_eq (bytes : List UInt8) : hex_encode_indexed bytes = .ok (hex_encode bytes) := by
  have pairs : bytes.mapM hex_pair_indexed = .ok (bytes.map hex_pair) := by
    induction bytes with
    | nil => rfl
    | cons byte rest ih =>
      rw [List.mapM_cons,(pair_byte byte).2.2,ih]
      rfl
  rw [hex_encode_indexed,pairs,hex_encode,List.flatMap]
  rfl

/-! ## Both ways -/

theorem hex_encode_bytes (bytes : List UInt8) :
    as_bytes (hex_encode bytes) = bytes.flatMap (fun byte => (hex_pair byte).map (fun c => c.val.toUInt8)) := by
  rw [hex_encode,as_bytes_ascii,List.map_flatMap]
  intro c member
  obtain ⟨byte,_,within⟩ := List.mem_flatMap.mp member
  exact (pair_byte byte).2.1 c within

theorem hex_decode_pairs (bytes : List UInt8) :
    hex_decode_bytes (bytes.flatMap (fun byte => (hex_pair byte).map (fun c => c.val.toUInt8))) = some bytes := by
  induction bytes with
  | nil => rfl
  | cons byte rest ih =>
    have first := (pair_byte byte).1
    rw [List.flatMap_cons]
    simp only [hex_pair,List.map_cons,List.map_nil,List.cons_append,List.nil_append,hex_decode_bytes] at first ih ⊢
    rw [ih]
    revert first
    cases hex_nibble (HEX.getD (byte >>> 4).toNat '0').val.toUInt8 with
    | none => exact fun wrong => by cases wrong
    | some high =>
      cases hex_nibble (HEX.getD (byte &&& 0x0f).toNat '0').val.toUInt8 with
      | none => exact fun wrong => by cases wrong
      | some low =>
        intro first
        cases first
        rfl

theorem hex_decode_encode (bytes : List UInt8) : hex_decode (hex_encode bytes) = some bytes := by
  rw [hex_decode,hex_encode_bytes]
  rw [if_neg,hex_decode_pairs]
  rw [List.length_flatMap]
  simp [hex_pair]

/-- What decodes is digits, and its bytes are encoded as these in lower case. -/
theorem hex_decode_bytes_some {bytes out : List UInt8} (even : bytes.length % 2 = 0) (decoded : hex_decode_bytes bytes = some out) :
    (∀ c ∈ bytes.map char_of, c ∈ HEX_DIGITS) ∧ (bytes.map char_of).map (fun c => c.val.toUInt8) = bytes ∧
      out.flatMap hex_pair = (bytes.map char_of).map Char.toLower := by
  match bytes with
  | [] =>
    cases decoded
    exact ⟨by simp,rfl,rfl⟩
  | [_] => simp at even
  | hi :: lo :: rest =>
    simp only [hex_decode_bytes] at decoded
    cases first : hex_nibble hi with
    | none =>
      rw [first] at decoded
      cases decoded
    | some high =>
      cases second : hex_nibble lo with
      | none =>
        rw [first,second] at decoded
        cases decoded
      | some low =>
        cases later : hex_decode_bytes rest with
        | none =>
          rw [first,second,later] at decoded
          cases decoded
        | some others =>
          rw [first,second,later] at decoded
          cases decoded
          obtain ⟨digits,same,lower⟩ := hex_decode_bytes_some (by simp only [List.length_cons] at even; omega) later
          obtain ⟨digit,same_hi,small,lower_hi⟩ := nibble_some first
          obtain ⟨digit',same_lo,small',lower_lo⟩ := nibble_some second
          refine ⟨?_,?_,?_⟩
          · simp only [List.map_cons,List.forall_mem_cons]
            exact ⟨digit,digit',digits⟩
          · simp only [List.map_cons,same_hi,same_lo,same]
          · rw [List.flatMap_cons,hex_pair_joined small small',lower,lower_hi,lower_lo]
            rfl

theorem hex_decode_digits (cs : List Char) (even : cs.length % 2 = 0) (digits : ∀ c ∈ cs, c ∈ HEX_DIGITS) :
    ∃ out, hex_decode_bytes (cs.map (fun c => c.val.toUInt8)) = some out := by
  match cs with
  | [] => exact ⟨[],rfl⟩
  | [_] => simp at even
  | hi :: lo :: rest =>
    obtain ⟨others,later⟩ := hex_decode_digits rest (by simp only [List.length_cons] at even; omega)
      (fun c member => digits c (by simp [member]))
    obtain ⟨high,first⟩ := Option.isSome_iff_exists.mp (digit_nibble hi (digits hi (by simp))).2
    obtain ⟨low,second⟩ := Option.isSome_iff_exists.mp (digit_nibble lo (digits lo (by simp))).2
    refine ⟨((high <<< 4) ||| low) :: others,?_⟩
    simp only [List.map_cons,hex_decode_bytes,first,second,later]
    rfl

/-- An even number of digits and nothing else. -/
def HexText (input : String) : Prop := input.toList.length % 2 = 0 ∧ ∀ c ∈ input.toList, c ∈ HEX_DIGITS

/-- What decodes is a text of digits. -/
theorem hex_decode_some {input : String} {out : List UInt8} (decoded : hex_decode input = some out) :
    HexText input ∧ hex_encode out = to_ascii_lowercase input := by
  rw [hex_decode] at decoded
  by_cases even : (as_bytes input).length % 2 = 0
  · rw [if_neg (by simpa using even)] at decoded
    obtain ⟨digits,same,lower⟩ := hex_decode_bytes_some even decoded
    -- the digits are the text, as they have its bytes
    have text : input = String.ofList ((as_bytes input).map char_of) := by
      have bytes := as_bytes_ascii (fun c member => (digit_nibble c (digits c member)).1)
      rw [same] at bytes
      have back := congrArg from_utf8 bytes
      rw [from_utf8_as_bytes,from_utf8_as_bytes] at back
      exact (Option.some.inj back).symm
    have chars : input.toList = (as_bytes input).map char_of := by
      conv_lhs => rw [text,String.toList_ofList]
    refine ⟨⟨by rw [chars,List.length_map]; exact even,by rw [chars]; exact digits⟩,?_⟩
    rw [hex_encode,lower,to_ascii_lowercase,chars]
  · rw [if_pos even] at decoded
    cases decoded

theorem hex_decode_text {input : String} (text : HexText input) : ∃ out, hex_decode input = some out := by
  obtain ⟨even,digits⟩ := text
  have bytes := as_bytes_ascii (fun c member => (digit_nibble c (digits c member)).1)
  rw [String.ofList_toList] at bytes
  obtain ⟨out,decoded⟩ := hex_decode_digits _ even digits
  refine ⟨out,?_⟩
  rw [hex_decode,bytes]
  rw [if_neg (by simpa using even)]
  exact decoded

/-- Bytes are read back; a text of digits, and no other, is decoded to bytes that are encoded as it in lower case;
    no access is out of bounds. -/
theorem hexadecimal_exact (bytes : List UInt8) (input : String) : hex_decode (hex_encode bytes) = some bytes ∧
    ((hex_decode input).isSome = true ↔ HexText input) ∧
    (∀ out ∈ hex_decode input, hex_encode out = to_ascii_lowercase input) ∧
    hex_decode_indexed input = .ok (hex_decode input) ∧ hex_encode_indexed bytes = .ok (hex_encode bytes) := by
  refine ⟨hex_decode_encode bytes,⟨fun found => ?_,fun text => ?_⟩,fun out decoded => (hex_decode_some decoded).2,
    hex_decode_indexed_eq input,hex_encode_indexed_eq bytes⟩
  · obtain ⟨out,decoded⟩ := Option.isSome_iff_exists.mp found
    exact (hex_decode_some decoded).1
  · obtain ⟨out,decoded⟩ := hex_decode_text text
    rw [decoded]
    rfl

theorem hexadecimal_exact_witness : hex_encode [0xbe,0x0f] = to_ascii_lowercase "Be0F" ∧
    hex_decode_indexed "aé0" = .ok none := by
  have decoded : hex_decode "Be0F" = some [0xbe,0x0f] := by decide +kernel
  have undecoded : hex_decode "aé0" = none := by decide +kernel
  exact ⟨(hexadecimal_exact [] "Be0F").2.2.1 _ decoded,(hexadecimal_exact [] "aé0").2.2.2.1.trans (by rw [undecoded])⟩

end VibeBridge.Envelope
