import Mathlib.Data.List.Flatten
import VibeBridge.Words

/-!
The operations on texts that the daemon uses, as the Rust standard library
documents them: trimming by the Unicode property `White_Space`, ASCII lower
case, the UTF-8 bytes of a text and two-digit hexadecimal.
-/
namespace VibeBridge.Text
open Words (words)

/-- The characters with the Unicode property `White_Space` (`char::is_whitespace`). -/
def is_whitespace (c : Char) : Bool :=
  let cp := c.toNat
  (9 ≤ cp && cp ≤ 13) || cp == 0x20 || cp == 0x85 || cp == 0xA0 || cp == 0x1680 ||
    (0x2000 ≤ cp && cp ≤ 0x200A) || cp == 0x2028 || cp == 0x2029 || cp == 0x202F || cp == 0x205F || cp == 0x3000

/-- `str::trim`. -/
def trim (value : String) : String :=
  String.ofList (Words.trim is_whitespace value.toList)

/-- `str::split_whitespace`. -/
def split_whitespace (value : String) : List String := (words is_whitespace value.toList).map String.ofList

/-- `str::trim_matches` of a character. -/
def trim_matches (value : String) (c : Char) : String := String.ofList (Words.trim (· == c) value.toList)

/-- `str::to_ascii_lowercase`; other characters stay. -/
def to_ascii_lowercase (value : String) : String :=
  String.ofList (value.toList.map Char.toLower)

/-- `str::starts_with`. -/
def starts_with (value pattern : String) : Bool := pattern.toList.isPrefixOf value.toList

/-- `str::ends_with`. -/
def ends_with (value pattern : String) : Bool := pattern.toList.isSuffixOf value.toList

/-- What `str::rsplit` gives first: the characters after the last separator. -/
def rsplit_first (separates : Char → Bool) (text : List Char) : List Char :=
  (text.reverse.takeWhile (fun c => !separates c)).reverse

/-- The pattern begins somewhere in the characters. -/
def occurs_in (pattern : List Char) : List Char → Bool
  | [] => pattern.isEmpty
  | c :: cs => pattern.isPrefixOf (c :: cs) || occurs_in pattern cs

/-- `str::contains`. -/
def contains (value pattern : String) : Bool := occurs_in pattern.toList value.toList

/-- `str::as_bytes`: the UTF-8 encoding. -/
def as_bytes (value : String) : List UInt8 := value.toUTF8.data.toList

/-- `String::from_utf8`: nothing where the bytes are no UTF-8. -/
def from_utf8 (bytes : List UInt8) : Option String := String.fromUTF8? ⟨bytes.toArray⟩

theorem as_bytes_append (s t : String) : as_bytes (s ++ t) = as_bytes s ++ as_bytes t := by
  simp [as_bytes,String.toUTF8]

theorem as_bytes_flatMap (s : String) : as_bytes s = s.toList.flatMap String.utf8EncodeChar := by
  rw [as_bytes,String.toUTF8,← String.utf8Encode_toList,List.utf8Encode,List.toList_data_toByteArray]

/-- A text with fewer characters has fewer bytes. -/
theorem as_bytes_le {s t : String} (fewer : s.toList.Sublist t.toList) : (as_bytes s).length ≤ (as_bytes t).length := by
  rw [as_bytes_flatMap,as_bytes_flatMap]
  exact (fewer.flatMap String.utf8EncodeChar).length_le

theorem as_bytes_empty {s : String} : as_bytes s = [] ↔ s = "" := by
  constructor
  · intro none
    rw [as_bytes_flatMap,List.flatMap_eq_nil_iff] at none
    apply String.toList_inj.mp
    rw [List.eq_nil_iff_forall_not_mem.mpr (fun c member => String.utf8EncodeChar_ne_nil (none c member))]
    rfl
  · rintro rfl
    rfl

theorem occurs_in_append (pattern front back : List Char) : occurs_in pattern (front ++ (pattern ++ back)) = true := by
  induction front with
  | nil =>
    cases whole : pattern ++ back with
    | nil => simp [occurs_in,(List.append_eq_nil_iff.mp whole).1]
    | cons c cs =>
      have starts : pattern.isPrefixOf (c :: cs) = true := by
        rw [List.isPrefixOf_iff_prefix,← whole]
        exact List.prefix_append pattern back
      rw [List.nil_append,occurs_in,starts,Bool.true_or]
  | cons c rest ih => rw [List.cons_append,occurs_in,ih,Bool.or_true]

theorem contains_append (front pattern back : String) : contains (front ++ pattern ++ back) pattern = true := by
  rw [contains,String.toList_append,String.toList_append,List.append_assoc]
  exact occurs_in_append _ _ _

/-- Parts split at a blank. -/
theorem split_whitespace_append (s t : String) :
    split_whitespace (s ++ " " ++ t) = split_whitespace s ++ split_whitespace t := by
  have blank : is_whitespace ' ' = true := by decide
  rw [split_whitespace,String.toList_append,String.toList_append,List.append_assoc,
    show " ".toList ++ t.toList = ' ' :: t.toList from rfl,Words.words_append blank,List.map_append]
  rfl

theorem split_whitespace_trim (s : String) : split_whitespace (trim s) = split_whitespace s := by
  rw [split_whitespace,trim,String.toList_ofList,Words.words_trim]
  rfl

/-- A text of ASCII characters has a byte for each. -/
theorem as_bytes_ascii {cs : List Char} (ascii : ∀ c ∈ cs, c.val ≤ 127) :
    as_bytes (String.ofList cs) = cs.map (fun c => c.val.toUInt8) := by
  rw [as_bytes,String.toUTF8,String.toByteArray_ofList]
  induction cs with
  | nil => rfl
  | cons c rest ih =>
    have one := String.utf8EncodeChar_eq_singleton (Char.utf8Size_eq_one_iff.mpr (ascii c List.mem_cons_self))
    have others := ih (fun d later => ascii d (List.mem_cons_of_mem c later))
    rw [List.utf8Encode_cons,List.utf8Encode_singleton,one,List.map_cons,← others]
    simp

theorem from_utf8_eq_some {bytes : List UInt8} {text : String} :
    from_utf8 bytes = some text ↔ bytes = as_bytes text := by
  rw [from_utf8,String.fromUTF8?]
  constructor
  · intro decoded
    split at decoded
    · cases decoded
      simp [as_bytes,String.toUTF8,String.fromUTF8]
    · cases decoded
  · rintro rfl
    have whole : (⟨(as_bytes text).toArray⟩ : ByteArray) = text.toByteArray := by simp [as_bytes,String.toUTF8]
    have valid : (⟨(as_bytes text).toArray⟩ : ByteArray).IsValidUTF8 := by
      rw [whole]
      exact text.isValidUTF8
    rw [dif_pos valid]
    exact congrArg some (String.toByteArray_inj.mp whole)

@[simp] theorem from_utf8_as_bytes (text : String) : from_utf8 (as_bytes text) = some text :=
  from_utf8_eq_some.mpr rfl

/-- Where the bytes of a text begin with those of another, the text does. -/
theorem prefix_of_bytes {s t : String} {rest : List UInt8} (front : as_bytes t = as_bytes s ++ rest) :
    ∃ more, t = s ++ more ∧ rest = as_bytes more := by
  have whole : s.toList.utf8Encode ++ ⟨rest.toArray⟩ = t.toList.utf8Encode := by
    rw [String.utf8Encode_toList,String.utf8Encode_toList]
    apply ByteArray.ext
    apply Array.ext'
    simpa [as_bytes,String.toUTF8] using front.symm
  obtain ⟨more,same⟩ := List.isPrefix_of_utf8Encode_append_eq_utf8Encode _ whole
  have text : t = s ++ String.ofList more := by
    apply String.toList_inj.mp
    simp [same]
  refine ⟨String.ofList more,text,?_⟩
  rw [text,as_bytes_append] at front
  exact (List.append_cancel_left front).symm

/-- The digits of `hex_encode` and of the `x` format. -/
def HEX : List Char := "0123456789abcdef".toList

/-- The format `{:02x}` of a byte. -/
def format_02x (byte : UInt8) : String :=
  String.ofList [HEX.getD (byte >>> 4).toNat '0', HEX.getD (byte &&& 0x0f).toNat '0']

end VibeBridge.Text
