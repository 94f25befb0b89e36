import VibeBridge.Payloads

/-!
Texts that are cut to fit into a payload. A byte offset in the UTF-8 of a text
is a character boundary exactly when a prefix of the text ends there
(`boundary_iff`), and only there does the decoder take what a cut leaves
(`decode_boundary`, `boundary_of_decoded`). A turn is cut at the last boundary that fits (`turn_read_back`).
A permission request and the meta data of an agent are cut at any byte, so they
read back exactly when the cut happens to be a boundary (`permission_read_back`,
`meta_read_back`).
-/
namespace VibeBridge.Truncation
open VibeBridge.Text VibeBridge.Core VibeBridge.Protocol VibeBridge.Payloads

/-! ## Character boundaries -/

/-- The byte continues a character. -/
def Continues (byte : UInt8) : Prop := byte &&& 0xC0 = 0x80

instance : DecidablePred Continues := fun byte => inferInstanceAs (Decidable (byte &&& 0xC0 = 0x80))

/-- A character is a byte that continues none, and bytes that continue it. -/
theorem char_bytes (c : Char) : ∃ first rest, String.utf8EncodeChar c = first :: rest ∧ ¬ Continues first ∧
    ∀ byte ∈ rest, Continues byte := by
  have later : ∀ n : Nat, Continues (UInt8.ofNat (n % 0x40 + 0x80)) := by
    intro n
    have small : ∀ k < 0x40, Continues (UInt8.ofNat (k + 0x80)) := by decide
    exact small _ (Nat.mod_lt n (by omega))
  have one : ∀ k < 0x80, ¬ Continues (UInt8.ofNat k) := by decide
  have two : ∀ k < 0x20, ¬ Continues (UInt8.ofNat (k + 0xc0)) := by decide
  have three : ∀ k < 0x10, ¬ Continues (UInt8.ofNat (k + 0xe0)) := by decide
  have four : ∀ k < 0x08, ¬ Continues (UInt8.ofNat (k + 0xf0)) := by decide
  rw [String.utf8EncodeChar]
  split
  · rename_i small
    exact ⟨_,[],rfl,one _ (by omega),by simp⟩
  · split
    · exact ⟨_,_,rfl,two _ (Nat.mod_lt _ (by omega)),by simp only [List.forall_mem_cons,later,true_and]; simp⟩
    · split
      · exact ⟨_,_,rfl,three _ (Nat.mod_lt _ (by omega)),by simp only [List.forall_mem_cons,later,true_and]; simp⟩
      · exact ⟨_,_,rfl,four _ (Nat.mod_lt _ (by omega)),by simp only [List.forall_mem_cons,later,true_and]; simp⟩

/-- The bytes of some characters. -/
def encoded (cs : List Char) : List UInt8 := cs.flatMap String.utf8EncodeChar

theorem encoded_cons (c : Char) (cs : List Char) : encoded (c :: cs) = String.utf8EncodeChar c ++ encoded cs := rfl

theorem encoded_length (c : Char) (cs : List Char) : (encoded (c :: cs)).length = c.utf8Size + (encoded cs).length := by
  simp [encoded_cons]

theorem first_byte {cs : List Char} {byte : UInt8} (first : (encoded cs)[0]? = some byte) : ¬ Continues byte := by
  cases cs with
  | nil => simp [encoded] at first
  | cons c cs =>
    obtain ⟨lead,rest,bytes,leads,_⟩ := char_bytes c
    rw [encoded_cons,bytes] at first
    cases first
    exact leads

/-- Beyond the bytes of the first character, the boundaries are those of the others. -/
theorem boundary_later (c : Char) (cs : List Char) (index : Nat) :
    is_char_boundary (encoded (c :: cs)) (c.utf8Size + index) = is_char_boundary (encoded cs) index := by
  have start : (c.utf8Size + index == 0) = false := by
    have := c.utf8Size_pos
    rw [beq_eq_false_iff_ne]
    omega
  have same : (encoded (c :: cs))[c.utf8Size + index]? = (encoded cs)[index]? := by
    rw [encoded_cons,List.getElem?_append_right (by simp)]
    simp
  rw [is_char_boundary,is_char_boundary,same,start,Bool.false_or,encoded_length]
  cases found : (encoded cs)[index]? with
  | none =>
    have beyond := List.getElem?_eq_none_iff.mp found
    rw [Bool.eq_iff_iff]
    simp only [Bool.or_eq_true,beq_iff_eq]
    omega
  | some byte =>
    by_cases first : index = 0
    · subst first
      have leads := first_byte found
      simpa [Continues] using leads
    · simp [first]

/-- Within the first character there is no boundary but its start. -/
theorem boundary_inside {c : Char} {cs : List Char} {index : Nat} (start : index ≠ 0) (inside : index < c.utf8Size) :
    is_char_boundary (encoded (c :: cs)) index = false := by
  obtain ⟨lead,rest,bytes,_,continues⟩ := char_bytes c
  have size := congrArg List.length bytes
  rw [String.length_utf8EncodeChar,List.length_cons] at size
  obtain ⟨k,rfl⟩ := Nat.exists_eq_succ_of_ne_zero start
  have within : k < rest.length := by omega
  have found : (encoded (c :: cs))[k + 1]? = some rest[k] := by
    rw [encoded_cons,bytes,List.getElem?_append_left (by rw [List.length_cons]; omega)]
    simp [within]
  have byte := continues rest[k] (List.getElem_mem _)
  rw [is_char_boundary,found]
  simp only [Continues] at byte
  simp [byte]

theorem boundary_encoded (cs : List Char) (index : Nat) :
    is_char_boundary (encoded cs) index = true ↔ ∃ front back, cs = front ++ back ∧ (encoded front).length = index := by
  induction cs generalizing index with
  | nil =>
    have only : is_char_boundary (encoded []) index = true ↔ index = 0 := by
      simp [is_char_boundary,encoded]
    rw [only]
    constructor
    · rintro rfl
      exact ⟨[],[],rfl,rfl⟩
    · rintro ⟨front,back,whole,size⟩
      rw [(List.append_eq_nil_iff.mp whole.symm).1] at size
      exact size.symm
  | cons c cs ih =>
    constructor
    · intro boundary
      by_cases start : index = 0
      · exact ⟨[],c :: cs,rfl,by rw [start]; rfl⟩
      · have beyond : c.utf8Size ≤ index := by
          by_contra inside
          rw [boundary_inside start (by omega)] at boundary
          cases boundary
        obtain ⟨rest,rfl⟩ := Nat.exists_eq_add_of_le beyond
        rw [boundary_later] at boundary
        obtain ⟨front,back,whole,size⟩ := (ih rest).mp boundary
        exact ⟨c :: front,back,by rw [whole]; rfl,by rw [encoded_length,size]⟩
    · rintro ⟨front,back,whole,size⟩
      cases front with
      | nil => rw [← size]; rfl
      | cons d front =>
        obtain ⟨rfl,rfl⟩ := List.cons_eq_cons.mp whole
        rw [encoded_length] at size
        rw [← size,boundary_later]
        exact (ih _).mpr ⟨front,back,rfl,rfl⟩

/-- A byte offset is a boundary when a prefix of the text ends there. -/
theorem boundary_iff {text : String} {index : Nat} : is_char_boundary (as_bytes text) index = true ↔
    ∃ front back, text = front ++ back ∧ (as_bytes front).length = index := by
  rw [as_bytes_flatMap,← encoded,boundary_encoded]
  constructor
  · rintro ⟨front,back,whole,size⟩
    refine ⟨String.ofList front,String.ofList back,?_,?_⟩
    · apply String.toList_inj.mp
      simp [whole]
    · rw [as_bytes_flatMap,String.toList_ofList]
      exact size
  · rintro ⟨front,back,rfl,size⟩
    refine ⟨front.toList,back.toList,by simp,?_⟩
    rw [← size,as_bytes_flatMap]
    rfl

/-! ## Cuts -/

/-- A cut at a boundary leaves a prefix of the text. -/
theorem decode_boundary {text : String} {index : Nat} (boundary : is_char_boundary (as_bytes text) index = true) :
    ∃ front back, text = front ++ back ∧ (as_bytes front).length = index ∧
      from_utf8 ((as_bytes text).take index) = some front := by
  obtain ⟨front,back,rfl,size⟩ := boundary_iff.mp boundary
  refine ⟨front,back,rfl,size,?_⟩
  rw [as_bytes_append,← size,List.take_left]
  exact from_utf8_as_bytes front

/-- A cut leaves the UTF-8 of a text only at a boundary. -/
theorem boundary_of_decoded {text front : String} {index : Nat} (within : index ≤ (as_bytes text).length)
    (decoded : from_utf8 ((as_bytes text).take index) = some front) : is_char_boundary (as_bytes text) index = true := by
  have bytes := from_utf8_eq_some.mp decoded
  have whole : as_bytes text = as_bytes front ++ (as_bytes text).drop index := by rw [← bytes,List.take_append_drop]
  obtain ⟨back,same,_⟩ := prefix_of_bytes whole
  refine boundary_iff.mpr ⟨front,back,same,?_⟩
  rw [← bytes,List.length_take]
  omega

/-- A prefix with all the bytes is the text. -/
theorem prefix_whole {text front back : String} (parts : text = front ++ back)
    (size : (as_bytes front).length = (as_bytes text).length) : front = text := by
  have bytes := as_bytes_append front back
  rw [← parts] at bytes
  have sizes := congrArg List.length bytes
  rw [List.length_append] at sizes
  have none : as_bytes back = [] := List.length_eq_zero_iff.mp (by omega)
  rw [parts,as_bytes_empty.mp none,String.append_empty]

/-- Two texts after a tag, each cut at a byte, and decoded. -/
def cut_pair {α : Type} (tag : α) (x y : String) (i j : Nat) : Option (α × String × String) :=
  (from_utf8 ((as_bytes x).take i)).bind fun s => (from_utf8 ((as_bytes y).take j)).map fun t => (tag,s,t)

section
variable {α : Type} {tag : α} {x y : String} {i j : Nat}

/-- Cuts at boundaries leave a prefix of each text, the whole text where nothing is cut. -/
theorem pair_decoded (tag : α) (first : is_char_boundary (as_bytes x) i = true)
    (second : is_char_boundary (as_bytes y) j = true) : ∃ s t, cut_pair tag x y i j = some (tag,s,t) ∧
      (∃ more, x = s ++ more) ∧ (∃ more, y = t ++ more) ∧
      ((as_bytes x).length = i → s = x) ∧ ((as_bytes y).length = j → t = y) := by
  obtain ⟨s,rest,parts,size,read⟩ := decode_boundary first
  obtain ⟨t,rest',parts',size',read'⟩ := decode_boundary second
  refine ⟨s,t,?_,⟨_,parts⟩,⟨_,parts'⟩,?_,?_⟩
  · rw [cut_pair,read,read']
    rfl
  · intro all
    exact prefix_whole parts (size.trans all.symm)
  · intro all
    exact prefix_whole parts' (size'.trans all.symm)

/-- Both cuts are at boundaries where both texts are decoded. -/
theorem pair_boundaries {read : α × String × String} (first : i ≤ (as_bytes x).length) (second : j ≤ (as_bytes y).length)
    (decoded : cut_pair tag x y i j = some read) :
    is_char_boundary (as_bytes x) i = true ∧ is_char_boundary (as_bytes y) j = true := by
  obtain ⟨s,first_read,second_read⟩ := Option.bind_eq_some_iff.mp decoded
  obtain ⟨t,second_read,_⟩ := Option.map_eq_some_iff.mp second_read
  exact ⟨boundary_of_decoded first first_read,boundary_of_decoded second second_read⟩

end

theorem char_cut_boundary (bytes : List UInt8) (index : Nat) : is_char_boundary bytes (char_cut bytes index) = true := by
  induction index with
  | zero => rfl
  | succ index ih =>
    rw [char_cut]
    split
    · assumption
    · exact ih

/-- The search does not pass a boundary. -/
theorem char_cut_last {bytes : List UInt8} {index cut : Nat} (boundary : is_char_boundary bytes cut = true)
    (within : cut ≤ index) : cut ≤ char_cut bytes index := by
  induction index with
  | zero => exact within
  | succ index ih =>
    rw [char_cut]
    split
    · exact within
    · rename_i inside
      refine ih ?_
      by_contra beyond
      have last : cut = index + 1 := by omega
      exact inside (last ▸ boundary)

/-! ## Turns -/

theorem turn_decoded (role : TurnRoleByte) (chunk : List UInt8) :
    decode_turn_append (role.byte :: chunk) = (from_utf8 chunk).map (role,·) := by
  cases found : from_utf8 chunk <;> cases role <;> simp [decode_turn_append,TurnRoleByte.byte,found]

/-- A turn reads back with its role and the longest prefix of its text that fits, where the search for a boundary
    ends. -/
theorem turn_read_back (role : TurnRoleByte) (text : String) : ∃ front back, text = front ++ back ∧
    decode_turn_append (encode_turn_append role text) = some (role,front) ∧
    (as_bytes front).length ≤ 57 ∧ is_char_boundary (as_bytes text) (as_bytes front).length = true ∧
    (∀ cut ≤ 57, cut ≤ (as_bytes text).length → is_char_boundary (as_bytes text) cut = true → cut ≤ (as_bytes front).length) ∧
    ((as_bytes text).length > 57 → char_cut (as_bytes text) 57 = (as_bytes front).length) := by
  have max : HID_MAX_PAYLOAD - 1 = 57 := rfl
  rw [encode_turn_append,max]
  by_cases long : (as_bytes text).length > 57
  · have boundary := char_cut_boundary (as_bytes text) 57
    obtain ⟨front,back,parts,size,decoded⟩ := decode_boundary boundary
    refine ⟨front,back,parts,?_,?_,?_,?_,fun _ => size.symm⟩
    · rw [if_pos long,turn_decoded,decoded]
      rfl
    · rw [size]
      exact char_cut_le _ _
    · rw [size]
      exact boundary
    · intro cut within _ boundary
      rw [size]
      exact char_cut_last boundary within
  · refine ⟨text,"",by simp,?_,by omega,?_,fun cut _ within _ => within,fun large => absurd large long⟩
    · rw [if_neg long,turn_decoded,from_utf8_as_bytes]
      rfl
    · exact boundary_iff.mpr ⟨text,"",by simp,rfl⟩

/-! ## Permission requests -/

/-- Where the tool is cut, and where the arguments are. -/
def tool_cut (tool : String) : Nat := min (as_bytes tool).length 24

def args_cut (tool args_summary : String) : Nat :=
  min (as_bytes args_summary).length (HID_MAX_PAYLOAD - (9 + tool_cut tool))

theorem permission_encoded (req_id : UInt64) (tool args_summary : String) :
    encode_permission_request req_id tool args_summary =
      to_le_bytes 8 req_id.toNat ++ UInt8.ofNat (tool_cut tool) :: ((as_bytes tool).take (tool_cut tool) ++
        (as_bytes args_summary).take (args_cut tool args_summary)) := by
  have size : (to_le_bytes 8 req_id.toNat ++ [UInt8.ofNat (tool_cut tool)] ++ (as_bytes tool).take (tool_cut tool)).length =
      9 + tool_cut tool := by
    simp only [List.length_append,List.length_take,to_le_bytes_length,List.length_singleton,tool_cut]
    omega
  rw [args_cut,← size]
  simp only [encode_permission_request,tool_cut,List.append_assoc,List.cons_append,List.nil_append]

theorem permission_layout (req_id : UInt64) (tool args : List UInt8) (short : tool.length < 256) :
    decode_permission_request (to_le_bytes 8 req_id.toNat ++ UInt8.ofNat tool.length :: (tool ++ args)) =
      (from_utf8 tool).bind fun t => (from_utf8 args).map fun a => (req_id,t,a) := by
  have size := to_le_bytes_length 8 req_id.toNat
  have front : (to_le_bytes 8 req_id.toNat ++ UInt8.ofNat tool.length :: (tool ++ args)).take 8 =
      to_le_bytes 8 req_id.toNat := by simp [size]
  have length : ((to_le_bytes 8 req_id.toNat ++ UInt8.ofNat tool.length :: (tool ++ args)).getD 8 0).toNat =
      tool.length := by
    simp [List.getD,size]
    omega
  have rest : (to_le_bytes 8 req_id.toNat ++ UInt8.ofNat tool.length :: (tool ++ args)).drop 9 = tool ++ args := by
    simp [List.drop_append,size]
  have last : (to_le_bytes 8 req_id.toNat ++ UInt8.ofNat tool.length :: (tool ++ args)).drop (9 + tool.length) = args := by
    rw [← List.drop_drop,rest,List.drop_left]
  rw [decode_permission_request,if_neg (by simp [size]; omega)]
  simp only [front,length,rest,last,List.take_left,from_to_le_bytes_uint64]
  rw [if_neg (by simp [size]; omega)]
  cases from_utf8 tool with
  | none => rfl
  | some t => cases from_utf8 args <;> rfl

theorem permission_decoded (req_id : UInt64) (tool args_summary : String) :
    decode_permission_request (encode_permission_request req_id tool args_summary) =
      cut_pair req_id tool args_summary (tool_cut tool) (args_cut tool args_summary) := by
  have size : ((as_bytes tool).take (tool_cut tool)).length = tool_cut tool := by
    rw [List.length_take,tool_cut]
    omega
  have layout := permission_layout req_id ((as_bytes tool).take (tool_cut tool))
    ((as_bytes args_summary).take (args_cut tool args_summary)) (by rw [size,tool_cut]; omega)
  rw [size] at layout
  rw [permission_encoded,layout,cut_pair]

/-- What is to be expected of a request that is encoded and decoded. -/
def PermissionReadsBack (req_id : UInt64) (tool args_summary : String) : Prop :=
  (encode_permission_request req_id tool args_summary).length ≤ 58 ∧
    ∃ t a, decode_permission_request (encode_permission_request req_id tool args_summary) = some (req_id,t,a) ∧
      (∃ more, tool = t ++ more) ∧ (∃ more, args_summary = a ++ more) ∧
      ((as_bytes tool).length ≤ 24 → 9 + (as_bytes tool).length + (as_bytes args_summary).length ≤ 58 →
        t = tool ∧ a = args_summary)

/-- A permission request reads back exactly when both cuts are at character boundaries. -/
theorem permission_read_back (req_id : UInt64) (tool args_summary : String) :
    PermissionReadsBack req_id tool args_summary ↔
      is_char_boundary (as_bytes tool) (min (as_bytes tool).length 24) = true ∧
      is_char_boundary (as_bytes args_summary)
        (min (as_bytes args_summary).length (49 - min (as_bytes tool).length 24)) = true := by
  have max : HID_MAX_PAYLOAD = 58 := rfl
  have cut : min (as_bytes args_summary).length (49 - min (as_bytes tool).length 24) = args_cut tool args_summary := by
    rw [args_cut,tool_cut]
    omega
  rw [cut,← tool_cut,PermissionReadsBack,permission_decoded]
  constructor
  · rintro ⟨_,t,a,decoded,_⟩
    exact pair_boundaries (Nat.min_le_left _ _) (Nat.min_le_left _ _) decoded
  · rintro ⟨tool_boundary,args_boundary⟩
    obtain ⟨t,a,decoded,tool_front,args_front,tool_whole,args_whole⟩ := pair_decoded req_id tool_boundary args_boundary
    refine ⟨permission_request_size _ _ _,t,a,decoded,tool_front,args_front,?_⟩
    intro short fits
    rw [args_cut] at args_whole
    rw [tool_cut] at args_whole tool_whole
    exact ⟨tool_whole (by omega),args_whole (by omega)⟩

/-- A tool whose last character does not fit. -/
theorem permission_cut_inside : ¬ ∀ req_id tool args_summary, PermissionReadsBack req_id tool args_summary := by
  intro reads
  obtain ⟨_,t,a,decoded,_⟩ := reads 1 "aaaaaaaaaaaaaaaaaaaaaaaé" ""
  rw [permission_decoded] at decoded
  have boundary := (pair_boundaries (Nat.min_le_left _ _) (Nat.min_le_left _ _) decoded).1
  revert boundary
  decide

/-! ## Meta data of an agent -/

/-- Where the directory is cut, and where the branch is. -/
def cwd_cut (cwd branch : String) : Nat :=
  min (min (as_bytes cwd).length (HID_MAX_PAYLOAD - (2 + min (as_bytes branch).length 16))) 255

def branch_cut (cwd branch : String) : Nat := min (as_bytes branch).length (HID_MAX_PAYLOAD - (2 + cwd_cut cwd branch))

theorem meta_encoded (kind : UInt8) (cwd branch : String) :
    encode_agent_meta kind cwd branch = kind :: UInt8.ofNat (cwd_cut cwd branch) ::
      ((as_bytes cwd).take (cwd_cut cwd branch) ++ (as_bytes branch).take (branch_cut cwd branch)) := by
  have size : ([kind,UInt8.ofNat (cwd_cut cwd branch)] ++ (as_bytes cwd).take (cwd_cut cwd branch)).length =
      2 + cwd_cut cwd branch := by
    simp only [List.length_append,List.length_take,List.length_cons,List.length_nil,cwd_cut]
    omega
  rw [branch_cut,← size]
  simp only [encode_agent_meta,cwd_cut,List.cons_append,List.nil_append]

theorem meta_layout (kind : UInt8) (cwd branch : List UInt8) (short : cwd.length < 256) :
    decode_agent_meta (kind :: UInt8.ofNat cwd.length :: (cwd ++ branch)) =
      (from_utf8 cwd).bind fun c => (from_utf8 branch).map fun b => (kind,c,b) := by
  have length : (UInt8.ofNat cwd.length).toNat = cwd.length := by
    simp
    omega
  have rest : (kind :: UInt8.ofNat cwd.length :: (cwd ++ branch)).drop 2 = cwd ++ branch := rfl
  have last : (kind :: UInt8.ofNat cwd.length :: (cwd ++ branch)).drop (2 + cwd.length) = branch := by
    rw [← List.drop_drop,rest,List.drop_left]
  rw [decode_agent_meta,if_neg (by simp)]
  simp only [List.getD_cons_zero,List.getD_cons_succ,length,rest,last,List.take_left]
  rw [if_neg (by simp; omega)]
  cases from_utf8 cwd with
  | none => rfl
  | some t => cases from_utf8 branch <;> rfl

theorem meta_decoded (kind : UInt8) (cwd branch : String) :
    decode_agent_meta (encode_agent_meta kind cwd branch) =
      cut_pair kind cwd branch (cwd_cut cwd branch) (branch_cut cwd branch) := by
  have size : ((as_bytes cwd).take (cwd_cut cwd branch)).length = cwd_cut cwd branch := by
    rw [List.length_take,cwd_cut]
    omega
  have layout := meta_layout kind ((as_bytes cwd).take (cwd_cut cwd branch))
    ((as_bytes branch).take (branch_cut cwd branch)) (by rw [size,cwd_cut]; omega)
  rw [size] at layout
  rw [meta_encoded,layout,cut_pair]

/-- What is to be expected of meta data that are encoded and decoded. -/
def MetaReadsBack (kind : UInt8) (cwd branch : String) : Prop :=
  (encode_agent_meta kind cwd branch).length ≤ 58 ∧
    ∃ c b, decode_agent_meta (encode_agent_meta kind cwd branch) = some (kind,c,b) ∧
      (∃ more, cwd = c ++ more) ∧ (∃ more, branch = b ++ more) ∧
      (2 + (as_bytes cwd).length + (as_bytes branch).length ≤ 58 → (as_bytes branch).length ≤ 16 → c = cwd ∧ b = branch)

/-- Meta data read back exactly when both cuts are at character boundaries. -/
theorem meta_read_back (kind : UInt8) (cwd branch : String) :
    MetaReadsBack kind cwd branch ↔
      is_char_boundary (as_bytes cwd) (min (as_bytes cwd).length (56 - min (as_bytes branch).length 16)) = true ∧
      is_char_boundary (as_bytes branch) (min (as_bytes branch).length
        (56 - min (as_bytes cwd).length (56 - min (as_bytes branch).length 16))) = true := by
  have max : HID_MAX_PAYLOAD = 58 := rfl
  have cwd_same : min (as_bytes cwd).length (56 - min (as_bytes branch).length 16) = cwd_cut cwd branch := by
    rw [cwd_cut]
    omega
  have branch_same : min (as_bytes branch).length (56 - cwd_cut cwd branch) = branch_cut cwd branch := by
    rw [branch_cut]
    omega
  have cwd_within : cwd_cut cwd branch ≤ (as_bytes cwd).length := by
    rw [cwd_cut]
    omega
  rw [cwd_same,branch_same,MetaReadsBack,meta_decoded]
  constructor
  · rintro ⟨_,c,b,decoded,_⟩
    exact pair_boundaries cwd_within (Nat.min_le_left _ _) decoded
  · rintro ⟨cwd_boundary,branch_boundary⟩
    obtain ⟨c,b,decoded,cwd_front,branch_front,cwd_whole,branch_whole⟩ := pair_decoded kind cwd_boundary branch_boundary
    refine ⟨agent_meta_size _ _ _,c,b,decoded,cwd_front,branch_front,?_⟩
    intro fits short
    rw [branch_cut] at branch_whole
    rw [cwd_cut] at branch_whole cwd_whole
    exact ⟨cwd_whole (by omega),branch_whole (by omega)⟩

/-- A directory whose last character does not fit. -/
theorem meta_cut_inside : ¬ ∀ kind cwd branch, MetaReadsBack kind cwd branch := by
  intro reads
  obtain ⟨_,c,b,decoded,_⟩ := reads 0 "/aaaaaaaaaaaaaaaaaaaaaaaaaaaaaaaaaaaaaaaaaaaaaaaaaaaaaaé" ""
  rw [meta_decoded] at decoded
  have boundary := (pair_boundaries (by decide) (Nat.min_le_left _ _) decoded).1
  revert boundary
  decide

end VibeBridge.Truncation
