import VibeBridge.CommandLines
import VibeBridge.Utf16

/-!
The command line that the daemon starts a child with, and what the C runtime of
the child makes of it. Only arguments with blanks are quoted, and backslashes are
never doubled: the arguments come back exactly where no backslash stands before a
quote or at the end of a quoted argument, no other argument has a quote, none is
empty, and all are texts without NUL (`command_line_parsed_iff`).
-/
namespace VibeBridge.ConPty
open CommandLines Utf16

/-- An `OsString` of Windows: units of UTF-16, not always well formed. -/
abbrev OsString := List UInt16

def to_string_lossy (arg : OsString) : List Char := decode_lossy arg

/-- What `build_command_line` writes of one argument. -/
def push_arg (arg : OsString) : List Char :=
  let arg_lossy := to_string_lossy arg
  if arg_lossy.contains ' ' || arg_lossy.contains '\t' then
    '"' :: (arg_lossy.flatMap (fun ch => if ch = '"' then ['\\',ch] else [ch]) ++ ['"'])
  else arg_lossy

def build_command_line (argv : List OsString) : List UInt16 :=
  encode ([' '].intercalate (argv.map push_arg)) ++ [0]

def QUOTE : UInt16 := 0x22

def BACKSLASH : UInt16 := 0x5c

def is_blank (u : UInt16) : Bool := u == 0x20 || u == 0x09

/-- The arguments of a process, by the rules of the C runtime: the command line ends at its first NUL. -/
def parsed (command_line : List UInt16) : List OsString :=
  arguments QUOTE BACKSLASH is_blank false none 0 (command_line.takeWhile (· ≠ 0))

/-- The argument is a text, without NUL and not empty, and its quotes and backslashes stand for themselves. -/
def Passed (arg : OsString) : Prop :=
  (∃ text, arg = encode text) ∧ arg ≠ [] ∧ 0 ∉ arg ∧ Kept QUOTE BACKSLASH is_blank arg

/-- The units that are written for an argument. -/
def wide (arg : OsString) : OsString := encode (to_string_lossy arg)

/-! ## Units -/

theorem apart : BACKSLASH ≠ QUOTE := by decide

theorem mem_wide {u : UInt16} (ascii : u.toNat < 0x80) (arg : OsString) : u ∈ wide arg ↔ u ∈ arg := by
  rw [← List.count_pos_iff,← List.count_pos_iff,wide,to_string_lossy,decode_lossy_count ascii]

theorem blanks (text : List Char) : (text.contains ' ' || text.contains '\t') = (encode text).any is_blank := by
  rw [Bool.eq_iff_iff,Bool.or_eq_true,List.contains_iff_mem,List.contains_iff_mem,List.any_eq_true,
    ← mem_encode (u := 0x20) (by decide) rfl,← mem_encode (u := 0x09) (by decide) rfl]
  constructor
  · rintro (space | tab)
    · exact ⟨0x20,space,rfl⟩
    · exact ⟨0x09,tab,rfl⟩
  · rintro ⟨u,member,blank⟩
    simp only [is_blank,Bool.or_eq_true,beq_iff_eq] at blank
    rcases blank with rfl | rfl
    · exact .inl member
    · exact .inr member

theorem encode_escaped (text : List Char) :
    encode (text.flatMap (fun ch => if ch = '"' then ['\\',ch] else [ch])) = escape QUOTE BACKSLASH (encode text) := by
  induction text with
  | nil => rfl
  | cons c text ih =>
    have first : encode (if c = '"' then ['\\',c] else [c]) = escape QUOTE BACKSLASH (encode_char c) := by
      split
      · rename_i open_quote
        subst open_quote
        rfl
      · rename_i plain
        have free : QUOTE ∉ encode [c] := by
          rw [mem_encode (c := '"') (by decide) rfl,List.mem_singleton]
          exact fun same => plain same.symm
        rw [encode_cons,encode_nil,List.append_nil] at free ⊢
        rw [escape_plain free]
    rw [List.flatMap_cons,encode_append,ih,first,encode_cons,escape_append]

theorem wide_push_arg (arg : OsString) : encode (push_arg arg) = written QUOTE BACKSLASH is_blank (wide arg) := by
  rw [push_arg,written,wide,blanks]
  split
  · rw [encode_cons,encode_append,encode_escaped]
    rfl
  · rfl

theorem wide_line (argv : List OsString) : encode ([' '].intercalate (argv.map push_arg)) =
    line QUOTE BACKSLASH is_blank 0x20 (argv.map wide) := by
  rw [line]
  induction argv with
  | nil => rfl
  | cons arg argv ih =>
    rw [List.map_cons,List.map_cons,List.map_cons]
    cases argv with
    | nil => simp [wide_push_arg]
    | cons next argv =>
      rw [List.intercalate_cons_of_ne_nil (by simp),List.intercalate_cons_of_ne_nil (by simp),encode_append,encode_append,
        wide_push_arg,ih]
      rfl

/-! ## What comes back -/

theorem wide_weight (argv : List OsString) :
    weight QUOTE BACKSLASH (argv.map wide).flatten = weight QUOTE BACKSLASH argv.flatten := by
  induction argv with
  | nil => rfl
  | cons arg argv ih =>
    have first : weight QUOTE BACKSLASH (wide arg) = weight QUOTE BACKSLASH arg := by
      rw [weight,weight,wide,to_string_lossy,decode_lossy_count (by decide),decode_lossy_count (by decide)]
    rw [List.map_cons,List.flatten_cons,List.flatten_cons,weight_append,weight_append,first,ih]

/-- Without NULs, the whole line is read. -/
theorem parsed_whole {argv : List OsString} (free : ∀ arg ∈ argv, 0 ∉ arg) : parsed (build_command_line argv) =
    arguments QUOTE BACKSLASH is_blank false none 0 (line QUOTE BACKSLASH is_blank 0x20 (argv.map wide)) := by
  have none : ∀ u ∈ line QUOTE BACKSLASH is_blank 0x20 (argv.map wide), decide (u ≠ 0) = true := by
    intro u member
    rw [decide_eq_true_eq]
    rintro rfl
    rcases mem_line member with space | open_quote | slash | ⟨units,there,inside⟩
    · cases space
    · cases open_quote
    · cases slash
    · obtain ⟨arg,given,rfl⟩ := List.mem_map.mp there
      exact free arg given ((mem_wide (by decide) arg).mp inside)
  rw [parsed,build_command_line,wide_line,List.takeWhile_append_of_pos none]
  simp

/-- No NUL comes back. -/
theorem parsed_free (command_line : List UInt16) : ∀ arg ∈ parsed command_line, 0 ∉ arg := by
  intro arg member inside
  have there : (0 : UInt16) ∈ (parsed command_line).flatten := List.mem_flatten.mpr ⟨arg,member,inside⟩
  rcases mem_arguments (by decide) (by decide) there with nothing | read
  · cases nothing
  · have before := List.mem_takeWhile_imp read
    simp at before

/-- Where no argument has vanished, each is the text that was written for it. -/
theorem wide_unchanged {argv : List OsString} (same : (argv.map wide).filter (fun arg => !arg.isEmpty) = argv) :
    ∀ arg ∈ argv, wide arg = arg ∧ arg ≠ [] := by
  have all_there : ((argv.map wide).filter (fun arg => !arg.isEmpty)).length = (argv.map wide).length := by
    rw [same,List.length_map]
  have some_there := List.length_filter_eq_length_iff.mp all_there
  rw [List.filter_eq_self.mpr some_there] at same
  intro arg member
  have unchanged : wide arg = arg := List.map_inj_left.mp (same.trans (List.map_id argv).symm) arg member
  refine ⟨unchanged,?_⟩
  have there := some_there (wide arg) (List.mem_map_of_mem member)
  simpa [unchanged] using there

/-- The arguments come back exactly when each of them is passed as it is. -/
theorem command_line_parsed_iff (argv : List OsString) :
    parsed (build_command_line argv) = argv ↔ ∀ arg ∈ argv, Passed arg := by
  have separates : is_blank 0x20 = true := rfl
  constructor
  · intro same
    have free : ∀ arg ∈ argv, 0 ∉ arg := by
      have none_back := parsed_free (build_command_line argv)
      rwa [same] at none_back
    rw [parsed_whole free] at same
    have kept := arguments_kept apart separates (by decide) (by decide) (by rw [same,wide_weight])
    rw [arguments_line apart separates (by decide) (by decide) kept] at same
    intro arg member
    obtain ⟨unchanged,some_there⟩ := wide_unchanged same arg member
    have keeps := kept (wide arg) (List.mem_map_of_mem member)
    rw [unchanged] at keeps
    exact ⟨⟨to_string_lossy arg,unchanged.symm⟩,some_there,free arg member,keeps⟩
  · intro passed
    have unchanged : argv.map wide = argv := by
      refine Eq.trans (List.map_inj_left.mpr ?_) (List.map_id argv)
      intro arg member
      obtain ⟨⟨text,rfl⟩,_⟩ := passed arg member
      rw [wide,to_string_lossy,decode_encode,id_eq]
    rw [parsed_whole (fun arg member => (passed arg member).2.2.1),unchanged,
      arguments_line apart separates (by decide) (by decide) (fun arg member => (passed arg member).2.2.2)]
    exact List.filter_eq_self.mpr (fun arg member => by simpa using (passed arg member).2.1)

/-- An argument with a blank and a backslash at its end swallows the next one. -/
theorem command_line_merges : ¬ ∀ argv, parsed (build_command_line argv) = argv := by
  intro all
  have found := all [encode "a b\\".toList,encode "c".toList]
  exact absurd found (by decide)

end VibeBridge.ConPty
