import Mathlib.Data.List.DropRight
import VibeBridge.Agent

/-!
The terminal buffer of an agent as what it is for: the last bytes of everything
that was appended (`last_bytes_kept`). The loop that trims it counts the bytes in
a field of its own. Its subtractions are of `usize`, and it has a branch for an
empty deque, so the same loop is stated once more with each of these checked.
-/
namespace VibeBridge.Agent

/-- Trimming drops bytes at the front only. -/
theorem trim_front_suffix (chunks : List (List UInt8)) (len : Nat) : (trim_front chunks len).1.flatten <:+ chunks.flatten := by
  induction chunks generalizing len with
  | nil =>
    rw [trim_front]
    split <;> exact List.suffix_refl _
  | cons front rest ih =>
    rw [trim_front]
    split
    · simp only
      split
      · exact (ih _).trans (List.suffix_append front rest.flatten)
      · simp only [List.flatten_cons]
        exact List.suffix_append_self_iff.mpr (List.drop_suffix _ front)
    · exact List.suffix_refl _

/-- After bytes are appended, the buffer is a suffix of what it was together with them. -/
theorem append_bytes_suffix (agent : RegisteredAgent) (bytes : List UInt8) :
    (agent.append_terminal_bytes bytes).terminal_snapshot <:+ agent.terminal_snapshot ++ bytes := by
  unfold RegisteredAgent.append_terminal_bytes RegisteredAgent.terminal_snapshot
  split
  · rename_i empty
    simp [List.isEmpty_iff.mp empty]
  · split
    · simp only [List.flatten_cons,List.flatten_nil,List.append_nil]
      exact (List.drop_suffix _ bytes).trans (List.suffix_append _ bytes)
    · simp only
      have trimmed := trim_front_suffix (agent.terminal_buffer ++ [bytes]) (agent.terminal_buffer_len + bytes.length)
      simpa using trimmed

/-! ## The same loop with its checks -/

/-- `a - b` of two `usize`, or nothing where it underflows. -/
def checked_sub (a b : Nat) : Option Nat := if b ≤ a then some (a - b) else none

theorem checked_sub_le {a b : Nat} (le : b ≤ a) : checked_sub a b = some (a - b) := if_pos le

/-- `trim_front`, or nothing where a subtraction underflows or the deque has run empty. -/
def trim_front_checked : List (List UInt8) → Nat → Option (List (List UInt8) × Nat)
  | [], len => if len > VT100_BUFFER_BYTES then none else some ([],len)
  | front :: rest, len =>
    if len > VT100_BUFFER_BYTES then do
      let overflow ← checked_sub len VT100_BUFFER_BYTES
      if front.length ≤ overflow then trim_front_checked rest (← checked_sub len front.length)
      else return (front.drop overflow :: rest,← checked_sub len overflow)
    else some (front :: rest,len)

/-- `append_terminal_bytes`, or nothing where a subtraction underflows or the deque has run empty. -/
def RegisteredAgent.append_terminal_bytes_checked (agent : RegisteredAgent) (bytes : List UInt8) :
    Option RegisteredAgent :=
  if bytes.isEmpty then some agent
  else if bytes.length ≥ VT100_BUFFER_BYTES then do
    let keep_from ← checked_sub bytes.length VT100_BUFFER_BYTES
    return { agent with terminal_buffer := [bytes.drop keep_from], terminal_buffer_len := VT100_BUFFER_BYTES }
  else do
    let trimmed ← trim_front_checked (agent.terminal_buffer ++ [bytes]) (agent.terminal_buffer_len + bytes.length)
    return { agent with terminal_buffer := trimmed.1, terminal_buffer_len := trimmed.2 }

/-- Where the length is counted right, the loop ends with the length counted right,
    with no more bytes than allowed and no fewer than it can keep. -/
theorem trim_front_counted (chunks : List (List UInt8)) :
    trim_front_checked chunks chunks.flatten.length = some (trim_front chunks chunks.flatten.length) ∧
      (trim_front chunks chunks.flatten.length).2 = (trim_front chunks chunks.flatten.length).1.flatten.length ∧
      (trim_front chunks chunks.flatten.length).2 = min chunks.flatten.length VT100_BUFFER_BYTES := by
  induction chunks with
  | nil => decide
  | cons front rest ih =>
    rw [trim_front,trim_front_checked]
    by_cases long : (front :: rest).flatten.length > VT100_BUFFER_BYTES
    · rw [if_pos long,if_pos long,checked_sub_le long.le]
      simp only [List.flatten_cons,List.length_append,Option.pure_def,Option.bind_eq_bind,Option.bind_some] at long ⊢
      by_cases gone : front.length ≤ front.length + rest.flatten.length - VT100_BUFFER_BYTES
      · -- the whole chunk goes, and the rest is still counted right
        have counted : front.length + rest.flatten.length - front.length = rest.flatten.length := by omega
        have short : min (front.length + rest.flatten.length) VT100_BUFFER_BYTES = min rest.flatten.length VT100_BUFFER_BYTES := by
          omega
        rw [if_pos gone,if_pos gone,checked_sub_le (by omega),Option.bind_some,counted,short]
        exact ih
      · rw [if_neg gone,if_neg gone,checked_sub_le (by omega)]
        refine ⟨rfl,?_,?_⟩
        · simp only [List.flatten_cons,List.length_append,List.length_drop]
          omega
        · omega
    · rw [if_neg long,if_neg long]
      exact ⟨rfl,rfl,by omega⟩

/-! ## The last bytes -/

/-- The buffer holds the last bytes of what was appended, and their number is in the field. -/
structure Keeps (agent : RegisteredAgent) (appended : List UInt8) : Prop where
  last : agent.terminal_snapshot = appended.rtake VT100_BUFFER_BYTES
  counted : agent.terminal_buffer_len = agent.terminal_snapshot.length

theorem length_rtake {α : Type} (n : Nat) (l : List α) : (l.rtake n).length = min l.length n := by
  rw [List.rtake,List.length_drop]
  omega

theorem rtake_min {α : Type} (n : Nat) (l : List α) : l.rtake n = l.drop (l.length - min l.length n) := by
  rw [List.rtake,show l.length - min l.length n = l.length - n by omega]

/-- A suffix is known by its length. -/
theorem rtake_of_suffix {α : Type} {n : Nat} {s l : List α} (suffix : s <:+ l) (length : s.length = min l.length n) :
    s = l.rtake n := by
  rw [rtake_min,← length]
  exact List.suffix_iff_eq_drop.mp suffix

theorem keeps_append {agent : RegisteredAgent} {appended : List UInt8} (keeps : Keeps agent appended) (bytes : List UInt8) :
    agent.append_terminal_bytes_checked bytes = some (agent.append_terminal_bytes bytes) ∧
      Keeps (agent.append_terminal_bytes bytes) (appended ++ bytes) := by
  have suffix : (agent.append_terminal_bytes bytes).terminal_snapshot <:+ appended ++ bytes := by
    refine (append_bytes_suffix agent bytes).trans (List.suffix_append_self_iff.mpr ?_)
    rw [keeps.last]
    exact List.drop_suffix _ appended
  -- so only the lengths are left to compare
  suffices lengths : agent.append_terminal_bytes_checked bytes = some (agent.append_terminal_bytes bytes) ∧
      (agent.append_terminal_bytes bytes).terminal_buffer_len = (agent.append_terminal_bytes bytes).terminal_snapshot.length ∧
      (agent.append_terminal_bytes bytes).terminal_snapshot.length = min (appended ++ bytes).length VT100_BUFFER_BYTES from
    ⟨lengths.1,rtake_of_suffix suffix lengths.2.2,lengths.2.1⟩
  have held : agent.terminal_snapshot.length = min appended.length VT100_BUFFER_BYTES := by
    rw [keeps.last,length_rtake]
  rw [RegisteredAgent.append_terminal_bytes,RegisteredAgent.append_terminal_bytes_checked]
  by_cases empty : bytes.isEmpty
  · rw [if_pos empty,if_pos empty,List.isEmpty_iff.mp empty,List.append_nil]
    exact ⟨rfl,keeps.counted,held⟩
  · rw [if_neg empty,if_neg empty]
    by_cases large : bytes.length ≥ VT100_BUFFER_BYTES
    · rw [if_pos large,if_pos large,checked_sub_le large]
      simp only [RegisteredAgent.terminal_snapshot,List.flatten_cons,List.flatten_nil,List.append_nil,List.length_drop,
        List.length_append]
      exact ⟨rfl,by omega,by omega⟩
    · rw [if_neg large,if_neg large]
      obtain ⟨checked,counted,length⟩ := trim_front_counted (agent.terminal_buffer ++ [bytes])
      have total : (agent.terminal_buffer ++ [bytes]).flatten.length = agent.terminal_buffer_len + bytes.length := by
        rw [keeps.counted,RegisteredAgent.terminal_snapshot]
        simp
      rw [total] at checked counted length
      rw [checked]
      simp only [RegisteredAgent.terminal_snapshot]
      refine ⟨rfl,counted,?_⟩
      rw [← counted,length,keeps.counted,held,List.length_append]
      omega

theorem keeps_run (chunks : List (List UInt8)) {agent : RegisteredAgent} {appended : List UInt8}
    (keeps : Keeps agent appended) :
    chunks.foldlM RegisteredAgent.append_terminal_bytes_checked agent =
        some (chunks.foldl RegisteredAgent.append_terminal_bytes agent) ∧
      Keeps (chunks.foldl RegisteredAgent.append_terminal_bytes agent) (appended ++ chunks.flatten) := by
  induction chunks generalizing agent appended with
  | nil => simpa using keeps
  | cons bytes rest ih =>
    obtain ⟨checked,kept⟩ := keeps_append keeps bytes
    rw [List.foldlM_cons,checked,List.foldl_cons,List.flatten_cons,← List.append_assoc]
    exact ih kept

/-- Whatever is appended to an empty buffer and in whatever chunks, the snapshot is
    the last 64 KiB of it, the field has its length, and no check fails on the way. -/
theorem last_bytes_kept (agent : RegisteredAgent) (empty : agent.terminal_buffer = []) (zero : agent.terminal_buffer_len = 0)
    (chunks : List (List UInt8)) :
    let final := chunks.foldl RegisteredAgent.append_terminal_bytes agent
    final.terminal_snapshot = chunks.flatten.drop (chunks.flatten.length - min chunks.flatten.length VT100_BUFFER_BYTES) ∧
      final.terminal_buffer_len = final.terminal_snapshot.length ∧
      final.terminal_buffer_len = min chunks.flatten.length VT100_BUFFER_BYTES ∧
      chunks.foldlM RegisteredAgent.append_terminal_bytes_checked agent = some final := by
  intro final
  have start : Keeps agent [] := by
    refine ⟨?_,?_⟩
    · simp [RegisteredAgent.terminal_snapshot,empty]
    · simp [RegisteredAgent.terminal_snapshot,empty,zero]
  obtain ⟨checked,kept⟩ := keeps_run chunks start
  rw [List.nil_append] at kept
  refine ⟨?_,kept.counted,?_,checked⟩
  · rw [← rtake_min]
    exact kept.last
  · rw [show final.terminal_buffer_len = _ from kept.counted,kept.last,length_rtake]

/-- A chunk that is dropped, one that is cut, and the end. -/
theorem last_bytes_kept_two :
    let agent := RegisteredAgent.from_session ⟨"x",.Claude,"","","",.Running,none⟩
    let final := [[0x21],List.replicate 65535 0x61,[0x68,0x69]].foldl RegisteredAgent.append_terminal_bytes agent
    final.terminal_snapshot = List.replicate 65534 0x61 ++ [0x68,0x69] ∧ final.terminal_buffer_len = 65536 := by
  intro agent final
  have kept := last_bytes_kept agent rfl rfl [[0x21],List.replicate 65535 0x61,[0x68,0x69]]
  have whole (n : Nat) : [[0x21],List.replicate n (0x61 : UInt8),[0x68,0x69]].flatten.length = n + 3 := by
    rw [List.flatten_cons,List.flatten_cons,List.flatten_singleton,List.length_append,List.length_append,List.length_replicate,
      Nat.add_comm]
    rfl
  have cut (n : Nat) : [[0x21],List.replicate (n + 1) (0x61 : UInt8),[0x68,0x69]].flatten.drop 2 =
      List.replicate n 0x61 ++ [0x68,0x69] := by
    rw [List.flatten_cons,List.flatten_cons,List.flatten_singleton]
    rfl
  have over_by : 65535 + 3 - min (65535 + 3) VT100_BUFFER_BYTES = 2 ∧ min (65535 + 3) VT100_BUFFER_BYTES = 65536 := by decide
  rw [whole 65535,over_by.1,over_by.2] at kept
  exact ⟨kept.1.trans (cut 65534),kept.2.2.1⟩

end VibeBridge.Agent
