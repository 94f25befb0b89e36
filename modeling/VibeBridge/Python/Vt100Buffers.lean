import VibeBridge.Suffixes
import VibeBridge.Python.Vt100Router

/-!
The buffers of the router over whole histories. The eviction drops whole chunks
from the front of a buffer, and each append leaves the longest suffix of the
chunks that is within the limit. So the buffer of a sid is that suffix of all
that was appended since it was created, and the size beside it is its length
(`buffers_kept`).
-/
namespace VibeBridge.Python
open Suffixes

/-- The calls that change the router. -/
inductive RouterCall
  | register (sid : Nat)
  | unregister (sid : Nat)
  | set_active (sid : Option Nat)
  | append (sid : Nat) (data : List UInt8)

def Vt100Router.after (router : Vt100Router) : RouterCall → Vt100Router
  | .register sid => router.register sid
  | .unregister sid => (router.unregister sid).1
  | .set_active sid => (router.set_active sid).1
  | .append sid data => (router.append sid data).1

/-- A router with a limit of its own. -/
def Vt100Router.limited (buffer_bytes : Nat) : Vt100Router := ⟨buffer_bytes,.empty,.empty,none⟩

/-- The chunks of a sid after a call: its buffer ends with `unregister`, and the next one begins empty. -/
def RouterCall.chunks (sid : Nat) (appended : List (List UInt8)) : RouterCall → List (List UInt8)
  | .unregister other => if other = sid then [] else appended
  | .append other data => if other = sid ∧ data ≠ [] then appended ++ [data] else appended
  | .register _ => appended
  | .set_active _ => appended

/-- The chunks that were appended to a sid since its buffer was created. -/
def chunks_appended (calls : List RouterCall) (sid : Nat) : List (List UInt8) := calls.foldl (RouterCall.chunks sid) []

/-- The chunks have no more bytes than the limit allows. -/
def Within (buffer_bytes : Nat) (chunks : List (List UInt8)) : Prop := chunks.flatten.length ≤ buffer_bytes

/-! ## Eviction -/

theorem within_fronts {buffer_bytes : Nat} {chunk : List UInt8} (chunks : List (List UInt8))
    (within : Within buffer_bytes (chunks ++ [chunk])) : Within buffer_bytes chunks := by
  rw [Within,List.flatten_append,List.length_append] at within
  exact (Nat.le_add_right _ _).trans within

/-- Where the size is counted right, the loop ends with the longest suffix within the limit, and counts its size right. -/
theorem evict_longest (buffer_bytes : Nat) (chunks : List (List UInt8)) :
    Longest (Within buffer_bytes) chunks (evict buffer_bytes chunks chunks.flatten.length).1 ∧
      (evict buffer_bytes chunks chunks.flatten.length).2 =
        (evict buffer_bytes chunks chunks.flatten.length).1.flatten.length := by
  induction chunks with
  | nil => exact ⟨longest_self (Nat.zero_le _),rfl⟩
  | cons dropped rest ih =>
    rw [evict]
    split
    · rename_i large
      have left : (dropped :: rest).flatten.length - dropped.length = rest.flatten.length := by simp
      rw [left]
      exact ⟨longest_cons (Nat.not_le_of_gt large) ih.1,ih.2⟩
    · rename_i within
      exact ⟨longest_self (Nat.le_of_not_gt within),rfl⟩

/-! ## Histories -/

/-- The buffer of the sid holds the longest suffix of its chunks, and the size is recorded beside it. -/
structure Buffered (router : Vt100Router) (sid : Nat) (appended : List (List UInt8)) : Prop where
  kept : Longest (Within router.buffer_bytes) appended ((router.buffers.get sid).getD [])
  counted : router.sizes.get sid = (router.buffers.get sid).map (fun chunks => chunks.flatten.length)

section
variable {router : Vt100Router} {sid : Nat} {appended : List (List UInt8)}

/-- Only the buffer of the sid and its size matter. -/
theorem buffered_same {router' : Vt100Router} (buffered : Buffered router sid appended)
    (limit : router'.buffer_bytes = router.buffer_bytes) (buffers : router'.buffers.get sid = router.buffers.get sid)
    (sizes : router'.sizes.get sid = router.sizes.get sid) : Buffered router' sid appended := by
  refine ⟨?_,?_⟩
  · rw [limit,buffers]
    exact buffered.kept
  · rw [sizes,buffers]
    exact buffered.counted

theorem buffered_register (buffered : Buffered router sid appended) (other : Nat) :
    Buffered (router.register other) sid appended := by
  by_cases same : sid = other
  · subst same
    refine ⟨?_,?_⟩
    · simpa [Vt100Router.register,Dict.get_setdefault] using buffered.kept
    · simp only [Vt100Router.register,Dict.get_setdefault,if_true,buffered.counted]
      cases router.buffers.get sid <;> rfl
  · refine buffered_same buffered rfl ?_ ?_
    · simp [Vt100Router.register,Dict.get_setdefault,same]
    · simp [Vt100Router.register,Dict.get_setdefault,same]

theorem sizes_unregister (other : Nat) : (router.unregister other).1.sizes = router.sizes.pop other := by rw [unregister_router]

theorem limit_unregister (other : Nat) : (router.unregister other).1.buffer_bytes = router.buffer_bytes := by
  rw [unregister_router]

theorem buffered_unregister (buffered : Buffered router sid appended) (other : Nat) :
    Buffered (router.unregister other).1 sid (RouterCall.chunks sid appended (.unregister other)) := by
  rw [RouterCall.chunks]
  by_cases same : other = sid
  · subst same
    rw [if_pos rfl]
    refine ⟨?_,?_⟩
    · rw [buffers_unregister,Dict.get_pop,if_pos rfl]
      exact longest_self (Nat.zero_le _)
    · rw [buffers_unregister,sizes_unregister,Dict.get_pop,Dict.get_pop,if_pos rfl,if_pos rfl]
      rfl
  · rw [if_neg same]
    refine buffered_same buffered (limit_unregister other) ?_ ?_
    · rw [buffers_unregister,Dict.get_pop,if_neg (Ne.symm same)]
    · rw [sizes_unregister,Dict.get_pop,if_neg (Ne.symm same)]

theorem buffered_set_active (buffered : Buffered router sid appended) (chosen : Option Nat) :
    Buffered (router.set_active chosen).1 sid appended := by
  have tables : (router.set_active chosen).1 = { router with active := (router.set_active chosen).1.active } := by
    cases chosen with
    | none =>
      simp only [Vt100Router.set_active]
      split <;> rfl
    | some other =>
      simp only [Vt100Router.set_active]
      split
      · rfl
      · split <;> rfl
  rw [tables]
  exact ⟨buffered.kept,buffered.counted⟩

/-- An append leaves the buffers of the other sids. -/
theorem append_other (router : Vt100Router) {other : Nat} (apart : sid ≠ other) (data : List UInt8) :
    (router.append other data).1.buffers.get sid = router.buffers.get sid ∧
      (router.append other data).1.sizes.get sid = router.sizes.get sid := by
  unfold Vt100Router.append
  split
  · exact ⟨rfl,rfl⟩
  · exact ⟨by rw [Dict.get_set,if_neg apart],by rw [Dict.get_set,if_neg apart]⟩

theorem limit_append (other : Nat) (data : List UInt8) : (router.append other data).1.buffer_bytes = router.buffer_bytes := by
  unfold Vt100Router.append
  split <;> rfl

theorem buffered_append (buffered : Buffered router sid appended) (other : Nat) (data : List UInt8) :
    Buffered (router.append other data).1 sid (RouterCall.chunks sid appended (.append other data)) := by
  rw [RouterCall.chunks]
  by_cases here : other = sid ∧ data ≠ []
  · obtain ⟨rfl,some⟩ := here
    rw [if_pos ⟨rfl,some⟩]
    -- the size before the eviction is that of the chunks with the new one
    have size : (router.sizes.get other).getD 0 + data.length =
        (((router.buffers.get other).getD []) ++ [data]).flatten.length := by
      rw [buffered.counted]
      cases router.buffers.get other <;> simp
    obtain ⟨longest,counted⟩ := evict_longest router.buffer_bytes (((router.buffers.get other).getD []) ++ [data])
    have appends : (router.append other data).1.buffers.get other =
          .some (evict router.buffer_bytes (((router.buffers.get other).getD []) ++ [data])
            ((((router.buffers.get other).getD []) ++ [data]).flatten.length)).1 ∧
        (router.append other data).1.sizes.get other =
          .some (evict router.buffer_bytes (((router.buffers.get other).getD []) ++ [data])
            ((((router.buffers.get other).getD []) ++ [data]).flatten.length)).2 := by
      unfold Vt100Router.append
      rw [if_neg (by simpa using some),← size]
      exact ⟨by rw [Dict.get_set,if_pos rfl],by rw [Dict.get_set,if_pos rfl]⟩
    refine ⟨?_,?_⟩
    · rw [limit_append,appends.1]
      exact longest_concat within_fronts buffered.kept longest
    · rw [appends.1,appends.2,counted]
      rfl
  · rw [if_neg here]
    by_cases same : other = sid
    · have none : data = [] := by
        by_contra some
        exact here ⟨same,some⟩
      subst none
      exact buffered
    · have apart := append_other router (Ne.symm same) data
      exact buffered_same buffered (limit_append other data) apart.1 apart.2

theorem buffered_after (buffered : Buffered router sid appended) (call : RouterCall) :
    Buffered (router.after call) sid (call.chunks sid appended) := by
  cases call with
  | register other => exact buffered_register buffered other
  | unregister other => exact buffered_unregister buffered other
  | set_active chosen => exact buffered_set_active buffered chosen
  | append other data => exact buffered_append buffered other data

theorem limit_after (call : RouterCall) : (router.after call).buffer_bytes = router.buffer_bytes := by
  cases call with
  | register other => rfl
  | unregister other => exact limit_unregister other
  | set_active chosen =>
    cases chosen with
    | none =>
      simp only [Vt100Router.after,Vt100Router.set_active]
      split <;> rfl
    | some other =>
      simp only [Vt100Router.after,Vt100Router.set_active]
      split
      · rfl
      · split <;> rfl
  | append other data => exact limit_append other data

theorem buffered_run (calls : List RouterCall) (buffered : Buffered router sid appended) :
    Buffered (calls.foldl Vt100Router.after router) sid (calls.foldl (RouterCall.chunks sid) appended) ∧
      (calls.foldl Vt100Router.after router).buffer_bytes = router.buffer_bytes := by
  induction calls generalizing router appended with
  | nil => exact ⟨buffered,rfl⟩
  | cons call rest ih =>
    obtain ⟨kept,limit⟩ := ih (buffered_after buffered call)
    exact ⟨kept,limit.trans (limit_after call)⟩

end

/-- After any calls, the size that is recorded for a sid is the length of its snapshot, the snapshot is the longest
    suffix of the sid's chunks within the limit, and an append to another sid leaves its buffer and its size. -/
theorem buffers_kept (buffer_bytes : Nat) (calls : List RouterCall) (sid : Nat) :
    let router := calls.foldl Vt100Router.after (.limited buffer_bytes)
    (router.sizes.get sid = if sid ∈ router.buffers.keys then some (router.snapshot sid).length else none) ∧
      (∃ kept, Longest (Within buffer_bytes) (chunks_appended calls sid) kept ∧ router.snapshot sid = kept.flatten) ∧
      ∀ other data, other = sid ∨ ((router.append other data).1.buffers.get sid = router.buffers.get sid ∧
        (router.append other data).1.sizes.get sid = router.sizes.get sid) := by
  intro router
  have start : Buffered (.limited buffer_bytes) sid [] := ⟨longest_self (Nat.zero_le _),rfl⟩
  obtain ⟨buffered,limit⟩ := buffered_run calls start
  refine ⟨?_,⟨(router.buffers.get sid).getD [],?_,rfl⟩,?_⟩
  · rw [buffered.counted]
    by_cases has : sid ∈ router.buffers.keys
    · obtain ⟨chunks,found⟩ := Dict.mem_keys.mp has
      rw [if_pos has,Vt100Router.snapshot,found]
      rfl
    · rw [if_neg has,Dict.get_none.mpr has]
      rfl
  · have kept := buffered.kept
    rwa [limit] at kept
  · intro other data
    by_cases same : other = sid
    · exact .inl same
    · exact .inr (append_other router (Ne.symm same) data)

end VibeBridge.Python
