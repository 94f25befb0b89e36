import Mathlib.Data.List.Basic
import Mathlib.Data.List.Forall2
import Mathlib.Data.List.Infix
import Mathlib.Data.List.TakeWhile

/-!
The loop between a child under a PTY and the terminal of the user
(`pty_runner.py`). What the child writes goes to the terminal and to a callback;
what the user types, and what other threads have put into a queue, goes to the
child. What the system answers in one turn of the loop is given with the turn:
writes may be short and may fail. The callback gets all that was read, and the
child gets whole chunks one after another, each source in its order, until a
write to it fails, which ends the loop (`relayed_whole`).
-/
namespace VibeBridge.Python.PtyRunner

abbrev Bytes := List UInt8

/-- How many bytes each call of `os.write` takes, or nothing where it raises `OSError`. -/
abbrev Writes := Nat → Option Nat

/-- `_write_all` from the call with this number on: the bytes written, and whether nothing was raised. -/
def write_all (writes : Writes) (call : Nat) (data : Bytes) : Bytes × Bool :=
  if _some : data.length = 0 then ([], true)
  else
    match writes call with
    | none => ([], false)
    | some 0 => ([], false)
    | some (n + 1) =>
      let rest := write_all writes (call + 1) (data.drop (n + 1))
      (data.take (n + 1) ++ rest.1, rest.2)
termination_by data.length
decreasing_by simp only [List.length_drop]; omega

/-- Where a chunk for the child comes from. -/
inductive Source
  | injected
  | typed
  deriving DecidableEq

/-- The state of the loop. `heard` and `fed` are what it has read from the child
    and what it has taken to write to it; nothing depends on them. -/
structure Pty (σ : Type) where
  queue : List Bytes
  /-- `in_fd` is in `rlist`. -/
  reads_stdin : Bool
  /-- What the callback has made of its chunks. -/
  output : σ
  /-- The bytes written to the terminal, and those written to the child. -/
  screen : Bytes
  child : Bytes
  heard : List Bytes
  fed : List (Source × Bytes)

def Pty.start {σ : Type} (output : σ) (reads_stdin : Bool) : Pty σ := ⟨[],reads_stdin,output,[],[],[],[]⟩

inductive Selected
  | interrupted
  | bad_descriptor
  | fails
  | ready (master stdin : Bool)

inductive Read
  | data (bytes : Bytes)
  /-- `OSError` with the number `EIO`. -/
  | io_error
  | fails

/-- What happens in one turn of the loop. -/
structure Turn where
  /-- What other threads have put into the queue since the last turn. -/
  puts : List Bytes
  /-- The writes of each chunk of the queue, by its place in it. -/
  injections : Nat → Writes
  select : Selected
  master : Read
  screen : Writes
  stdin : Read
  typed : Writes

inductive Ending
  | returns
  | raises
  deriving DecidableEq

variable {σ : Type}

/-- Writes a chunk to the child, and tells whether this succeeded. -/
def Pty.feed (pty : Pty σ) (source : Source) (writes : Writes) (data : Bytes) : Pty σ × Bool :=
  let written := write_all writes 0 data
  ({ pty with child := pty.child ++ written.1, fed := pty.fed ++ [(source,data)] },written.2)

/-- `_drain_injected_input` on the chunks of the queue. -/
def Pty.drain (injections : Nat → Writes) (pty : Pty σ) : Nat → List Bytes → Pty σ × Bool
  | _, [] => ({ pty with queue := [] }, true)
  | place, data :: rest =>
    if data.isEmpty then drain injections pty (place + 1) rest
    else
      match pty.feed .injected (injections place) data with
      | (pty, true) => drain injections pty (place + 1) rest
      | (pty, false) => ({ pty with queue := rest }, false)

/-- The chunk goes to the terminal and to the callback, whose exceptions are swallowed. -/
def Pty.hear (on_output : Option (σ → Bytes → σ)) (pty : Pty σ) (screen : Writes) (data : Bytes) : Pty σ :=
  { pty with
    screen := pty.screen ++ (write_all screen 0 data).1
    output := match on_output with
      | none => pty.output
      | some callback => callback pty.output data
    heard := pty.heard ++ [data] }

/-- The part of a turn that reads from the child. -/
def Pty.read_master (on_output : Option (σ → Bytes → σ)) (turn : Turn) (pty : Pty σ) : Pty σ × Option Ending :=
  match turn.master with
  | .io_error => (pty, some .returns)
  | .fails => (pty, some .raises)
  | .data [] => (pty, some .returns)
  | .data (b :: bs) => (pty.hear on_output turn.screen (b :: bs), none)

/-- The part of a turn that reads from the user. -/
def Pty.read_stdin (turn : Turn) (pty : Pty σ) : Pty σ × Option Ending :=
  match turn.stdin with
  | .data (b :: bs) =>
    match pty.feed .typed turn.typed (b :: bs) with
    | (pty, true) => (pty, none)
    | (pty, false) => (pty, some .returns)
  | _ => ({ pty with reads_stdin := false }, none)

/-- The part of a turn that empties the queue, if there is one. -/
def Pty.inject (has_queue : Bool) (pty : Pty σ) (turn : Turn) : Pty σ × Bool :=
  let offered := { pty with queue := pty.queue ++ turn.puts }
  if has_queue then offered.drain turn.injections 0 offered.queue else (offered, true)

/-- The part of a turn after `select` has returned. -/
def Pty.relay (on_output : Option (σ → Bytes → σ)) (turn : Turn) (master stdin : Bool) (pty : Pty σ) : Pty σ × Option Ending :=
  match (if master then pty.read_master on_output turn else (pty, none)) with
  | (pty, some ending) => (pty, some ending)
  | (pty, none) => if stdin && pty.reads_stdin then pty.read_stdin turn else (pty, none)

/-- One turn of `_io_loop`. -/
def Pty.turn (on_output : Option (σ → Bytes → σ)) (has_queue : Bool) (pty : Pty σ) (turn : Turn) : Pty σ × Option Ending :=
  match pty.inject has_queue turn with
  | (pty, false) => (pty, some .returns)
  | (pty, true) =>
    match turn.select with
    | .interrupted => (pty, none)
    | .bad_descriptor => (pty, some .returns)
    | .fails => (pty, some .raises)
    | .ready master stdin => pty.relay on_output turn master stdin

/-- `_io_loop` while the turns last, and how it ended if it did. -/
def io_loop (on_output : Option (σ → Bytes → σ)) (has_queue : Bool) : Pty σ → List Turn → Pty σ × Option Ending
  | pty, [] => (pty, none)
  | pty, turn :: turns =>
    match pty.turn on_output has_queue turn with
    | (pty, some ending) => (pty, some ending)
    | (pty, none) => io_loop on_output has_queue pty turns

/-! ## Writes -/

/-- A write that raises nothing has written everything, and one that raises only a front. -/
theorem write_all_writes (writes : Writes) (call : Nat) (data : Bytes) :
    (write_all writes call data).1 <+: data ∧
      ((write_all writes call data).2 = true ↔ (write_all writes call data).1 = data) := by
  fun_induction write_all writes call data with
  | case1 call data none =>
    rw [List.length_eq_zero_iff.mp none]
    exact ⟨List.prefix_refl _,by simp⟩
  | case2 call data some_there raises =>
    refine ⟨List.nil_prefix,by simp,?_⟩
    rintro rfl
    exact absurd rfl some_there
  | case3 call data some_there nothing =>
    refine ⟨List.nil_prefix,by simp,?_⟩
    rintro rfl
    exact absurd rfl some_there
  | case4 call data some_there n taken rest ih =>
    obtain ⟨front,whole⟩ := ih
    have cut := List.take_append_drop (n + 1) data
    constructor
    · have step := (List.prefix_append_right_inj (data.take (n + 1))).mpr front
      rwa [cut] at step
    · rw [whole]
      constructor
      · intro same
        rw [show rest.1 = _ from same,cut]
      · intro same
        exact List.append_cancel_left (same.trans cut.symm)

/-! ## What a turn keeps -/

/-- The bytes of chunks taken for the child. -/
def taken (fed : List (Source × Bytes)) : Bytes := (fed.map Prod.snd).flatten

theorem taken_snoc (fed : List (Source × Bytes)) (source : Source) (data : Bytes) :
    taken (fed ++ [(source,data)]) = taken fed ++ data := by
  simp [taken]

/-- The child was written all chunks that were taken. When the last write has failed, it lacks an end of the last one. -/
def Written (pty : Pty σ) (failed : Bool) : Prop :=
  if failed then
    ∃ front source data part, pty.fed = front ++ [(source,data)] ∧ part <+: data ∧ part ≠ data ∧
      pty.child = taken front ++ part
  else pty.child = taken pty.fed

/-- The chunks that are not empty. -/
def some_bytes (chunks : List Bytes) : List Bytes := chunks.filter (fun data => !data.isEmpty)

theorem some_bytes_append (chunks more : List Bytes) : some_bytes (chunks ++ more) = some_bytes chunks ++ some_bytes more :=
  List.filter_append _ _

def injected (pty : Pty σ) : List Bytes := (pty.fed.filter (fun e => e.1 = .injected)).map Prod.snd

/-- What the loop has done with what it was given: the callback got all that was
    read, the terminal a front of every chunk, and the queue was taken in its order. -/
structure Relayed (on_output : Option (σ → Bytes → σ)) (output : σ) (puts : List Bytes) (pty : Pty σ) : Prop where
  told : pty.output = match on_output with
    | none => output
    | some callback => pty.heard.foldl callback output
  shown : ∃ parts, List.Forall₂ (· <+: ·) parts pty.heard ∧ pty.screen = parts.flatten
  order : injected pty ++ some_bytes pty.queue = some_bytes puts

variable {on_output : Option (σ → Bytes → σ)} {output : σ} {puts : List Bytes} {pty : Pty σ}

theorem feed_written (written : Written pty false) (source : Source) (writes : Writes) (data : Bytes) :
    Written (pty.feed source writes data).1 (!(pty.feed source writes data).2) := by
  obtain ⟨front,whole⟩ := write_all_writes writes 0 data
  simp only [Pty.feed]
  cases fine : (write_all writes 0 data).2 with
  | true =>
    show pty.child ++ _ = taken (pty.fed ++ [(source,data)])
    rw [whole.mp fine,taken_snoc,show pty.child = _ from written]
  | false =>
    refine ⟨pty.fed,source,data,(write_all writes 0 data).1,rfl,front,?_,?_⟩
    · intro same
      rw [whole.mpr same] at fine
      cases fine
    · show pty.child ++ _ = _
      rw [show pty.child = _ from written]

theorem feed_injected (source : Source) (writes : Writes) (data : Bytes) : injected (pty.feed source writes data).1 =
    injected pty ++ if source = .injected then [data] else [] := by
  cases source <;> simp [injected,Pty.feed]

/-- Draining takes the queue in its order, up to the chunk whose write fails. -/
theorem drain_relayed (injections : Nat → Writes) {queue : List Bytes} (place : Nat)
    (relayed : Relayed on_output output puts { pty with queue := queue }) (written : Written pty false) :
    Relayed on_output output puts (pty.drain injections place queue).1 ∧
      Written (pty.drain injections place queue).1 (!(pty.drain injections place queue).2) := by
  induction queue generalizing place pty with
  | nil => exact ⟨relayed,written⟩
  | cons data rest ih =>
    have order : injected pty ++ some_bytes (data :: rest) = some_bytes puts := relayed.order
    cases empty : data.isEmpty with
    | true =>
      simp only [Pty.drain,empty,↓reduceIte]
      refine ih (place + 1) ⟨relayed.told,relayed.shown,?_⟩ written
      rw [some_bytes,List.filter_cons_of_neg (by simp [empty])] at order
      exact order
    | false =>
      have after : injected (pty.feed .injected (injections place) data).1 ++ some_bytes rest = some_bytes puts := by
        rw [some_bytes,List.filter_cons_of_pos (by simp [empty])] at order
        rw [feed_injected,← order,List.append_assoc]
        rfl
      have fed := feed_written written .injected (injections place) data
      have kept : Relayed on_output output puts { (pty.feed .injected (injections place) data).1 with queue := rest } :=
        ⟨relayed.told,relayed.shown,after⟩
      simp only [Pty.drain,empty,Bool.false_eq_true,↓reduceIte]
      cases fine : pty.feed .injected (injections place) data with
      | mk next succeeded =>
        rw [fine] at fed kept
        cases succeeded with
        | true => exact ih (place + 1) kept fed
        | false => exact ⟨kept,fed⟩

theorem hear_relayed (screen : Writes) (data : Bytes) (relayed : Relayed on_output output puts pty) :
    Relayed on_output output puts (pty.hear on_output screen data) := by
  obtain ⟨told,⟨parts,fronts,shown⟩,order⟩ := relayed
  refine ⟨?_,⟨parts ++ [(write_all screen 0 data).1],?_,?_⟩,order⟩
  · simp only [Pty.hear]
    cases on_output with
    | none => exact told
    | some callback =>
      simp only at told ⊢
      rw [List.foldl_append,← told]
      rfl
  · exact List.rel_append fronts (.cons (write_all_writes screen 0 data).1 .nil)
  · show pty.screen ++ _ = _
    rw [shown,List.flatten_append]
    simp

theorem master_relayed (turn : Turn) (relayed : Relayed on_output output puts pty) (written : Written pty false) :
    Relayed on_output output puts (pty.read_master on_output turn).1 ∧
      Written (pty.read_master on_output turn).1 false := by
  unfold Pty.read_master
  split
  · exact ⟨relayed,written⟩
  · exact ⟨relayed,written⟩
  · exact ⟨relayed,written⟩
  · exact ⟨hear_relayed _ _ relayed,written⟩

/-- The loop goes on after writes that succeeded, and returns after one that failed. -/
def Ends (r : Pty σ × Option Ending) : Prop := Written r.1 false ∨ r.2 = some .returns ∧ Written r.1 true

theorem stdin_relayed (turn : Turn) (relayed : Relayed on_output output puts pty) (written : Written pty false) :
    Relayed on_output output puts (pty.read_stdin turn).1 ∧
      Ends (pty.read_stdin turn) := by
  unfold Pty.read_stdin
  split
  · next b bs _ =>
    have fed := feed_written written .typed turn.typed (b :: bs)
    have kept : Relayed on_output output puts (pty.feed .typed turn.typed (b :: bs)).1 := by
      refine ⟨relayed.told,relayed.shown,?_⟩
      rw [feed_injected,if_neg (by decide),List.append_nil]
      exact relayed.order
    split
    · next next fine =>
      rw [fine] at fed kept
      exact ⟨kept,.inl fed⟩
    · next next fine =>
      rw [fine] at fed kept
      exact ⟨kept,.inr ⟨rfl,fed⟩⟩
  · exact ⟨⟨relayed.told,relayed.shown,relayed.order⟩,.inl written⟩

theorem inject_relayed (has_queue : Bool) (turn : Turn) (relayed : Relayed on_output output puts pty)
    (written : Written pty false) :
    Relayed on_output output (puts ++ turn.puts) (pty.inject has_queue turn).1 ∧
      Written (pty.inject has_queue turn).1 (!(pty.inject has_queue turn).2) := by
  have offered : Relayed on_output output (puts ++ turn.puts) { pty with queue := pty.queue ++ turn.puts } := by
    refine ⟨relayed.told,relayed.shown,?_⟩
    rw [some_bytes_append,some_bytes_append,← List.append_assoc,← relayed.order]
    rfl
  cases has_queue with
  | true => exact drain_relayed turn.injections 0 offered written
  | false => exact ⟨offered,written⟩

theorem relay_relayed (turn : Turn) (master stdin : Bool) (relayed : Relayed on_output output puts pty)
    (written : Written pty false) :
    Relayed on_output output puts (pty.relay on_output turn master stdin).1 ∧
      Ends (pty.relay on_output turn master stdin) := by
  have heard : Relayed on_output output puts (if master then pty.read_master on_output turn else (pty,none)).1 ∧
      Written (if master then pty.read_master on_output turn else (pty,none)).1 false := by
    cases master with
    | true => exact master_relayed turn relayed written
    | false => exact ⟨relayed,written⟩
  unfold Pty.relay
  generalize (if master then pty.read_master on_output turn else (pty,none)) = r at heard
  obtain ⟨after,ending⟩ := r
  obtain ⟨kept,fed⟩ := heard
  cases ending with
  | some ending => exact ⟨kept,.inl fed⟩
  | none =>
    dsimp only
    split
    · exact stdin_relayed turn kept fed
    · exact ⟨kept,.inl fed⟩

theorem turn_relayed (has_queue : Bool) (turn : Turn) (relayed : Relayed on_output output puts pty)
    (written : Written pty false) :
    Relayed on_output output (puts ++ turn.puts) (pty.turn on_output has_queue turn).1 ∧
      Ends (pty.turn on_output has_queue turn) := by
  have injected := inject_relayed has_queue turn relayed written
  unfold Pty.turn
  generalize pty.inject has_queue turn = r at injected
  obtain ⟨after,fine⟩ := r
  obtain ⟨kept,fed⟩ := injected
  cases fine with
  | false => exact ⟨kept,.inr ⟨rfl,fed⟩⟩
  | true =>
    dsimp only
    split
    · exact ⟨kept,.inl fed⟩
    · exact ⟨kept,.inl fed⟩
    · exact ⟨kept,.inl fed⟩
    · exact relay_relayed turn _ _ kept fed

/-! ## What is read -/

/-- The bytes of a read, if it brings some. -/
def Read.chunk : Read → Option Bytes
  | .data (b :: bs) => some (b :: bs)
  | _ => none

/-- What the loop reads from the child in a turn whose injections succeed. -/
def Turn.heard (turn : Turn) : Option Bytes :=
  match turn.select with
  | .ready true _ => turn.master.chunk
  | _ => none

/-- What it reads from the user, while it still does. -/
def Turn.user (turn : Turn) : Option Read :=
  match turn.select with
  | .ready master true => if master && turn.master.chunk.isNone then none else some turn.stdin
  | _ => none

def typed (pty : Pty σ) : List Bytes := (pty.fed.filter (fun e => e.1 = .typed)).map Prod.snd

/-- The chunks of the user, up to the first read that brings none. -/
def typed_reads (done : List Turn) : List Bytes :=
  ((done.filterMap Turn.user).takeWhile (·.chunk.isSome)).filterMap Read.chunk

/-- All that these turns have read from the child, and from the user if his input was read at first, is in the state. -/
structure Reads (first : Bool) (done : List Turn) (pty : Pty σ) : Prop where
  heard : pty.heard = done.filterMap Turn.heard
  typed : typed pty = if first then typed_reads done else []
  goes_on : pty.reads_stdin = (first && (done.filterMap Turn.user).all (·.chunk.isSome))

section
variable {first : Bool} {done : List Turn}

theorem drain_reads (injections : Nat → Writes) (queue : List Bytes) (place : Nat) (reads : Reads first done pty) :
    Reads first done (pty.drain injections place queue).1 := by
  induction queue generalizing place pty with
  | nil => exact ⟨reads.heard,reads.typed,reads.goes_on⟩
  | cons data rest ih =>
    have fed (next : List Bytes) :
        Reads first done { (pty.feed .injected (injections place) data).1 with queue := next } := by
      refine ⟨reads.heard,?_,reads.goes_on⟩
      rw [← reads.typed]
      simp [typed,Pty.feed]
    rw [Pty.drain]
    split
    · exact ih (place + 1) reads
    · cases fine : pty.feed .injected (injections place) data with
      | mk next succeeded =>
        rw [fine] at fed
        cases succeeded with
        | true => exact ih (place + 1) (fed next.queue)
        | false => exact fed rest

theorem inject_reads (has_queue : Bool) (turn : Turn) (reads : Reads first done pty) :
    Reads first done (pty.inject has_queue turn).1 := by
  have offered : Reads first done { pty with queue := pty.queue ++ turn.puts } := ⟨reads.heard,reads.typed,reads.goes_on⟩
  cases has_queue with
  | true => exact drain_reads turn.injections _ 0 offered
  | false => exact offered

theorem heard_snoc {turn : Turn} {next : Pty σ} (reads : Reads first done pty) (heard : next.heard = pty.heard ++ turn.heard.toList) :
    next.heard = (done ++ [turn]).filterMap Turn.heard := by
  rw [heard,reads.heard,List.filterMap_append,List.filterMap_cons]
  cases turn.heard <;> rfl

/-- A turn that does not read from the user. -/
theorem reads_child {turn : Turn} {next : Pty σ} (reads : Reads first done pty) (heard : next.heard = pty.heard ++ turn.heard.toList)
    (unread : turn.user = none) (fed : typed next = typed pty) (kept : next.reads_stdin = pty.reads_stdin) :
    Reads first (done ++ [turn]) next := by
  refine ⟨heard_snoc reads heard,?_,?_⟩
  · rw [fed,reads.typed,typed_reads,typed_reads,List.filterMap_append,List.filterMap_cons,unread,List.filterMap_nil,List.append_nil]
  · rw [kept,reads.goes_on,List.filterMap_append,List.filterMap_cons,unread,List.filterMap_nil,List.append_nil]

/-- A turn that would read from the user, if it still did. -/
theorem reads_user {turn : Turn} {next : Pty σ} (reads : Reads first done pty) (heard : next.heard = pty.heard ++ turn.heard.toList)
    {read : Read} (user : turn.user = some read)
    (fed : typed next = typed pty ++ if pty.reads_stdin then read.chunk.toList else [])
    (kept : next.reads_stdin = (pty.reads_stdin && read.chunk.isSome)) : Reads first (done ++ [turn]) next := by
  have split : (done ++ [turn]).filterMap Turn.user = done.filterMap Turn.user ++ [read] := by
    rw [List.filterMap_append,List.filterMap_cons,user,List.filterMap_nil]
  refine ⟨heard_snoc reads heard,?_,?_⟩
  · rw [fed,reads.typed,reads.goes_on,typed_reads,typed_reads,split]
    cases first with
    | false => rfl
    | true =>
      cases whole : (done.filterMap Turn.user).all (·.chunk.isSome) with
      | true =>
        have all := List.all_eq_true.mp whole
        rw [List.takeWhile_append_of_pos all,List.takeWhile_eq_self_iff.mpr all,List.filterMap_append]
        cases chunk : read.chunk with
        | none => simp [chunk]
        | some bytes => simp [chunk]
      | false =>
        obtain ⟨other,member,empty⟩ := List.all_eq_false.mp whole
        have short : ((done.filterMap Turn.user).takeWhile (·.chunk.isSome)).length ≠ (done.filterMap Turn.user).length := by
          intro same
          have front := List.IsPrefix.eq_of_length (List.takeWhile_prefix (fun read : Read => read.chunk.isSome)) same
          exact empty (List.takeWhile_eq_self_iff.mp front other member)
        rw [List.takeWhile_append,if_neg short]
        exact List.append_nil _
  · rw [kept,reads.goes_on,split,List.all_append,List.all_cons,List.all_nil,Bool.and_true,Bool.and_assoc]

/-- What the part of a turn that reads from the user takes. -/
theorem stdin_read (turn : Turn) (pty : Pty σ) : (pty.read_stdin turn).1.heard = pty.heard ∧
    typed (pty.read_stdin turn).1 = typed pty ++ turn.stdin.chunk.toList ∧
    (pty.read_stdin turn).1.reads_stdin = (pty.reads_stdin && turn.stdin.chunk.isSome) := by
  rw [Pty.read_stdin]
  split
  · next b bs read =>
    have fed : typed (pty.feed .typed turn.typed (b :: bs)).1 = typed pty ++ turn.stdin.chunk.toList := by
      simp [typed,Pty.feed,read,Read.chunk]
    have goes_on : (pty.feed .typed turn.typed (b :: bs)).1.reads_stdin = (pty.reads_stdin && turn.stdin.chunk.isSome) := by
      simp [Pty.feed,read,Read.chunk]
    have heard : (pty.feed .typed turn.typed (b :: bs)).1.heard = pty.heard := rfl
    split
    · next after fine => rw [fine] at fed goes_on heard; exact ⟨heard,fed,goes_on⟩
    · next after fine => rw [fine] at fed goes_on heard; exact ⟨heard,fed,goes_on⟩
  · next read other =>
    have none : turn.stdin.chunk = none := by
      cases there : turn.stdin with
      | data bytes =>
        cases bytes with
        | nil => rfl
        | cons b bs => exact absurd there (other b bs)
      | io_error => rfl
      | fails => rfl
    rw [none]
    exact ⟨rfl,(List.append_nil _).symm,(Bool.and_false _).symm⟩

theorem relay_reads {turn : Turn} {master stdin : Bool} (ready : turn.select = .ready master stdin) (reads : Reads first done pty) :
    Reads first (done ++ [turn]) (pty.relay on_output turn master stdin).1 := by
  have child (master : Bool) (ready : turn.select = .ready master stdin) :
      let r := if master then pty.read_master on_output turn else (pty,none)
      r.1.heard = pty.heard ++ turn.heard.toList ∧ typed r.1 = typed pty ∧ r.1.reads_stdin = pty.reads_stdin ∧
        r.2.isSome = (master && turn.master.chunk.isNone) := by
    cases master with
    | false => simp [Turn.heard,ready]
    | true =>
      simp only [Turn.heard,ready,Pty.read_master,↓reduceIte]
      split <;> rename_i read <;> simp [read,Read.chunk,Pty.hear,typed]
  obtain ⟨heard,fed,kept,ended⟩ := child master ready
  unfold Pty.relay
  generalize (if master then pty.read_master on_output turn else (pty,none)) = r at heard fed kept ended
  obtain ⟨after,ending⟩ := r
  cases ending with
  | some ending =>
    refine reads_child reads heard ?_ fed kept
    cases stdin with
    | false => simp [Turn.user,ready]
    | true =>
      rw [Turn.user,ready]
      exact if_pos ended.symm
  | none =>
    cases stdin with
    | false => exact reads_child reads heard (by simp [Turn.user,ready]) fed kept
    | true =>
      have user : turn.user = some turn.stdin := by
        rw [Turn.user,ready]
        exact if_neg (by rw [← ended]; exact Bool.false_ne_true)
      dsimp only at heard fed kept ⊢
      rw [Bool.true_and]
      cases goes : after.reads_stdin with
      | false =>
        have stopped : pty.reads_stdin = false := kept.symm.trans goes
        rw [if_neg Bool.false_ne_true]
        refine reads_user reads heard user ?_ ?_
        · rw [stopped,fed]
          exact (List.append_nil _).symm
        · rw [stopped,goes]
          rfl
      | true =>
        have reading : pty.reads_stdin = true := kept.symm.trans goes
        obtain ⟨heard',fed',kept'⟩ := stdin_read turn after
        rw [if_pos rfl]
        refine reads_user reads (heard'.trans heard) user ?_ ?_
        · rw [fed',fed,reading,if_pos rfl]
        · rw [kept',kept]

/-- A turn has read what it could, unless its injections failed. -/
theorem turn_reads (has_queue : Bool) (turn : Turn) (reads : Reads first done pty) :
    Reads first (done ++ [turn]) (pty.turn on_output has_queue turn).1 ∨
      (pty.turn on_output has_queue turn).2 = some .returns ∧ Reads first done (pty.turn on_output has_queue turn).1 := by
  have injected := inject_reads has_queue turn reads
  unfold Pty.turn
  generalize pty.inject has_queue turn = r at injected
  obtain ⟨after,fine⟩ := r
  cases fine with
  | false => exact .inr ⟨rfl,injected⟩
  | true =>
    left
    dsimp only at injected ⊢
    have unread (unselected : ∀ master stdin, turn.select ≠ .ready master stdin) : Reads first (done ++ [turn]) after := by
      refine reads_child injected ?_ ?_ rfl rfl
      · rw [Turn.heard]
        split
        · next selected => exact absurd selected (unselected _ _)
        · exact (List.append_nil _).symm
      · rw [Turn.user]
        split
        · next selected => exact absurd selected (unselected _ _)
        · rfl
    split
    · next selected => exact unread (by simp [selected])
    · next selected => exact unread (by simp [selected])
    · next selected => exact unread (by simp [selected])
    · next selected => exact relay_reads selected injected

end

/-! ## Runs -/

theorem loop_relayed (has_queue : Bool) (turns : List Turn) (relayed : Relayed on_output output puts pty)
    (written : Written pty false) {first : Bool} {done : List Turn} (reads : Reads first done pty) :
    ∃ front, front <+: turns ∧ ((io_loop on_output has_queue pty turns).2 = none → front = turns) ∧
      Relayed on_output output (puts ++ front.flatMap (·.puts)) (io_loop on_output has_queue pty turns).1 ∧
      Ends (io_loop on_output has_queue pty turns) ∧
      ∃ more, (more = front ∨ ∃ last, front = more ++ [last] ∧ (io_loop on_output has_queue pty turns).2 = some .returns) ∧
        Reads first (done ++ more) (io_loop on_output has_queue pty turns).1 := by
  induction turns generalizing pty puts done with
  | nil =>
    refine ⟨[],List.prefix_refl _,fun _ => rfl,?_,.inl written,[],.inl rfl,?_⟩
    · simpa [io_loop] using relayed
    · simpa [io_loop] using reads
  | cons turn turns ih =>
    obtain ⟨kept,fed⟩ := turn_relayed has_queue turn relayed written
    have read : Reads first (done ++ [turn]) (pty.turn on_output has_queue turn).1 ∨ _ := turn_reads has_queue turn reads
    simp only [io_loop]
    split
    · next after ending ended =>
      rw [ended] at kept fed read
      refine ⟨[turn],by simp,by simp,by simpa using kept,fed,?_⟩
      rcases read with read | ⟨returns,read⟩
      · exact ⟨[turn],.inl rfl,read⟩
      · exact ⟨[],.inr ⟨turn,rfl,returns⟩,by rwa [List.append_nil]⟩
    · next after goes =>
      rw [goes] at kept fed read
      have fine : Written after false := by
        rcases fed with fine | ⟨ends,_⟩
        · exact fine
        · cases ends
      have read : Reads first (done ++ [turn]) after := by
        rcases read with read | ⟨ends,_⟩
        · exact read
        · cases ends
      obtain ⟨front,within,all,relayed',written',more,whole,reads'⟩ := ih kept fine read
      refine ⟨turn :: front,by simpa using within,fun none => by rw [all none],?_,written',turn :: more,?_,?_⟩
      · rw [List.flatMap_cons,← List.append_assoc]
        exact relayed'
      · rcases whole with rfl | ⟨last,rfl,returns⟩
        · exact .inl rfl
        · exact .inr ⟨last,rfl,returns⟩
      · rwa [List.append_assoc] at reads'

theorem start_relayed (on_output : Option (σ → Bytes → σ)) (output : σ) (reads_stdin : Bool) :
    Relayed on_output output [] (Pty.start output reads_stdin) :=
  ⟨by cases on_output <;> rfl,⟨[],.nil,rfl⟩,rfl⟩

theorem start_reads (output : σ) (reads_stdin : Bool) : Reads reads_stdin [] (Pty.start output reads_stdin) :=
  ⟨rfl,by cases reads_stdin <;> rfl,by cases reads_stdin <;> rfl⟩

/-- However reads and writes are cut and whatever fails, the callback gets every
    chunk that was read from the child, in order, also those that the terminal did
    not take; the chunks of the queue reach the child in the order of the queue
    and none of them is lost or left out; and the child is written every chunk that
    was taken whole, but for the last one when writing it failed, and then the loop
    has returned. The chunks that were read are those of the turns in front, without
    the last one when its injections failed. -/
theorem relayed_whole (on_output : Option (σ → Bytes → σ)) (has_queue reads_stdin : Bool) (output : σ) (turns : List Turn) :
    ∃ front, front <+: turns ∧
      ((io_loop on_output has_queue (.start output reads_stdin) turns).2 = none → front = turns) ∧
      Relayed on_output output (front.flatMap (·.puts)) (io_loop on_output has_queue (.start output reads_stdin) turns).1 ∧
      Ends (io_loop on_output has_queue (.start output reads_stdin) turns) ∧
      ∃ more, (more = front ∨
          ∃ last, front = more ++ [last] ∧ (io_loop on_output has_queue (.start output reads_stdin) turns).2 = some .returns) ∧
        (io_loop on_output has_queue (.start output reads_stdin) turns).1.heard = more.filterMap Turn.heard ∧
        typed (io_loop on_output has_queue (.start output reads_stdin) turns).1 =
          if reads_stdin then typed_reads more else [] := by
  obtain ⟨front,within,all,relayed,ends,more,whole,reads⟩ :=
    loop_relayed has_queue turns (start_relayed on_output output reads_stdin) rfl (start_reads output reads_stdin)
  exact ⟨front,within,all,relayed,ends,more,whole,reads.heard,reads.typed⟩

end VibeBridge.Python.PtyRunner
