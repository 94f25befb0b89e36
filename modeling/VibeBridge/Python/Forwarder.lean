import VibeBridge.Transitions

/-!
The forwarder between the output of the terminal and the daemon. Chunks go through a
bounded queue to a thread that sends them; a push that finds the queue full drops the
oldest, and `stop` puts a sentinel into the same queue. The steps are the operations
on the queue, with the counting that follows them; a producer, the worker and one call
of `stop` take them in any order. What is sent comes in the order of the pushes
(`handed_order`), and `run_counts` says what becomes of every chunk: the sum of the
counts is right when `stop` drops none, no push drops the sentinel and none comes after it.
-/
namespace VibeBridge.Python.Forwarding
open Transitions

abbrev Chunk := List UInt8

/-- What the queue holds: a chunk, or `_STOP`. -/
inductive Item
  | chunk (data : Chunk)
  | STOP
  deriving DecidableEq

def Item.data : Item → Option Chunk
  | .chunk data => some data
  | .STOP => none

structure ForwarderStats where
  pushed : Nat := 0
  sent : Nat := 0
  dropped : Nat := 0
  errors : Nat := 0
  deriving DecidableEq

/-- Where the producer is in `push`: the queue was full, or there should be room now. -/
inductive Pushing
  | idle
  | full (data : Chunk)
  | retry (data : Chunk)
  deriving DecidableEq

/-- Where the worker is in `_loop`. -/
inductive Worker
  | waiting
  | sending (data : Chunk)
  | checking
  | terminated
  deriving DecidableEq

/-- Where the call of `stop` is: the event is set, the queue was full, there should be room now, the sentinel is in. -/
inductive Stopping
  | uncalled
  | called
  | full
  | retry
  | joining
  deriving DecidableEq

/-- The forwarder whose worker has started. The event `_stop` is set, and then stays so. -/
structure Forwarder where
  max_queue : Nat
  queue : List Item := []
  stop_set : Bool := false
  stats : ForwarderStats := {}
  pushing : Pushing := .idle
  worker : Worker := .waiting
  stopping : Stopping := .uncalled
  deriving DecidableEq

/-! ## The steps -/

/-- `queue.Full`; a queue of size 0 has no bound. -/
def Forwarder.Full (self : Forwarder) : Prop := 0 < self.max_queue ∧ self.max_queue ≤ self.queue.length

instance (self : Forwarder) : Decidable self.Full := inferInstanceAs (Decidable (_ ∧ _))

/-- An item is put where there is room. -/
def Forwarder.put (self : Forwarder) (item : Item) : Forwarder := { self with queue := self.queue ++ [item] }

def Forwarder.count_pushed (self : Forwarder) : Forwarder :=
  { self with stats := { self.stats with pushed := self.stats.pushed + 1 } }

def Forwarder.count_dropped (self : Forwarder) : Forwarder :=
  { self with stats := { self.stats with dropped := self.stats.dropped + 1 } }

/-- What a step shows: the chunk that `push` is called with, or the chunk that the callback is called with. -/
inductive Sight
  | given (data : Chunk)
  | handed (data : Chunk)
  deriving DecidableEq

/-- `push`, up to the first `put_nowait`. -/
def Forwarder.push (self : Forwarder) (data : Chunk) : Forwarder × Option Sight :=
  if self.pushing ≠ .idle ∨ data = [] then (self,none)
  else if self.Full then ({ self with pushing := .full data },some (.given data))
  else ((self.put (.chunk data)).count_pushed,some (.given data))

/-- The `get_nowait` of `push`. -/
def Forwarder.push_makes_room (self : Forwarder) : Forwarder :=
  match self.pushing with
  | .full data =>
    match self.queue with
    | _ :: rest => { self.count_dropped with queue := rest, pushing := .retry data }
    | [] => { self with pushing := .retry data }
  | _ => self

/-- The second `put_nowait` of `push`. -/
def Forwarder.push_retries (self : Forwarder) : Forwarder :=
  match self.pushing with
  | .retry data =>
    if self.Full then { self.count_dropped with pushing := .idle }
    else { (self.put (.chunk data)).count_pushed with pushing := .idle }
  | _ => self

/-- The `get` of the worker, which waits for an item. -/
def Forwarder.worker_gets (self : Forwarder) : Forwarder × Option Sight :=
  if self.worker ≠ .waiting then (self,none)
  else
    match self.queue with
    | [] => (self,none)
    | .STOP :: rest => ({ self with queue := rest, worker := .terminated },none)
    | .chunk data :: rest => ({ self with queue := rest, worker := .sending data },some (.handed data))

/-- The callback returns or raises. -/
def Forwarder.worker_sends (self : Forwarder) (succeeds : Bool) : Forwarder :=
  match self.worker with
  | .sending _ =>
    let stats := if succeeds then { self.stats with sent := self.stats.sent + 1 }
      else { self.stats with errors := self.stats.errors + 1 }
    { self with stats, worker := .checking }
  | _ => self

/-- The event, which stays set, and the queue are looked at when the queue is. -/
def Forwarder.worker_checks (self : Forwarder) : Forwarder :=
  match self.worker with
  | .checking => { self with worker := if self.stop_set && self.queue.isEmpty then .terminated else .waiting }
  | _ => self

/-- `stop` sets the event. -/
def Forwarder.stop (self : Forwarder) : Forwarder :=
  if self.stopping = .uncalled then { self with stop_set := true, stopping := .called } else self

/-- The first `put_nowait` of `stop`. -/
def Forwarder.stop_puts (self : Forwarder) : Forwarder :=
  if self.stopping ≠ .called then self
  else if self.Full then { self with stopping := .full }
  else { self.put .STOP with stopping := .joining }

/-- The `get_nowait` of `stop`. -/
def Forwarder.stop_makes_room (self : Forwarder) : Forwarder :=
  if self.stopping = .full then { self with queue := self.queue.tail, stopping := .retry } else self

/-- The second `put_nowait` of `stop`. -/
def Forwarder.stop_retries (self : Forwarder) : Forwarder :=
  if self.stopping ≠ .retry then self
  else if self.Full then { self with stopping := .joining }
  else { self.put .STOP with stopping := .joining }

inductive Act
  | push (data : Chunk)
  | push_makes_room
  | push_retries
  | worker_gets
  | worker_sends (succeeds : Bool)
  | worker_checks
  | stop
  | stop_puts
  | stop_makes_room
  | stop_retries
  deriving DecidableEq

/-- A step; one that is not the next of its thread does nothing. -/
def Forwarder.take (self : Forwarder) : Act → Forwarder × Option Sight
  | .push data => self.push data
  | .push_makes_room => (self.push_makes_room,none)
  | .push_retries => (self.push_retries,none)
  | .worker_gets => self.worker_gets
  | .worker_sends succeeds => (self.worker_sends succeeds,none)
  | .worker_checks => (self.worker_checks,none)
  | .stop => (self.stop,none)
  | .stop_puts => (self.stop_puts,none)
  | .stop_makes_room => (self.stop_makes_room,none)
  | .stop_retries => (self.stop_retries,none)

abbrev ForwarderMove := Move Forwarder Act (Option Sight)

/-- The moves of a run from the start. -/
def history (max_queue : Nat) (acts : List Act) : List ForwarderMove := moves Forwarder.take { max_queue } acts

/-- The forwarder after a run. -/
def after (max_queue : Nat) (acts : List Act) : Forwarder := finish Forwarder.take { max_queue } acts

def Sight.pushed : Sight → Option Chunk
  | .given data => some data
  | .handed _ => none

def Sight.sent : Sight → Option Chunk
  | .given _ => none
  | .handed data => some data

/-- The chunks that are not empty and that `push` was called with. -/
def given (ms : List ForwarderMove) : List Chunk := ms.filterMap (fun m => m.output.bind Sight.pushed)

/-- The chunks that the callback was called with. -/
def handed (ms : List ForwarderMove) : List Chunk := ms.filterMap (fun m => m.output.bind Sight.sent)

/-! ### What a step does -/

def Pushing.is_full : Pushing → Bool
  | .full _ => true
  | _ => false

/-- The steps that do something, each with what it requires, and those that do nothing. -/
inductive Step (f : Forwarder) : Act → Forwarder × Option Sight → Prop
  | nothing {act : Act} (not_push : act = .push_makes_room → f.pushing.is_full = false)
      (not_stop : act = .stop_makes_room → f.stopping ≠ .full) : Step f act (f,none)
  | push_full {data : Chunk} (idle : f.pushing = .idle) (full : f.Full) :
      Step f (.push data) ({ f with pushing := .full data },some (.given data))
  | push {data : Chunk} (idle : f.pushing = .idle) (some_there : data ≠ []) (room : ¬ f.Full) :
      Step f (.push data) ((f.put (.chunk data)).count_pushed,some (.given data))
  | push_drops {data : Chunk} {item : Item} {rest : List Item} (pushing : f.pushing = .full data) (queue : f.queue = item :: rest) :
      Step f .push_makes_room ({ f.count_dropped with queue := rest, pushing := .retry data },none)
  | push_empty {data : Chunk} (pushing : f.pushing = .full data) (queue : f.queue = []) :
      Step f .push_makes_room ({ f with queue := [], pushing := .retry data },none)
  | retry_full {data : Chunk} (pushing : f.pushing = .retry data) (full : f.Full) :
      Step f .push_retries ({ f.count_dropped with pushing := .idle },none)
  | retry {data : Chunk} (pushing : f.pushing = .retry data) (room : ¬ f.Full) :
      Step f .push_retries ({ (f.put (.chunk data)).count_pushed with pushing := .idle },none)
  | gets_STOP {rest : List Item} (worker : f.worker = .waiting) (queue : f.queue = .STOP :: rest) :
      Step f .worker_gets ({ f with queue := rest, worker := .terminated },none)
  | gets {data : Chunk} {rest : List Item} (worker : f.worker = .waiting) (queue : f.queue = .chunk data :: rest) :
      Step f .worker_gets ({ f with queue := rest, worker := .sending data },some (.handed data))
  | sent {data : Chunk} (worker : f.worker = .sending data) :
      Step f (.worker_sends true) ({ f with stats := { f.stats with sent := f.stats.sent + 1 }, worker := .checking },none)
  | failed {data : Chunk} (worker : f.worker = .sending data) :
      Step f (.worker_sends false) ({ f with stats := { f.stats with errors := f.stats.errors + 1 }, worker := .checking },none)
  | ends (worker : f.worker = .checking) (set : f.stop_set = true) (queue : f.queue = []) :
      Step f .worker_checks ({ f with worker := .terminated },none)
  | goes_on (worker : f.worker = .checking) : Step f .worker_checks ({ f with worker := .waiting },none)
  | stop (stopping : f.stopping = .uncalled) : Step f .stop ({ f with stop_set := true, stopping := .called },none)
  | stop_full {act : Act} {next : Stopping} (not_stop : act ≠ .stop_makes_room) (not_push : act ≠ .push_makes_room)
      (called : f.stopping ≠ .uncalled) (next_called : next ≠ .uncalled) : Step f act ({ f with stopping := next },none)
  | stop_puts {act : Act} (not_stop : act ≠ .stop_makes_room) (not_push : act ≠ .push_makes_room)
      (called : f.stopping ≠ .uncalled) : Step f act ({ f.put .STOP with stopping := .joining },none)
  | stop_drops (stopping : f.stopping = .full) :
      Step f .stop_makes_room ({ f with queue := f.queue.tail, stopping := .retry },none)

theorem take_step (f : Forwarder) (act : Act) : Step f act (f.take act) := by
  cases act with
  | push data =>
    simp only [Forwarder.take,Forwarder.push]
    split
    · exact .nothing (by simp) (by simp)
    · rename_i begins
      rw [not_or,not_not] at begins
      split
      · exact .push_full begins.1 ‹_›
      · exact .push begins.1 begins.2 ‹_›
  | push_makes_room =>
    simp only [Forwarder.take,Forwarder.push_makes_room]
    cases pushing : f.pushing with
    | full data =>
      cases queue : f.queue with
      | nil => exact .push_empty pushing queue
      | cons item rest => exact .push_drops pushing queue
    | _ => exact .nothing (fun _ => by rw [pushing]; rfl) (by simp)
  | push_retries =>
    simp only [Forwarder.take,Forwarder.push_retries]
    cases pushing : f.pushing with
    | retry data =>
      simp only
      split
      · exact .retry_full pushing ‹_›
      · exact .retry pushing ‹_›
    | _ => exact .nothing (by simp) (by simp)
  | worker_gets =>
    simp only [Forwarder.take,Forwarder.worker_gets]
    split
    · exact .nothing (by simp) (by simp)
    · rename_i waits
      have waiting : f.worker = .waiting := by simpa using waits
      cases queue : f.queue with
      | nil => exact .nothing (by simp) (by simp)
      | cons item rest =>
        cases item with
        | STOP => exact .gets_STOP waiting queue
        | chunk data => exact .gets waiting queue
  | worker_sends succeeds =>
    simp only [Forwarder.take,Forwarder.worker_sends]
    cases worker : f.worker with
    | sending data =>
      cases succeeds with
      | true => exact .sent worker
      | false => exact .failed worker
    | _ => exact .nothing (by simp) (by simp)
  | worker_checks =>
    simp only [Forwarder.take,Forwarder.worker_checks]
    cases worker : f.worker with
    | checking =>
      simp only
      split
      · rename_i last
        simp only [Bool.and_eq_true,List.isEmpty_iff] at last
        exact .ends worker last.1 last.2
      · exact .goes_on worker
    | _ => exact .nothing (by simp) (by simp)
  | stop =>
    simp only [Forwarder.take,Forwarder.stop]
    split
    · exact .stop ‹_›
    · exact .nothing (by simp) (by simp)
  | stop_puts =>
    simp only [Forwarder.take,Forwarder.stop_puts]
    split
    · exact .nothing (by simp) (by simp)
    · rename_i other
      have called : f.stopping ≠ .uncalled := by simp [not_not.mp other]
      split
      · exact .stop_full (by simp) (by simp) called (by simp)
      · exact .stop_puts (by simp) (by simp) called
  | stop_makes_room =>
    simp only [Forwarder.take,Forwarder.stop_makes_room]
    split
    · exact .stop_drops ‹_›
    · rename_i other
      exact .nothing (by simp) (fun _ => other)
  | stop_retries =>
    simp only [Forwarder.take,Forwarder.stop_retries]
    split
    · exact .nothing (by simp) (by simp)
    · rename_i other
      have called : f.stopping ≠ .uncalled := by simp [not_not.mp other]
      split
      · exact .stop_full (by simp) (by simp) called (by simp)
      · exact .stop_puts (by simp) (by simp) called

/-! ## Order -/

/-- The chunks of a queue. -/
def chunks (queue : List Item) : List Chunk := queue.filterMap Item.data

@[simp] theorem chunks_nil : chunks [] = [] := rfl

@[simp] theorem chunks_chunk (data : Chunk) (rest : List Item) : chunks (.chunk data :: rest) = data :: chunks rest := rfl

@[simp] theorem chunks_STOP (rest : List Item) : chunks (.STOP :: rest) = chunks rest := rfl

@[simp] theorem chunks_append (front rest : List Item) : chunks (front ++ rest) = chunks front ++ chunks rest :=
  List.filterMap_append

theorem chunks_tail (queue : List Item) : (chunks queue.tail).Sublist (chunks queue) :=
  (List.tail_sublist queue).filterMap Item.data

/-- The chunk of a push that is under way. -/
def Pushing.held : Pushing → List Chunk
  | .idle => []
  | .full data => [data]
  | .retry data => [data]

/-- The chunk that is being sent. -/
def Worker.held : Worker → List Chunk
  | .sending data => [data]
  | _ => []

/-- The chunks that may still be sent, in their order. -/
def Forwarder.waiting (self : Forwarder) : List Chunk := chunks self.queue ++ self.pushing.held

theorem step_order (f : Forwarder) (act : Act) : (((f.take act).2.bind Sight.sent).toList ++ (f.take act).1.waiting).Sublist
    (f.waiting ++ ((f.take act).2.bind Sight.pushed).toList) := by
  have step := take_step f act
  have fewer := chunks_tail f.queue
  generalize f.take act = result at step ⊢
  cases step with
  | push_drops pushing queue =>
    rw [queue] at fewer
    simpa [Forwarder.waiting,pushing,queue,Pushing.held] using fewer
  | stop_drops stopping => simpa [Forwarder.waiting] using fewer
  | _ => simp_all [Forwarder.waiting,Pushing.held,Sight.pushed,Sight.sent,Forwarder.put,Forwarder.count_pushed,Forwarder.count_dropped]

/-! ### Runs -/

/-- The move of an act. -/
def Forwarder.move (self : Forwarder) (act : Act) : ForwarderMove := ⟨self,act,(self.take act).1,(self.take act).2⟩

theorem history_snoc (max_queue : Nat) (acts : List Act) (act : Act) :
    history max_queue (acts ++ [act]) = history max_queue acts ++ [(after max_queue acts).move act] :=
  moves_append _ _ _ _

theorem after_snoc (max_queue : Nat) (acts : List Act) (act : Act) :
    after max_queue (acts ++ [act]) = ((after max_queue acts).take act).1 :=
  finish_append _ _ _ _

theorem given_snoc (ms : List ForwarderMove) (m : ForwarderMove) :
    given (ms ++ [m]) = given ms ++ (m.output.bind Sight.pushed).toList := by
  rw [given,List.filterMap_append]
  cases found : m.output.bind Sight.pushed <;> simp [given,found]

theorem handed_snoc (ms : List ForwarderMove) (m : ForwarderMove) :
    handed (ms ++ [m]) = handed ms ++ (m.output.bind Sight.sent).toList := by
  rw [handed,List.filterMap_append]
  cases found : m.output.bind Sight.sent <;> simp [handed,found]

theorem waiting_order (max_queue : Nat) (acts : List Act) :
    (handed (history max_queue acts) ++ (after max_queue acts).waiting).Sublist (given (history max_queue acts)) := by
  induction acts using List.reverseRecOn with
  | nil => exact List.Sublist.refl _
  | append_singleton acts act ih =>
    rw [history_snoc,after_snoc,given_snoc,handed_snoc,List.append_assoc]
    have step := (step_order (after max_queue acts) act).append_left (handed (history max_queue acts))
    rw [← List.append_assoc (handed (history max_queue acts)) (after max_queue acts).waiting] at step
    exact step.trans (ih.append_right _)

/-- Chunks are sent in the order of the pushes. -/
theorem handed_order (max_queue : Nat) (acts : List Act) :
    (handed (history max_queue acts)).Sublist (given (history max_queue acts)) :=
  (List.sublist_append_left _ _).trans (waiting_order max_queue acts)

/-! ## Counts -/

/-- `stop` drops a chunk that nobody counts. -/
def Loses (m : ForwarderMove) : Prop :=
  m.input = .stop_makes_room ∧ m.pre.stopping = .full ∧ chunks (m.pre.queue.take 1) ≠ []

/-- A push drops the sentinel and counts it as a chunk. -/
def Miscounts (m : ForwarderMove) : Prop :=
  m.input = .push_makes_room ∧ m.pre.pushing.is_full = true ∧ m.pre.queue.head? = some .STOP

def Pushing.is_retry : Pushing → Bool
  | .retry _ => true
  | _ => false

/-- The chunk that `push` is called with. -/
def Act.data : Act → Chunk
  | .push data => data
  | _ => []

/-- A push puts a chunk into the queue. -/
def Puts (m : ForwarderMove) : Prop := ¬ m.pre.Full ∧
  ((m.pre.pushing = .idle ∧ m.input.data ≠ []) ∨ (m.pre.pushing.is_retry = true ∧ m.input = .push_retries))

/-- A push puts a chunk behind the sentinel, or where no worker will take it. -/
def Late (m : ForwarderMove) : Prop := Puts m ∧ (m.pre.worker = .terminated ∨ .STOP ∈ m.pre.queue)

/-- The move changes the counts as it should. -/
def Accounted (m : ForwarderMove) : Prop := ¬ Loses m ∧ ¬ Miscounts m ∧ ¬ Late m

instance (m : ForwarderMove) : Decidable (Loses m) := inferInstanceAs (Decidable (_ ∧ _))

instance (m : ForwarderMove) : Decidable (Miscounts m) := inferInstanceAs (Decidable (_ ∧ _))

instance (m : ForwarderMove) : Decidable (Puts m) := inferInstanceAs (Decidable (_ ∧ _))

instance (m : ForwarderMove) : Decidable (Late m) := inferInstanceAs (Decidable (_ ∧ _))

instance (m : ForwarderMove) : Decidable (Accounted m) := inferInstanceAs (Decidable (_ ∧ _))

/-- What is counted, and what is not yet. -/
def Forwarder.total (self : Forwarder) : Nat := self.stats.sent + self.stats.errors + self.stats.dropped +
  (chunks self.queue).length + self.worker.held.length + self.pushing.held.length

/-- The sum of what a step counts and what it leaves to count. -/
theorem step_counts (f : Forwarder) (act : Act) :
    (f.take act).1.total + (if Loses (f.move act) then 1 else 0) =
      f.total + ((f.take act).2.bind Sight.pushed).toList.length + (if Miscounts (f.move act) then 1 else 0) := by
  have step := take_step f act
  have others : ∀ {result : Forwarder × Option Sight}, act ≠ .push_makes_room → act ≠ .stop_makes_room →
      result.1.total = f.total + (result.2.bind Sight.pushed).toList.length →
        result.1.total + (if Loses (f.move act) then 1 else 0) =
          f.total + (result.2.bind Sight.pushed).toList.length + (if Miscounts (f.move act) then 1 else 0) := by
    intro result not_push not_stop same
    rw [if_neg (fun loses => not_stop loses.1),if_neg (fun counts => not_push counts.1),same]
  have loses : Loses (f.move act) ↔ act = .stop_makes_room ∧ f.stopping = .full ∧ chunks (f.queue.take 1) ≠ [] := Iff.rfl
  have miscounts : Miscounts (f.move act) ↔ act = .push_makes_room ∧ f.pushing.is_full = true ∧ f.queue.head? = some .STOP :=
    Iff.rfl
  simp only [loses,miscounts] at others ⊢
  clear loses miscounts
  generalize f.take act = result at step ⊢
  cases step with
  | nothing not_push not_stop =>
    rw [if_neg (fun loses => not_stop loses.1 loses.2.1),if_neg (fun counts => by simp [not_push counts.1] at counts)]
    simp
  | push_full idle => exact others (by simp) (by simp) (by simp [Forwarder.total,idle,Pushing.held,Sight.pushed])
  | push idle =>
    refine others (by simp) (by simp) ?_
    simp [Forwarder.total,Sight.pushed,Forwarder.put,Forwarder.count_pushed]
    omega
  | push_drops pushing queue =>
    rename_i item rest
    cases item <;> simp [Forwarder.total,pushing,queue,Pushing.held,Pushing.is_full,Forwarder.count_dropped] <;> omega
  | push_empty pushing queue => simp [Forwarder.total,pushing,queue,Pushing.held]
  | retry_full pushing =>
    refine others (by simp) (by simp) ?_
    simp [Forwarder.total,pushing,Pushing.held,Forwarder.count_dropped]
    omega
  | retry pushing =>
    refine others (by simp) (by simp) ?_
    simp [Forwarder.total,pushing,Pushing.held,Forwarder.put,Forwarder.count_pushed]
    omega
  | gets_STOP worker queue => exact others (by simp) (by simp) (by simp [Forwarder.total,worker,queue,Worker.held])
  | gets worker queue =>
    refine others (by simp) (by simp) ?_
    simp [Forwarder.total,worker,queue,Worker.held,Sight.pushed]
    omega
  | sent worker =>
    refine others (by simp) (by simp) ?_
    simp [Forwarder.total,worker,Worker.held]
    omega
  | failed worker =>
    refine others (by simp) (by simp) ?_
    simp [Forwarder.total,worker,Worker.held]
    omega
  | ends worker => exact others (by simp) (by simp) (by simp [Forwarder.total,worker,Worker.held])
  | goes_on worker => exact others (by simp) (by simp) (by simp [Forwarder.total,worker,Worker.held])
  | stop => exact others (by simp) (by simp) rfl
  | stop_full not_stop not_push => exact others not_push not_stop rfl
  | stop_puts not_stop not_push => exact others not_push not_stop (by simp [Forwarder.total,Forwarder.put])
  | stop_drops stopping =>
    cases queue : f.queue with
    | nil => simp [Forwarder.total,queue]
    | cons item rest =>
      cases item <;> simp [Forwarder.total,queue,stopping]
      omega

/-- What becomes of the chunks of every run: those that `stop` drops are missing, and each sentinel that a push drops
    is one too many. -/
theorem run_counts (max_queue : Nat) (acts : List Act) :
    (after max_queue acts).total + (history max_queue acts).countP (fun m => decide (Loses m)) =
      (given (history max_queue acts)).length + (history max_queue acts).countP (fun m => decide (Miscounts m)) := by
  induction acts using List.reverseRecOn with
  | nil => rfl
  | append_singleton acts act ih =>
    have step := step_counts (after max_queue acts) act
    rw [history_snoc,after_snoc,given_snoc,List.countP_append,List.countP_append,List.countP_singleton,List.countP_singleton,
      List.length_append]
    simp only [decide_eq_true_eq]
    have output : ((after max_queue acts).move act).output = ((after max_queue acts).take act).2 := rfl
    rw [output]
    omega

/-! ### What is left when the worker has terminated -/

/-- The chunks behind the first sentinel. -/
def behind : List Item → List Chunk
  | [] => []
  | .STOP :: rest => chunks rest
  | .chunk _ :: rest => behind rest

theorem behind_none {queue : List Item} (none : chunks queue = []) : behind queue = [] := by
  induction queue with
  | nil => rfl
  | cons item rest ih =>
    cases item with
    | chunk data => cases none
    | STOP => exact none

theorem behind_STOP (queue : List Item) : behind (queue ++ [.STOP]) = behind queue := by
  induction queue with
  | nil => rfl
  | cons item rest ih =>
    cases item with
    | chunk data => exact ih
    | STOP => simp [behind]

theorem behind_chunk {queue : List Item} (front : .STOP ∉ queue) (data : Chunk) : behind (queue ++ [.chunk data]) = [] := by
  induction queue with
  | nil => rfl
  | cons item rest ih =>
    cases item with
    | chunk other => exact ih (fun later => front (List.mem_cons_of_mem _ later))
    | STOP => simp at front

theorem behind_tail {queue : List Item} (none : behind queue = []) : behind queue.tail = [] := by
  cases queue with
  | nil => rfl
  | cons item rest =>
    cases item with
    | chunk data => exact none
    | STOP => exact behind_none none

/-- No chunk is where no worker will take it. -/
structure Forwarder.Settled (f : Forwarder) : Prop where
  front : behind f.queue = []
  left : f.worker = .terminated → chunks f.queue = []

/-- Without its first item. -/
theorem Forwarder.Settled.tail {self : Forwarder} (settled : self.Settled) :
    behind self.queue.tail = [] ∧ (self.worker = .terminated → chunks self.queue.tail = []) :=
  ⟨behind_tail settled.front,fun ended => List.sublist_nil.mp (settled.left ended ▸ chunks_tail self.queue)⟩

/-- With a chunk that is not late. -/
theorem Forwarder.Settled.put {self : Forwarder} {act : Act} (accounted : Accounted (self.move act)) (puts : Puts (self.move act))
    (data : Chunk) : behind (self.queue ++ [.chunk data]) = [] ∧
      (self.worker = .terminated → chunks (self.queue ++ [.chunk data]) = []) := by
  have timely : ¬ (self.worker = .terminated ∨ .STOP ∈ self.queue) := fun late => accounted.2.2 ⟨puts,late⟩
  exact ⟨behind_chunk (fun member => timely (.inr member)) data,fun ended => absurd (.inl ended) timely⟩

/-- With the sentinel. -/
theorem Forwarder.Settled.stopped {self : Forwarder} (settled : self.Settled) :
    behind (self.queue ++ [.STOP]) = [] ∧ (self.worker = .terminated → chunks (self.queue ++ [.STOP]) = []) := by
  refine ⟨(behind_STOP self.queue).trans settled.front,fun ended => ?_⟩
  rw [chunks_append,settled.left ended]
  rfl

theorem step_settled {f : Forwarder} {act : Act} (accounted : Accounted (f.move act)) (settled : f.Settled) :
    (f.take act).1.Settled := by
  have step := take_step f act
  obtain ⟨tail_front,tail_left⟩ := settled.tail
  have putting : ∀ data, Puts (f.move act) → behind (f.queue ++ [.chunk data]) = [] ∧
      (f.worker = .terminated → chunks (f.queue ++ [.chunk data]) = []) := fun data puts => Forwarder.Settled.put accounted puts data
  simp only [Puts,Forwarder.move] at putting
  generalize f.take act = result at step ⊢
  cases step with
  | push idle some_there room =>
    obtain ⟨front,left⟩ := putting _ ⟨room,.inl ⟨idle,some_there⟩⟩
    exact ⟨front,left⟩
  | retry pushing room =>
    obtain ⟨front,left⟩ := putting _ ⟨room,.inr ⟨by rw [pushing]; rfl,rfl⟩⟩
    exact ⟨front,left⟩
  | push_drops pushing queue =>
    rw [queue] at tail_front tail_left
    exact ⟨tail_front,tail_left⟩
  | push_empty => exact ⟨rfl,fun _ => rfl⟩
  | gets_STOP worker queue =>
    have front := settled.front
    rw [queue] at front
    exact ⟨behind_none front,fun _ => front⟩
  | gets worker queue =>
    rw [queue] at tail_front
    exact ⟨tail_front,fun ended => by cases ended⟩
  | sent => exact ⟨settled.front,fun ended => by cases ended⟩
  | failed => exact ⟨settled.front,fun ended => by cases ended⟩
  | ends worker set queue => exact ⟨settled.front,fun _ => congrArg chunks queue⟩
  | goes_on => exact ⟨settled.front,fun ended => by cases ended⟩
  | stop_puts => exact ⟨settled.stopped.1,settled.stopped.2⟩
  | stop_drops => exact ⟨tail_front,tail_left⟩
  | nothing => exact settled
  | _ => exact ⟨settled.front,settled.left⟩

theorem run_settled {max_queue : Nat} {acts : List Act} (accounted : ∀ m ∈ history max_queue acts, Accounted m) :
    (after max_queue acts).Settled := by
  induction acts using List.reverseRecOn with
  | nil => exact ⟨rfl,fun _ => rfl⟩
  | append_singleton acts act ih =>
    rw [history_snoc,List.forall_mem_append] at accounted
    rw [after_snoc]
    exact step_settled (accounted.2 _ (List.mem_singleton_self _)) (ih accounted.1)

/-! ### Before `stop` is called -/

/-- As long as `stop` is not called, the worker goes on and there is no sentinel. -/
def Forwarder.Running (self : Forwarder) : Prop :=
  self.stopping = .uncalled → self.stop_set = false ∧ self.worker ≠ .terminated ∧ .STOP ∉ self.queue

theorem step_running {f : Forwarder} (act : Act) (running : f.Running) : (f.take act).1.Running := by
  have step := take_step f act
  generalize f.take act = result at step ⊢
  intro uncalled
  cases step with
  | push_drops pushing queue =>
    obtain ⟨unset,goes_on,none⟩ := running uncalled
    rw [queue] at none
    exact ⟨unset,goes_on,fun member => none (List.mem_cons_of_mem _ member)⟩
  | push_empty =>
    obtain ⟨unset,goes_on,none⟩ := running uncalled
    exact ⟨unset,goes_on,List.not_mem_nil⟩
  | gets_STOP worker queue =>
    have none := (running uncalled).2.2
    simp [queue] at none
  | gets worker queue =>
    obtain ⟨unset,_,none⟩ := running uncalled
    rw [queue] at none
    exact ⟨unset,Worker.noConfusion,fun member => none (List.mem_cons_of_mem _ member)⟩
  | ends worker set =>
    have unset := (running uncalled).1
    simp [unset] at set
  | stop => cases uncalled
  | stop_full _ _ _ next_called => exact absurd uncalled next_called
  | stop_puts => cases uncalled
  | stop_drops => cases uncalled
  | sent => exact ⟨(running uncalled).1,Worker.noConfusion,(running uncalled).2.2⟩
  | failed => exact ⟨(running uncalled).1,Worker.noConfusion,(running uncalled).2.2⟩
  | goes_on => exact ⟨(running uncalled).1,Worker.noConfusion,(running uncalled).2.2⟩
  | nothing => exact running uncalled
  | _ => simpa [Forwarder.put,Forwarder.count_pushed,Forwarder.count_dropped] using running uncalled

theorem history_running (max_queue : Nat) (acts : List Act) :
    (after max_queue acts).Running ∧ ∀ m ∈ history max_queue acts, m.pre.Running := by
  induction acts using List.reverseRecOn with
  | nil => exact ⟨fun _ => ⟨rfl,Worker.noConfusion,List.not_mem_nil⟩,fun m member => by cases member⟩
  | append_singleton acts act ih =>
    rw [history_snoc,after_snoc,List.forall_mem_append]
    refine ⟨step_running act ih.1,ih.2,fun m member => ?_⟩
    rw [List.mem_singleton.mp member]
    exact ih.1

/-- Where `stop` is not called yet, every move changes the counts as it should. -/
theorem accounted_before_stop {max_queue : Nat} {acts : List Act} {m : ForwarderMove} (member : m ∈ history max_queue acts)
    (uncalled : m.pre.stopping = .uncalled) : Accounted m := by
  obtain ⟨_,goes_on,none⟩ := (history_running max_queue acts).2 m member uncalled
  refine ⟨?_,?_,?_⟩
  · rintro ⟨_,full,_⟩
    rw [uncalled] at full
    cases full
  · rintro ⟨_,_,first⟩
    exact none (List.mem_of_mem_head? first)
  · rintro ⟨_,ended | member⟩
    · exact goes_on ended
    · exact none member

/-- In every run chunks are sent in the order of the pushes. In one whose moves count as they should, the worker has
    terminated only when every chunk that was pushed is counted once, as sent, as an error or as dropped. -/
theorem forwarded_accounted (max_queue : Nat) (acts : List Act) :
    (handed (history max_queue acts)).Sublist (given (history max_queue acts)) ∧
      ((∀ m ∈ history max_queue acts, Accounted m) → (after max_queue acts).worker = .terminated →
        (after max_queue acts).stats.sent + (after max_queue acts).stats.errors + (after max_queue acts).stats.dropped +
          (after max_queue acts).pushing.held.length = (given (history max_queue acts)).length) := by
  refine ⟨handed_order max_queue acts,fun accounted ended => ?_⟩
  have counts := run_counts max_queue acts
  have none_lost : (history max_queue acts).countP (fun m => decide (Loses m)) = 0 := by
    rw [List.countP_eq_zero]
    intro m member
    simpa using (accounted m member).1
  have none_miscounted : (history max_queue acts).countP (fun m => decide (Miscounts m)) = 0 := by
    rw [List.countP_eq_zero]
    intro m member
    simpa using (accounted m member).2.1
  rw [none_lost,none_miscounted,Forwarder.total,(run_settled accounted).left ended,ended] at counts
  simpa [Worker.held] using counts

/-- A chunk that is sent, one that a push drops and one that the callback fails on, and then the end. -/
def accounted_acts : List Act := [.push [1],.push [2],.push_makes_room,.push_retries,.worker_gets,.worker_sends true,
  .worker_checks,.push [3],.worker_gets,.worker_sends false,.worker_checks,.stop,.stop_puts,.worker_gets]

theorem forwarded_accounted_witness : (after 1 accounted_acts).stats = ⟨3,1,1,1⟩ ∧
    (after 1 accounted_acts).stats.sent + (after 1 accounted_acts).stats.errors + (after 1 accounted_acts).stats.dropped +
      (after 1 accounted_acts).pushing.held.length = (given (history 1 accounted_acts)).length :=
  ⟨by decide,(forwarded_accounted 1 accounted_acts).2 (by decide) (by decide)⟩

/-- The queue is full when `stop` is called: the chunk in it is dropped, and is not counted. -/
theorem stop_drops_uncounted :
    let acts : List Act := [.push [1],.stop,.stop_puts,.stop_makes_room,.stop_retries,.worker_gets]
    (after 1 acts).worker = .terminated ∧ (after 1 acts).pushing = .idle ∧ given (history 1 acts) = [[1]] ∧
      (after 1 acts).stats = ⟨1,0,0,0⟩ := by
  decide

end VibeBridge.Python.Forwarding
