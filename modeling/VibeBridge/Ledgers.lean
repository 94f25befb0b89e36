import Mathlib.Data.List.Basic

/-!
Requests that carry no id and are answered in the order in which they arrive. A
ledger records for whom each request was made: first those that arrived and wait
for their answer, then those that are still to be delivered. A request is live
as long as somebody waits for its answer. Delivery changes nothing about the
requests that are outstanding (`outstanding_deliver`); an answer is for the
first of them (`outstanding_answered`).
-/
namespace Ledgers
universe u
variable {κ : Type u}

/-- A request: who made it, and whether its answer is still waited for. -/
structure Request (κ : Type u) where
  key : κ
  live : Bool
  deriving DecidableEq

structure Ledger (κ : Type u) where
  received : List (Request κ)
  queued : List (Request κ)
  deriving DecidableEq

def Ledger.empty : Ledger κ := ⟨[],[]⟩

/-- The requests without an answer, the oldest first. -/
def Ledger.outstanding (l : Ledger κ) : List (Request κ) := l.received ++ l.queued

/-- A request that is made now. -/
def Request.fresh (k : κ) : Request κ := ⟨k,true⟩

/-- Requests are made for the keys. -/
def Ledger.ask (l : Ledger κ) (ks : List κ) : Ledger κ := { l with queued := l.queued ++ ks.map Request.fresh }

/-- The oldest `n` of the queued requests arrive. -/
def Ledger.deliver (l : Ledger κ) (n : Nat) : Ledger κ := ⟨l.received ++ l.queued.take n,l.queued.drop n⟩

/-- The oldest of the queued requests is lost before it arrives. -/
def Ledger.lose (l : Ledger κ) : Ledger κ := { l with queued := l.queued.tail }

/-- The oldest request that arrived is answered. -/
def Ledger.answered (l : Ledger κ) : Ledger κ := { l with received := l.received.tail }

/-- Those who wait for a live request, the oldest first. -/
def liveKeys (rs : List (Request κ)) : List κ := (rs.filter (·.live)).map (·.key)

section
variable [DecidableEq κ]

def Request.orphan (k : κ) (r : Request κ) : Request κ := if r.key = k then { r with live := false } else r

/-- Nobody waits for the requests of `k` any more. -/
def Ledger.orphan (l : Ledger κ) (k : κ) : Ledger κ :=
  ⟨l.received.map (Request.orphan k),l.queued.map (Request.orphan k)⟩

theorem orphan_key (k : κ) (r : Request κ) : (r.orphan k).key = r.key := by
  unfold Request.orphan
  split <;> rfl

theorem outstanding_orphan (l : Ledger κ) (k : κ) : (l.orphan k).outstanding = l.outstanding.map (Request.orphan k) :=
  List.map_append.symm

theorem liveKeys_orphan (rs : List (Request κ)) (k : κ) :
    liveKeys (rs.map (Request.orphan k)) = (liveKeys rs).filter (fun k' => k' ≠ k) := by
  induction rs with
  | nil => rfl
  | cons r rest ih =>
    unfold liveKeys at ih ⊢
    by_cases same : r.key = k
    · cases live : r.live <;> simp [Request.orphan,same,live,ih]
    · cases live : r.live <;> simp [Request.orphan,same,live,ih]

end

theorem outstanding_ask (l : Ledger κ) (ks : List κ) :
    (l.ask ks).outstanding = l.outstanding ++ ks.map Request.fresh := (List.append_assoc _ _ _).symm

theorem outstanding_deliver (l : Ledger κ) (n : Nat) : (l.deliver n).outstanding = l.outstanding := by
  simp [Ledger.deliver,Ledger.outstanding,List.append_assoc]

theorem outstanding_answered {l : Ledger κ} {r : Request κ} {rest : List (Request κ)} (first : l.received = r :: rest) :
    l.outstanding = r :: l.answered.outstanding := by
  simp [Ledger.outstanding,Ledger.answered,first]

theorem liveKeys_append (rs rs' : List (Request κ)) : liveKeys (rs ++ rs') = liveKeys rs ++ liveKeys rs' := by
  simp [liveKeys]

theorem liveKeys_fresh (ks : List κ) : liveKeys (ks.map Request.fresh) = ks := by
  induction ks with
  | nil => rfl
  | cons k rest ih =>
    unfold liveKeys at ih ⊢
    simp [Request.fresh,ih]

theorem liveKeys_cons (r : Request κ) (rs : List (Request κ)) :
    liveKeys (r :: rs) = if r.live then r.key :: liveKeys rs else liveKeys rs := by
  cases live : r.live <;> simp [liveKeys,live]

/-- Somebody waits exactly when some request is live. -/
theorem liveKeys_ne_nil {rs : List (Request κ)} : liveKeys rs ≠ [] ↔ ∃ r ∈ rs, r.live = true := by
  simp [liveKeys]

end Ledgers
