import Courier.Link.Fault

/-! The writing side of a stream.

One write may take less than it is given, and after a budget of bytes every write fails.
`writeAll` repeats writes until all bytes are taken or one fails. -/
namespace Courier.Link

/-- What a write meets when the budget is used up. -/
inductive Refusal where
  | fails (fault : Fault)
  | takesNothing
  deriving DecidableEq, Repr

/-- The writing side, as far as it can still take bytes. -/
structure Sink where
  /-- Most bytes that one write takes. -/
  perWrite : Option Nat := none
  /-- Bytes that are still taken, and what happens after them. -/
  budget : Option (Nat × Refusal) := none
  /-- What closing fails with. -/
  closing : Option Fault := none
  deriving DecidableEq, Repr

namespace Sink

/-- How many of `n` bytes one write takes. -/
def room (s : Sink) (n : Nat) : Nat :=
  let n := match s.perWrite with
    | some most => min most n
    | none => n
  match s.budget with
  | some (left, _) => min left n
  | none => n

/-- The sink after so many bytes were taken. -/
def spend (s : Sink) (n : Nat) : Sink :=
  { s with budget := s.budget.map fun (left, refusal) => (left - n, refusal) }

/-- One write of `n` bytes: how many it takes. -/
def write (s : Sink) (n : Nat) : Except Fault Nat :=
  match s.budget with
  | some (0, .fails fault) => .error fault
  | _ => .ok (s.room n)

theorem room_le (s : Sink) (n : Nat) : s.room n ≤ n := by
  unfold room
  grind

theorem write_le {s : Sink} {n k : Nat} (h : s.write n = .ok k) : k ≤ n := by
  unfold write at h
  split at h
  · simp at h
  · simp only [Except.ok.injEq] at h
    exact h ▸ s.room_le n

/-- What a whole write did: the bytes taken, whether that is all of them, and the sink after it. -/
structure Written where
  taken : Nat
  result : Except Fault Unit
  sink : Sink

/-- Writes `left` more bytes after `taken`. -/
def writeFrom (s : Sink) (taken left : Nat) : Written :=
  if left = 0 then ⟨taken, .ok (), s⟩
  else match h : s.write left with
    | .error fault => ⟨taken, .error fault, s⟩
    | .ok 0 => ⟨taken, .error .writeZero, s⟩
    | .ok (k + 1) => writeFrom (s.spend (k + 1)) (taken + (k + 1)) (left - (k + 1))
termination_by left
decreasing_by
  have := write_le h
  omega

/-- Writes `n` bytes, in as many writes as it takes. -/
def writeAll (s : Sink) (n : Nat) : Written := s.writeFrom 0 n

def close (s : Sink) : Except Fault Unit :=
  match s.closing with
  | some fault => .error fault
  | none => .ok ()

end Sink
end Courier.Link
