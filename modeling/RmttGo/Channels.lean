import Mathlib.Data.List.Basic

/-!
# Signalling channels

Channels that carry no values and are only made, closed and waited on.
Closing a nil or an already closed channel panics; waiting on a channel
resumes once it is closed, and waiting on nil never does.
-/

namespace RmttGo

/-- Channels are numbered in the order they are made. -/
structure ChannelHeap where
  made : Nat
  closed : List Nat
  deriving DecidableEq, Repr

namespace ChannelHeap

def empty : ChannelHeap :=
  ⟨0, []⟩

/-- `make(chan struct{})`: the new channel and the heap that has it. -/
def make (heap : ChannelHeap) : Nat × ChannelHeap :=
  (heap.made, { heap with made := heap.made + 1 })

/-- `close(channel)`; `none` is a panic. -/
def close (heap : ChannelHeap) : Option Nat → Option ChannelHeap
  | none => none
  | some channel =>
      if channel ∈ heap.closed then none
      else some { heap with closed := channel :: heap.closed }

def Released (heap : ChannelHeap) : Option Nat → Prop
  | none => False
  | some channel => channel ∈ heap.closed

instance (heap : ChannelHeap) : DecidablePred heap.Released
  | none => .isFalse id
  | some channel => inferInstanceAs (Decidable (channel ∈ heap.closed))

def IsOpen (heap : ChannelHeap) (channel : Nat) : Prop :=
  channel < heap.made ∧ channel ∉ heap.closed

/-- Only channels that have been made are closed. -/
def WellFormed (heap : ChannelHeap) : Prop :=
  ∀ channel ∈ heap.closed, channel < heap.made

variable {heap : ChannelHeap} {channel : Nat}

theorem empty_wellFormed : empty.WellFormed := by
  intro channel member
  cases member

theorem WellFormed.make (wellFormed : heap.WellFormed) :
    heap.make.2.WellFormed := by
  intro channel member
  exact Nat.lt_succ_of_lt (wellFormed channel member)

theorem WellFormed.make_isOpen (wellFormed : heap.WellFormed) :
    heap.make.2.IsOpen heap.make.1 := by
  constructor
  · exact Nat.lt_succ_self heap.made
  · intro member
    exact absurd (wellFormed _ member) (Nat.lt_irrefl _)

theorem IsOpen.close_eq (isOpen : heap.IsOpen channel) :
    heap.close (some channel) =
      some { heap with closed := channel :: heap.closed } := by
  simp [close, isOpen.2]

theorem WellFormed.close (wellFormed : heap.WellFormed)
    (isOpen : heap.IsOpen channel) :
    WellFormed { heap with closed := channel :: heap.closed } := by
  intro other member
  rcases List.mem_cons.mp member with rfl | member
  · exact isOpen.1
  · exact wellFormed other member

theorem IsOpen.not_released (isOpen : heap.IsOpen channel) :
    ¬ heap.Released (some channel) :=
  isOpen.2

end ChannelHeap

end RmttGo
