import Mathlib.Data.List.Infix
import RmttGo.EventRuns

/-!
# A lossless channel

What a chain of goroutines that pass values on is supposed to amount to: one
channel that gives out the values in the order in which they were put in, each
once, and whose end the receiver sees only behind the last of them.
-/

namespace RmttGo

structure FifoChannel (α : Type*) where
  sent : List α
  queue : List α
  received : List α
  /-- The sender has closed the channel. -/
  closed : Bool
  /-- The receiver has seen the end. -/
  ended : Bool

namespace FifoChannel

variable {α : Type*}

inductive Event (α : Type*)
  | send (value : α)
  | receive
  | close
  | finish

def empty : FifoChannel α :=
  ⟨[], [], [], false, false⟩

def step (channel : FifoChannel α) : Event α → Option (FifoChannel α)
  | .send value =>
      if channel.closed then
        none
      else
        some { channel with
          sent := channel.sent ++ [value]
          queue := channel.queue ++ [value] }
  | .receive =>
      match channel.queue with
      | [] => none
      | value :: queue =>
          some { channel with queue, received := channel.received ++ [value] }
  | .close => if channel.closed then none else some { channel with closed := true }
  | .finish =>
      match channel.queue with
      | [] => if channel.closed then some { channel with ended := true } else none
      | _ :: _ => none

/-- Nothing is lost, duplicated or out of order, and the end is the end. -/
structure Sound (channel : FifoChannel α) : Prop where
  sent : channel.sent = channel.received ++ channel.queue
  ended : channel.ended = true → channel.closed = true ∧ channel.queue = []

variable {channel next : FifoChannel α} {event : Event α}

theorem step_finish (closed : channel.closed = true) (empty : channel.queue = []) :
    step channel .finish = some { channel with ended := true } := by
  simp [step, closed, empty]

theorem empty_sound : (empty : FifoChannel α).Sound where
  sent := rfl
  ended := by
    intro ended
    cases ended

theorem Sound.step (sound : channel.Sound)
    (stepped : FifoChannel.step channel event = some next) : next.Sound := by
  cases event with
  | send value =>
      simp only [FifoChannel.step] at stepped
      split at stepped
      · cases stepped
      · rename_i isOpen
        cases stepped
        constructor
        · simp [sound.sent]
        · intro ended
          exact absurd (sound.ended ended).1 isOpen
  | receive =>
      simp only [FifoChannel.step] at stepped
      split at stepped
      · cases stepped
      · rename_i value queue isQueue
        cases stepped
        constructor
        · simp [sound.sent, isQueue]
        · intro ended
          cases isQueue.symm.trans (sound.ended ended).2
  | close =>
      simp only [FifoChannel.step] at stepped
      split at stepped
      · cases stepped
      · cases stepped
        exact ⟨sound.sent, fun ended => ⟨rfl, (sound.ended ended).2⟩⟩
  | finish =>
      simp only [FifoChannel.step] at stepped
      split at stepped
      · rename_i isQueue
        split at stepped
        · rename_i closed
          cases stepped
          exact ⟨sound.sent, fun _ => ⟨closed, isQueue⟩⟩
        · cases stepped
      · cases stepped

theorem sound_of_run {events : List (Event α)}
    (executed : EventRun.run FifoChannel.step empty events = some channel) :
    channel.Sound :=
  EventRun.invariant Sound Sound.step empty_sound executed

theorem Sound.isPrefix (sound : channel.Sound) :
    channel.received <+: channel.sent :=
  ⟨channel.queue, sound.sent.symm⟩

theorem Sound.received_eq (sound : channel.Sound) (ended : channel.ended = true) :
    channel.received = channel.sent := by
  rw [sound.sent, (sound.ended ended).2, List.append_nil]

end FifoChannel

end RmttGo
