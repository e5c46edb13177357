import Mathlib.Data.List.Basic
import RmttGo.EventRuns

/-!
# One resource at a time

Resources that are used one after the other.  A resource is acquired, installed
and served by workers.  It is closed once, and all its workers have left before
another one is acquired.
-/

namespace RmttGo

inductive Stage (Id : Type*)
  | vacant
  | acquired (id : Id)
  | serving (id : Id)
  /-- Closed, with workers that may not have left. -/
  | draining (id : Id)
  deriving DecidableEq, Repr

structure Succession (Id : Type*) where
  stage : Stage Id
  workers : Nat
  opened : List Id
  closed : List Id

variable {Id : Type*}

/-- The resource that is open. -/
def Stage.held : Stage Id → Option Id
  | .acquired id | .serving id => some id
  | .vacant | .draining _ => none

/-- The resource that workers may be running for. -/
def Stage.staffed : Stage Id → Option Id
  | .serving id | .draining id => some id
  | .vacant | .acquired _ => none

namespace Succession

inductive Event (Id : Type*)
  | acquire (id : Id)
  | install
  | hire
  | retire
  | close
  | settle
  deriving DecidableEq, Repr

def initial : Succession Id :=
  ⟨.vacant, 0, [], []⟩

def step (s : Succession Id) : Event Id → Option (Succession Id)
  | .acquire id =>
      match s.stage with
      | .vacant => some { s with stage := .acquired id, opened := s.opened ++ [id] }
      | _ => none
  | .install =>
      match s.stage with
      | .acquired id => some { s with stage := .serving id }
      | _ => none
  | .hire =>
      match s.stage with
      | .serving _ => some { s with workers := s.workers + 1 }
      | _ => none
  | .retire =>
      if s.workers = 0 then none else some { s with workers := s.workers - 1 }
  | .close =>
      match s.stage with
      | .serving id =>
          some { s with stage := .draining id, closed := s.closed ++ [id] }
      | _ => none
  | .settle =>
      match s.stage with
      | .draining _ => if s.workers = 0 then some { s with stage := .vacant } else none
      | _ => none

/-- Resources are closed in the order in which they were opened, and at most the
latest one is open or has workers. -/
structure Sound (s : Succession Id) : Prop where
  opened : s.opened = s.closed ++ s.stage.held.toList
  last : ∀ id, s.stage.staffed = some id → s.opened.getLast? = some id
  staffed : s.stage.staffed = none → s.workers = 0

variable {s next : Succession Id} {event : Event Id}

theorem initial_sound : (initial : Succession Id).Sound where
  opened := rfl
  last := by rintro _ ⟨⟩
  staffed := fun _ => rfl

theorem Sound.step (sound : s.Sound) (stepped : s.step event = some next) :
    next.Sound := by
  obtain ⟨opened, last, staffed⟩ := sound
  cases event with
  | acquire id =>
      simp only [Succession.step] at stepped
      split at stepped <;> cases stepped
      rename_i vacant
      rw [vacant] at opened staffed
      refine ⟨?_, by rintro _ ⟨⟩, fun _ => staffed rfl⟩
      rw [opened, List.append_assoc]
      rfl
  | install =>
      simp only [Succession.step] at stepped
      split at stepped <;> cases stepped
      rename_i id acquired
      rw [acquired] at opened
      refine ⟨opened, ?_, by rintro ⟨⟩⟩
      rintro _ ⟨⟩
      rw [opened]
      exact List.getLast?_concat
  | hire =>
      simp only [Succession.step] at stepped
      split at stepped <;> cases stepped
      rename_i id serving
      refine ⟨opened, last, ?_⟩
      rw [serving]
      rintro ⟨⟩
  | retire =>
      obtain ⟨-, ⟨⟩⟩ := Option.ite_none_left_eq_some.mp stepped
      refine ⟨opened, last, ?_⟩
      intro nobody
      change s.workers - 1 = 0
      rw [staffed nobody]
  | close =>
      simp only [Succession.step] at stepped
      split at stepped <;> cases stepped
      rename_i id serving
      rw [serving] at opened last
      refine ⟨?_, last, by rintro ⟨⟩⟩
      rw [opened]
      exact (List.append_nil _).symm
  | settle =>
      simp only [Succession.step] at stepped
      split at stepped
      case h_1 id draining =>
        obtain ⟨empty, ⟨⟩⟩ := Option.ite_none_right_eq_some.mp stepped
        rw [draining] at opened
        exact ⟨opened, by rintro _ ⟨⟩, fun _ => empty⟩
      case h_2 => cases stepped

theorem sound_of_run {events : List (Event Id)}
    (executed : EventRun.run step initial events = some s) : s.Sound :=
  EventRun.invariant Sound Sound.step initial_sound executed

end Succession

end RmttGo
