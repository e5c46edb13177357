import Mathlib.Data.List.Chain
import RmttGo.EventRuns

/-!
# Acting on a sampled clock

A sampler looks at a clock, at most `interval` apart, and acts when `period` has
passed since the latest action.  Others act at any time and restart the period.
The longest time between two actions is a period and an interval, less one unit
of time: the sampler looks just before the period is over, and then as late as
it may.
-/

namespace RmttGo

structure Sampler where
  looked : Nat
  acted : Nat
  /-- The actions so far, latest first. -/
  actions : List Nat
  deriving DecidableEq, Repr

namespace Sampler

inductive Event
  | look (now : Nat)
  | act (now : Nat)
  deriving DecidableEq, Repr

/-- An action at the start. -/
def start : Sampler :=
  ⟨0, 0, [0]⟩

def act (s : Sampler) (now : Nat) : Sampler :=
  ⟨s.looked, now, now :: s.actions⟩

def look (period : Nat) (s : Sampler) (now : Nat) : Sampler :=
  let looked := { s with looked := now }
  if period ≤ now - s.acted then looked.act now else looked

theorem look_looked (period : Nat) (s : Sampler) (now : Nat) :
    (s.look period now).looked = now := by
  unfold look
  split <;> rfl

/-- Time does not go back, nor past the next look. -/
def Admits (interval : Nat) (s : Sampler) (now : Nat) : Prop :=
  s.looked ≤ now ∧ s.acted ≤ now ∧ now ≤ s.looked + interval

instance (interval : Nat) (s : Sampler) (now : Nat) :
    Decidable (s.Admits interval now) :=
  inferInstanceAs (Decidable (_ ∧ _))

def step (period interval : Nat) (s : Sampler) : Event → Option Sampler
  | .look now =>
      if s.Admits interval now then some (s.look period now) else none
  | .act now => if s.Admits interval now then some (s.act now) else none

theorem step_look {period interval now : Nat} {s : Sampler}
    (admitted : s.Admits interval now) :
    s.step period interval (.look now) = some (s.look period now) :=
  if_pos admitted

/-- Consecutive actions are less than `bound` apart. -/
def GapsBelow (bound : Nat) (actions : List Nat) : Prop :=
  actions.IsChain fun later earlier => later - earlier < bound

variable {period interval bound : Nat} {s next : Sampler} {event : Event}

/-- The latest look came before the period was over. -/
structure Punctual (period interval : Nat) (s : Sampler) : Prop where
  latest : s.actions.head? = some s.acted
  recent : s.looked < s.acted + period
  gaps : GapsBelow (period + interval) s.actions

theorem start_punctual (positive : 0 < period) :
    start.Punctual period interval where
  latest := rfl
  recent := by
    change 0 < 0 + period
    omega
  gaps := List.isChain_singleton 0

theorem Punctual.act (punctual : s.Punctual period interval)
    (positive : 0 < period) {now : Nat} (admitted : s.Admits interval now) :
    (s.act now).Punctual period interval := by
  obtain ⟨looked, acted, inTime⟩ := admitted
  have recent := punctual.recent
  refine ⟨rfl, ?_, ?_⟩
  · change s.looked < now + period
    omega
  · obtain ⟨older, actions⟩ := List.head?_eq_some_iff.mp punctual.latest
    have gaps := punctual.gaps
    change GapsBelow _ (now :: s.actions)
    rw [GapsBelow, actions] at gaps ⊢
    exact List.isChain_cons_cons.mpr ⟨by omega, gaps⟩

theorem Punctual.step (positive : 0 < period)
    (punctual : s.Punctual period interval)
    (stepped : step period interval s event = some next) :
    next.Punctual period interval := by
  cases event with
  | act now =>
      obtain ⟨admitted, ⟨⟩⟩ := Option.ite_none_right_eq_some.mp stepped
      exact punctual.act positive admitted
  | look now =>
      obtain ⟨admitted, ⟨⟩⟩ := Option.ite_none_right_eq_some.mp stepped
      unfold look
      by_cases due : period ≤ now - s.acted
      · have acts := punctual.act positive admitted
        rw [if_pos due]
        refine ⟨acts.latest, ?_, acts.gaps⟩
        change now < now + period
        omega
      · rw [if_neg due]
        refine ⟨punctual.latest, ?_, punctual.gaps⟩
        obtain ⟨-, acted, -⟩ := admitted
        change now < s.acted + period
        omega

/-- Looks can be placed so that the latest one is at any given moment of the
first period. -/
theorem exists_look_at (positive : 0 < interval) {moment : Nat}
    (early : moment < period) :
    ∃ events, EventRun.run (step period interval) start events =
      some ⟨moment, 0, [0]⟩ := by
  induction moment with
  | zero => exact ⟨[], rfl⟩
  | succ moment induction =>
      obtain ⟨events, ran⟩ := induction (Nat.lt_of_succ_lt early)
      have admitted : Admits interval ⟨moment, 0, [0]⟩ (moment + 1) :=
        ⟨Nat.le_succ moment, Nat.zero_le _, by
          change moment + 1 ≤ moment + interval
          omega⟩
      have quiet : ¬ period ≤ moment + 1 - 0 := by omega
      have stepped : step period interval ⟨moment, 0, [0]⟩ (.look (moment + 1)) =
          some ⟨moment + 1, 0, [0]⟩ := by
        rw [step_look admitted, look, if_neg quiet]
      exact ⟨_, EventRun.run_concat ran stepped⟩

/-- All gaps stay below a bound if and only if it leaves room for a period and
an interval. -/
theorem gapsBelow_iff (periodPositive : 0 < period)
    (intervalPositive : 0 < interval) :
    (∀ events s, EventRun.run (step period interval) start events = some s →
      GapsBelow bound s.actions) ↔ period + interval ≤ bound := by
  constructor
  · intro below
    obtain ⟨events, ran⟩ := @exists_look_at period interval intervalPositive
      (period - 1) (by omega)
    have admitted : Admits interval ⟨period - 1, 0, [0]⟩
        (period - 1 + interval) :=
      ⟨Nat.le_add_right _ _, Nat.zero_le _, Nat.le_refl _⟩
    have due : period ≤ period - 1 + interval - 0 := by omega
    have stepped : step period interval ⟨period - 1, 0, [0]⟩
        (.look (period - 1 + interval)) =
          some ⟨period - 1 + interval, period - 1 + interval,
            [period - 1 + interval, 0]⟩ := by
      rw [step_look admitted, look, if_pos due]
      rfl
    have late := EventRun.run_concat ran stepped
    have gap := List.isChain_cons_cons.mp (below _ _ late)
    omega
  · intro room events s ran
    have punctual : s.Punctual period interval :=
      EventRun.invariant (Punctual period interval)
        (fun punctual stepped => punctual.step periodPositive stepped)
        (start_punctual periodPositive) ran
    exact punctual.gaps.imp fun _ _ below => Nat.lt_of_lt_of_le below room

end Sampler

end RmttGo
