import Mathlib.Tactic.SplitIfs

/-!
# Registries in which newer sessions take over

A registry keeps at most one session per key.  Registering a session replaces
the one that was stored and leaves its teardown to somebody else; sessions can
be closed and removed by anybody at any time.  The invariant says where a
session that is still active can be.
-/

namespace RmttGo

inductive SessionStage
  | unregistered
  | registered
  /-- The session's own removal has run, or it never registers. -/
  | retired
  deriving DecidableEq, Repr

structure Registry (Key Id : Type*) where
  key : Id → Key
  stage : Id → SessionStage
  Active : Id → Prop
  /-- The session was replaced and a teardown that will close it is due. -/
  Pending : Id → Prop
  stored : Key → Option Id
  /-- The session registered last under the key. -/
  latest : Key → Option Id

namespace Registry

variable {Key Id : Type*}

structure SingleSession (r : Registry Key Id) : Prop where
  stored_key : ∀ {key id}, r.stored key = some id → r.key id = key
  stored_latest : ∀ {key id}, r.stored key = some id → r.latest key = some id
  stored_registered : ∀ {key id}, r.stored key = some id →
    r.stage id = .registered
  active_accounted : ∀ {id}, r.Active id →
    r.stage id = .unregistered ∨ r.stored (r.key id) = some id ∨ r.Pending id
  retired_inactive : ∀ {id}, r.stage id = .retired → ¬ r.Active id

variable {before after : Registry Key Id}

/-- Nothing is added: sessions are closed, removed once they are closed, or
retired once they are removed. -/
structure Shrinks (before after : Registry Key Id) : Prop where
  key : ∀ id, after.key id = before.key id
  latest : ∀ key, after.latest key = before.latest key
  stored : ∀ key id, after.stored key = some id → before.stored key = some id
  removed : ∀ key id, before.stored key = some id → after.Active id →
    after.stored key = some id
  active : ∀ id, after.Active id → before.Active id
  pending : ∀ id, after.Active id → before.Pending id → after.Pending id
  stage : ∀ id, after.stage id = before.stage id ∨
    after.stage id = .retired ∧ ¬ after.Active id ∧
      ∀ key, after.stored key ≠ some id

theorem SingleSession.shrink (single : before.SingleSession)
    (shrinks : before.Shrinks after) : after.SingleSession where
  stored_key := by
    intro key id isStored
    rw [shrinks.key]
    exact single.stored_key (shrinks.stored key id isStored)
  stored_latest := by
    intro key id isStored
    rw [shrinks.latest]
    exact single.stored_latest (shrinks.stored key id isStored)
  stored_registered := by
    intro key id isStored
    rcases shrinks.stage id with same | ⟨-, -, notStored⟩
    · rw [same]
      exact single.stored_registered (shrinks.stored key id isStored)
    · exact absurd isStored (notStored key)
  active_accounted := by
    intro id isActive
    rcases shrinks.stage id with same | ⟨-, notActive, -⟩
    · rw [same, shrinks.key]
      rcases single.active_accounted (shrinks.active id isActive) with
        unregistered | isStored | isPending
      · exact .inl unregistered
      · exact .inr (.inl (shrinks.removed _ id isStored isActive))
      · exact .inr (.inr (shrinks.pending id isActive isPending))
    · exact absurd isActive notActive
  retired_inactive := by
    intro id isRetired isActive
    rcases shrinks.stage id with same | ⟨-, notActive, -⟩
    · exact single.retired_inactive (same ▸ isRetired)
        (shrinks.active id isActive)
    · exact notActive isActive

theorem SingleSession.create (single : before.SingleSession) {new : Id}
    (unregistered : after.stage new = .unregistered)
    (stage : ∀ id, after.stage id = before.stage id)
    (key : ∀ id, id ≠ new → after.key id = before.key id)
    (active : ∀ id, id ≠ new → after.Active id → before.Active id)
    (pending : ∀ id, before.Pending id → after.Pending id)
    (stored : after.stored = before.stored)
    (latest : after.latest = before.latest) : after.SingleSession := by
  have storedOther : ∀ {key id}, after.stored key = some id → id ≠ new := by
    rintro key id isStored rfl
    rw [stored] at isStored
    have registered := single.stored_registered isStored
    rw [← stage, unregistered] at registered
    cases registered
  constructor
  · intro k id isStored
    rw [key id (storedOther isStored)]
    rw [stored] at isStored
    exact single.stored_key isStored
  · intro k id isStored
    rw [latest]
    rw [stored] at isStored
    exact single.stored_latest isStored
  · intro k id isStored
    rw [stage]
    rw [stored] at isStored
    exact single.stored_registered isStored
  · intro id isActive
    by_cases same : id = new
    · subst same
      exact .inl unregistered
    · rw [stage, key id same, stored]
      rcases single.active_accounted (active id same isActive) with
        unregistered | isStored | isPending
      · exact .inl unregistered
      · exact .inr (.inl isStored)
      · exact .inr (.inr (pending id isPending))
  · intro id isRetired isActive
    by_cases same : id = new
    · subst same
      cases unregistered.symm.trans isRetired
    · rw [stage] at isRetired
      exact single.retired_inactive isRetired (active id same isActive)

/-- A session registers; whoever was stored under its key is due a teardown. -/
theorem SingleSession.register [DecidableEq Key] (single : before.SingleSession)
    {new : Id} (unregistered : before.stage new = .unregistered)
    (registered : after.stage new = .registered)
    (stage : ∀ id, id ≠ new → after.stage id = before.stage id)
    (key : ∀ id, after.key id = before.key id)
    (active : ∀ id, after.Active id → before.Active id)
    (pending : ∀ id, before.Pending id → after.Pending id)
    (replaced : ∀ prev, before.stored (before.key new) = some prev →
      after.Pending prev)
    (stored : ∀ k, after.stored k =
      if k = before.key new then some new else before.stored k)
    (latest : ∀ k, after.latest k =
      if k = before.key new then some new else before.latest k) :
    after.SingleSession := by
  have storedOther : ∀ {k id}, before.stored k = some id → id ≠ new := by
    rintro k id isStored rfl
    cases unregistered.symm.trans (single.stored_registered isStored)
  constructor
  · intro k id isStored
    rw [key]
    rw [stored] at isStored
    split at isStored
    · rename_i same
      cases isStored
      exact same.symm
    · exact single.stored_key isStored
  · intro k id isStored
    rw [latest]
    rw [stored] at isStored
    split_ifs at isStored ⊢
    · exact isStored
    · exact single.stored_latest isStored
  · intro k id isStored
    rw [stored] at isStored
    split at isStored
    · cases isStored
      exact registered
    · rw [stage id (storedOther isStored)]
      exact single.stored_registered isStored
  · intro id isActive
    rw [key, stored]
    by_cases same : id = new
    · subst same
      exact .inr (.inl (if_pos rfl))
    · rw [stage id same]
      rcases single.active_accounted (active id isActive) with
        unregistered | isStored | isPending
      · exact .inl unregistered
      · by_cases sameKey : before.key id = before.key new
        · exact .inr (.inr (replaced id (sameKey ▸ isStored)))
        · exact .inr (.inl ((if_neg sameKey).trans isStored))
      · exact .inr (.inr (pending id isPending))
  · intro id isRetired isActive
    by_cases same : id = new
    · subst same
      cases registered.symm.trans isRetired
    · rw [stage id same] at isRetired
      exact single.retired_inactive isRetired (active id isActive)

end Registry

end RmttGo
