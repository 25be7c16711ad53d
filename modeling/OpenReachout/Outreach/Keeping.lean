import OpenReachout.Outreach.Rows

/-!
# What deeds keep

An invariant of the ledger that every deed keeps holds in every world of a run. A
relation that every deed of an operation leads along holds of every commit of it.
-/

namespace OpenReachout

open Relational Text

set_option autoImplicit false

variable {site : Deployment} {vouch : Mark → Ledger → Prop} {op : Op} {start l after : Ledger}
variable {allowed : World → Act → Prop} {world later : World}

section Invariants

/-- The invariant is kept by every deed of every operation, and by the clock. -/
structure Persists (site : Deployment) (invariant : Ledger → Prop) : Prop where
  deeds : ∀ {vouch : Mark → Ledger → Prop} {op : Op} {start l after : Ledger}, Linked l →
    Deed site vouch op start l after → invariant l → invariant after
  ticks : ∀ (l : Ledger) (time : Time), invariant l → invariant { l with clock := time }

variable {invariant : Ledger → Prop}

theorem holds_path (persists : Persists site invariant) (linked : Linked l)
    (path : Relation.ReflTransGen (Deed site vouch op start) l after) (holds : invariant l) :
    invariant after := by
  induction path with
  | refl => exact holds
  | tail before deed induction =>
      exact persists.deeds (linked_later linked (path_later before)) deed induction

theorem holds_advance {rule : Condition} {action : Act} (persists : Persists site invariant)
    (sane : Sane site world) (advance : Advance site rule world later action)
    (holds : invariant world.committed.ledger) : invariant later.committed.ledger := by
  cases advance with
  | idle same =>
      rw [same]
      exact holds
  | clock ticks moved =>
      rw [moved]
      exact persists.ticks world.committed.ledger _ holds
  | commit index session out found commits since wrote path =>
      exact holds_path persists sane.linked path holds

theorem holds_step {action : Act} (persists : Persists site invariant) (sane : Sane site world)
    (step : (service site).act action world = some later)
    (holds : invariant world.committed.ledger) :
    Sane site later ∧ invariant later.committed.ledger := by
  have free : Vouched (fun _ _ _ _ => True) world action := fun _ _ _ _ _ _ _ _ => trivial
  have advance := advance_of_step sane.sound sane.begun free step
  exact ⟨sane_step sane step (later_advance advance), holds_advance persists sane advance holds⟩

theorem holds_onward (persists : Persists site invariant) (sane : Sane site world)
    (holds : invariant world.committed.ledger) (run : Run site allowed world later) :
    Sane site later ∧ invariant later.committed.ledger := by
  induction run with
  | refl => exact ⟨sane, holds⟩
  | tail _ step induction =>
      obtain ⟨action, _, step⟩ := step
      exact holds_step persists induction.1 step induction.2

theorem holds_run (persists : Persists site invariant) (quiet : world.sessions = [])
    (linked : Linked world.committed.ledger) (holds : invariant world.committed.ledger)
    (run : Run site allowed world later) : Sane site later ∧ invariant later.committed.ledger :=
  holds_onward persists (sane_start quiet linked) holds run

end Invariants

section Relations

/-- On states that keep the invariant, the deeds of an operation lead along its relation. -/
structure Guides (site : Deployment) (invariant : Ledger → Prop)
    (along : Op → Ledger → Ledger → Prop) : Prop where
  persists : Persists site invariant
  order : ∀ op, Timeline (along op)
  deeds : ∀ {vouch : Mark → Ledger → Prop} {op : Op} {start l after : Ledger}, Linked l →
    invariant l → Deed site vouch op start l after → along op l after

/-- What a step does to the ledger: nothing but the clock, or the commit of a session. -/
inductive Stepping (along : Op → Ledger → Ledger → Prop) (world later : World) (action : Act) :
    Prop where
  | idle (time : Time)
      (same : later.committed.ledger = { world.committed.ledger with clock := time })
  | commit (index : Nat) (session : Session Database RowLock Exc Mark Call Call.Answer Op Out)
      (out : Out) (which : action = .finish index) (found : world.session index = some session)
      (commits : Committing session out)
      (leads : along session.op world.committed.ledger later.committed.ledger)

variable {invariant : Ledger → Prop} {along : Op → Ledger → Ledger → Prop}

theorem along_path (guides : Guides site invariant along) (linked : Linked l)
    (holds : invariant l)
    (path : Relation.ReflTransGen (Deed site vouch op start) l after) : along op l after := by
  induction path with
  | refl => exact (guides.order op).refl _
  | tail before deed induction =>
      have between := holds_path guides.persists linked before holds
      have onward := linked_later linked (path_later before)
      exact (guides.order op).trans induction (guides.deeds onward between deed)

theorem stepping_of_step {action : Act} (guides : Guides site invariant along)
    (sane : Sane site world) (holds : invariant world.committed.ledger)
    (step : (service site).act action world = some later) : Stepping along world later action := by
  have free : Vouched (fun _ _ _ _ => True) world action := fun _ _ _ _ _ _ _ _ => trivial
  have advance := advance_of_step sane.sound sane.begun free step
  cases advance with
  | idle same =>
      refine .idle world.committed.clock ?_
      rw [same]
      rfl
  | clock ticks moved =>
      refine .idle (world.committed.clock + ticks) ?_
      rw [moved]
      rfl
  | commit index session out found commits since wrote path =>
      exact .commit index session out rfl found commits (along_path guides sane.linked holds path)

end Relations

end OpenReachout
