import Mathlib.Data.List.Basic
import Mathlib.Data.List.Nodup
import Mathlib.Data.List.Perm.Subperm
import Mathlib.Algebra.Ring.Nat

/-!
# Keyed tables

A table is a finite list of rows under a primary key. The key constraint is a
field of the structure, so no table with a duplicate key can be built. Every
operation is described by what it does to `lookup`.
-/

namespace Relational

set_option autoImplicit false

structure Table (Key Row : Type) where
  rows : List (Key × Row)
  nodup : (rows.map Prod.fst).Nodup

namespace Table

variable {Key Row : Type} [DecidableEq Key]

def empty : Table Key Row := ⟨[], List.nodup_nil⟩

instance : Inhabited (Table Key Row) := ⟨empty⟩

def lookup (table : Table Key Row) (key : Key) : Option Row :=
  (table.rows.find? fun entry => entry.1 = key).map Prod.snd

def select (table : Table Key Row) (keep : Key → Row → Bool) : List (Key × Row) :=
  table.rows.filter fun entry => keep entry.1 entry.2

/-- `UPDATE ... SET ... WHERE`: rows keep their keys and their order. -/
def modify (table : Table Key Row) (chosen : Key → Row → Bool) (change : Row → Row) :
    Table Key Row where
  rows := table.rows.map fun entry =>
    (entry.1, if chosen entry.1 entry.2 then change entry.2 else entry.2)
  nodup := by
    rw [List.map_map]
    exact table.nodup

/-- A new row goes to the end; an existing key is left as it is. -/
def insert (table : Table Key Row) (key : Key) (row : Row) : Table Key Row where
  rows := if key ∈ table.rows.map Prod.fst then table.rows else table.rows ++ [(key, row)]
  nodup := by
    by_cases present : key ∈ table.rows.map Prod.fst
    · rw [if_pos present]
      exact table.nodup
    · rw [if_neg present, List.map_append]
      exact List.Nodup.append table.nodup (List.nodup_singleton key)
        (by simpa using present)

def erase (table : Table Key Row) (chosen : Key → Row → Bool) : Table Key Row where
  rows := table.rows.filter fun entry => !chosen entry.1 entry.2
  nodup := table.nodup.sublist (List.filter_sublist.map Prod.fst)

omit [DecidableEq Key] in
theorem ext_rows {table other : Table Key Row} (same : table.rows = other.rows) :
    table = other := by
  obtain ⟨rows, nodup⟩ := table
  obtain ⟨others, nodup_others⟩ := other
  subst same
  rfl

/-- `INSERT ... ON CONFLICT (key) DO UPDATE`. -/
def upsert (table : Table Key Row) (key : Key) (row : Row) (change : Row → Row) :
    Table Key Row :=
  if (table.lookup key).isSome then table.modify (fun other _ => other = key) change
  else table.insert key row

theorem lookup_eq_some_iff (table : Table Key Row) (key : Key) (row : Row) :
    table.lookup key = some row ↔ (key, row) ∈ table.rows := by
  obtain ⟨rows, nodup⟩ := table
  simp only [lookup]
  induction rows with
  | nil => simp
  | cons entry rows induction =>
      obtain ⟨first, value⟩ := entry
      simp only [List.map_cons, List.nodup_cons, List.mem_map, Prod.exists,
        exists_and_right, exists_eq_right, not_exists] at nodup
      by_cases same : first = key
      · subst same
        simp only [List.find?_cons, decide_true, Option.map_some, Option.some.injEq,
          List.mem_cons, Prod.mk.injEq, true_and]
        constructor
        · exact fun equal => Or.inl equal.symm
        · rintro (equal | member)
          · exact equal.symm
          · exact absurd member (nodup.1 row)
      · have differ : (key, row) ≠ (first, value) := fun equal => same (by simp_all)
        simpa [List.find?_cons, same, differ] using induction nodup.2

theorem mem_select_iff (table : Table Key Row) (keep : Key → Row → Bool) (key : Key) (row : Row) :
    (key, row) ∈ table.select keep ↔ table.lookup key = some row ∧ keep key row = true := by
  simp [select, lookup_eq_some_iff]

omit [DecidableEq Key] in
theorem select_keys_nodup (table : Table Key Row) (keep : Key → Row → Bool) :
    ((table.select keep).map Prod.fst).Nodup :=
  table.nodup.sublist (List.filter_sublist.map Prod.fst)

/-- At most one row is selected by its key. -/
theorem select_key (table : Table Key Row) (key : Key) (keep : Key → Row → Bool) :
    (table.select fun other row => other = key && keep other row) =
      (((table.lookup key).filter (keep key)).map (Prod.mk key)).toList := by
  obtain ⟨rows, nodup⟩ := table
  simp only [select, lookup]
  induction rows with
  | nil => rfl
  | cons entry rows induction =>
      obtain ⟨first, value⟩ := entry
      rw [List.map_cons, List.nodup_cons] at nodup
      by_cases same : first = key
      · subst same
        have rest : rows.filter (fun entry => entry.1 = first && keep entry.1 entry.2) = [] := by
          apply List.filter_eq_nil_iff.2
          intro other member
          have apart : other.1 ≠ first := by
            intro equal
            exact nodup.1 (List.mem_map.2 ⟨other, member, equal⟩)
          simp [apart]
        by_cases kept : keep first value = true
        · simp [rest, kept, Option.filter]
        · simp [rest, kept, Option.filter]
      · have rest := induction nodup.2
        simpa [List.find?_cons, same] using rest

theorem select_modify (table : Table Key Row) (chosen : Key → Row → Bool)
    (change : Row → Row) :
    (table.modify (fun key row => key ∈ (table.select chosen).map Prod.fst && chosen key row)
      change) = table.modify chosen change := by
  apply ext_rows
  simp only [modify]
  apply List.map_congr_left
  intro entry member
  by_cases picked : chosen entry.1 entry.2 = true
  · have selected : entry.1 ∈ (table.select chosen).map Prod.fst :=
      List.mem_map_of_mem (List.mem_filter.2 ⟨member, picked⟩)
    simp only [selected, decide_true, Bool.true_and]
  · simp [picked]

omit [DecidableEq Key] in
theorem modify_of_select_nil (table : Table Key Row) {chosen : Key → Row → Bool}
    (none_chosen : table.select chosen = []) (change : Row → Row) :
    table.modify chosen change = table := by
  apply ext_rows
  simp only [modify]
  refine (List.map_congr_left ?_).trans (List.map_id _)
  intro entry member
  have skipped := List.filter_eq_nil_iff.1 none_chosen entry member
  rw [if_neg skipped]
  rfl

@[simp] theorem lookup_empty (key : Key) : (empty : Table Key Row).lookup key = none := rfl

theorem lookup_eq_none_iff (table : Table Key Row) (key : Key) :
    table.lookup key = none ↔ key ∉ table.rows.map Prod.fst := by
  rw [Option.eq_none_iff_forall_ne_some]
  simp only [ne_eq, lookup_eq_some_iff, List.mem_map, Prod.exists, exists_and_right,
    exists_eq_right, not_exists]

@[simp] theorem lookup_modify (table : Table Key Row) (chosen : Key → Row → Bool)
    (change : Row → Row) (key : Key) :
    (table.modify chosen change).lookup key =
      (table.lookup key).map fun row => if chosen key row then change row else row := by
  apply Option.ext
  intro value
  rw [lookup_eq_some_iff, Option.map_eq_some_iff]
  simp only [modify, List.mem_map, Prod.mk.injEq, Prod.exists, lookup_eq_some_iff]
  constructor
  · rintro ⟨first, row, member, rfl, changed⟩
    exact ⟨row, member, changed⟩
  · rintro ⟨row, member, changed⟩
    exact ⟨key, row, member, rfl, changed⟩

@[simp] theorem lookup_insert (table : Table Key Row) (key : Key) (row : Row) (other : Key) :
    (table.insert key row).lookup other =
      if other = key then some ((table.lookup key).getD row) else table.lookup other := by
  by_cases present : key ∈ table.rows.map Prod.fst
  · have whole : table.insert key row = table := by simp [insert, present]
    rw [whole]
    by_cases same : other = key
    · subst same
      obtain ⟨⟨_, value⟩, member, rfl⟩ := List.mem_map.1 present
      rw [if_pos rfl, (lookup_eq_some_iff table _ value).2 member]
      rfl
    · rw [if_neg same]
  · have absent := (lookup_eq_none_iff table key).2 present
    have whole : (table.insert key row).rows = table.rows ++ [(key, row)] := by
      simp [insert, present]
    by_cases same : other = key
    · subst same
      rw [if_pos rfl, absent, lookup_eq_some_iff, whole]
      simp
    · rw [if_neg same]
      apply Option.ext
      intro value
      rw [lookup_eq_some_iff, lookup_eq_some_iff, whole]
      simp [same]

@[simp] theorem lookup_erase (table : Table Key Row) (chosen : Key → Row → Bool) (key : Key) :
    (table.erase chosen).lookup key = (table.lookup key).filter fun row => !chosen key row := by
  apply Option.ext
  intro value
  rw [lookup_eq_some_iff, Option.filter_eq_some_iff, lookup_eq_some_iff]
  simp [erase]

@[simp] theorem lookup_upsert (table : Table Key Row) (key : Key) (row : Row)
    (change : Row → Row) (other : Key) :
    (table.upsert key row change).lookup other =
      if other = key then some (((table.lookup key).map change).getD row)
      else table.lookup other := by
  unfold upsert
  rcases found : table.lookup key with _ | value
  · by_cases same : other = key <;> simp [same, found]
  · by_cases same : other = key <;> simp [same, found]

/-- `SELECT sum(...) WHERE`, for a condition on the key. -/
def total (table : Table Key Row) (counted : Key → Bool) (value : Row → Nat) : Nat :=
  ((table.select fun key _ => counted key).map fun entry => value entry.2).sum

/-- The change of one row is all that the sum sees. -/
theorem total_modify_key (table : Table Key Row) (counted : Key → Bool) (value : Row → Nat)
    {key : Key} (count : counted key = true) (change : Row → Row) :
    (table.modify (fun other _ => other = key) change).total counted value +
        (table.lookup key).elim 0 value =
      table.total counted value + (table.lookup key).elim 0 fun row => value (change row) := by
  obtain ⟨rows, nodup⟩ := table
  simp only [total, select, modify, lookup]
  induction rows with
  | nil => rfl
  | cons entry rows induction =>
      obtain ⟨first, row⟩ := entry
      rw [List.map_cons, List.nodup_cons] at nodup
      have rest := induction nodup.2
      by_cases same : first = key
      · subst same
        -- the key occurs in no other row, so the rest is as it was
        have unchanged : rows.map (fun entry =>
            (entry.1, if decide (entry.1 = first) = true then change entry.2 else entry.2)) = rows := by
          refine (List.map_congr_left ?_).trans (List.map_id _)
          intro entry member
          have apart : entry.1 ≠ first := fun equal => nodup.1 (List.mem_map.2 ⟨entry, member, equal⟩)
          simp [apart]
        simp only [List.map_cons, unchanged, List.filter_cons, count, if_true, List.sum_cons,
          List.find?_cons, decide_true, Option.map_some, Option.elim_some]
        omega
      · simp only [List.map_cons, List.filter_cons, List.find?_cons, same, decide_false,
          Bool.false_eq_true, if_false]
        by_cases kept : counted first = true
        · simp only [kept, if_true, List.map_cons, List.sum_cons]
          omega
        · simp only [kept, Bool.false_eq_true, if_false]
          exact rest

/-- Where the keys that are counted stay and are counted again, no fewer are counted. -/
theorem countP_le {table other : Table Key Row} {counted again : Key × Row → Bool}
    (kept : ∀ key row, table.lookup key = some row → counted (key, row) = true →
      ∃ new, other.lookup key = some new ∧ again (key, new) = true) :
    table.rows.countP counted ≤ other.rows.countP again := by
  have keys_nodup : ((table.rows.filter counted).map Prod.fst).Nodup :=
    table.nodup.sublist (List.filter_sublist.map Prod.fst)
  have keys_kept : (table.rows.filter counted).map Prod.fst ⊆
      (other.rows.filter again).map Prod.fst := by
    intro key member
    obtain ⟨⟨_, row⟩, chosen, rfl⟩ := List.mem_map.1 member
    obtain ⟨here, count⟩ := List.mem_filter.1 chosen
    obtain ⟨new, there, recount⟩ := kept _ row ((table.lookup_eq_some_iff _ _).2 here) count
    have entry : (_, new) ∈ other.rows := (other.lookup_eq_some_iff _ _).1 there
    exact List.mem_map.2 ⟨_, List.mem_filter.2 ⟨entry, recount⟩, rfl⟩
  have fewer := (List.subperm_of_subset keys_nodup keys_kept).length_le
  rw [List.length_map, List.length_map] at fewer
  rw [List.countP_eq_length_filter, List.countP_eq_length_filter]
  exact fewer

end Table

end Relational
