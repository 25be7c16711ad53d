import OpenReachout.Relational.Discipline

/-!
# Accounts of changes

A log accounts for a part of the store where it is only added to, and all that a program
has changed in the part is told of by an entry it has added. Programs that leave the part
alone keep this, and so does an update whose rows are told of later in the transaction.
-/

namespace Relational

set_option autoImplicit false

variable {Db Lock Exn Mark Query : Type} {Answer : Query → Type} [Lockable Db Lock]
variable {Key Row Shown Entry : Type}

/-- The log has only been added to. -/
def Lengthened (log : LogRef Db Lock Entry) (before after : Db) : Prop :=
  log.get before <+: log.get after

/-- An entry that tells it has been added. -/
def Entered (log : LogRef Db Lock Entry) (telling : Entry → Prop) (before after : Db) : Prop :=
  ∃ entry ∈ (log.get after).drop (log.get before).length, telling entry

/-- The rows of a table, by their keys. -/
def TableRef.rows [DecidableEq Key] (ref : TableRef Db Lock Key Row) (db : Db) : Key → Option Row :=
  (ref.get db).lookup

/-- All that is shown is as it was, or an added entry tells what has become of it. -/
structure Accounts (log : LogRef Db Lock Entry) (shown : Db → Key → Shown)
    (telling : Key → Shown → Entry → Prop) (before after : Db) : Prop where
  grown : Lengthened log before after
  told : ∀ key, shown after key = shown before key ∨
    Entered log (telling key (shown after key)) before after

/-- What is shown is left alone. -/
structure Aside (log : LogRef Db Lock Entry) (shown : Db → Key → Shown) (before after : Db) :
    Prop where
  grown : Lengthened log before after
  same : shown after = shown before

section Logs

variable {log : LogRef Db Lock Entry} {shown : Db → Key → Shown}
variable {telling : Key → Shown → Entry → Prop} {tells : Entry → Prop}
variable {before middle after : Db}

variable (log) in
theorem lengthened_refl (db : Db) : Lengthened log db db := List.prefix_refl _

theorem lengthened_trans (first : Lengthened log before middle) (second : Lengthened log middle after) :
    Lengthened log before after := List.IsPrefix.trans first second

theorem Entered.mono {other : Entry → Prop} (noted : Entered log tells before after)
    (weaker : ∀ entry, tells entry → other entry) : Entered log other before after := by
  obtain ⟨entry, added, told⟩ := noted
  exact ⟨entry, added, weaker entry told⟩

theorem Entered.later (noted : Entered log tells before middle) (onward : Lengthened log middle after) :
    Entered log tells before after := by
  obtain ⟨entry, added, told⟩ := noted
  obtain ⟨more, longer⟩ := onward
  refine ⟨entry, ?_, told⟩
  rw [← longer, List.drop_append]
  exact List.mem_append_left _ added

theorem Entered.earlier (noted : Entered log tells middle after) (onward : Lengthened log before middle) :
    Entered log tells before after := by
  obtain ⟨entry, added, told⟩ := noted
  obtain ⟨more, longer⟩ := onward
  refine ⟨entry, ?_, told⟩
  rw [← longer, List.length_append, ← List.drop_drop] at added
  exact List.mem_of_mem_drop added

variable (log) in
/-- What is appended is noted. -/
theorem entered_append {entry : Entry} (appended : log.get after = log.get before ++ [entry])
    (told : tells entry) : Entered log tells before after := by
  refine ⟨entry, ?_, told⟩
  rw [appended, List.drop_left]
  exact List.mem_singleton_self entry

variable (log) in
theorem lengthened_append {entry : Entry} (appended : log.get after = log.get before ++ [entry]) :
    Lengthened log before after := by
  unfold Lengthened
  rw [appended]
  exact List.prefix_append _ _

theorem Aside.accounts (aside : Aside log shown before after) :
    Accounts log shown telling before after :=
  ⟨aside.grown, fun key => Or.inl (by rw [aside.same])⟩

theorem aside_timeline : Timeline (Aside log shown) where
  refl db := ⟨lengthened_refl log db, rfl⟩
  trans first second := ⟨lengthened_trans first.grown second.grown, second.same.trans first.same⟩

theorem accounts_timeline : Timeline (Accounts log shown telling) where
  refl db := ⟨lengthened_refl log db, fun _ => Or.inl rfl⟩
  trans {before middle after} first second := by
    refine ⟨lengthened_trans first.grown second.grown, fun key => ?_⟩
    rcases second.told key with same | noted
    · rcases first.told key with kept | noted
      · exact Or.inl (same.trans kept)
      · rw [← same] at noted
        exact Or.inr (noted.later second.grown)
    · exact Or.inr (noted.earlier first.grown)

end Logs

section Rules

variable [DecidableEq Key] {log : LogRef Db Lock Entry} {ref : TableRef Db Lock Key Row}
variable {telling : Key → Option Row → Entry → Prop}
variable {model : Abstraction Db Lock Mark} {held : List Lock}
variable {start before middle after seen : Db} {busy : Lock → Bool} {rows : List (Key × Row)}

/-- An update is accounted for where what follows it tells of each row. -/
theorem accounts_of_updated {mark : Option Mark}
    {refuse : Moment Db Lock → Db → Key → Row → Option Exn}
    {chosen : Moment Db Lock → Db → Key → Row → Bool} {change : Moment Db Lock → Row → Row}
    (updated : model.Updated held ref mark refuse chosen change start rows before middle seen busy)
    (apart : ∀ table db, log.get (ref.set table db) = log.get db)
    (aside : Aside log ref.rows middle after)
    (noted : ∀ entry ∈ rows, Entered log
      (telling entry.1 (some (change ⟨start, busy⟩ entry.2))) middle after) :
    Accounts log ref.rows telling before after := by
  obtain ⟨table, rfl, lookups⟩ := updated.table
  have unlogged : Lengthened log before (ref.set table before) := by
    have same : log.get (ref.set table before) = log.get before := apart table before
    simp [Lengthened, same]
  have here : ref.rows (ref.set table before) = table.lookup := by
    unfold TableRef.rows
    rw [ref.get_set]
  refine ⟨lengthened_trans unlogged aside.grown, fun key => ?_⟩
  rw [aside.same, here, lookups]
  by_cases member : key ∈ rows.map Prod.fst
  · obtain ⟨⟨_, row⟩, inside, rfl⟩ := List.mem_map.1 member
    rw [if_pos member, updated.present _ inside]
    exact Or.inr ((noted _ inside).earlier unlogged)
  · rw [if_neg member]
    exact Or.inl rfl

end Rules

end Relational
