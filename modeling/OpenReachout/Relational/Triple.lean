import OpenReachout.Relational.Commit

/-!
# Triples of the SQL statements

What each form of statement commits, by what it saw when it executed. Rows that
it locked are at the commit as it saw them; of all other rows it knows that they
have only moved on.
-/

namespace Relational

set_option autoImplicit false

variable {Db Lock Exn Mark Query : Type} {Answer : Query → Type} [Lockable Db Lock]
variable {Key Row Value : Type} [DecidableEq Key]

namespace Abstraction

variable {model : Abstraction Db Lock Mark} {held : List Lock}

theorem Glimpse.row {start before seen : Db} (glimpse : model.Glimpse held start before seen)
    (ref : TableRef Db Lock Key Row) {key : Key} (locked : ref.lock key ∈ held) :
    (ref.get before).lookup key = (ref.get seen).lookup key := by
  have cells := glimpse.kept _ locked
  rw [ref.cell_eq, ref.cell_eq] at cells
  exact ref.ofRow_injective key cells

theorem Stated.row {mark : Option Mark} {body : Statement Db Lock Exn Value}
    {start : Db} {value : Value} {before after seen : Db} {busy : Lock → Bool}
    {effect : Effect Db Lock Value}
    (stated : model.Stated held mark body start value before after seen busy effect)
    (ref : TableRef Db Lock Key Row) {key : Key} (locked : ref.lock key ∈ effect.locks) :
    (ref.get before).lookup key = (ref.get seen).lookup key := by
  have cells := stated.locked _ locked
  rw [ref.cell_eq, ref.cell_eq] at cells
  exact ref.ofRow_injective key cells

theorem ensures_query (read : Moment Db Lock → Db → Value) :
    model.Ensures held (Program.query read : Program Db Lock Exn Mark Query Answer Value)
      fun start value before after => ∃ seen busy, model.Glimpse held start before seen ∧
        value = read ⟨start, busy⟩ seen ∧ after = before := by
  refine (ensures_perform none _).mono ?_
  rintro start value before after ⟨seen, busy, effect, stated⟩
  obtain rfl := Except.ok.inj stated.success
  exact ⟨seen, busy, stated.glimpse, stated.value, stated.wrote⟩

theorem ensures_markedQuery (mark : Mark) (read : Moment Db Lock → Db → Value) :
    model.Ensures held (Program.markedQuery mark read : Program Db Lock Exn Mark Query Answer Value)
      fun start value before after => ∃ seen busy, model.Glimpse held start before seen ∧
        value = read ⟨start, busy⟩ seen ∧ model.vouch mark (model.of seen) ∧ after = before := by
  refine (ensures_perform (some mark) _).mono ?_
  rintro start value before after ⟨seen, busy, effect, stated⟩
  obtain rfl := Except.ok.inj stated.success
  exact ⟨seen, busy, stated.glimpse, stated.value, stated.vouched mark rfl, stated.wrote⟩

theorem ensures_lockRowsVouched (ref : TableRef Db Lock Key Row) (mark : Option Mark)
    (chosen : Moment Db Lock → Db → Key → Row → Bool) :
    model.Ensures held (Program.lockRowsMarked ref mark chosen :
        Program Db Lock Exn Mark Query Answer (List (Key × Row)))
      fun start value before after => ∃ seen busy, model.Glimpse held start before seen ∧
        (∀ named, mark = some named → model.vouch named (model.of seen)) ∧
        value = (ref.get seen).select (chosen ⟨start, busy⟩ seen) ∧
        (∀ entry ∈ value, (ref.get before).lookup entry.1 = some entry.2) ∧ after = before := by
  refine (ensures_perform mark _).mono ?_
  rintro start value before after ⟨seen, busy, effect, stated⟩
  obtain rfl := Except.ok.inj stated.success
  refine ⟨seen, busy, stated.glimpse, stated.vouched, stated.value, ?_, stated.wrote⟩
  intro entry member
  rw [stated.value] at member
  have locked : ref.lock entry.1 ∈ (((ref.get seen).select (chosen ⟨start, busy⟩ seen)).map
      fun entry => ref.lock entry.1) := List.mem_map_of_mem member
  rw [stated.row ref locked]
  exact ((Table.mem_select_iff _ _ _ _).1 member).1

theorem ensures_lockRowsMarked (ref : TableRef Db Lock Key Row) (mark : Option Mark)
    (chosen : Moment Db Lock → Db → Key → Row → Bool) :
    model.Ensures held (Program.lockRowsMarked ref mark chosen :
        Program Db Lock Exn Mark Query Answer (List (Key × Row)))
      fun start value before after => ∃ seen busy, model.Glimpse held start before seen ∧
        value = (ref.get seen).select (chosen ⟨start, busy⟩ seen) ∧
        (∀ entry ∈ value, (ref.get before).lookup entry.1 = some entry.2) ∧ after = before := by
  refine (ensures_lockRowsVouched ref mark chosen).mono ?_
  rintro start value before after ⟨seen, busy, glimpse, _, found⟩
  exact ⟨seen, busy, glimpse, found⟩

theorem ensures_lockRows (ref : TableRef Db Lock Key Row)
    (chosen : Moment Db Lock → Db → Key → Row → Bool) :
    model.Ensures held
      (Program.lockRows ref chosen : Program Db Lock Exn Mark Query Answer (List (Key × Row)))
      fun start value before after => ∃ seen busy, model.Glimpse held start before seen ∧
        value = (ref.get seen).select (chosen ⟨start, busy⟩ seen) ∧
        (∀ entry ∈ value, (ref.get before).lookup entry.1 = some entry.2) ∧ after = before :=
  ensures_lockRowsMarked ref none chosen

/-- One row is put in the place of what was under `key`. -/
def Replaced (ref : TableRef Db Lock Key Row) (key : Key) (row : Row) (before after : Db) : Prop :=
  ∃ table, after = ref.set table before ∧
    table.lookup = Function.update (ref.get before).lookup key (some row)

variable (model held) in
/-- The rows updated are the ones the statement saw. -/
structure Updated (ref : TableRef Db Lock Key Row) (mark : Option Mark)
    (refuse : Moment Db Lock → Db → Key → Row → Option Exn)
    (chosen : Moment Db Lock → Db → Key → Row → Bool) (change : Moment Db Lock → Row → Row)
    (start : Db) (value : List (Key × Row)) (before after seen : Db) (busy : Lock → Bool) :
    Prop where
  glimpse : model.Glimpse held start before seen
  rows : value = (ref.get seen).select (chosen ⟨start, busy⟩ seen)
  present : ∀ entry ∈ value, (ref.get before).lookup entry.1 = some entry.2
  accepted : ∀ entry ∈ value, refuse ⟨start, busy⟩ seen entry.1 entry.2 = none
  wrote : after = (Write.modify ref (value.map Prod.fst) (chosen ⟨start, busy⟩ seen)
    (change ⟨start, busy⟩)).apply before
  vouched : ∀ named, mark = some named → model.vouch named (model.of seen)

section Updated

variable {ref : TableRef Db Lock Key Row} {mark : Option Mark}
variable {refuse : Moment Db Lock → Db → Key → Row → Option Exn}
variable {chosen : Moment Db Lock → Db → Key → Row → Bool} {change : Moment Db Lock → Row → Row}
variable {start : Db} {value : List (Key × Row)} {before after seen : Db} {busy : Lock → Bool}

theorem Updated.picked (updated : model.Updated held ref mark refuse chosen change start value
    before after seen busy) {key : Key} {row : Row} (member : (key, row) ∈ value) :
    (ref.get seen).lookup key = some row ∧ chosen ⟨start, busy⟩ seen key row = true := by
  rw [updated.rows] at member
  exact (Table.mem_select_iff _ _ _ _).1 member

/-- The table after an update, row by row. -/
theorem Updated.table (updated : model.Updated held ref mark refuse chosen change start value
    before after seen busy) :
    ∃ table, after = ref.set table before ∧ ∀ key, table.lookup key =
      if key ∈ value.map Prod.fst then
        ((ref.get before).lookup key).map (change ⟨start, busy⟩)
      else (ref.get before).lookup key := by
  refine ⟨_, updated.wrote, fun key => ?_⟩
  rw [Table.lookup_modify]
  by_cases member : key ∈ value.map Prod.fst
  · obtain ⟨⟨_, row⟩, inside, rfl⟩ := List.mem_map.1 member
    have picked := (updated.picked inside).2
    have present := updated.present _ inside
    dsimp only at picked present
    rw [if_pos member, present]
    simp [member, picked]
  · rw [if_neg member]
    simp [member]

/-- A row that is chosen is updated. -/
theorem Updated.hit (updated : model.Updated held ref mark refuse chosen change start value
      before after seen busy) {key : Key} {row : Row} (present : (ref.get seen).lookup key = some row)
    (picked : chosen ⟨start, busy⟩ seen key row = true) : (key, row) ∈ value := by
  rw [updated.rows]
  exact (Table.mem_select_iff _ _ _ _).2 ⟨present, picked⟩

/-- An update of at most one row. -/
theorem Updated.single (updated : model.Updated held ref mark refuse chosen change start value
      before after seen busy)
    (one : ∀ key other row next, chosen ⟨start, busy⟩ seen key row = true →
      chosen ⟨start, busy⟩ seen other next = true → key = other) :
    (value = [] ∧ after = before) ∨ ∃ key row, value = [(key, row)] ∧
      (ref.get before).lookup key = some row ∧ (ref.get seen).lookup key = some row ∧
      chosen ⟨start, busy⟩ seen key row = true ∧
      Replaced ref key (change ⟨start, busy⟩ row) before after := by
  have unique : (value.map Prod.fst).Nodup := by
    rw [updated.rows]
    exact Table.select_keys_nodup _ _
  have small : value = [] ∨ ∃ entry, value = [entry] := by
    match value, unique, updated with
    | [], _, _ => exact Or.inl rfl
    | [entry], _, _ => exact Or.inr ⟨entry, rfl⟩
    | first :: second :: rest, unique, updated =>
        have same := one first.1 second.1 first.2 second.2
          (updated.picked List.mem_cons_self).2
          (updated.picked (List.mem_cons_of_mem _ List.mem_cons_self)).2
        simp [same] at unique
  obtain ⟨table, wrote, lookups⟩ := updated.table
  rcases small with rfl | ⟨⟨key, row⟩, rfl⟩
  · refine Or.inl ⟨rfl, ?_⟩
    rw [updated.wrote]
    have whole : (ref.get before).modify (fun key row =>
        key ∈ ([] : List (Key × Row)).map Prod.fst && chosen ⟨start, busy⟩ seen key row)
        (change ⟨start, busy⟩) = ref.get before := by
      apply Table.modify_of_select_nil
      exact List.filter_eq_nil_iff.2 (by simp)
    change ref.set ((ref.get before).modify _ _) before = before
    rw [whole, ref.set_get]
  · have picked := updated.picked (List.mem_singleton.2 rfl)
    have present := updated.present _ (List.mem_singleton.2 rfl)
    refine Or.inr ⟨key, row, rfl, present, picked.1, picked.2, table, wrote, ?_⟩
    funext other
    rw [lookups]
    by_cases same : other = key
    · subst same
      have inside : other ∈ [(other, row)].map Prod.fst := List.mem_singleton.2 rfl
      rw [Function.update_self, if_pos inside, present]
      rfl
    · have outside : other ∉ [(key, row)].map Prod.fst := by simpa using same
      rw [Function.update_of_ne same, if_neg outside]

end Updated

theorem ensures_updateChecked (ref : TableRef Db Lock Key Row) (mark : Option Mark)
    (refuse : Moment Db Lock → Db → Key → Row → Option Exn)
    (chosen : Moment Db Lock → Db → Key → Row → Bool) (change : Moment Db Lock → Row → Row) :
    model.Ensures held (Program.updateChecked ref mark refuse chosen change :
        Program Db Lock Exn Mark Query Answer (List (Key × Row)))
      fun start value before after => ∃ seen busy,
        model.Updated held ref mark refuse chosen change start value before after seen busy := by
  refine (ensures_perform mark _).mono ?_
  rintro start value before after ⟨seen, busy, effect, stated⟩
  have success := stated.success
  dsimp only at success
  cases refused : ((ref.get seen).select (chosen ⟨start, busy⟩ seen)).findSome? fun entry =>
      refuse ⟨start, busy⟩ seen entry.1 entry.2 with
  | some error =>
      rw [refused] at success
      cases success
  | none =>
      rw [refused] at success
      obtain rfl := Except.ok.inj success
      have rows := stated.value
      refine ⟨seen, busy, stated.glimpse, rows, ?_, ?_, ?_, stated.vouched⟩
      · intro entry member
        rw [rows] at member
        have locked : ref.lock entry.1 ∈ (((ref.get seen).select
            (chosen ⟨start, busy⟩ seen)).map Prod.fst).map ref.lock :=
          List.mem_map_of_mem (List.mem_map_of_mem member)
        rw [stated.row ref locked]
        exact ((Table.mem_select_iff _ _ _ _).1 member).1
      · intro entry member
        rw [rows] at member
        exact List.findSome?_eq_none_iff.1 refused entry member
      · rw [rows]
        exact stated.wrote

theorem takes_updateChecked (ref : TableRef Db Lock Key Row) (mark : Option Mark)
    (refuse : Moment Db Lock → Db → Key → Row → Option Exn)
    (chosen : Moment Db Lock → Db → Key → Row → Bool) (change : Moment Db Lock → Row → Row) :
    model.Takes (Program.updateChecked ref mark refuse chosen change :
        Program Db Lock Exn Mark Query Answer (List (Key × Row)))
      fun rows => rows.map fun entry => ref.lock entry.1 := by
  intro a b rows exec
  obtain ⟨db, _, _, _, busy, effect, success, rfl, rfl⟩ :=
    (Program.exec_perform_ok _ _ _ _ _).1 exec
  dsimp only at success
  split at success
  · cases success
  · obtain rfl := Except.ok.inj success
    intro lock member
    simp only [Effect.writing, Write.modify, Write.ofTable, Txn.record, List.map_append,
      List.map_map, List.mem_append, List.mem_map] at member ⊢
    obtain ⟨entry, inside, rfl⟩ := member
    exact Or.inr ⟨entry, inside, rfl⟩

/-- The rows that are updated were chosen. -/
theorem chosen_of_updateChecked {rely : Db → Db → Prop} (ref : TableRef Db Lock Key Row)
    (mark : Option Mark) (refuse : Moment Db Lock → Db → Key → Row → Option Exn)
    (chosen : Moment Db Lock → Db → Key → Row → Bool) (change : Moment Db Lock → Row → Row)
    {a b : Point Db Lock Mark Query} {rows : List (Key × Row)}
    (exec : Program.Exec rely (Program.updateChecked ref mark refuse chosen change :
      Program Db Lock Exn Mark Query Answer (List (Key × Row))) a (.ok rows) b) :
    ∀ entry ∈ rows, ∃ moment db, chosen moment db entry.1 entry.2 = true := by
  obtain ⟨db, _, _, _, busy, effect, success, rfl, rfl⟩ :=
    (Program.exec_perform_ok _ _ _ _ _).1 exec
  dsimp only at success
  split at success
  · cases success
  · obtain rfl := Except.ok.inj success
    intro entry member
    exact ⟨⟨a.txn.start, busy⟩, a.txn.view db, ((Table.mem_select_iff _ _ _ _).1 member).2⟩

theorem takes_lockRowsMarked (ref : TableRef Db Lock Key Row) (mark : Option Mark)
    (chosen : Moment Db Lock → Db → Key → Row → Bool) :
    model.Takes (Program.lockRowsMarked ref mark chosen :
        Program Db Lock Exn Mark Query Answer (List (Key × Row)))
      fun rows => rows.map fun entry => ref.lock entry.1 := by
  intro a b rows exec
  obtain ⟨db, _, _, _, busy, effect, success, rfl, rfl⟩ :=
    (Program.exec_perform_ok _ _ _ _ _).1 exec
  obtain rfl := Except.ok.inj success
  intro lock member
  simp only [Effect.locking, Txn.record, List.map_append, List.map_map, List.mem_append,
    List.mem_map] at member ⊢
  obtain ⟨entry, inside, rfl⟩ := member
  exact Or.inr ⟨entry, inside, rfl⟩

theorem takes_upsertRow (ref : TableRef Db Lock Key Row) (mark : Option Mark) (key : Key)
    (row : Moment Db Lock → Row) (change : Moment Db Lock → Row → Row) :
    model.Takes (Program.upsertRow ref mark key row change :
        Program Db Lock Exn Mark Query Answer Unit) fun _ => [ref.lock key] := by
  intro a b value exec
  obtain ⟨db, _, _, _, busy, effect, success, rfl, rfl⟩ :=
    (Program.exec_perform_ok _ _ _ _ _).1 exec
  obtain rfl := Except.ok.inj success
  intro lock member
  simp only [Effect.writing, Write.upsert, Write.ofTable, Txn.record, List.map_append,
    List.map_map, List.mem_append, List.mem_map] at member ⊢
  exact Or.inr ⟨key, List.mem_singleton_self key, (List.mem_singleton.1 member).symm⟩

theorem ensures_update (ref : TableRef Db Lock Key Row)
    (chosen : Moment Db Lock → Db → Key → Row → Bool) (change : Moment Db Lock → Row → Row) :
    model.Ensures held (Program.update ref chosen change :
        Program Db Lock Exn Mark Query Answer (List (Key × Row)))
      fun start value before after => ∃ seen busy, model.Updated held ref none
        (fun _ _ _ _ => (none : Option Exn)) chosen change start value before after seen busy :=
  ensures_updateChecked ref none _ chosen change

variable (model held) in
/-- What an update does to a table: it changes the rows it saw and chose. -/
structure Changed (ref : TableRef Db Lock Key Row)
    (chosen : Moment Db Lock → Db → Key → Row → Bool) (change : Row → Option Row)
    (start before after seen : Db) (busy : Lock → Bool) (picked : Key → Bool)
    (table : Table Key Row) : Prop where
  glimpse : model.Glimpse held start before seen
  wrote : after = ref.set table before
  rows : ∀ key, table.lookup key =
    if picked key then ((ref.get before).lookup key).bind change else (ref.get before).lookup key
  hit : ∀ key row, (ref.get seen).lookup key = some row →
    chosen ⟨start, busy⟩ seen key row = true → picked key = true
  inside : ∀ key, picked key = true → ∃ row, (ref.get before).lookup key = some row ∧
    (ref.get seen).lookup key = some row ∧ chosen ⟨start, busy⟩ seen key row = true

theorem ensures_change (ref : TableRef Db Lock Key Row)
    (chosen : Moment Db Lock → Db → Key → Row → Bool) (change : Row → Row) :
    model.Ensures held (Program.update ref chosen (fun _ => change) :
        Program Db Lock Exn Mark Query Answer (List (Key × Row)))
      fun start _ before after => ∃ seen busy picked table, model.Changed held ref
        chosen (fun row => some (change row)) start before after seen busy picked table := by
  refine (ensures_update ref chosen _).mono ?_
  rintro start value before after ⟨seen, busy, updated⟩
  obtain ⟨table, wrote, lookups⟩ := updated.table
  refine ⟨seen, busy, fun key => key ∈ value.map Prod.fst, table, updated.glimpse, wrote, ?_,
    ?_, ?_⟩
  · intro key
    rw [lookups]
    simp only [decide_eq_true_eq, Option.map_eq_bind, Function.comp_def]
  · intro key row present picked
    exact decide_eq_true (List.mem_map_of_mem (updated.hit present picked))
  · intro key picked
    obtain ⟨⟨_, row⟩, member, rfl⟩ := List.mem_map.1 (of_decide_eq_true picked)
    exact ⟨row, updated.present _ member, updated.picked member⟩

theorem replaced_insert {ref : TableRef Db Lock Key Row} {key : Key} {row : Row}
    {before after : Db} (absent : (ref.get before).lookup key = none)
    (wrote : after = (Write.insert ref key row).apply before) : Replaced ref key row before after := by
  refine ⟨_, wrote, ?_⟩
  funext other
  rw [Table.lookup_insert, absent]
  by_cases same : other = key
  · subst same
    rw [if_pos rfl, Function.update_self]
    rfl
  · rw [if_neg same, Function.update_of_ne same]

theorem ensures_insertRow (ref : TableRef Db Lock Key Row) (mark : Option Mark) (duplicate : Exn)
    (refuse : Moment Db Lock → Db → Row → Option Exn) (key : Key) (row : Moment Db Lock → Row) :
    model.Ensures held (Program.insertRow ref mark duplicate refuse key row :
        Program Db Lock Exn Mark Query Answer Unit)
      fun start _ before after => ∃ seen busy, model.Glimpse held start before seen ∧
        refuse ⟨start, busy⟩ seen (row ⟨start, busy⟩) = none ∧
        (ref.get before).lookup key = none ∧
        Replaced ref key (row ⟨start, busy⟩) before after := by
  refine (ensures_perform mark _).mono ?_
  rintro start value before after ⟨seen, busy, effect, stated⟩
  have success := stated.success
  cases refused : refuse ⟨start, busy⟩ seen (row ⟨start, busy⟩) with
  | some error =>
      rw [refused] at success
      cases success
  | none =>
      cases absent : (ref.get seen).lookup key with
      | some row =>
          rw [refused, absent] at success
          cases success
      | none =>
          rw [refused, absent] at success
          obtain rfl := Except.ok.inj success
          have locked : ref.lock key ∈ [key].map ref.lock := List.mem_singleton.2 rfl
          have free := (stated.row ref locked).trans absent
          exact ⟨seen, busy, stated.glimpse, refused, free, replaced_insert free stated.wrote⟩

theorem ensures_insertNew (ref : TableRef Db Lock Key Row) (key : Key)
    (row : Moment Db Lock → Row) :
    model.Ensures held (Program.insertNew ref key row : Program Db Lock Exn Mark Query Answer Bool)
      fun start value before after =>
        (∃ busy, value = true ∧ (ref.get before).lookup key = none ∧
          Replaced ref key (row ⟨start, busy⟩) before after) ∨
        (∃ seen old, value = false ∧ model.Glimpse held start before seen ∧
          (ref.get seen).lookup key = some old ∧ after = before) := by
  refine (ensures_perform none _).mono ?_
  rintro start value before after ⟨seen, busy, effect, stated⟩
  have success := stated.success
  cases found : (ref.get seen).lookup key with
  | some old =>
      rw [found] at success
      obtain rfl := Except.ok.inj success
      exact Or.inr ⟨seen, old, stated.value, stated.glimpse, found, stated.wrote⟩
  | none =>
      rw [found] at success
      obtain rfl := Except.ok.inj success
      have locked : ref.lock key ∈ [key].map ref.lock := List.mem_singleton.2 rfl
      have free := (stated.row ref locked).trans found
      exact Or.inl ⟨busy, stated.value, free, replaced_insert free stated.wrote⟩

theorem ensures_upsertRow (ref : TableRef Db Lock Key Row) (mark : Option Mark) (key : Key)
    (row : Moment Db Lock → Row) (change : Moment Db Lock → Row → Row) :
    model.Ensures held (Program.upsertRow ref mark key row change :
        Program Db Lock Exn Mark Query Answer Unit)
      fun start _ before after => ∃ seen busy, model.Glimpse held start before seen ∧
        (ref.get before).lookup key = (ref.get seen).lookup key ∧
        Replaced ref key ((((ref.get before).lookup key).map (change ⟨start, busy⟩)).getD
          (row ⟨start, busy⟩)) before after ∧
        ∀ named, mark = some named → model.vouch named (model.of seen) := by
  refine (ensures_perform mark _).mono ?_
  rintro start value before after ⟨seen, busy, effect, stated⟩
  obtain rfl := Except.ok.inj stated.success
  have locked : ref.lock key ∈ [key].map ref.lock := List.mem_singleton.2 rfl
  refine ⟨seen, busy, stated.glimpse, stated.row ref locked, ⟨_, stated.wrote, ?_⟩, stated.vouched⟩
  funext other
  rw [Table.lookup_upsert]
  by_cases same : other = key
  · subst same
    rw [if_pos rfl, Function.update_self]
  · rw [if_neg same, Function.update_of_ne same]

theorem ensures_appendRow (log : LogRef Db Lock Row) (row : Moment Db Lock → Row) :
    model.Ensures held
      (Program.appendRow log row : Program Db Lock Exn Mark Query Answer Unit)
      fun start _ before after => ∃ busy,
        after = log.set (log.get before ++ [row ⟨start, busy⟩]) before := by
  refine (ensures_perform none _).mono ?_
  rintro start value before after ⟨seen, busy, effect, stated⟩
  obtain rfl := Except.ok.inj stated.success
  exact ⟨busy, stated.wrote⟩

/-- A program that ends with a row of a log. -/
theorem ensures_appended {program : Program Db Lock Exn Mark Query Answer Value}
    {post : Db → Value → Db → Db → Prop} (head : model.Ensures held program post)
    (log : LogRef Db Lock Row) (row : Value → Moment Db Lock → Row) :
    model.Ensures held (program >>= fun value => Program.appendRow log (row value))
      fun start _ before after => ∃ value middle busy, post start value before middle ∧
        after = log.set (log.get middle ++ [row value ⟨start, busy⟩]) middle := by
  intro a b value standing exec clean db later stable
  rw [Program.exec_bind_ok] at exec
  obtain ⟨result, middle, early, late⟩ := exec
  have further := Program.exec_extends model.rely_order late
  have done := head a middle result standing early (clean_of_exec late clean) db
    (model.order.trans further.rely later) (stable_of_held further.held stable)
  have start := (Program.exec_extends model.rely_order early).start
  obtain ⟨seen, _, _, _, busy, effect, success, _, rfl⟩ := (Program.exec_perform_ok _ _ _ _ _).1 late
  obtain rfl := Except.ok.inj success
  refine ⟨result, _, busy, done, ?_⟩
  rw [Txn.view_record, start]
  rfl

/-- Exactly the rows that the statement saw are gone. -/
theorem ensures_deleteRows (ref : TableRef Db Lock Key Row)
    (chosen : Moment Db Lock → Db → Key → Row → Bool) :
    model.Ensures held
      (Program.deleteRows ref chosen : Program Db Lock Exn Mark Query Answer (List (Key × Row)))
      fun start value before after => ∃ seen busy, model.Glimpse held start before seen ∧
        value = (ref.get seen).select (chosen ⟨start, busy⟩ seen) ∧
        (∀ entry ∈ value, (ref.get before).lookup entry.1 = some entry.2) ∧
        ∃ table, after = ref.set table before ∧ ∀ key, table.lookup key =
          if key ∈ value.map Prod.fst then none else (ref.get before).lookup key := by
  refine (ensures_perform none _).mono ?_
  rintro start value before after ⟨seen, busy, effect, stated⟩
  obtain rfl := Except.ok.inj stated.success
  have rows : value = (ref.get seen).select (chosen ⟨start, busy⟩ seen) := stated.value
  refine ⟨seen, busy, stated.glimpse, rows, ?_, _, stated.wrote, fun key => ?_⟩
  · intro entry member
    rw [rows] at member
    have locked : ref.lock entry.1 ∈ (((ref.get seen).select
        (chosen ⟨start, busy⟩ seen)).map Prod.fst).map ref.lock :=
      List.mem_map_of_mem (List.mem_map_of_mem member)
    rw [stated.row ref locked]
    exact ((Table.mem_select_iff _ _ _ _).1 member).1
  rw [rows, Table.lookup_erase]
  by_cases gone : key ∈ ((ref.get seen).select (chosen ⟨start, busy⟩ seen)).map Prod.fst
  · obtain ⟨⟨_, row⟩, member, rfl⟩ := List.mem_map.1 gone
    obtain ⟨present, picked⟩ := (Table.mem_select_iff _ _ _ _).1 member
    have locked : ref.lock _ ∈ (((ref.get seen).select
        (chosen ⟨start, busy⟩ seen)).map Prod.fst).map ref.lock :=
      List.mem_map_of_mem (List.mem_map_of_mem member)
    rw [if_pos gone, stated.row ref locked, present]
    simp [gone, picked]
  · rw [if_neg gone]
    cases (ref.get before).lookup key with
    | none => rfl
    | some row => simp [gone]

theorem ensures_clear (ref : TableRef Db Lock Key Row)
    (chosen : Moment Db Lock → Db → Key → Row → Bool) :
    model.Ensures held
      (Program.deleteRows ref chosen : Program Db Lock Exn Mark Query Answer (List (Key × Row)))
      fun start _ before after => ∃ seen busy picked table,
        model.Changed held ref chosen (fun _ => none) start before after seen busy picked table := by
  refine (ensures_deleteRows ref chosen).mono ?_
  rintro start value before after ⟨seen, busy, glimpse, rows, kept, table, wrote, lookups⟩
  refine ⟨seen, busy, fun key => key ∈ value.map Prod.fst, table, glimpse, wrote, ?_, ?_, ?_⟩
  · intro key
    rw [lookups]
    simp only [decide_eq_true_eq, Option.bind_fun_none]
  · intro key row present picked
    rw [rows]
    exact decide_eq_true (List.mem_map_of_mem ((Table.mem_select_iff _ _ _ _).2 ⟨present, picked⟩))
  · intro key picked
    obtain ⟨⟨_, row⟩, member, rfl⟩ := List.mem_map.1 (of_decide_eq_true picked)
    refine ⟨row, kept _ member, ?_⟩
    rw [rows] at member
    exact (Table.mem_select_iff _ _ _ _).1 member

section Quiet

theorem quiet_pure (value : Value) :
    model.Quiet (pure value : Program Db Lock Exn Mark Query Answer Value) := trivial

theorem quiet_throw (error : Exn) :
    model.Quiet (throw error : Program Db Lock Exn Mark Query Answer Value) := trivial

theorem quiet_ofExcept (result : Except Exn Value) :
    model.Quiet (MonadExcept.ofExcept result : Program Db Lock Exn Mark Query Answer Value) :=
  Program.every_ofExcept result

theorem quiet_ask (query : Query) :
    model.Quiet (Program.ask query : Program Db Lock Exn Mark Query Answer (Answer query)) :=
  ⟨trivial, fun _ => trivial⟩

theorem quiet_bind {Other : Type} {program : Program Db Lock Exn Mark Query Answer Value}
    {rest : Value → Program Db Lock Exn Mark Query Answer Other} (first : model.Quiet program)
    (second : ∀ value, model.Quiet (rest value)) : model.Quiet (program >>= rest) :=
  Program.every_bind first second

theorem quiet_handle {program : Program Db Lock Exn Mark Query Answer Value}
    {handler : Exn → Program Db Lock Exn Mark Query Answer Value} (first : model.Quiet program)
    (second : ∀ error, model.Quiet (handler error)) : model.Quiet (tryCatch program handler) :=
  Program.every_handle first second

theorem quiet_forM {Item : Type} {visit : Item → Program Db Lock Exn Mark Query Answer PUnit}
    (each : ∀ item, model.Quiet (visit item)) (items : List Item) :
    model.Quiet (items.forM visit) := Program.every_forM each items

theorem quiet_perform {mark : Option Mark} {body : Statement Db Lock Exn Value}
    (hidden : ∀ moment seen effect, body moment seen = .ok effect →
      ∀ db, model.of (effect.write.apply db) = model.of db) :
    model.Quiet (Program.perform mark body : Program Db Lock Exn Mark Query Answer Value) :=
  ⟨hidden, fun result => by cases result <;> trivial⟩

theorem quiet_query (read : Moment Db Lock → Db → Value) :
    model.Quiet (Program.query read : Program Db Lock Exn Mark Query Answer Value) := by
  apply quiet_perform
  rintro moment seen effect success db
  obtain rfl := Except.ok.inj success
  rfl

theorem quiet_markedQuery (mark : Mark) (read : Moment Db Lock → Db → Value) :
    model.Quiet (Program.markedQuery mark read : Program Db Lock Exn Mark Query Answer Value) := by
  apply quiet_perform
  rintro moment seen effect success db
  obtain rfl := Except.ok.inj success
  rfl

/-- What follows a read in a quiet program is quiet. -/
theorem quiet_after_read {Other : Type} {mark : Mark} {read : Moment Db Lock → Db → Value}
    {rest : Value → Program Db Lock Exn Mark Query Answer Other}
    (quiet : model.Quiet (Program.markedQuery mark read >>= rest)) (value : Value) :
    model.Quiet (rest value) := quiet.2 (.ok value)

theorem quiet_lockRows (ref : TableRef Db Lock Key Row)
    (chosen : Moment Db Lock → Db → Key → Row → Bool) :
    model.Quiet
      (Program.lockRows ref chosen : Program Db Lock Exn Mark Query Answer (List (Key × Row))) := by
  apply quiet_perform
  rintro moment seen effect success db
  obtain rfl := Except.ok.inj success
  rfl

theorem quiet_appendRow (log : LogRef Db Lock Row) (row : Moment Db Lock → Row)
    (hidden : ∀ rows db, model.of (log.set rows db) = model.of db) :
    model.Quiet (Program.appendRow log row : Program Db Lock Exn Mark Query Answer Unit) := by
  apply quiet_perform
  rintro moment seen effect success db
  obtain rfl := Except.ok.inj success
  exact hidden _ _

/-- An update of columns that are not part of the view. -/
theorem quiet_update (ref : TableRef Db Lock Key Row)
    (chosen : Moment Db Lock → Db → Key → Row → Bool) (change : Moment Db Lock → Row → Row)
    (hidden : ∀ moment keys (picked : Key → Row → Bool) db,
      model.of ((Write.modify ref keys picked (change moment)).apply db) = model.of db) :
    model.Quiet (Program.update ref chosen change :
      Program Db Lock Exn Mark Query Answer (List (Key × Row))) := by
  apply quiet_perform
  rintro moment seen effect success db
  dsimp only at success
  split at success
  · cases success
  · obtain rfl := Except.ok.inj success
    exact hidden _ _ _ _

variable (ref : TableRef Db Lock Key Row)
    (hidden : ∀ table db, model.of (ref.set table db) = model.of db)

include hidden

/-- Writes of a table that is not part of the view. -/
theorem quiet_update_hidden (chosen : Moment Db Lock → Db → Key → Row → Bool)
    (change : Moment Db Lock → Row → Row) :
    model.Quiet (Program.update ref chosen change :
      Program Db Lock Exn Mark Query Answer (List (Key × Row))) :=
  quiet_update ref chosen change fun _ _ _ _ => hidden _ _

theorem quiet_insertRow (mark : Option Mark) (duplicate : Exn)
    (refuse : Moment Db Lock → Db → Row → Option Exn) (key : Key) (row : Moment Db Lock → Row) :
    model.Quiet (Program.insertRow ref mark duplicate refuse key row :
      Program Db Lock Exn Mark Query Answer Unit) := by
  apply quiet_perform
  rintro moment seen effect success db
  split at success
  · cases success
  · cases success
  · obtain rfl := Except.ok.inj success
    exact hidden _ _

theorem quiet_insertNew (key : Key) (row : Moment Db Lock → Row) :
    model.Quiet (Program.insertNew ref key row : Program Db Lock Exn Mark Query Answer Bool) := by
  apply quiet_perform
  rintro moment seen effect success db
  split at success
  · obtain rfl := Except.ok.inj success
    rfl
  · obtain rfl := Except.ok.inj success
    exact hidden _ _

theorem quiet_upsertRow (mark : Option Mark) (key : Key) (row : Moment Db Lock → Row)
    (change : Moment Db Lock → Row → Row) :
    model.Quiet (Program.upsertRow ref mark key row change :
      Program Db Lock Exn Mark Query Answer Unit) := by
  apply quiet_perform
  rintro moment seen effect success db
  obtain rfl := Except.ok.inj success
  exact hidden _ _

theorem quiet_deleteRows (chosen : Moment Db Lock → Db → Key → Row → Bool) :
    model.Quiet
      (Program.deleteRows ref chosen : Program Db Lock Exn Mark Query Answer (List (Key × Row))) := by
  apply quiet_perform
  rintro moment seen effect success db
  obtain rfl := Except.ok.inj success
  exact hidden _ _

end Quiet

end Abstraction

end Relational
