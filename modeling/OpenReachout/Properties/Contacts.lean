import Mathlib.Data.Set.Card
import OpenReachout.Outreach.Laws
import OpenReachout.Outreach.Rows
import OpenReachout.Relational.Solo

/-!
# Contacts

The counter of an entity that stands for a window of twelve months. It counts every
claim and every finished task there has ever been.
-/

namespace OpenReachout

open Relational Relational.Abstraction Text

set_option autoImplicit false

variable {site : Deployment} {vouch : Mark → Ledger → Prop} {op : Op}
variable {start l after : Ledger}

section Contacts

/-- Whom a touch has contacted, and when: the claims of the budgeted profiles count. -/
def Touch.contact (item : Touch) : Option (Uuid × Time) :=
  if item.kind.budgeted then item.claimedAt.map fun time => (item.prospectId, time) else none

/-- So do tasks that are done. -/
def HumanTask.contact (task : HumanTask) : Option (Uuid × Time) :=
  if task.status = .done then task.resolvedAt.map fun time => (task.prospectId, time) else none

def Ledger.entityOf (l : Ledger) (prospectId : Uuid) : Option Uuid :=
  (l.prospects prospectId).map Prospect.entityId

/-- The entries of a book of contacts that are with the entity. -/
def Ledger.reached (l : Ledger) (book : Uuid → Option (Uuid × Time)) (entityId : Uuid) : Set Uuid :=
  {id | ∃ contact, book id = some contact ∧ l.entityOf contact.1 = some entityId}

abbrev Ledger.claims (l : Ledger) : Uuid → Set Uuid :=
  l.reached fun id => (l.touches id).bind Touch.contact

abbrev Ledger.visits (l : Ledger) : Uuid → Set Uuid :=
  l.reached fun id => (l.tasks id).bind HumanTask.contact

/-- The counter of every entity is the number of its contacts, and a touch that has not
been sent is none. -/
structure Tallied (l : Ledger) : Prop where
  claims : ∀ entityId, (l.claims entityId).Finite
  visits : ∀ entityId, (l.visits entityId).Finite
  counted : ∀ entityId owner, l.entities entityId = some owner →
    owner.touches12mo = (l.claims entityId).ncard + (l.visits entityId).ncard
  unclaimed : ∀ id item, l.touches id = some item → item.status.stage ≤ 1 → item.contact = none

/-- What a deed does to the contacts. -/
inductive Contacting (l after : Ledger) : Prop where
  | none (touches : ∀ id, (after.touches id).bind Touch.contact = (l.touches id).bind Touch.contact)
      (tasks : ∀ id, (after.tasks id).bind HumanTask.contact = (l.tasks id).bind HumanTask.contact)
      (owners : ∀ id owner, after.entities id = some owner →
        (∃ old, l.entities id = some old ∧ owner.touches12mo = old.touches12mo) ∨
          l.entities id = Option.none ∧ owner.touches12mo = 0)
  | claim (touchId : Uuid) (contact : Uuid × Time) (entityId : Uuid)
      (fresh : (l.touches touchId).bind Touch.contact = Option.none)
      (out : ∀ item, after.touches touchId = some item → 1 < item.status.stage)
      (theirs : l.entityOf contact.1 = some entityId)
      (touches : ∀ id, (after.touches id).bind Touch.contact =
        if id = touchId then some contact else (l.touches id).bind Touch.contact)
      (tasks : ∀ id, (after.tasks id).bind HumanTask.contact = (l.tasks id).bind HumanTask.contact)
      (owners : ∀ id owner, after.entities id = some owner → ∃ old, l.entities id = some old ∧
        owner.touches12mo = old.touches12mo + if id = entityId then 1 else 0)
  | visit (taskId : Uuid) (contact : Uuid × Time) (entityId : Uuid)
      (fresh : (l.tasks taskId).bind HumanTask.contact = Option.none)
      (theirs : l.entityOf contact.1 = some entityId)
      (touches : ∀ id, (after.touches id).bind Touch.contact = (l.touches id).bind Touch.contact)
      (tasks : ∀ id, (after.tasks id).bind HumanTask.contact =
        if id = taskId then some contact else (l.tasks id).bind HumanTask.contact)
      (owners : ∀ id owner, after.entities id = some owner → ∃ old, l.entities id = some old ∧
        owner.touches12mo = old.touches12mo + if id = entityId then 1 else 0)

/-- Neither touches nor tasks nor the counters change. -/
theorem contacting_same (touches : after.touches = l.touches) (tasks : after.tasks = l.tasks)
    (entities : after.entities = l.entities) : Contacting l after := by
  refine .none (fun id => by rw [touches]) (fun id => by rw [tasks]) fun id owner found => ?_
  rw [entities] at found
  exact Or.inl ⟨owner, found, rfl⟩

theorem owners_same (entities : after.entities = l.entities) (id : Uuid) (owner : Entity)
    (found : after.entities id = some owner) :
    (∃ old, l.entities id = some old ∧ owner.touches12mo = old.touches12mo) ∨
      l.entities id = none ∧ owner.touches12mo = 0 := by
  rw [entities] at found
  exact Or.inl ⟨owner, found, rfl⟩

/-- A touch takes the place of one that has made the same contact. -/
theorem contacts_update {touchId : Uuid} {item : Touch} {table : Uuid → Option Touch}
    (same : item.contact = (table touchId).bind Touch.contact) (id : Uuid) :
    (Function.update table touchId (some item) id).bind Touch.contact =
      (table id).bind Touch.contact := by
  by_cases here : id = touchId
  · subst here
    rw [Function.update_self]
    exact same
  · rw [Function.update_of_ne here]

theorem contacting_touch {touchId : Uuid} {item : Touch}
    (same : item.contact = (l.touches touchId).bind Touch.contact)
    (touches : after.touches = Function.update l.touches touchId (some item))
    (tasks : after.tasks = l.tasks) (entities : after.entities = l.entities) :
    Contacting l after := by
  refine .none (fun id => ?_) (fun id => by rw [tasks]) (owners_same entities)
  rw [touches]
  exact contacts_update same id

theorem contact_new {touchId : Uuid} {item : Touch} {status : TouchStatus}
    (new : NewTouch l touchId item status) :
    item.contact = (l.touches touchId).bind Touch.contact := by
  rw [new.absent]
  unfold Touch.contact
  rw [new.unclaimed]
  split_ifs <;> rfl

theorem contacts_changed {Row : Type} {table : Uuid → Option Row} {chosen : Uuid → Bool}
    {change : Row → Row} {contact : Row → Option (Uuid × Time)}
    (same : ∀ id row, chosen id = true → table id = some row → contact (change row) = contact row)
    (id : Uuid) : (changed table chosen change id).bind contact = (table id).bind contact := by
  unfold changed
  by_cases picked : chosen id = true
  · rw [if_pos picked]
    cases found : table id with
    | none => rfl
    | some row => exact same id row picked found
  · rw [if_neg picked]

theorem owners_set {entityId : Uuid} {owner new : Entity} (found : l.entities entityId = some owner)
    (same : new.touches12mo = owner.touches12mo)
    (entities : after.entities = Function.update l.entities entityId (some new)) (id : Uuid)
    (row : Entity) (present : after.entities id = some row) :
    (∃ old, l.entities id = some old ∧ row.touches12mo = old.touches12mo) ∨
      l.entities id = none ∧ row.touches12mo = 0 := by
  rw [entities] at present
  by_cases here : id = entityId
  · subst here
    rw [Function.update_self] at present
    obtain rfl := Option.some.inj present
    exact Or.inl ⟨owner, found, same⟩
  · rw [Function.update_of_ne here] at present
    exact Or.inl ⟨row, present, rfl⟩

/-- An entity whose counter goes up. -/
theorem owners_raised {table : Uuid → Option Entity} {entityId : Uuid} {owner new : Entity}
    (found : table entityId = some owner) (raised : new.touches12mo = owner.touches12mo + 1)
    (id : Uuid) (row : Entity)
    (present : Function.update table entityId (some new) id = some row) :
    ∃ old, table id = some old ∧
      row.touches12mo = old.touches12mo + if id = entityId then 1 else 0 := by
  by_cases here : id = entityId
  · subst here
    rw [Function.update_self] at present
    obtain rfl := Option.some.inj present
    exact ⟨owner, found, by rw [if_pos rfl]; exact raised⟩
  · rw [Function.update_of_ne here] at present
    exact ⟨row, present, by rw [if_neg here]; rfl⟩

/-- The plan for the next step leaves the counters as they are. -/
theorem counters_planned {time : Time} {item : Touch} {lead : Prospect}
    (planned : Planned site time item lead l after) :
    after.touches = l.touches ∧ after.tasks = l.tasks ∧
      ∀ id row, after.entities id = some row →
        ∃ old, l.entities id = some old ∧ row.touches12mo = old.touches12mo := by
  cases planned with
  | idle none_ => exact ⟨rfl, rfl, fun id row found => ⟨row, found, rfl⟩⟩
  | last spec budgeted found ended owner present =>
      refine ⟨rfl, rfl, fun id row there => ?_⟩
      change Function.update l.entities lead.entityId _ id = some row at there
      by_cases here : id = lead.entityId
      · subst here
        rw [Function.update_self] at there
        obtain rfl := Option.some.inj there
        exact ⟨owner, present, rfl⟩
      · rw [Function.update_of_ne here] at there
        exact ⟨row, there, rfl⟩
  | next spec budgeted found more enqueued =>
      obtain ⟨_, _, rfl⟩ := enqueued_frame enqueued
      exact ⟨rfl, rfl, fun id row found => ⟨row, found, rfl⟩⟩

theorem contacting_send {touchId : Uuid} {item : Touch} {lead : Prospect} {owner : Entity}
    {met : Bool} {mailbox : String} {ref : Payload} {time : Time}
    (unclaimed : ∀ id item, l.touches id = some item → item.status.stage ≤ 1 → item.contact = none)
    (sendable : Sendable op l touchId item lead owner)
    (planned : Planned site time item lead
      (l.dispatched time touchId item lead owner met mailbox ref) after) : Contacting l after := by
  obtain ⟨touches, tasks, owners⟩ := counters_planned planned
  have fresh : (l.touches touchId).bind Touch.contact = none := by
    rw [sendable.touch]
    exact unclaimed touchId item sendable.touch (by rw [sendable.drafted]; exact le_rfl)
  cases budgeted : item.kind.budgeted with
  | false =>
      have silent : (item.delivered time mailbox ref).contact = none := by
        unfold Touch.contact Touch.delivered
        rw [if_neg (by rw [budgeted]; exact nofun)]
      refine .none (fun id => ?_) (fun id => by rw [tasks]; rfl) fun id row found => ?_
      · rw [touches]
        change (Function.update l.touches touchId (some (item.delivered time mailbox ref)) id).bind
          Touch.contact = _
        exact contacts_update (silent.trans fresh.symm) id
      · obtain ⟨old, there, same⟩ := owners id row found
        unfold Ledger.dispatched at there
        rw [if_neg (by rw [budgeted]; exact nofun)] at there
        exact Or.inl ⟨old, there, same⟩
  | true =>
      have known : l.entities lead.entityId = some owner := by
        have admits := sendable.admits
        unfold Ledger.admits at admits
        unfold TouchKind.budgeted GateProfile.budgeted at budgeted
        revert admits budgeted
        cases profileOf item.kind with
        | cold => exact fun _ admits => admits.1
        | followup => exact fun _ admits => admits.1
        | reply => exact nofun
      refine .claim touchId (item.prospectId, time) lead.entityId fresh (fun sent found => ?_) ?_
        (fun id => ?_) (fun id => by rw [tasks]; rfl) fun id row found => ?_
      · rw [touches] at found
        change Function.update l.touches touchId (some (item.delivered time mailbox ref)) touchId =
          some sent at found
        rw [Function.update_self] at found
        obtain rfl := Option.some.inj found
        exact Nat.one_lt_two
      · unfold Ledger.entityOf
        rw [sendable.prospect]
        rfl
      · rw [touches]
        change (Function.update l.touches touchId (some (item.delivered time mailbox ref)) id).bind
          Touch.contact = _
        by_cases here : id = touchId
        · subst here
          rw [Function.update_self, if_pos rfl]
          change (item.delivered time mailbox ref).contact = _
          unfold Touch.contact Touch.delivered
          rw [if_pos budgeted]
          rfl
        · rw [Function.update_of_ne here, if_neg here]
      · obtain ⟨old, there, same⟩ := owners id row found
        unfold Ledger.dispatched at there
        rw [if_pos budgeted] at there
        obtain ⟨first, present, raised⟩ := owners_raised known rfl id old there
        exact ⟨first, present, by rw [same, raised]⟩

theorem contacting_settle {taskId : Uuid} {actor note : String} {finished : Bool}
    {task : HumanTask} {item : Touch} {time : Time} (found : l.tasks taskId = some task)
    (pending : task.status = .pending) (touch : l.touches task.touchId = some item)
    (counted : Counted time task finished
      ((l.setTask taskId (task.settled time actor note finished)).setTouch task.touchId
        (item.settled time finished)) after) : Contacting l after := by
  have kept : (item.settled time finished).contact =
      (l.touches task.touchId).bind Touch.contact := by
    rw [touch]
    cases finished <;> rfl
  have open_ : (l.tasks taskId).bind HumanTask.contact = none := by
    rw [found]
    change task.contact = none
    unfold HumanTask.contact
    rw [pending]
    rfl
  cases counted with
  | skipped unfinished =>
      subst unfinished
      refine .none (contacts_update kept) (fun id => ?_) (owners_same rfl)
      change (Function.update l.tasks taskId _ id).bind HumanTask.contact = _
      by_cases here : id = taskId
      · subst here
        rw [Function.update_self, open_]
        rfl
      · rw [Function.update_of_ne here]
  | contact lead owner ended prospect entity =>
      subst ended
      refine .visit taskId (task.prospectId, time) lead.entityId open_ ?_ (contacts_update kept)
        (fun id => ?_) fun id row present => ?_
      · unfold Ledger.entityOf
        change l.prospects task.prospectId = some lead at prospect
        rw [prospect]
        rfl
      · change (Function.update l.tasks taskId _ id).bind HumanTask.contact = _
        by_cases here : id = taskId
        · subst here
          rw [Function.update_self, if_pos rfl]
          rfl
        · rw [Function.update_of_ne here, if_neg here]
      · exact owners_raised entity rfl id row present

theorem contacting_of_deed (deed : Deed site vouch op start l after)
    (unclaimed : ∀ id item, l.touches id = some item → item.status.stage ≤ 1 → item.contact = none) : Contacting l after := by
  cases deed with
  | enqueue queue payload key delay plain orders enqueued =>
      obtain ⟨_, _, rfl⟩ := enqueued_frame enqueued
      exact contacting_same rfl rfl rfl
  | trigger eventId prospectId which seen since lead found state enqueued =>
      obtain ⟨_, _, rfl⟩ := enqueued_frame enqueued
      exact contacting_same rfl rfl rfl
  | hold touchId item new drafting step met => exact contacting_touch (contact_new new) rfl rfl rfl
  | draft touchId item new drafting met enqueued =>
      obtain ⟨_, _, rfl⟩ := enqueued_frame enqueued
      exact contacting_touch (contact_new new) rfl rfl rfl
  | park touchId taskId item task new kind untasked pending mine theirs met =>
      refine .none (contacts_update (contact_new new)) (fun id => ?_) (owners_same rfl)
      change (Function.update l.tasks taskId (some task) id).bind HumanTask.contact = _
      by_cases here : id = taskId
      · subst here
        rw [Function.update_self, untasked]
        change task.contact = none
        unfold HumanTask.contact
        rw [pending]
        rfl
      · rw [Function.update_of_ne here]
  | approve touchId actor item which found held enqueued =>
      obtain ⟨_, _, rfl⟩ := enqueued_frame enqueued
      exact contacting_touch (by rw [found]; rfl) rfl rfl rfl
  | reject touchId actor note item which found held =>
      exact contacting_touch (by rw [found]; rfl) rfl rfl rfl
  | refuse touchId item which found vouched =>
      exact contacting_touch (by rw [found]; rfl) rfl rfl rfl
  | send touchId item lead owner met mailbox ref sendable queued vouched planned =>
      exact contacting_send unclaimed sendable planned
  | webhook touchId item found out => exact contacting_touch (by rw [found]; rfl) rfl rfl rfl
  | settle taskId actor finished note task item which found pending touch counted =>
      exact contacting_settle found pending touch counted
  | expire chosen overdue which pending theirs =>
      refine .none (contacts_changed fun _ _ _ _ => rfl) (contacts_changed ?_) (owners_same rfl)
      intro id task picked found
      unfold HumanTask.contact
      rw [pending id task picked found]
      rfl
  | release prospectId lead owner active item prospect entity held touch owned =>
      refine .none (fun _ => rfl) (fun _ => rfl) (owners_set entity ?_ rfl)
      rfl
  | forget ref ids leads owners touches replies facts which erased =>
      refine .none (contacts_changed fun _ _ _ _ => rfl) (fun _ => rfl) fun id row found => ?_
      change changed l.entities owners Entity.erased id = some row at found
      unfold changed at found
      split_ifs at found
      · obtain ⟨old, there, rfl⟩ := Option.map_eq_some_iff.1 found
        exact Or.inl ⟨old, there, rfl⟩
      · exact Or.inl ⟨row, found, rfl⟩
  | entity entityId owner absent free fresh known =>
      refine .none (fun _ => rfl) (fun _ => rfl) fun id row found => ?_
      change Function.update l.entities entityId (some owner) id = some row at found
      by_cases here : id = entityId
      · subst here
        rw [Function.update_self] at found
        obtain rfl := Option.some.inj found
        exact Or.inr ⟨absent, fresh⟩
      · rw [Function.update_of_ne here] at found
        exact Or.inl ⟨row, found, rfl⟩
  | refer entityId owner found unasked known =>
      refine .none (fun _ => rfl) (fun _ => rfl) (owners_set found ?_ rfl)
      rfl
  | suppress address scope reason idle enqueued =>
      obtain ⟨_, _, rfl⟩ := enqueued_frame enqueued
      exact contacting_same rfl rfl rfl
  | halt scope actor flag which enqueued =>
      obtain ⟨_, _, rfl⟩ := enqueued_frame enqueued
      exact contacting_same rfl rfl rfl
  | notify address hash receiptId hashed buried enqueued =>
      obtain ⟨_, _, rfl⟩ := enqueued_frame enqueued
      exact contacting_same rfl rfl rfl
  | _ => exact contacting_same rfl rfl rfl

end Contacts

section Tally

variable {book next : Uuid → Option (Uuid × Time)} {entityId : Uuid}

theorem entityOf_later (later : Later l after) {prospectId : Uuid}
    (theirs : l.entityOf prospectId = some entityId) : after.entityOf prospectId = some entityId := by
  obtain ⟨lead, found, same⟩ := Option.map_eq_some_iff.1 theirs
  obtain ⟨next, there, kept⟩ := later.prospects prospectId lead found
  unfold Ledger.entityOf
  rw [there, ← same, ← kept.entityId]
  rfl

/-- The contacts of a book whose prospects are known stay with their entities. -/
theorem reached_later (later : Later l after)
    (known : ∀ id contact, book id = some contact → ∃ owner, l.entityOf contact.1 = some owner)
    (entityId : Uuid) : after.reached book entityId = l.reached book entityId := by
  ext id
  constructor
  · rintro ⟨contact, entry, theirs⟩
    obtain ⟨owner, first⟩ := known id contact entry
    obtain rfl := Option.some.inj ((entityOf_later later first).symm.trans theirs)
    exact ⟨contact, entry, first⟩
  · rintro ⟨contact, entry, theirs⟩
    exact ⟨contact, entry, entityOf_later later theirs⟩

/-- One more entry is one more contact of its entity. -/
theorem reached_entry {key owner : Uuid} {contact : Uuid × Time}
    (entry : ∀ id, next id = if id = key then some contact else book id) (fresh : book key = none)
    (theirs : l.entityOf contact.1 = some owner) (entityId : Uuid) :
    l.reached next entityId =
      if entityId = owner then insert key (l.reached book entityId) else l.reached book entityId := by
  ext id
  unfold Ledger.reached
  by_cases here : id = key
  · subst here
    have mine : ∀ found, next id = some found ↔ contact = found := fun found => by
      rw [entry, if_pos rfl, Option.some.injEq]
    by_cases same : entityId = owner
    · subst same
      rw [if_pos rfl]
      exact ⟨fun _ => Set.mem_insert _ _, fun _ => ⟨contact, (mine _).2 rfl, theirs⟩⟩
    · rw [if_neg same]
      constructor
      · rintro ⟨found, given, whose⟩
        obtain rfl := (mine found).1 given
        exact absurd (Option.some.inj (whose.symm.trans theirs)) same
      · rintro ⟨found, given, _⟩
        rw [fresh] at given
        cases given
  · have other : next id = book id := by rw [entry, if_neg here]
    by_cases same : entityId = owner
    · rw [if_pos same]
      simp [other, here]
    · rw [if_neg same]
      simp [other]

theorem known_claims (linked : Linked l) (id : Uuid) (contact : Uuid × Time)
    (entry : (l.touches id).bind Touch.contact = some contact) :
    ∃ owner, l.entityOf contact.1 = some owner := by
  obtain ⟨item, found, made⟩ := Option.bind_eq_some_iff.1 entry
  unfold Touch.contact at made
  split_ifs at made
  obtain ⟨time, _, rfl⟩ := Option.map_eq_some_iff.1 made
  obtain ⟨lead, there⟩ := Option.isSome_iff_exists.1 (linked.prospectOf id item found)
  exact ⟨lead.entityId, by unfold Ledger.entityOf; rw [there]; rfl⟩

theorem known_visits (linked : Linked l) (id : Uuid) (contact : Uuid × Time)
    (entry : (l.tasks id).bind HumanTask.contact = some contact) :
    ∃ owner, l.entityOf contact.1 = some owner := by
  obtain ⟨task, found, made⟩ := Option.bind_eq_some_iff.1 entry
  unfold HumanTask.contact at made
  split_ifs at made
  obtain ⟨time, _, rfl⟩ := Option.map_eq_some_iff.1 made
  obtain ⟨lead, there⟩ := Option.isSome_iff_exists.1 (linked.taskProspect id task found)
  exact ⟨lead.entityId, by unfold Ledger.entityOf; rw [there]; rfl⟩

/-- Nobody has contacted an entity that is not there. -/
theorem reached_absent (linked : Linked l) (absent : l.entities entityId = none) :
    l.reached book entityId = ∅ := by
  refine Set.eq_empty_iff_forall_notMem.2 ?_
  rintro id ⟨contact, _, theirs⟩
  obtain ⟨lead, found, rfl⟩ := Option.map_eq_some_iff.1 theirs
  have there := linked.entityOf contact.1 lead found
  rw [absent] at there
  cases there

/-- The counter of an entity that is as it was, or new. -/
theorem counted_owner (tallied : Tallied l) (linked : Linked l) {owner : Entity}
    (owns : (∃ old, l.entities entityId = some old ∧ owner.touches12mo = old.touches12mo) ∨
      l.entities entityId = none ∧ owner.touches12mo = 0) :
    owner.touches12mo = (l.claims entityId).ncard + (l.visits entityId).ncard := by
  rcases owns with ⟨old, there, same⟩ | ⟨absent, zero⟩
  · rw [same]
    exact tallied.counted entityId old there
  · have claims : l.claims entityId = ∅ := reached_absent linked absent
    have visits : l.visits entityId = ∅ := reached_absent linked absent
    rw [claims, visits, zero, Set.ncard_empty]

theorem tallied_step (deed : Deed site vouch op start l after) (linked : Linked l)
    (tallied : Tallied l) : Tallied after := by
  have later := deed_later _ _ _ _ deed
  have stays : ∀ id item, after.touches id = some item → item.status.stage ≤ 1 →
      (after.touches id).bind Touch.contact = (l.touches id).bind Touch.contact →
      item.contact = none := by
    intro id item found early same
    rw [found] at same
    refine same.trans ?_
    cases there : l.touches id with
    | none => rfl
    | some old =>
        obtain ⟨new, present, kept⟩ := later.touches id old there
        obtain rfl := Option.some.inj (present.symm.trans found)
        exact tallied.unclaimed id old there (kept.stage.trans early)
  have claims : ∀ entityId, after.reached (fun id => (l.touches id).bind Touch.contact) entityId =
      l.claims entityId := reached_later later (known_claims linked)
  have visits : ∀ entityId, after.reached (fun id => (l.tasks id).bind HumanTask.contact) entityId =
      l.visits entityId := reached_later later (known_visits linked)
  cases contacting_of_deed deed tallied.unclaimed with
  | none touches tasks owners =>
      have sameClaims : ∀ entityId, after.claims entityId = l.claims entityId := fun entityId => by
        rw [← claims, Ledger.claims, funext touches]
      have sameVisits : ∀ entityId, after.visits entityId = l.visits entityId := fun entityId => by
        rw [← visits, Ledger.visits, funext tasks]
      refine ⟨fun entityId => ?_, fun entityId => ?_, fun entityId owner found => ?_,
        fun id item found early => stays id item found early (touches id)⟩
      · rw [sameClaims]
        exact tallied.claims entityId
      · rw [sameVisits]
        exact tallied.visits entityId
      · rw [sameClaims, sameVisits]
        exact counted_owner tallied linked (owners entityId owner found)
  | claim touchId contact entityId fresh out theirs touches tasks owners =>
      have moreClaims : ∀ other, after.claims other =
          if other = entityId then insert touchId (l.claims other) else l.claims other :=
        fun other => by
          rw [← claims]
          exact reached_entry touches fresh (entityOf_later later theirs) other
      have sameVisits : ∀ entityId, after.visits entityId = l.visits entityId := fun entityId => by
        rw [← visits, Ledger.visits, funext tasks]
      have outside : touchId ∉ l.claims entityId := by
        rintro ⟨_, entry, _⟩
        exact absurd (fresh.symm.trans entry) nofun
      refine ⟨fun other => ?_, fun other => ?_, fun other owner found => ?_,
        fun id item found early => ?_⟩
      · rw [moreClaims]
        split_ifs
        · exact (tallied.claims other).insert _
        · exact tallied.claims other
      · rw [sameVisits]
        exact tallied.visits other
      · obtain ⟨old, there, raised⟩ := owners other owner found
        have counted := tallied.counted other old there
        rw [moreClaims, sameVisits, raised, counted]
        split_ifs with same
        · subst same
          rw [Set.ncard_insert_of_notMem outside (tallied.claims other)]
          omega
        · rfl
      · by_cases here : id = touchId
        · subst here
          have late := out item found
          omega
        · exact stays id item found early (by rw [touches, if_neg here])
  | visit taskId contact entityId fresh theirs touches tasks owners =>
      have sameClaims : ∀ entityId, after.claims entityId = l.claims entityId := fun entityId => by
        rw [← claims, Ledger.claims, funext touches]
      have moreVisits : ∀ other, after.visits other =
          if other = entityId then insert taskId (l.visits other) else l.visits other :=
        fun other => by
          rw [← visits]
          exact reached_entry tasks fresh (entityOf_later later theirs) other
      have outside : taskId ∉ l.visits entityId := by
        rintro ⟨_, entry, _⟩
        exact absurd (fresh.symm.trans entry) nofun
      refine ⟨fun other => ?_, fun other => ?_, fun other owner found => ?_,
        fun id item found early => stays id item found early (touches id)⟩
      · rw [sameClaims]
        exact tallied.claims other
      · rw [moreVisits]
        split_ifs
        · exact (tallied.visits other).insert _
        · exact tallied.visits other
      · obtain ⟨old, there, raised⟩ := owners other owner found
        have counted := tallied.counted other old there
        rw [sameClaims, moreVisits, raised, counted]
        split_ifs with same
        · subst same
          rw [Set.ncard_insert_of_notMem outside (tallied.visits other)]
          omega
        · rfl

end Tally

section Runs

/-- The times of the contacts in a table that are with somebody who is `mine`. -/
def timesOf {Row : Type} (table : Table Uuid Row) (contact : Row → Option (Uuid × Time))
    (mine : Uuid → Bool) : List Time :=
  (table.select fun _ row => (contact row).any fun found => mine found.1).filterMap fun entry =>
    (contact entry.2).map Prod.snd

/-- Every contact there has been with an entity: claims, and tasks that are done. -/
def Database.contacts (db : Database) (entityId : Uuid) : List Time :=
  let mine prospectId := (db.prospects.lookup prospectId).any fun lead => lead.entityId = entityId
  timesOf db.touches Touch.contact mine ++ timesOf db.humanTasks HumanTask.contact mine

/-- Those of the trailing twelve months. -/
def Database.trailing (db : Database) (entityId : Uuid) (time : Time) : List Time :=
  (db.contacts entityId).filter fun contact => time < addMonths 12 contact

theorem timesOf_reached {Row : Type} (db : Database) (table : Table Uuid Row)
    (contact : Row → Option (Uuid × Time)) (entityId : Uuid) :
    (db.ledger.reached (fun id => (table.lookup id).bind contact) entityId).Finite ∧
      (timesOf table contact fun prospectId =>
        (db.prospects.lookup prospectId).any fun lead => lead.entityId = entityId).length =
      (db.ledger.reached (fun id => (table.lookup id).bind contact) entityId).ncard := by
  let mine : Uuid → Bool := fun prospectId =>
    (db.prospects.lookup prospectId).any fun lead => lead.entityId = entityId
  let rows := table.select fun _ row => (contact row).any fun found => mine found.1
  have same : db.ledger.reached (fun id => (table.lookup id).bind contact) entityId =
      ((rows.map Prod.fst).toFinset : Set Uuid) := by
    ext id
    rw [Finset.mem_coe, List.mem_toFinset, List.mem_map]
    constructor
    · rintro ⟨found, entry, theirs⟩
      obtain ⟨row, there, made⟩ := Option.bind_eq_some_iff.1 entry
      obtain ⟨lead, present, whose⟩ := Option.map_eq_some_iff.1 theirs
      change db.prospects.lookup found.1 = some lead at present
      refine ⟨(id, row), (Table.mem_select_iff _ _ _ _).2 ⟨there, ?_⟩, rfl⟩
      simp [made, mine, present, whose]
    · rintro ⟨⟨_, row⟩, member, rfl⟩
      obtain ⟨there, holds⟩ := (Table.mem_select_iff _ _ _ _).1 member
      obtain ⟨found, made, with_⟩ := (Option.any_eq_true _ _).1 holds
      obtain ⟨lead, present, whose⟩ := (Option.any_eq_true _ _).1 with_
      refine ⟨found, Option.bind_eq_some_iff.2 ⟨row, there, made⟩, ?_⟩
      exact Option.map_eq_some_iff.2 ⟨lead, present, of_decide_eq_true whose⟩
  have whole : (rows.filterMap fun entry => (contact entry.2).map Prod.snd).length =
      rows.length := by
    rw [List.length_filterMap_eq_countP, List.countP_eq_length]
    intro entry member
    obtain ⟨_, holds⟩ := (Table.mem_select_iff _ _ entry.1 entry.2).1 member
    obtain ⟨found, made, _⟩ := (Option.any_eq_true _ _).1 holds
    simp [made]
  rw [same]
  refine ⟨Finset.finite_toSet _, ?_⟩
  rw [Set.ncard_coe_finset, List.toFinset_card_of_nodup (Table.select_keys_nodup _ _),
    List.length_map]
  exact whole

theorem contacts_length (db : Database) (entityId : Uuid) :
    (db.contacts entityId).length =
      (db.ledger.claims entityId).ncard + (db.ledger.visits entityId).ncard := by
  unfold Database.contacts
  rw [List.length_append]
  exact congrArg₂ _ (timesOf_reached db db.touches _ entityId).2
    (timesOf_reached db db.humanTasks _ entityId).2

theorem tallied_of_counts {db : Database}
    (counts : ∀ entityId owner, db.entities.lookup entityId = some owner →
      owner.touches12mo = (db.contacts entityId).length)
    (unclaimed : ∀ id item, db.touches.lookup id = some item → item.status.stage ≤ 1 →
      item.contact = none) : Tallied db.ledger where
  claims entityId := (timesOf_reached db db.touches _ entityId).1
  visits entityId := (timesOf_reached db db.humanTasks _ entityId).1
  counted entityId owner found := (counts entityId owner found).trans (contacts_length db entityId)
  unclaimed := unclaimed

/-- Whether the last contact is long enough ago. -/
def Entity.rested (owner : Entity) (time : Time) : Bool :=
  match owner.lastCampaignContactAt with
  | none => true
  | some contact => decide (defaultMinCampaignGapDays ≤ (time - contact) / days 1)

variable {oracle : Nat → (call : Call) → call.Answer} {fault : Exc}
variable {moment : Moment Database RowLock} {db : Database} {entityId prospectId : Uuid}
variable {owner : Entity}

theorem select_entity (found : db.entities.lookup entityId = some owner) :
    db.entities.select (fun id _ => decide (id = entityId)) = [(entityId, owner)] := by
  have keyed := Table.select_key db.entities entityId fun _ _ => true
  simp only [Bool.and_true] at keyed
  rw [keyed, found]
  rfl

/-- What the gate of first contacts answers. -/
theorem frequency_answers (found : db.entities.lookup entityId = some owner) :
    (Program.solo oracle fault moment (frequencyOk entityId) ⟨db, 0, false⟩).1 =
      .ok (owner.activeSequenceTouchId.isNone &&
        decide (owner.touches12mo < defaultAnnualTouchCap) && owner.rested (oracle 0 .now)) := by
  unfold frequencyOk
  rw [Program.solo_bind, Program.solo_lockRows]
  dsimp only
  rw [select_entity found]
  dsimp only
  cases active : owner.activeSequenceTouchId with
  | some sequence => rfl
  | none =>
      by_cases capped : defaultAnnualTouchCap ≤ owner.touches12mo
      · rw [if_neg (by simp), if_pos capped, decide_eq_false (by omega)]
        rfl
      · rw [if_neg (by simp), if_neg capped, decide_eq_true (by omega)]
        unfold Entity.rested
        cases owner.lastCampaignContactAt with
        | none => rfl
        | some contact => rfl

/-- What the gate of follow-ups answers. -/
theorem continuation_answers (found : db.entities.lookup entityId = some owner) :
    (Program.solo oracle fault moment (sequenceContinuationOk entityId prospectId)
        ⟨db, 0, false⟩).1 =
      .ok (decide (activeProspect db owner = some prospectId) &&
        decide (owner.touches12mo < defaultAnnualTouchCap)) := by
  unfold sequenceContinuationOk
  rw [Program.solo_bind, Program.solo_perform]
  dsimp only
  rw [select_entity found]
  rfl

/-- Both gates compare `count` with the cap. -/
def Comparing (db : Database) (entityId : Uuid) (owner : Entity) (count : Nat) : Prop :=
  ∀ (oracle : Nat → (call : Call) → call.Answer) (fault : Exc) (moment : Moment Database RowLock),
    (Program.solo oracle fault moment (frequencyOk entityId) ⟨db, 0, false⟩).1 =
      .ok (owner.activeSequenceTouchId.isNone && decide (count < defaultAnnualTouchCap) &&
        owner.rested (oracle 0 .now)) ∧
    ∀ prospectId,
      (Program.solo oracle fault moment (sequenceContinuationOk entityId prospectId)
          ⟨db, 0, false⟩).1 =
        .ok (decide (activeProspect db owner = some prospectId) &&
          decide (count < defaultAnnualTouchCap))

theorem tallied_path (path : Relation.ReflTransGen (Deed site vouch op start) l after)
    (linked : Linked l) (tallied : Tallied l) : Tallied after := by
  induction path with
  | refl => exact tallied
  | tail before deed induction =>
      exact tallied_step deed (linked_later linked (path_later before)) induction

theorem tallied_run {allowed : World → Act → Prop} {begin_ world : World}
    (quiet : begin_.sessions = []) (linked : Linked begin_.committed.ledger)
    (tallied : Tallied begin_.committed.ledger) (run : Run site allowed begin_ world) :
    Tallied world.committed.ledger := by
  have free : ∀ world action, allowed world action → Vouched (fun _ _ _ _ => True) world action :=
    vouched_free
  refine (invariant_of_advances (fun world => Tallied world.committed.ledger) free ?_ quiet linked
    tallied run).2
  intro before action later sane tallied permitted step advance
  cases advance with
  | idle same =>
      rw [same]
      exact tallied
  | clock ticks moved =>
      rw [moved]
      exact { tallied with }
  | commit index session out found commits since wrote path =>
      exact tallied_path path sane.linked tallied

/-- The gates compare the number of all contacts with the cap. It is the number of those
of the trailing twelve months exactly when there are no others. -/
theorem cap_compares_contacts {allowed : World → Act → Prop} {begin_ world : World}
    (quiet : begin_.sessions = []) (linked : Linked begin_.committed.ledger)
    (tallied : Tallied begin_.committed.ledger) (run : Run site allowed begin_ world)
    (found : world.committed.entities.lookup entityId = some owner) :
    owner.touches12mo = (world.committed.contacts entityId).length ∧
      Comparing world.committed entityId owner owner.touches12mo ∧
      ∀ time, owner.touches12mo = (world.committed.trailing entityId time).length ↔
        ∀ contact ∈ world.committed.contacts entityId, time < addMonths 12 contact := by
  have count : owner.touches12mo = (world.committed.contacts entityId).length :=
    ((tallied_run quiet linked tallied run).counted entityId owner found).trans
      (contacts_length world.committed entityId).symm
  refine ⟨count, fun oracle fault moment => ?_, fun time => ?_⟩
  · exact ⟨frequency_answers found, fun prospectId => continuation_answers found⟩
  · rw [count]
    unfold Database.trailing
    rw [eq_comm, List.length_filter_eq_length_iff]
    simp only [decide_eq_true_eq]

end Runs

section Sample

/-- A first contact of more than a year ago. -/
def oldTouch (age : Nat) : Touch :=
  { sampleTouch with status := .sent, claimedAt := some (sampleClock - days age) }

/-- The sample entity has been contacted eight times, once in about three months. -/
def longstandingDatabase : Database :=
  { sampleDatabase with
    entities := Table.empty.insert 2
      { tenantId := 1, displayName := some "Ana", touches12mo := 8
        lastCampaignContactAt := some (sampleClock - days 100) }
    touches := (List.range 8).foldl
      (fun table index => table.insert (10 + index) (oldTouch (100 * (index + 1)))) Table.empty
    jobs := Table.empty
    jobIndex := Table.empty }

def longstandingWorld : World := { committed := longstandingDatabase }

theorem longstanding_touches (id : Uuid) (item : Touch)
    (found : longstandingDatabase.touches.lookup id = some item) :
    item.prospectId = 3 ∧ item.status = .sent := by
  have whole : (longstandingDatabase.touches.select fun _ _ => true).all
      (fun entry => entry.2.prospectId = 3 && entry.2.status = .sent) = true := by
    decide +kernel
  have member := (Table.mem_select_iff longstandingDatabase.touches (fun _ _ => true) id item).2
    ⟨found, rfl⟩
  have holds := List.all_eq_true.1 whole _ member
  simp only [Bool.and_eq_true, decide_eq_true_eq] at holds
  exact holds

theorem longstanding_linked : Linked longstandingWorld.committed.ledger where
  entityOf id lead found := by
    change (Table.empty.insert 3 sampleProspect).lookup id = some lead at found
    rw [Table.lookup_insert] at found
    split_ifs at found
    · obtain rfl := Option.some.inj found
      rfl
    · cases found
  prospectOf id item found := by
    rw [(longstanding_touches id item found).1]
    rfl
  taskProspect id task found := by cases found
  taskTouch id task found := by cases found

theorem longstanding_tallied : Tallied longstandingWorld.committed.ledger := by
  refine tallied_of_counts ?_ ?_
  · intro entityId owner found
    change (Table.empty.insert 2 _).lookup entityId = some owner at found
    rw [Table.lookup_insert] at found
    split_ifs at found with same
    · subst same
      obtain rfl := Option.some.inj found
      decide +kernel
    · cases found
  · intro id item found early
    rw [(longstanding_touches id item found).2] at early
    exact absurd early (by decide)

/-- The gates compare eight contacts with the cap, also those of more than a year ago. -/
theorem longstanding_compares : ∃ owner,
    longstandingWorld.committed.entities.lookup 2 = some owner ∧ owner.touches12mo = 8 ∧
    Comparing longstandingWorld.committed 2 owner owner.touches12mo ∧
    ¬ ∀ contact ∈ longstandingWorld.committed.contacts 2, sampleClock < addMonths 12 contact := by
  have run : Run sampleDeployment unrestricted longstandingWorld longstandingWorld := .refl
  have known : longstandingWorld.committed.entities.lookup 2 = some
      { tenantId := 1, displayName := some "Ana", touches12mo := 8
        lastCampaignContactAt := some (sampleClock - days 100) } := rfl
  obtain ⟨_, compares, window⟩ :=
    cap_compares_contacts rfl longstanding_linked longstanding_tallied run known
  refine ⟨_, known, rfl, compares, fun recent => ?_⟩
  have all := (window sampleClock).2 recent
  exact absurd all (by decide +kernel)

/-- More than a year later nobody has contacted the entity within twelve months, and the
gate still refuses it for its contacts. -/
theorem longstanding_refused : ∃ world owner,
    Run sampleDeployment unrestricted longstandingWorld world ∧
    world.committed.entities.lookup 2 = some owner ∧
    world.committed.trailing 2 world.committed.clock = [] ∧
    owner.activeSequenceTouchId = none ∧ owner.rested world.committed.clock = true ∧
    ∀ oracle fault moment,
      (Program.solo oracle fault moment (frequencyOk 2) ⟨world.committed, 0, false⟩).1 =
        .ok false := by
  have tried : ((service sampleDeployment).script [.inl (.advance (days 400))]
      longstandingWorld).any (fun world =>
        (world.committed.entities.lookup 2).any (fun owner =>
          owner.activeSequenceTouchId = none && owner.rested world.committed.clock &&
            owner.touches12mo = 8) &&
        (world.committed.trailing 2 world.committed.clock).isEmpty) = true := by
    decide +kernel
  obtain ⟨world, played, seen⟩ := (Option.any_eq_true _ _).1 tried
  rw [Bool.and_eq_true] at seen
  obtain ⟨owner, found, holds⟩ := (Option.any_eq_true _ _).1 seen.1
  simp only [Bool.and_eq_true, decide_eq_true_eq] at holds
  refine ⟨world, owner, run_of_further played, found, List.isEmpty_iff.1 seen.2, holds.1.1,
    holds.1.2, fun oracle fault moment => ?_⟩
  rw [frequency_answers found, holds.2]
  simp [defaultAnnualTouchCap]

end Sample

end OpenReachout
