import OpenReachout.Properties.Jobs
import OpenReachout.Properties.Recipients

/-!
# Receipts of deletion

A tombstone is stamped when its deletion has reached the provider. The job that stamps
knows the receipt, and not the tombstone: one receipt may stand for several addresses.
-/

namespace OpenReachout

open Relational Relational.Program Text

set_option autoImplicit false

variable {site : Deployment} {vouch : Mark → Ledger → Prop} {rule : Condition} {op : Op}
variable {start l after : Ledger}

/-- The operation propagates a deletion to the provider. -/
def Op.deletes (op : Op) (email : String) (receiptId : Uuid) : Prop :=
  ∃ job : Job, op = .handle job ∧ job.queue = .control ∧ job.payload = .deleteLead email receiptId

section Tombstones

/-- What a deed does to a tombstone: it is made without a stamp, and stamped by a job
that has its receipt. -/
inductive TombstoneStep (op : Op) (old : Option Tombstone) (new : Tombstone) : Prop where
  | same (present : old = some new)
  | made (which : ∃ ref, op = .forget ref) (unsent : new.providerPropagatedAt = none)
  | stamped (email : String) (row : Tombstone) (present : old = some row)
      (deletes : op.deletes email row.receiptId) (receipt : new.receiptId = row.receiptId)

theorem tombstone_of_deed (deed : Deed site vouch op start l after) {hash : String}
    {new : Tombstone} (present : after.tombstones hash = some new) :
    TombstoneStep op (l.tombstones hash) new := by
  cases deed with
  | enqueue queue payload key delay plain orders enqueued =>
      obtain ⟨_, _, rfl⟩ := enqueued_frame enqueued
      exact .same present
  | trigger eventId prospectId which seen since lead found state enqueued =>
      obtain ⟨_, _, rfl⟩ := enqueued_frame enqueued
      exact .same present
  | draft touchId item new drafting met enqueued =>
      obtain ⟨_, _, rfl⟩ := enqueued_frame enqueued
      exact .same present
  | approve touchId actor item which found held enqueued =>
      obtain ⟨_, _, rfl⟩ := enqueued_frame enqueued
      exact .same present
  | send touchId item lead owner met mailbox ref sendable queued vouched planned =>
      obtain ⟨_, _, _, rfl⟩ := planned_frame planned
      exact .same present
  | settle taskId actor finished note task item which found pending touch counted =>
      obtain ⟨_, rfl⟩ := counted_frame counted
      exact .same present
  | suppress address scope reason idle enqueued =>
      obtain ⟨_, _, rfl⟩ := enqueued_frame enqueued
      exact .same present
  | halt scope actor flag which enqueued =>
      obtain ⟨_, _, rfl⟩ := enqueued_frame enqueued
      exact .same present
  | notify address other receiptId hashed buried enqueued =>
      obtain ⟨_, _, rfl⟩ := enqueued_frame enqueued
      exact .same present
  | tombstone other row which absent unsent =>
      change Function.update l.tombstones other (some row) hash = some new at present
      by_cases here : hash = other
      · subst here
        rw [Function.update_self] at present
        obtain rfl := Option.some.inj present
        exact .made which unsent
      · rw [Function.update_of_ne here] at present
        exact .same present
  | propagate email receiptId chosen which theirs =>
      change changed l.tombstones chosen _ hash = some new at present
      unfold changed at present
      by_cases picked : chosen hash = true
      · rw [if_pos picked] at present
        obtain ⟨row, found, rfl⟩ := Option.map_eq_some_iff.1 present
        obtain rfl := theirs hash row picked found
        exact .stamped email row found which rfl
      · rw [if_neg picked] at present
        exact .same present
  | _ => exact .same present

theorem tombstone_of_path (path : Relation.ReflTransGen (Deed site vouch op start) l after)
    {hash : String} {new : Tombstone} (present : after.tombstones hash = some new) :
    TombstoneStep op (l.tombstones hash) new := by
  induction path generalizing new with
  | refl => exact .same present
  | tail _ deed induction =>
      cases tombstone_of_deed deed present with
      | same there => exact induction there
      | made which unsent => exact .made which unsent
      | stamped email row there deletes receipt =>
          cases induction there with
          | same first => exact .stamped email row first deletes receipt
          | made which unsent =>
              obtain ⟨job, handles, _⟩ := deletes
              obtain ⟨ref, forgets⟩ := which
              rw [forgets] at handles
              cases handles
          | stamped other first present _ same =>
              rw [same] at deletes
              exact .stamped email first present deletes (receipt.trans same)

end Tombstones

section Notices

theorem payload_of_enqueued {time : Time} {queue : QueueName} {payload : JobPayload} {key : JobKey}
    {delay id : Nat} {new : JobRow} (enqueued : Enqueued time queue payload key delay l after)
    (present : after.jobs id = some new) :
    l.jobs id = some new ∨ new.queue = queue ∧ new.payload = payload := by
  cases enqueued with
  | known _ => exact Or.inl present
  | fresh other unknown unused =>
      rcases job_of_set present with same | ⟨rfl, rfl⟩
      · exact Or.inl same
      · exact Or.inr ⟨rfl, rfl⟩

theorem JobStep.payload {time : Time} {id : Nat} {old new : JobRow} (step : JobStep op time id old new) :
    new.queue = old.queue ∧ new.payload = old.payload := by
  cases step <;> exact ⟨rfl, rfl⟩

/-- A new job that deletes is made for an address that has its tombstone. -/
theorem notice_of_deed (deed : Deed site vouch op start l after) {id : Nat} {new : JobRow}
    {email : String} {receiptId : Uuid} (present : after.jobs id = some new)
    (queue : new.queue = .control) (payload : new.payload = .deleteLead email receiptId) :
    (∃ old, l.jobs id = some old ∧ old.queue = .control ∧
      old.payload = .deleteLead email receiptId) ∨ after.buried site.platform email := by
  have other : l.jobs id = some new → (∃ old, l.jobs id = some old ∧ old.queue = .control ∧
      old.payload = .deleteLead email receiptId) ∨ after.buried site.platform email :=
    fun same => Or.inl ⟨new, same, queue, payload⟩
  have unlike : ∀ {middle : Ledger} {time : Time} {queue : QueueName} {told : JobPayload}
      {key : JobKey} {delay : Nat}, Enqueued time queue told key delay middle after →
      middle.jobs = l.jobs → told ≠ .deleteLead email receiptId →
      (∃ old, l.jobs id = some old ∧ old.queue = .control ∧
        old.payload = .deleteLead email receiptId) ∨ after.buried site.platform email := by
    intro middle time name told key delay enqueued same different
    rcases payload_of_enqueued enqueued present with there | ⟨_, mine⟩
    · rw [same] at there
      exact other there
    · rw [payload] at mine
      exact absurd mine.symm different
  rcases job_of_deed deed present with same | ⟨absent, fresh⟩ | ⟨old, found, step⟩
  · exact other same
  · have moved : ∀ {known : Nat} {work row : JobRow}, l.jobs known = some work →
        (l.setJob known row).jobs id = some new → l.jobs id = some new := by
      intro known work row found present
      rcases job_of_set present with same | ⟨rfl, _⟩
      · exact same
      · rw [absent] at found
        cases found
    cases deed with
    | enqueue name told key delay plain orders enqueued =>
        rcases payload_of_enqueued enqueued present with there | ⟨mine, same⟩
        · exact other there
        · rw [queue] at mine
          subst mine
          rw [payload] at same
          subst same
          cases key with
          | forget hash => cases plain
          | pause address scope reason => cases plain
          | halt scope flag => cases plain
          | deliver touchId => cases plain
          | followup prospectId stepIndex => cases plain
          | triggerCompose eventId prospectId => cases plain
          | compose prospectId => cases orders.1
          | _ => exact absurd rfl orders.2.2
    | trigger eventId prospectId which seen since lead found state enqueued =>
        exact unlike enqueued rfl nofun
    | draft touchId item new drafting met enqueued => exact unlike enqueued rfl nofun
    | approve touchId actor item which found held enqueued => exact unlike enqueued rfl nofun
    | send touchId item lead owner met mailbox ref sendable queued vouched planned =>
        cases planned with
        | idle none => exact other present
        | last spec budgeted found ended owner entity => exact other present
        | next spec budgeted found more enqueued => exact unlike enqueued rfl nofun
    | settle taskId actor finished note task item which found pending touch counted =>
        obtain ⟨_, rfl⟩ := counted_frame counted
        exact other present
    | suppress address scope reason idle enqueued => exact unlike enqueued rfl nofun
    | halt scope actor flag which enqueued => exact unlike enqueued rfl nofun
    | notify address hash receipt hashed buried enqueued =>
        rcases payload_of_enqueued enqueued present with there | ⟨_, mine⟩
        · exact other there
        · rw [payload] at mine
          obtain ⟨rfl, _⟩ := JobPayload.deleteLead.inj mine
          exact Or.inr (Ledger.buried_later site.platform email _ _ (enqueued_later enqueued)
            ⟨hash, hashed, buried⟩)
    | lease id work name which found ready => exact other (moved found present)
    | complete job work which found => exact other (moved found present)
    | retry job error permanent work which left found => exact other (moved found present)
    | bury job text work which found => exact other (moved found present)
    | reap chosen which expired =>
        change changed l.jobs chosen _ id = some new at present
        unfold changed at present
        rw [absent] at present
        by_cases picked : chosen id = true
        · rw [if_pos picked] at present
          cases present
        · rw [if_neg picked] at present
          cases present
    | _ => exact other present
  · obtain ⟨name, told⟩ := step.payload
    exact Or.inl ⟨old, found, name.symm.trans queue, told.symm.trans payload⟩

theorem notice_of_path (path : Relation.ReflTransGen (Deed site vouch op start) l after) {id : Nat}
    {new : JobRow} {email : String} {receiptId : Uuid} (present : after.jobs id = some new)
    (queue : new.queue = .control) (payload : new.payload = .deleteLead email receiptId) :
    (∃ old, l.jobs id = some old ∧ old.queue = .control ∧
      old.payload = .deleteLead email receiptId) ∨ after.buried site.platform email := by
  induction path generalizing new with
  | refl => exact Or.inl ⟨new, present, queue, payload⟩
  | tail _ deed induction =>
      rcases notice_of_deed deed present queue payload with ⟨old, found, name, told⟩ | buried
      · rcases induction found name told with earlier | buried
        · exact Or.inl earlier
        · exact Or.inr (Ledger.buried_later site.platform email _ _ (deed_later _ _ _ _ deed) buried)
      · exact Or.inr buried

end Notices

section Hearing

variable {whole : History} {email : String} {receiptId : Uuid}

/-- A job that deletes writes only after a remote provider has done as it was asked. -/
def obeying (site : Deployment) (whole : History) (op : Op) (_ : Write Database RowLock) : Prop :=
  ∀ email receiptId, op.deletes email receiptId → site.provider = .remote →
    Heard whole op (.pauseLead email) (.ok ())

theorem Op.deletes_unique {other : String} {second : Uuid} (one : op.deletes email receiptId)
    (two : op.deletes other second) : other = email ∧ second = receiptId := by
  obtain ⟨job, rfl, _, payload⟩ := one
  obtain ⟨_, same, _, again⟩ := two
  obtain rfl := Op.handle.inj same
  exact JobPayload.deleteLead.inj (again.symm.trans payload)

theorem told_delete (deletes : op.deletes email receiptId) :
    Told (Heard whole op) (obeying site whole op) (controlOp site (.deleteLead email receiptId)) := by
  have only : (site.provider = .remote → Heard whole op (.pauseLead email) (.ok ())) →
      ∀ write, obeying site whole op write := by
    intro heard write other second also
    obtain ⟨rfl, _⟩ := Op.deletes_unique deletes also
    exact heard
  unfold controlOp Provider.pauseLead
  cases provider : site.provider with
  | remote =>
      intro answer heard
      cases answer with
      | error error => trivial
      | ok done =>
          have all := only fun _ => heard
          exact told_trivial all _
  | smtp provider_ =>
      have all := only fun remote => absurd (provider.symm.trans remote) nofun
      exact told_trivial all _

theorem told_obeying (op : Op) :
    Told (Heard whole op) (obeying site whole op) (op.program site) := by
  by_cases deletes : ∃ email receiptId, op.deletes email receiptId
  · obtain ⟨email, receiptId, deletes⟩ := deletes
    have told : Told (Heard whole op) (obeying site whole op)
        (controlOp site (.deleteLead email receiptId)) := told_delete deletes
    obtain ⟨job, rfl, queue, payload⟩ := deletes
    have same : handler site job = controlOp site (.deleteLead email receiptId) := by
      unfold handler
      rw [queue, payload]
    change Told _ _ (unitOut (handler site job))
    rw [same]
    exact told_bind told fun _ => told_pure _
  · exact told_trivial (fun _ email receiptId some => absurd ⟨email, receiptId, some⟩ deletes) _

end Hearing

section Runs

variable {world later : World} {past : History}

/-- Whoever works on the deletion of an address works on one that has its tombstone. -/
structure Noticed (site : Deployment) (world : World) : Prop where
  rows : ∀ id work email receiptId, world.committed.ledger.jobs id = some work →
    work.queue = .control → work.payload = .deleteLead email receiptId →
      world.committed.ledger.buried site.platform email
  hands : ∀ index session job email receiptId, world.session index = some session →
    session.op.job = some job → job.queue = .control → job.payload = .deleteLead email receiptId →
      world.committed.ledger.buried site.platform email

theorem noticed_step {action : Act} (sane : Sane site world) (noticed : Noticed site world)
    (vouched : Vouched rule world action)
    (step : (service site).act action world = some later)
    (advance : Advance site rule world later action) : Noticed site later where
  rows := by
    intro id work email receiptId present queue payload
    cases advance with
    | idle same =>
        rw [same] at present ⊢
        exact noticed.rows id work email receiptId present queue payload
    | clock ticks moved =>
        rw [moved] at present ⊢
        exact noticed.rows id work email receiptId present queue payload
    | commit index session out found commits since wrote path =>
        rcases notice_of_path path present queue payload with ⟨old, there, name, told⟩ | buried
        · exact Ledger.buried_later site.platform email _ _ (path_later path)
            (noticed.rows id old email receiptId there name told)
        · exact buried
  hands := by
    intro index session job email receiptId found hand queue payload
    apply Ledger.buried_later site.platform email _ _ (later_advance advance)
    rcases job_of_origin sane vouched step found hand with ⟨old, there, same, _⟩ |
      ⟨_, name, time, work, handed⟩
    · exact noticed.hands index old job email receiptId there same queue payload
    · have same := handed.same
      rw [same] at queue payload
      exact noticed.rows job.id work email receiptId handed.found queue payload

/-- The provider has deleted an address when it was asked to. A direct provider has nothing
to delete, and returns at once. -/
def Provider.obeyed (provider : Provider) (email : String) (index : Nat)
    (session : Session Database RowLock Exc Mark Call Call.Answer Op Out) (action : Act) : Prop :=
  match provider with
  | .remote => ∃ reply next, action = .answer index reply ∧
      session.program = .call (.pauseLead email) next ∧ reply (.pauseLead email) = .ok ()
  | .smtp _ => ∃ out, Committing session out

/-- The provider has been asked to delete the address of the tombstone, while it had its
tombstone, and has done so. -/
def Deleted (site : Deployment) (past : History) (hash : String) : Prop :=
  ∃ world action index session email receiptId, (world, action) ∈ past ∧
    world.session index = some session ∧ session.op.deletes email receiptId ∧
    tombstoneHash site.platform email = .ok hash ∧
    (world.committed.forgetTombstones.lookup hash).isSome = true ∧
    site.provider.obeyed email index session action

/-- A job that deletes finds its receipt on no tombstone that is still to be stamped, but
that of its own address. -/
def Undivided (site : Deployment) (world : World) (action : Act) : Prop :=
  ∀ index session out email receiptId, action = .finish index →
    world.session index = some session → Committing session out →
    session.op.deletes email receiptId →
    ∀ hash row, world.committed.forgetTombstones.lookup hash = some row →
      row.receiptId = receiptId → row.providerPropagatedAt = none →
        tombstoneHash site.platform email = .ok hash

theorem deleted_mono {whole : History} {hash : String} (more : past ⊆ whole)
    (deleted : Deleted site past hash) : Deleted site whole hash := by
  obtain ⟨world, action, index, session, email, receiptId, member, rest⟩ := deleted
  exact ⟨world, action, index, session, email, receiptId, more member, rest⟩

theorem buried_own {email hash : String} (hashed : tombstoneHash site.platform email = .ok hash)
    (buried : l.buried site.platform email) : (l.tombstones hash).isSome = true := by
  obtain ⟨other, same, there⟩ := buried
  obtain rfl := Except.ok.inj (hashed.symm.trans same)
  exact there

/-- The call of a job that stamps has been made in the run. -/
theorem deleted_of_commit {email hash : String} {receiptId : Uuid} {index : Nat} {out : Out}
    {session : Session Database RowLock Exc Mark Call Call.Answer Op Out}
    (each : ∀ entry ∈ past, Noticed site entry.1) (noticed : Noticed site world)
    (informed : Informed past (obeying site past) session)
    (found : world.session index = some session) (commits : Committing session out)
    (deletes : session.op.deletes email receiptId)
    (wrote : ∃ write, write ∈ session.txn.writes)
    (hashed : tombstoneHash site.platform email = .ok hash) :
    Deleted site (past ++ [(world, .finish index)]) hash := by
  have known : ∀ {system : World} {at_ : Nat}
      {session : Session Database RowLock Exc Mark Call Call.Answer Op Out},
      Noticed site system → system.session at_ = some session → session.op.deletes email receiptId →
      (system.committed.forgetTombstones.lookup hash).isSome = true := by
    intro system at_ session noticed found deletes
    obtain ⟨job, handles, queue, payload⟩ := deletes
    have hand : session.op.job = some job := by
      rw [handles]
      rfl
    exact buried_own hashed (noticed.hands at_ session job email receiptId found hand queue payload)
  cases provider : site.provider with
  | remote =>
      obtain ⟨write, member⟩ := wrote
      obtain ⟨system, at_, reply, next, txn, entry, there, answered⟩ :=
        informed.2 write member email receiptId deletes provider
      refine ⟨system, .answer at_ reply, at_, _, email, receiptId, List.mem_append_left _ entry,
        there, deletes, hashed, known (each _ entry) there deletes, ?_⟩
      rw [provider]
      exact ⟨reply, next, rfl, rfl, answered⟩
  | smtp provider_ =>
      refine ⟨world, .finish index, index, session, email, receiptId, by simp, found, deletes,
        hashed, known noticed found deletes, ?_⟩
      rw [provider]
      exact ⟨out, commits⟩

/-- Where no job stamps the tombstone of another address, a stamp says that the provider
has deleted the address since its tombstone was made. -/
theorem tombstones_truthful {start : World} (quiet : start.sessions = [])
    (linked : Linked start.committed.ledger) (noticed : Noticed site start)
    (trace : Trace (service site) (Undivided site) start past world) {hash : String}
    {row : Tombstone} (found : world.committed.forgetTombstones.lookup hash = some row)
    (stamped : row.providerPropagatedAt ≠ none) :
    (∃ old, start.committed.forgetTombstones.lookup hash = some old ∧
      old.providerPropagatedAt ≠ none) ∨ Deleted site past hash := by
  have free : ∀ world action, Undivided site world action →
      Vouched (fun _ _ _ _ => True) world action := vouched_free
  have holds := invariant_of_trace (fun past world => Noticed site world ∧
    (∀ entry ∈ past, Noticed site entry.1) ∧
    ∀ hash row, world.committed.ledger.tombstones hash = some row →
      row.providerPropagatedAt ≠ none →
      (∃ old, start.committed.ledger.tombstones hash = some old ∧
        old.providerPropagatedAt ≠ none) ∨ Deleted site past hash)
    free ?_ quiet linked ⟨noticed, fun _ member => absurd member List.not_mem_nil, ?_⟩ trace
  · exact holds.2.2.2 hash row found stamped
  · rintro past world action after before sane ⟨noticed, each, truthful⟩ undivided step advance
    refine ⟨noticed_step sane noticed (free _ _ undivided) step advance, ?_, ?_⟩
    · intro entry member
      rcases List.mem_append.1 member with earlier | last
      · exact each entry earlier
      · rw [List.mem_singleton.1 last]
        exact noticed
    · intro hash row present stamped
      have further : past ⊆ past ++ [(world, action)] := List.subset_append_left _ _
      have onward : (∃ old, world.committed.ledger.tombstones hash = some old ∧
          old.providerPropagatedAt ≠ none) → (∃ old, start.committed.ledger.tombstones hash = some old ∧
            old.providerPropagatedAt ≠ none) ∨ Deleted site (past ++ [(world, action)]) hash := by
        rintro ⟨old, there, sent⟩
        rcases truthful hash old there sent with first | deleted
        · exact Or.inl first
        · exact Or.inr (deleted_mono further deleted)
      cases advance with
      | idle same =>
          rw [same] at present
          exact onward ⟨row, present, stamped⟩
      | clock ticks moved =>
          rw [moved] at present
          exact onward ⟨row, present, stamped⟩
      | commit index session out found commits since wrote path =>
          cases tombstone_of_path path present with
          | same there => exact onward ⟨row, there, stamped⟩
          | made which unsent => exact absurd unsent stamped
          | stamped email old there deletes receipt =>
              by_cases sent : old.providerPropagatedAt = none
              · have own := undivided index session out email old.receiptId rfl found commits deletes
                  hash old there rfl sent
                have informed := told_of_trace told_obeying quiet before (List.Subset.refl past)
                have written : ∃ write, write ∈ session.txn.writes := by
                  apply List.exists_mem_of_ne_nil
                  intro nothing
                  have same : session.txn.view world.committed = world.committed := by
                    unfold Txn.view
                    rw [nothing]
                    rfl
                  rw [wrote, same, there] at present
                  obtain rfl := Option.some.inj present
                  exact stamped sent
                exact Or.inr (deleted_of_commit each noticed (informed index session found) found
                  commits deletes written own)
              · exact onward ⟨old, there, sent⟩
  · intro hash row present stamped
    exact Or.inl ⟨row, present, stamped⟩

end Runs

section Sample

/-- Texts in order are sorted as they stand. -/
def sortedQuick (texts : List String) : List String :=
  if texts.eraseDups.Pairwise (fun first second => textLe first second = true) then texts.eraseDups
  else sortedSet texts

theorem sortedSet_quick : sortedSet = sortedQuick := by
  funext texts
  unfold sortedQuick
  split_ifs with ordered
  · exact List.mergeSort_of_pairwise ordered
  · rfl

/-- `forget`, with a sort that can be evaluated. -/
def quickForget : { program : Platform → ForgetRef → Prog Unit // forget = program } :=
  ⟨_, by
    delta forget
    rw [sortedSet_quick]⟩

def quickService (site : Deployment) : Service Database RowLock Exc Mark Call Call.Answer Op Out :=
  { service site with
    program := fun op => match op with
      | .forget ref => unitOut (quickForget.1 site.platform ref)
      | other => other.program site }

theorem service_quick (site : Deployment) : service site = quickService site := by
  have same : Op.program site = (quickService site).program := by
    funext op
    cases op with
    | forget ref =>
        change unitOut (forget site.platform ref) = unitOut (quickForget.1 site.platform ref)
        rw [← quickForget.2]
    | _ => rfl
  unfold service
  rw [same]
  rfl

def secondAddress : String := "ben@clinic.example"

/-- Sends through a remote provider. -/
def remoteDeployment : Deployment :=
  { sampleDeployment with
    runtime := { platform := Platform.ascii [(sampleAddress.toList, "sha256-of-ana"),
      (secondAddress.toList, "sha256-of-ben")] }
    provider := .remote }

/-- A job that has been leased and is worked off. -/
def deletesOne (index : Nat) : List Move := [begin (.lease .control), go index 2, go index 5]

/-- `Undivided`, tried on one action. -/
def undividedHere (site : Deployment) (world : World) : Act → Bool
  | .finish index =>
      match world.session index with
      | some ⟨.handle ⟨_, _, .deleteLead email receiptId, _, _⟩, _, _⟩ =>
          (world.committed.forgetTombstones.select fun hash row =>
            row.receiptId = receiptId && row.providerPropagatedAt.isNone &&
              match tombstoneHash site.platform email with
              | .ok own => own != hash
              | .error _ => true).isEmpty
      | _ => true
  | _ => true

theorem undividedHere_sound (site : Deployment) (world : World) (action : Act)
    (checked : undividedHere site world action = true) : Undivided site world action := by
  rintro index ⟨op, program, txn⟩ out email receiptId rfl found commits ⟨job, which, queue, payload⟩
    hash row present receipt unsent
  obtain ⟨id, name, told, attempts, limit⟩ := job
  obtain rfl : told = .deleteLead email receiptId := payload
  obtain rfl : op = _ := which
  simp only [undividedHere, found, List.isEmpty_iff] at checked
  by_contra other
  have member := (Table.mem_select_iff world.committed.forgetTombstones (fun hash row =>
    row.receiptId = receiptId && row.providerPropagatedAt.isNone &&
      match tombstoneHash site.platform email with
      | .ok own => own != hash
      | .error _ => true) hash row).2 ⟨present, by
        rw [unsent]
        cases hashed : tombstoneHash site.platform email with
        | error error => simp [receipt]
        | ok own =>
            rw [hashed] at other
            have different : own ≠ hash := fun same => other (congrArg Except.ok same)
            simp [receipt, different]⟩
  rw [checked] at member
  cases member

theorem noticed_sample (site : Deployment) : Noticed site sampleWorld where
  rows := by
    intro id work email receiptId found queue payload
    simp [Database.ledger, sampleWorld, sampleDatabase] at found
    obtain ⟨rfl, rfl⟩ := found
    cases queue
  hands := by
    intro index session job email receiptId found
    rw [System.session_of_quiet rfl] at found
    cases found

/-- An address is forgotten, and its job done. -/
def forgetsOne : List Move :=
  begin (.forget (.address sampleAddress)) :: go 0 16 700 :: deletesOne 1

theorem forgotten_truthful : ∃ past world row,
    Trace (service remoteDeployment) (Undivided remoteDeployment) sampleWorld past world ∧
    world.committed.forgetTombstones.lookup "sha256-of-ana" = some row ∧
    row.providerPropagatedAt ≠ none ∧ Deleted remoteDeployment past "sha256-of-ana" := by
  have tried : ((quickService remoteDeployment).scriptChecked (undividedHere remoteDeployment)
      forgetsOne sampleWorld).any (fun world =>
        (world.committed.forgetTombstones.lookup "sha256-of-ana").any fun row =>
          row.providerPropagatedAt.isSome) = true := by
    decide +kernel
  rw [← service_quick] at tried
  obtain ⟨world, played, seen⟩ := (Option.any_eq_true _ _).1 tried
  obtain ⟨past, trace⟩ := trace_of_run (run_of_scriptChecked (service remoteDeployment)
    (undividedHere_sound remoteDeployment) played)
  obtain ⟨row, found, stamped⟩ := (Option.any_eq_true _ _).1 seen
  have sent : row.providerPropagatedAt ≠ none := Option.isSome_iff_ne_none.1 stamped
  refine ⟨past, world, row, trace, found, sent, ?_⟩
  rcases tombstones_truthful rfl sample_linked (noticed_sample remoteDeployment) trace found sent with
    ⟨old, there, _⟩ | deleted
  · cases there
  · exact deleted

/-- Two people with addresses of their own are one entity. -/
def householdWorld : World :=
  { committed := { sampleDatabase with
      prospects := sampleDatabase.prospects.insert 6 { sampleProspect with
        emailRaw := some secondAddress, emailCanonical := some secondAddress } } }

/-- The entity is forgotten, and the first of its two jobs done. -/
def forgetsBoth : List Move :=
  begin (.forget (.entity 2)) :: go 0 16 700 :: go 0 4 701 :: deletesOne 1

theorem household_stamped : ∃ past world row,
    Trace (service remoteDeployment) unrestricted householdWorld past world ∧
    householdWorld.committed.forgetTombstones.lookup "sha256-of-ben" = none ∧
    world.committed.forgetTombstones.lookup "sha256-of-ben" = some row ∧
    row.providerPropagatedAt ≠ none ∧ ¬ Deleted remoteDeployment past "sha256-of-ben" := by
  have tried : ((quickService remoteDeployment).script forgetsBoth householdWorld).any (fun world =>
      ((world.committed.forgetTombstones.lookup "sha256-of-ben").any fun row =>
        row.providerPropagatedAt.isSome) && world.calls.all fun call =>
          match call with
          | .pauseLead email => email = sampleAddress
          | _ => true) = true := by
    decide +kernel
  rw [← service_quick] at tried
  obtain ⟨world, played, seen⟩ := (Option.any_eq_true _ _).1 tried
  obtain ⟨past, trace⟩ := trace_of_run (run_of_further played)
  rw [Bool.and_eq_true] at seen
  obtain ⟨row, found, stamped⟩ := (Option.any_eq_true _ _).1 seen.1
  refine ⟨past, world, row, trace, rfl, found, Option.isSome_iff_ne_none.1 stamped, ?_⟩
  rintro ⟨middle, action, index, ⟨op, program, txn⟩, email, receiptId, member, there, deletes, hashed,
    _, reply, next, rfl, rfl, given⟩
  have heard : Heard past op (.pauseLead email) (.ok ()) :=
    ⟨middle, index, reply, next, txn, member, there, given⟩
  have asked := List.all_eq_true.1 seen.2 _ (called_of_heard trace heard)
  obtain rfl : email = sampleAddress := of_decide_eq_true asked
  have own : tombstoneHash remoteDeployment.platform sampleAddress = .ok "sha256-of-ana" := by
    decide +kernel
  rw [own] at hashed
  exact absurd (Except.ok.inj hashed) (by decide)

end Sample

end OpenReachout
