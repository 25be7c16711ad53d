import OpenReachout.Outreach.Ordinary
import OpenReachout.Properties.Addresses
import OpenReachout.Properties.ClaimSoundness
import OpenReachout.Relational.Hearing

/-!
# Recipients

The verifier is asked about the address as it was found, and the message goes to its
canonical form. Where the two are one, only addresses that were verified are mailed.
-/

namespace OpenReachout

open Relational Relational.Program Text

set_option autoImplicit false

abbrev History := Past Database RowLock Exc Mark Call Call.Answer Op Out

/-- The verifier has answered, in an enrichment of the prospect. -/
def Verified (past : History) (id : Uuid) (address : String) : Prop :=
  ∃ op : Op, op.works .enrich id ∧ Heard past op (.verify address) (.ok .verified)

variable {site : Deployment} {heard : (call : Call) → call.Answer → Prop}

section Writes

/-- The address of a prospect and its confidence are as they were, or those that the
verifier was asked for and has given. -/
def Addressed (platform : Platform) (told : String → ConfidenceBucket → Prop)
    (old lead : Prospect) : Prop :=
  (lead.emailCanonical = old.emailCanonical ∧ lead.emailConfidence = old.emailConfidence) ∨
    ∃ raw bucket, told raw bucket ∧ lead.emailCanonical = canon platform raw ∧
      lead.emailConfidence = some bucket

variable {platform : Platform} {told : String → ConfidenceBucket → Prop}

theorem addressed_refl (lead : Prospect) : Addressed platform told lead lead := Or.inl ⟨rfl, rfl⟩

theorem addressed_trans {first second third : Prospect} (one : Addressed platform told first second)
    (two : Addressed platform told second third) : Addressed platform told first third := by
  rcases two with ⟨address, confidence⟩ | given
  · rcases one with ⟨old, bucket⟩ | ⟨raw, bucket, asked, canonical, answer⟩
    · exact Or.inl ⟨address.trans old, confidence.trans bucket⟩
    · exact Or.inr ⟨raw, bucket, asked, address.trans canonical, confidence.trans answer⟩
  · exact Or.inr given

/-- So it is of every prospect there is. -/
def AllAddressed (platform : Platform) (told : String → ConfidenceBucket → Prop)
    (before after : Database) : Prop :=
  ∀ id lead, after.prospects.lookup id = some lead →
    ∃ old, before.prospects.lookup id = some old ∧ Addressed platform told old lead

theorem all_addressed_refl (db : Database) : AllAddressed platform told db db :=
  fun _ lead found => ⟨lead, found, addressed_refl lead⟩

theorem all_addressed_trans {one two three : Database} (early : AllAddressed platform told one two)
    (late : AllAddressed platform told two three) : AllAddressed platform told one three := by
  intro id lead found
  obtain ⟨middle, there, last⟩ := late id lead found
  obtain ⟨old, known, first⟩ := early id middle there
  exact ⟨old, known, addressed_trans first last⟩

/-- A write that leaves no other address behind. -/
def Readdresses (platform : Platform) (told : String → ConfidenceBucket → Prop)
    (write : Write Database RowLock) : Prop :=
  ∀ db, AllAddressed platform told db (write.apply db)

/-- What leaves the prospects alone. -/
def elsewhere : Allowed where
  mark _ := True
  write write := ∀ db, (write.apply db).prospects = db.prospects
  idle _ := rfl

theorem readdresses_elsewhere {write : Write Database RowLock} (apart : elsewhere.write write) :
    Readdresses platform told write := by
  intro db id lead found
  rw [apart db] at found
  exact ⟨lead, found, addressed_refl lead⟩

theorem readdresses_modify {keys : List Uuid} {chosen : Uuid → Prospect → Bool}
    {change : Prospect → Prospect} (each : ∀ row, Addressed platform told row (change row)) :
    Readdresses platform told (Write.modify Tables.prospects keys chosen change) := by
  intro db id lead found
  change (db.prospects.modify _ change).lookup id = some lead at found
  rw [Table.lookup_modify] at found
  obtain ⟨old, there, same⟩ := Option.map_eq_some_iff.1 found
  refine ⟨old, there, ?_⟩
  rw [← same]
  split_ifs
  · exact each old
  · exact addressed_refl old

theorem within_elsewhere_storeEvidence (prospectId : Uuid) (card : List Fact) :
    Within elsewhere (storeEvidence prospectId card) := by
  have facts : elsewhere.Changes Tables.evidenceFacts := fun _ _ _ _ _ => rfl
  unfold storeEvidence
  refine within_bind (within_deleteRows facts _) fun _ => within_forM (fun fact => ?_) card
  exact within_bind (within_ask _) fun id =>
    within_insertRow elsewhere.marks_none facts _ _ _ _

theorem within_elsewhere_enqueue (queue : QueueName) (payload : JobPayload) (key : JobKey)
    (delay attempts : Nat) : Within elsewhere (enqueue queue payload key delay attempts) := by
  have jobs : elsewhere.Changes Tables.jobs := fun _ _ _ _ _ => rfl
  have index : elsewhere.Changes Tables.jobIndex := fun _ _ _ _ _ => rfl
  unfold enqueue
  grind

/-- A program that leaves the prospects alone. -/
theorem told_elsewhere {Value : Type} {program : Prog Value} (within_ : Within elsewhere program) :
    Told heard (Readdresses platform told) program :=
  told_of_within within_ fun _ apart => readdresses_elsewhere apart

theorem told_attempt {Value Other : Type} {good : Write Database RowLock → Prop} {call : Call}
    {same : call.Answer = Except Exc Value} {rest : Value → Prog Other}
    (second : ∀ value, heard call (cast same.symm (.ok value)) → Told heard good (rest value)) :
    Told heard good (attempt call same >>= rest) := by
  intro answer given
  refine told_ofExcept fun value answered => second value ?_
  rw [← answered, cast_cast, cast_eq]
  exact given

theorem told_transition (prospectId : Uuid) (target : ProspectState) (actor reason : String) :
    Told heard (Readdresses platform told) (transition prospectId target actor reason) := by
  unfold transition
  refine told_bind (told_elsewhere ?_) fun rows => ?_
  · exact within_lockRowsMarked (elsewhere.marks_some trivial) _ _
  · match rows with
    | [] => exact told_throw _
    | (id, row) :: rest =>
        dsimp only
        by_cases illegal : target ∉ transitions row.state
        · rw [if_pos illegal]
          exact told_throw _
        · rw [if_neg illegal]
          refine told_bind (told_updateChecked fun moment keys chosen => ?_) fun _ => ?_
          · exact readdresses_modify fun row => Or.inl ⟨rfl, rfl⟩
          · exact told_elsewhere (within_appendRow fun _ _ => rfl)

/-- From the answer of the verifier to the queue of qualification. -/
theorem told_attachAddress (prospectId : Uuid) (address : String) (bucket : ConfidenceBucket)
    (given : told address bucket) :
    Told heard (Readdresses site.platform told) (attachAddress site prospectId address bucket) := by
  unfold attachAddress
  refine told_bind (told_updateChecked fun moment keys chosen => ?_) fun _ => told_pure _
  exact readdresses_modify fun row => Or.inr ⟨address, bucket, given, rfl, rfl⟩

theorem told_addressed (prospectId : Uuid) (address : Option String) :
    Told heard (Readdresses site.platform fun raw bucket => heard (.verify raw) (.ok bucket))
      (match address with
      | none => transition prospectId .unenrichable "system:enrich"
      | some address => do
          let bucket ← attempt (.verify address) rfl
          attachAddress site prospectId address bucket
          if bucket ≠ .verified then
            transition prospectId .unenrichable "system:enrich"
          else
            transition prospectId .enriched "system:enrich"
            let _ ← enqueue .qualify (.prospect prospectId) (.qualify prospectId)) := by
  cases address with
  | none => exact told_transition _ _ _ _
  | some address =>
      refine told_attempt fun bucket given => ?_
      refine told_bind (told_attachAddress prospectId address bucket given) fun _ => ?_
      split_ifs
      · exact told_transition _ _ _ _
      · refine told_bind (told_transition _ _ _ _) fun _ => ?_
        exact told_bind (told_elsewhere (within_elsewhere_enqueue _ _ _ _ _)) fun _ => told_pure _

theorem told_enrich (prospectId : Uuid) :
    Told heard (Readdresses site.platform fun raw bucket => heard (.verify raw) (.ok bucket))
      (enrich site prospectId) := by
  unfold enrich
  refine told_bind (told_elsewhere (Ordinary.within_loadCandidate _)) fun candidate => ?_
  cases candidate with
  | none => exact told_pure _
  | some candidate =>
      refine told_bind (told_elsewhere (Ordinary.within_attempt _ _)) fun card => ?_
      refine told_bind (told_elsewhere (within_elsewhere_storeEvidence _ _)) fun _ => ?_
      dsimp only
      split
      · exact told_bind (told_pure _) fun address => told_addressed prospectId address
      · refine told_bind (told_elsewhere (Ordinary.within_attempt _ _)) fun address => ?_
        exact told_addressed prospectId address

end Writes

section Runs

variable {first : Ledger} {whole past : History} {start world later : World}

/-- What an operation writes of addresses, if it enriches. -/
def enriching (site : Deployment) (whole : History) (op : Op) (write : Write Database RowLock) :
    Prop :=
  (∃ id, op.works .enrich id) →
    Readdresses site.platform (fun raw bucket => Heard whole op (.verify raw) (.ok bucket)) write

theorem told_program (op : Op) :
    Told (Heard whole op) (enriching site whole op) (op.program site) := by
  by_cases works : ∃ id, op.works .enrich id
  · obtain ⟨id, job, rfl, queue, payload⟩ := works
    have same : handler site job = enrich site id := by
      unfold handler
      rw [queue, payload]
    refine told_mono (fun write good _ => good) ?_
    change Told _ _ (unitOut (handler site job))
    rw [same]
    exact told_bind (told_enrich id) fun _ => told_pure _
  · exact told_trivial (fun _ enriches => absurd enriches works) _

/-- The prospects of touches and of replies have been qualified. -/
structure Acquainted (l : Ledger) : Prop where
  touched : ∀ id item, l.touches id = some item →
    ∃ lead, l.prospects item.prospectId = some lead ∧ lead.state.met = true
  replied : ∀ id reply, l.replies id = some reply →
    ∃ lead, l.prospects reply.prospectId = some lead ∧ lead.state.met = true

theorem met_onward {l after : Ledger} (onward : Later l after) {id : Uuid}
    (met : ∃ lead, l.prospects id = some lead ∧ lead.state.met = true) :
    ∃ lead, after.prospects id = some lead ∧ lead.state.met = true := by
  obtain ⟨lead, found, state⟩ := met
  obtain ⟨next, there, kept⟩ := onward.prospects id lead found
  exact ⟨next, there, ProspectState.met_path kept.path state⟩

theorem acquainted_deed {vouch : Mark → Ledger → Prop} {op : Op} {begin_ l after : Ledger}
    (acquainted : Acquainted l) (deed : Deed site vouch op begin_ l after) : Acquainted after := by
  have onward := deed_later _ _ _ _ deed
  have replied : ∀ id reply, after.replies id = some reply →
      ∃ lead, after.prospects reply.prospectId = some lead ∧ lead.state.met = true := by
    intro id reply present
    rcases reply_of_deed deed present with same | ⟨_, _, item, touch, theirs⟩ | ⟨old, found, step⟩
    · exact met_onward onward (acquainted.replied id reply same)
    · rw [theirs]
      exact met_onward onward (acquainted.touched _ item touch)
    · have same : reply.prospectId = old.prospectId := by cases step <;> rfl
      rw [same]
      exact met_onward onward (acquainted.replied id old found)
  refine ⟨fun id item present => ?_, replied⟩
  rcases touch_of_deed deed present with same | ⟨_, inserted⟩ | ⟨old, found, _⟩
  · exact met_onward onward (acquainted.touched id item same)
  · have met : after.Met item.prospectId := by cases inserted <;> assumption
    cases met with
    | qualified lead found state => exact ⟨lead, found, state⟩
    | replied replyId reply found theirs =>
        rw [← theirs]
        exact replied replyId reply found
  · obtain ⟨next, there, kept⟩ := onward.touches id old found
    obtain rfl := Option.some.inj (there.symm.trans present)
    rw [kept.prospectId]
    exact met_onward onward (acquainted.touched id old found)

theorem acquainted_path {vouch : Mark → Ledger → Prop} {op : Op} {begin_ l after : Ledger}
    (acquainted : Acquainted l)
    (path : Relation.ReflTransGen (Deed site vouch op begin_) l after) : Acquainted after := by
  induction path with
  | refl => exact acquainted
  | tail _ deed induction => exact acquainted_deed induction deed

/-- What a transaction leaves of an address: the one that was there, with an unenrichable
prospect still unenrichable, or one that an enrichment took over with its answer. -/
inductive Retained (op : Op) (l : Ledger) (id : Uuid) (lead : Prospect) : Prop where
  | gone (none : lead.emailCanonical = none)
  | kept (old : Prospect) (found : l.prospects id = some old)
      (same : lead.emailCanonical = old.emailCanonical)
      (stays : old.state = .unenrichable → lead.state = .unenrichable)
  | taken (which : op.works .enrich id)
      (fresh : ∀ old, l.prospects id = some old → old.state = .discovered)
      (bucket : ConfidenceBucket) (answer : lead.emailConfidence = some bucket)
      (verdict : bucket = .verified ∨ lead.state = .unenrichable)

theorem unenrichable_stays {old new : ProspectState} (alive : new ≠ .forgotten)
    (edges : Relation.ReflTransGen ProspectState.Edge old new) (shelved : old = .unenrichable) :
    new = .unenrichable := by
  subst shelved
  have stays : new = .unenrichable ∨ new = .forgotten := by
    induction edges with
    | refl => exact Or.inl rfl
    | @tail middle last _ edge induction =>
        revert induction edge
        cases middle <;> cases last <;> decide
  exact stays.resolve_right alive

/-- Nothing leads back to a prospect that is only discovered. -/
theorem discovered_before {old new : ProspectState}
    (edges : Relation.ReflTransGen ProspectState.Edge old new) (fresh : new = .discovered) :
    old = .discovered := by
  subst fresh
  cases edges with
  | refl => rfl
  | @tail middle _ _ edge =>
      have never : ¬ middle.Edge .discovered := by cases middle <;> decide
      exact absurd edge never

theorem settled_path {vouch : Mark → Ledger → Prop} {op : Op} {begin_ l after : Ledger}
    (path : Relation.ReflTransGen (Deed site vouch op begin_) l after) :
    ∀ id lead, after.prospects id = some lead → Retained op l id lead := by
  induction path with
  | refl => exact fun id lead present => .kept lead present rfl fun shelved => shelved
  | tail path deed induction =>
      intro id lead present
      rcases prospect_of_deed deed present with same | ⟨_, runtime, taken⟩ | ⟨old, found, step⟩
      · exact induction id lead same
      · exact .gone taken.unresolved
      · cases step with
        | move target alive stable edges =>
            cases induction id old found with
            | gone none => exact .gone none
            | kept before there same stays =>
                exact .kept before there same fun shelved =>
                  unenrichable_stays alive edges (stays shelved)
            | taken which fresh bucket answer verdict =>
                refine .taken which fresh bucket answer (verdict.imp_right fun shelved => ?_)
                exact unenrichable_stays alive edges shelved
        | address address bucket which fresh vouched =>
            refine .taken which (fun before there => ?_) bucket rfl ?_
            · obtain ⟨next, same, kept⟩ := (path_later path).prospects id before there
              obtain rfl := Option.some.inj (same.symm.trans found)
              exact discovered_before kept.path fresh
            · by_cases verified : bucket = .verified
              · exact Or.inl verified
              · exact Or.inr (if_neg verified)
        | erase ref which => exact .gone rfl

/-- Where each address in use comes from: from the start of the run, or from the verifier. -/
structure Attested (site : Deployment) (first : Ledger) (whole : History) (l : Ledger) : Prop where
  vetted : ∀ id lead address, l.prospects id = some lead → lead.emailCanonical = some address →
    (∃ old, first.prospects id = some old ∧ old.emailCanonical = some address) ∨
      lead.state = .unenrichable ∨
      ∃ raw, Verified whole id raw ∧ canon site.platform raw = some address
  acquainted : Acquainted l

theorem attested_commit {session : Session Database RowLock Exc Mark Call Call.Answer Op Out}
    {vouch : Mark → Ledger → Prop} (attested : Attested site first whole world.committed.ledger)
    (informed : Informed whole (enriching site whole) session)
    (wrote : later.committed = session.txn.view world.committed)
    (path : Relation.ReflTransGen (Deed site vouch session.op session.txn.start.ledger)
      world.committed.ledger later.committed.ledger) :
    Attested site first whole later.committed.ledger := by
  refine ⟨fun id lead address present canonical => ?_, acquainted_path attested.acquainted path⟩
  cases settled_path path id lead present with
  | gone none =>
      rw [none] at canonical
      cases canonical
  | kept old found same stays =>
      rw [same] at canonical
      rcases attested.vetted id old address found canonical with start | shelved | verified
      · exact Or.inl start
      · exact Or.inr (Or.inl (stays shelved))
      · exact Or.inr (Or.inr verified)
  | taken which fresh bucket answer verdict =>
      have addressed : AllAddressed site.platform
          (fun raw bucket => Heard whole session.op (.verify raw) (.ok bucket)) world.committed
          later.committed := by
        rw [wrote]
        refine view_induction (fun write made => informed.2 write made ⟨id, which⟩) ?_
          (all_addressed_refl _)
        exact fun write db good earlier => all_addressed_trans earlier (good db)
      obtain ⟨old, found, ⟨same, _⟩ | ⟨raw, given, heard, canon_raw, confidence⟩⟩ :=
        addressed id lead present
      · rw [same] at canonical
        rcases attested.vetted id old address found canonical with start | shelved | verified
        · exact Or.inl start
        · rw [fresh old found] at shelved
          cases shelved
        · exact Or.inr (Or.inr verified)
      · obtain rfl : given = bucket := Option.some.inj (confidence.symm.trans answer)
        rcases verdict with rfl | shelved
        · exact Or.inr (Or.inr ⟨raw, ⟨session.op, which, heard⟩, canon_raw.symm.trans canonical⟩)
        · exact Or.inr (Or.inl shelved)

/-- What others do to a transaction of such a run. -/
def attesting (site : Deployment) (first : Ledger) (whole : History) (old new : Database) : Prop :=
  Progress old new ∧ (Attested site first whole old.ledger → Attested site first whole new.ledger)

theorem attesting_order : Timeline (attesting site first whole) :=
  ⟨fun db => ⟨progress_order.refl db, id⟩,
    fun one two => ⟨progress_order.trans one.1 two.1, two.2 ∘ one.2⟩⟩

/-- What holds of every state of the run. -/
structure Traceable (site : Deployment) (first : Ledger) (whole : History) (world : World) :
    Prop where
  sane : Sane site world
  sound : world.Sound (service site) (attesting site first whole)
  attested : Attested site first whole world.committed.ledger
  begun : ∀ index session, world.session index = some session →
    Attested site first whole session.txn.start.ledger

theorem traceable_trace {allowed : World → Act → Prop} (quiet : start.sessions = [])
    (linked : Linked start.committed.ledger) (acquainted : Acquainted start.committed.ledger)
    (trace : Trace (service site) allowed start past world) (within_ : past ⊆ whole) :
    Traceable site start.committed.ledger whole world := by
  induction trace with
  | nil =>
      refine ⟨sane_start quiet linked, ⟨?_, ?_⟩, ⟨fun id lead address found canonical =>
        Or.inl ⟨lead, found, canonical⟩, acquainted⟩, ?_⟩
      all_goals
        intro index session
        simp [System.session, quiet]
  | @snoc past middle later action before permitted step induction =>
      have earlier : past ⊆ whole := fun entry member => within_ (List.mem_append_left _ member)
      have informed := told_of_trace told_program quiet before earlier
      obtain ⟨sane, sound, attested, begun⟩ := induction earlier
      have free : Vouched (fun _ _ _ _ => True) middle action := fun _ _ _ _ _ _ _ _ => trivial
      have advance := advance_of_step sane.sound sane.begun free step
      have next : Attested site start.committed.ledger whole later.committed.ledger := by
        cases advance with
        | idle same =>
            rw [same]
            exact attested
        | clock ticks moved =>
            rw [moved]
            exact { attested with acquainted := { attested.acquainted with } }
        | commit index session out found commits since wrote path =>
            exact attested_commit attested (informed index session found) wrote path
      have onward := later_advance advance
      refine ⟨sane_step sane step onward, act_sound attesting_order sound step ⟨onward, fun _ => next⟩,
        next, fun index session found => ?_⟩
      rcases act_session step found with ⟨old, there, _, begin_⟩ | begin_
      · rw [begin_]
        exact begun index old there
      · rw [begin_]
        exact next

end Runs

section Sends

variable {rely : Database → Database → Prop} {first : Ledger} {past : History} {start world : World}

/-- The tenant and the recipient are those that the prospect of the touch has when it is
loaded. -/
theorem recipient_of_delivering {touchId : Uuid} {a b : Spot} {gateDraft : DraftTouch}
    {claimed : ClaimedTouch} (order : Timeline rely) (fresh : ∀ db, a.txn.view db = db)
    (delivering : Delivering site rely touchId a b gateDraft claimed) :
    ∃ db item lead, rely a.committed db ∧ rely db b.committed ∧
      db.touches.lookup touchId = some item ∧ db.prospects.lookup item.prospectId = some lead ∧
      db.tenants.lookup lead.tenantId = some gateDraft.tenant ∧
      lead.emailCanonical = some claimed.recipient := by
  obtain ⟨ctx, tenant, first, second, loaded, status, named, load, claimed_⟩ := delivering
  have run : (Program.observation rely).runs (claim site.runtime (pgGateStore site.platform)
      gateDraft) loaded (.ok (.claimed claimed)) b := claimed_
  obtain ⟨_, _, _, _, _, _, _, _, _, capacity⟩ := claim_passed run
  obtain ⟨mailbox, _, _, _, _, _, _, result⟩ := capacity
  have recipient : claimed.recipient = gateDraft.emailCanonical := by
    rw [result]
    rfl
  obtain ⟨early, _, view_first⟩ := exec_query status
  obtain ⟨next, _, view_second⟩ := exec_query named
  unfold loadGateDraft at load
  obtain ⟨row, between, joined, rest⟩ := (exec_bind_ok _ _ _ _ _).1 load
  obtain ⟨last, ⟨busy, read⟩, _⟩ := exec_query joined
  rw [view_second, view_first, fresh] at read
  have onward := (exec_extends order claimed_).rely
  cases row with
  | none => cases Except.ok.inj rest.1
  | some row =>
      obtain ⟨item, lead, slug⟩ := row
      dsimp only at rest
      obtain ⟨touch, found, read⟩ := Option.bind_eq_some_iff.1 read.symm
      obtain ⟨prospect, there, read⟩ := Option.bind_eq_some_iff.1 read
      obtain ⟨owner, slug_of, same⟩ := Option.map_eq_some_iff.1 read
      cases same
      by_cases drafted : item.status ≠ .drafted
      · rw [if_pos drafted] at rest
        cases Except.ok.inj rest.1
      · rw [if_neg drafted] at rest
        cases email : lead.emailCanonical with
        | none =>
            rw [email] at rest
            cases rest.1
        | some address =>
            rw [email] at rest
            obtain ⟨same, rfl⟩ := rest
            have address_of : gateDraft.emailCanonical = address := by
              rw [Option.some.inj (Except.ok.inj same)]
            have tenant_of : gateDraft.tenant = slug := by
              rw [Option.some.inj (Except.ok.inj same)]
            refine ⟨loaded.committed, item, lead, ?_, onward, found, there, ?_, ?_⟩
            · exact order.trans (order.trans early next) last
            · rw [tenant_of]
              exact slug_of
            · rw [recipient, address_of, email]

/-- The verifier is asked about addresses in their canonical form only. -/
def AsksCanonical (site : Deployment) (world : World) (action : Act) : Prop :=
  ∀ index reply op raw next txn, action = .answer index reply →
    world.session index = some ⟨op, .call (.verify raw) next, txn⟩ →
      ∀ address, canon site.platform raw = some address → address = raw

theorem canonical_of_verified (trace : Trace (service site) (AsksCanonical site) start past world)
    {id : Uuid} {raw address : String} (verified : Verified past id raw)
    (canonical : canon site.platform raw = some address) : Verified past id address := by
  obtain ⟨op, which, system, index, reply, next, txn, member, found, given⟩ := verified
  have asked := allowed_of_mem trace member
  obtain rfl := asked index reply op raw next txn rfl found address canonical
  exact ⟨op, which, system, index, reply, next, txn, member, found, given⟩

/-- As long as the verifier is asked about canonical addresses only, every message that a
delivery hands out goes to an address for which the verifier has answered VERIFIED when
the prospect of the touch was enriched, unless the prospect had it from the start. -/
theorem recipients_verified (quiet : start.sessions = []) (linked : Linked start.committed.ledger)
    (acquainted : Acquainted start.committed.ledger)
    (trace : Trace (service site) (AsksCanonical site) start past world) {index : Nat} {op : Op}
    {touchId : Uuid} {call : Call} {next : call.Answer → Prog Out}
    {txn : Txn Database RowLock Mark Call} {message : String × List Char × List Char}
    (found : world.session index = some ⟨op, .call call next, txn⟩) (delivers : op.delivers touchId)
    (out : call.outgoing = some message) :
    ∃ item, world.committed.touches.lookup touchId = some item ∧
      (Verified past item.prospectId message.1 ∨
        ∃ old, start.committed.prospects.lookup item.prospectId = some old ∧
          old.emailCanonical = some message.1) := by
  obtain ⟨sane, sound, attested, begun⟩ :=
    traceable_trace quiet linked acquainted trace (List.Subset.refl past)
  obtain ⟨last, later, asks⟩ := asks_of_call sound found
  obtain ⟨job, rfl, queue, payload⟩ := delivers
  have handles : handler site job = deliver site touchId := by
    unfold handler
    rw [queue, payload]
  change Program.Asks _ (unitOut (handler site job)) _ _ _ at asks
  rw [handles, unitOut, asks_bind] at asks
  rcases asks with asks | ⟨_, _, _, asks⟩
  · obtain ⟨gateDraft, claimed, delivering, rfl⟩ := deliver_asks asks out
    obtain ⟨db, item, lead, early, onward, touch, prospect, _, address⟩ :=
      recipient_of_delivering attesting_order (fun _ => rfl) delivering
    have loaded := early.2 (begun index _ found)
    obtain ⟨kept, there, moved⟩ := (later_trans onward.1 later.1).touches touchId item touch
    refine ⟨kept, there, ?_⟩
    rw [moved.prospectId]
    have met := loaded.acquainted.touched touchId item touch
    obtain ⟨same, known, state⟩ := met
    obtain rfl := Option.some.inj (known.symm.trans prospect)
    rcases loaded.vetted _ same claimed.recipient prospect address with had | shelved | verified
    · exact Or.inr had
    · rw [shelved] at state
      cases state
    · obtain ⟨raw, verified, canonical⟩ := verified
      exact Or.inl (canonical_of_verified trace verified canonical)
  · exact asks.elim

end Sends

section Sample

/-- A deployment that takes a prospect from its enrichment to its first message. -/
def pipelineDeployment : Deployment :=
  { sampleDeployment with handlers := [.enrich, .qualify, .compose, .deliver] }

/-- Up to the call of the provider. -/
def pipeline : List Move :=
  [begin (.lease .enrich), go 0 16 100, begin (.lease .qualify), go 1 17 200,
    begin (.lease .compose), go 2 16 300, begin (.lease .deliver), go 3 24 400]

/-- `AsksCanonical`, tried on one action. -/
def asksCanonical (site : Deployment) (world : World) : Act → Bool
  | .answer index _ =>
      match world.session index with
      | some ⟨_, .call (.verify raw) _, _⟩ => (canon site.platform raw).all (· = raw)
      | _ => true
  | _ => true

theorem asksCanonical_sound (site : Deployment) (world : World) (action : Act)
    (checked : asksCanonical site world action = true) : AsksCanonical site world action := by
  rintro index reply op raw next txn rfl found address canonical
  simp only [asksCanonical, found, canonical, Option.all_some, decide_eq_true_eq] at checked
  exact checked

/-- The delivery of the touch is about to hand out a message for the address. -/
def handsOut (world : World) (index : Nat) (touchId : Uuid) (address : String) : Bool :=
  (System.asking world index).any fun entry =>
    entry.1.queue = .deliver && entry.1.payload = .touch touchId &&
      entry.2.outgoing.any fun message => message.1 = address

theorem session_of_handsOut {world : World} {index : Nat} {touchId : Uuid} {address : String}
    (hands : handsOut world index touchId address = true) :
    ∃ op call next txn message, world.session index = some ⟨op, .call call next, txn⟩ ∧
      op.delivers touchId ∧ call.outgoing = some message ∧ message.1 = address := by
  obtain ⟨⟨job, call⟩, asking, holds⟩ := (Option.any_eq_true _ _).1 hands
  simp only [Bool.and_eq_true, decide_eq_true_eq] at holds
  obtain ⟨⟨queue, payload⟩, out⟩ := holds
  obtain ⟨message, given, same⟩ := (Option.any_eq_true _ _).1 out
  unfold System.asking at asking
  split at asking
  · next handled asked next txn found =>
      cases asking
      exact ⟨_, _, next, txn, message, found, ⟨job, rfl, queue, payload⟩, given, of_decide_eq_true same⟩
  · cases asking

theorem discovered_acquainted : Acquainted discoveredWorld.committed.ledger := by
  refine ⟨?_, ?_⟩
  all_goals
    intro id row found
    simp [Database.ledger, discoveredWorld, sampleDatabase] at found

theorem sample_recipient_verified : ∃ past world id,
    Trace (service pipelineDeployment) (AsksCanonical pipelineDeployment) discoveredWorld past world ∧
    handsOut world 3 300 sampleAddress = true ∧ Verified past id sampleAddress := by
  have tried : ((service pipelineDeployment).scriptChecked (asksCanonical pipelineDeployment) pipeline
      discoveredWorld).any (fun world => handsOut world 3 300 sampleAddress) = true := by
    decide +kernel
  obtain ⟨world, played, hands⟩ := (Option.any_eq_true _ _).1 tried
  obtain ⟨past, trace⟩ := trace_of_run (run_of_scriptChecked (service pipelineDeployment)
    (asksCanonical_sound pipelineDeployment) played)
  obtain ⟨op, call, next, txn, message, found, delivers, out, same⟩ := session_of_handsOut hands
  obtain ⟨item, _, verified | ⟨old, there, address⟩⟩ :=
    recipients_verified rfl discovered_linked discovered_acquainted trace found delivers out
  · rw [same] at verified
    exact ⟨past, world, item.prospectId, trace, hands, verified⟩
  · change (Table.empty.insert 3 discoveredProspect).lookup item.prospectId = some old at there
    rw [Table.lookup_insert] at there
    split_ifs at there
    · obtain rfl := Option.some.inj there
      cases address
    · cases there

def taggedAddress : String := "ana+news@clinic.example"

/-- The directory lists the prospect under an address with a tag. -/
def taggedWorld : World :=
  { committed := { discoveredWorld.committed with
      prospects := Table.empty.insert 3
        { discoveredProspect with emailRaw := some taggedAddress } } }

theorem tagged_recipient_unverified : ∃ past world,
    Trace (service pipelineDeployment) unrestricted taggedWorld past world ∧
    handsOut world 3 300 sampleAddress = true ∧ Call.verify taggedAddress ∈ world.calls ∧
    (∀ id, ¬ Verified past id sampleAddress) ∧
    ∀ id old, taggedWorld.committed.prospects.lookup id = some old → old.emailCanonical = none := by
  have tried : ((service pipelineDeployment).script pipeline taggedWorld).any (fun world =>
      handsOut world 3 300 sampleAddress && decide (Call.verify taggedAddress ∈ world.calls) &&
        decide (Call.verify sampleAddress ∉ world.calls)) = true := by
    decide +kernel
  obtain ⟨world, played, seen⟩ := (Option.any_eq_true _ _).1 tried
  simp only [Bool.and_eq_true, decide_eq_true_eq] at seen
  obtain ⟨⟨hands, asked⟩, unasked⟩ := seen
  have run : Run pipelineDeployment unrestricted taggedWorld world := run_of_further played
  obtain ⟨past, trace⟩ := trace_of_run run
  refine ⟨past, world, trace, hands, asked, ?_, ?_⟩
  · rintro id ⟨op, _, heard⟩
    exact unasked (called_of_heard trace heard)
  · intro id old there
    change (Table.empty.insert 3 { discoveredProspect with emailRaw := some taggedAddress }).lookup
      id = some old at there
    rw [Table.lookup_insert] at there
    split_ifs at there
    · obtain rfl := Option.some.inj there
      rfl
    · cases there

end Sample

end OpenReachout
