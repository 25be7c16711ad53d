import OpenReachout.Properties.OptOuts

/-!
# Delivery reports

A delivery report says of each recipient what has become of the message, in its `Action`
field. The parser takes every report for a bounce, whatever it says.
-/

namespace OpenReachout

open Relational Relational.Program Text

set_option autoImplicit false

def InboundMail.actions (mail : InboundMail) : List DeliveryAction :=
  mail.walk.filterMap MailPart.action

/-- A delivery report, by its container. -/
structure IsReport (mail : InboundMail) : Prop where
  container : mail.contentType = "multipart/report"
  subtype : Platform.contains ((mail.reportType.getD "").toList) "delivery-status".toList = true

/-- The report tells of a delay or a delivery, and of no failure. -/
def Undamaged (mail : InboundMail) : Prop :=
  mail.actions ≠ [] ∧ ∀ action ∈ mail.actions, action ≠ .failed

def bounceCount (db : Database) (tenant variantId : String) : Nat :=
  ((db.variantStats.lookup (tenant, variantId)).getD {}).bounces

/-- The recipient is not suppressed, the variant's counter not raised and the prospect not
moved to `bounced`. -/
structure SparedBy (touch : Touch) (prospect : Prospect) (tenant : String) (db later : Database) :
    Prop where
  suppression : ∀ email, nonEmpty prospect.emailCanonical = some email →
    Suppressed email later → Suppressed email db
  counter : ∀ variantId, nonEmpty touch.variantId = some variantId →
    bounceCount later tenant variantId = bounceCount db tenant variantId
  state : ∀ row, later.prospects.lookup touch.prospectId = some row →
    row.state = .bounced → prospect.state = .bounced

/-- What a failure is for: the address, where there is one, is suppressed, the counter of the
variant, where there is one, raised, and the prospect moved where that is a transition. -/
structure BouncedBy (touch : Touch) (prospect : Prospect) (tenant : String)
    (db later : Database) : Prop where
  suppression : ∀ email, nonEmpty prospect.emailCanonical = some email → Suppressed email later
  counter : ∀ variantId, nonEmpty touch.variantId = some variantId →
    bounceCount later tenant variantId = bounceCount db tenant variantId + 1
  state : .bounced ∈ transitions prospect.state →
    ∃ row, later.prospects.lookup touch.prospectId = some row ∧ row.state = .bounced

/-- There is nothing left that a bounce does. -/
structure Unbounceable (touch : Touch) (prospect : Prospect) (db : Database) : Prop where
  suppressed : ∀ email, nonEmpty prospect.emailCanonical = some email → Suppressed email db
  uncounted : nonEmpty touch.variantId = none
  settled : .bounced ∉ transitions prospect.state

section Reports

variable {oracle : Nat → (call : Call) → call.Answer} {fault : Exc}
variable {moment : Moment Database RowLock} {deployment : Deployment}

theorem isBounce_of_isReport {platform : Platform} {mail : InboundMail} (report : IsReport mail) :
    isBounce platform mail = true := by
  unfold isBounce
  rw [decide_eq_true report.container, report.subtype]
  rfl

/-- What is left behind when a report is ingested for the first time. -/
structure LeftBehind (touch : Touch) (prospect : Prospect) (tenant : String) (time : Time)
    (db later : Database) : Prop where
  suppressions : later.suppressions =
    suppressing db.suppressions (nonEmpty prospect.emailCanonical) "bounce" time
  prospects : later.prospects = safelyMoved db.prospects touch.prospectId .bounced
  stats : GuardrailCounted touch tenant .bounce db.variantStats later.variantStats

theorem bounceCount_of_counted {touch : Touch} {prospect : Prospect} {tenant variantId : String}
    {time : Time} {db later : Database} (counted : LeftBehind touch prospect tenant time db later)
    (named : nonEmpty touch.variantId = some variantId) :
    bounceCount later tenant variantId = bounceCount db tenant variantId + 1 := by
  have stats := counted.stats
  unfold GuardrailCounted at stats
  rw [named] at stats
  obtain ⟨paused, found⟩ := stats
  unfold bounceCount
  rw [found]
  rfl

theorem bouncedBy_of_counted {touch : Touch} {prospect : Prospect} {tenant : String} {time : Time}
    {db later : Database} (found : db.prospects.lookup touch.prospectId = some prospect)
    (counted : LeftBehind touch prospect tenant time db later) :
    BouncedBy touch prospect tenant db later := by
  refine ⟨?_, fun variantId named => bounceCount_of_counted counted named, ?_⟩
  · intro email stored
    exact (suppressed_suppressing counted.suppressions).2 (Or.inl stored)
  · intro legal
    refine ⟨{ prospect with state := .bounced }, ?_, rfl⟩
    rw [counted.prospects, safelyMoved_of_legal found legal, Table.lookup_modify, found,
      Option.map_some, if_pos (decide_eq_true rfl)]

/-- A bounce that nobody notices had nothing to do. -/
theorem sparedBy_iff_of_counted {touch : Touch} {prospect : Prospect} {tenant : String}
    {time : Time} {db later : Database}
    (found : db.prospects.lookup touch.prospectId = some prospect)
    (counted : LeftBehind touch prospect tenant time db later) :
    SparedBy touch prospect tenant db later ↔ Unbounceable touch prospect db := by
  constructor
  · intro spared
    refine ⟨?_, ?_, ?_⟩
    · intro email stored
      exact spared.suppression email stored
        ((suppressed_suppressing counted.suppressions).2 (Or.inl stored))
    · cases named : nonEmpty touch.variantId with
      | none => rfl
      | some variantId =>
          have same := spared.counter variantId named
          rw [bounceCount_of_counted counted named] at same
          omega
    · intro legal
      obtain ⟨row, present, bounced⟩ := (bouncedBy_of_counted found counted).state legal
      have already := spared.state row present bounced
      rw [already] at legal
      exact absurd legal (by decide)
  · intro idle
    refine ⟨fun email stored _ => idle.suppressed email stored, ?_, ?_⟩
    · intro variantId named
      rw [idle.uncounted] at named
      cases named
    · intro row present bounced
      rw [counted.prospects, safelyMoved_of_illegal found idle.settled, found] at present
      obtain rfl := Option.some.inj present
      exact bounced

/-- A report that is read for the first time leaves behind what a bounce does, whatever it
says. -/
theorem completes_report (distinct : Distinct oracle) {db : Database}
    (ready : Ready deployment.platform oracle db 0) {mail : InboundMail} {event : InboundEvent}
    (report : IsReport mail) (parsed : parseInbound deployment.platform mail = some event)
    (stored : Storable event) (fresh : db.providerEvents.lookup event.key = none)
    {touch : Touch} {prospect : Prospect} {tenant : String}
    (joined : joinedTouch db event.touchId = some (touch, prospect, tenant)) :
    Completes oracle fault moment (pollInbox deployment [mail]) db 0 fun _ later _ =>
      LeftBehind touch prospect tenant moment.start.clock db later := by
  refine (completes_poll distinct ready parsed stored).mono ?_
  intro _ later _ _ ended
  have kind := (kind_of_parse parsed).2
  rw [if_pos (isBounce_of_isReport report)] at kind
  rcases ended.2.2.acted fresh joined with replied | bounced
  · rw [kind] at replied
    cases replied.1
  · exact ⟨bounced.2.2.2.1, bounced.2.2.2.2.1, bounced.2.2.2.2.2⟩

variable (oracle fault moment deployment)

/-- The mailbox is polled, and the report does what its actions call for. -/
def Heeds (db : Database) (mail : InboundMail) (touch : Touch) (prospect : Prospect)
    (tenant : String) : Prop :=
  Completes oracle fault moment (pollInbox deployment [mail]) db 0 fun _ later _ =>
    (Undamaged mail → SparedBy touch prospect tenant db later) ∧
    (.failed ∈ mail.actions → BouncedBy touch prospect tenant db later)

variable {oracle fault moment deployment}

theorem unbounceable_of_heeds (distinct : Distinct oracle) {db : Database}
    (ready : Ready deployment.platform oracle db 0) {mail : InboundMail} {event : InboundEvent}
    (report : IsReport mail) (parsed : parseInbound deployment.platform mail = some event)
    (stored : Storable event) (fresh : db.providerEvents.lookup event.key = none)
    {touch : Touch} {prospect : Prospect} {tenant : String}
    (joined : joinedTouch db event.touchId = some (touch, prospect, tenant))
    (heeds : Heeds oracle fault moment deployment db mail touch prospect tenant)
    (undamaged : Undamaged mail) : Unbounceable touch prospect db := by
  have polled : Completes oracle fault moment (pollInbox deployment [mail]) db 0 _ :=
    completes_report distinct ready report parsed stored fresh joined
  obtain ⟨_, later, taken, ended, _, counted⟩ := polled
  obtain ⟨_, last, total, other, _, holds⟩ := heeds
  have same := ended.symm.trans other
  simp only [Prod.mk.injEq, Alone.mk.injEq] at same
  obtain rfl : later = last := same.2.1
  exact (sparedBy_iff_of_counted (found_of_joined joined) counted).1 (holds.1 undamaged)

/-- A delivery report that correlates to a touch does what its actions call for exactly where
it does not speak of delays and deliveries only, or where a bounce has nothing to do. -/
theorem report_heeded_iff (distinct : Distinct oracle) {db : Database}
    (ready : Ready deployment.platform oracle db 0) {mail : InboundMail} {event : InboundEvent}
    (report : IsReport mail) (parsed : parseInbound deployment.platform mail = some event)
    (stored : Storable event) (fresh : db.providerEvents.lookup event.key = none)
    {touch : Touch} {prospect : Prospect} {tenant : String}
    (joined : joinedTouch db event.touchId = some (touch, prospect, tenant)) :
    Heeds oracle fault moment deployment db mail touch prospect tenant ↔
      (Undamaged mail → Unbounceable touch prospect db) := by
  constructor
  · intro heeds undamaged
    exact unbounceable_of_heeds distinct ready report parsed stored fresh joined heeds undamaged
  · intro idle
    refine (completes_report distinct ready report parsed stored fresh joined).mono ?_
    intro _ later _ _ counted
    refine ⟨?_, fun _ => bouncedBy_of_counted (found_of_joined joined) counted⟩
    intro undamaged
    exact (sparedBy_iff_of_counted (found_of_joined joined) counted).2 (idle undamaged)

end Reports

section Sample

/-- A report about the sample touch, with one block for its recipient. -/
def reportMail (action : DeliveryAction) : InboundMail where
  contentType := "multipart/report"
  content := .unreadable
  payload := []
  messageId := some "<dsn1@clinic.example>"
  rawHash := 0
  sender := "mta@clinic.example".toList
  subject := "Delivery status".toList
  inReplyTo := some sampleQuote
  references := none
  reportType := some "delivery-status"
  isMultipart := true
  parts := [
    { contentType := "message/delivery-status", content := .unreadable, payload := [] },
    { contentType := "text/plain", content := .text [], payload := [], action := some action }]

def reportEvent : InboundEvent := ⟨"<dsn1@clinic.example>", .bounce, 4, .transport⟩

/-- A mere delay suppresses the recipient, counts against the variant and moves the prospect. -/
theorem delay_bounces :
    Distinct sampleOracle ∧ Ready samplePlatform sampleOracle dispatchedDatabase 0 ∧
    IsReport (reportMail .delayed) ∧ Undamaged (reportMail .delayed) ∧
    parseInbound samplePlatform (reportMail .delayed) = some reportEvent ∧
    (joinedTouch dispatchedDatabase 4).isSome = true ∧
    ¬ Heeds sampleOracle integrityError sampleMoment sampleDeployment dispatchedDatabase
      (reportMail .delayed) { sampleTouch with status := .dispatched }
      { sampleProspect with state := .contacted } "acme" := by
  have ready : Ready sampleDeployment.platform sampleOracle dispatchedDatabase 0 := sample_ready
  have report : IsReport (reportMail .delayed) := ⟨rfl, by decide⟩
  have undamaged : Undamaged (reportMail .delayed) := by
    have actions : (reportMail .delayed).actions = [.delayed] := rfl
    unfold Undamaged
    rw [actions]
    decide
  have parsed : parseInbound sampleDeployment.platform (reportMail .delayed) = some reportEvent := by
    decide +kernel
  refine ⟨sample_distinct, sample_ready, report, undamaged, parsed, rfl, ?_⟩
  intro heeds
  have idle := unbounceable_of_heeds sample_distinct ready report parsed (by decide) rfl rfl heeds
    undamaged
  exact absurd idle.settled (by decide)

theorem failure_bounces :
    Heeds sampleOracle integrityError sampleMoment sampleDeployment dispatchedDatabase
      (reportMail .failed) { sampleTouch with status := .dispatched }
      { sampleProspect with state := .contacted } "acme" := by
  have ready : Ready sampleDeployment.platform sampleOracle dispatchedDatabase 0 := sample_ready
  have parsed : parseInbound sampleDeployment.platform (reportMail .failed) = some reportEvent := by
    decide +kernel
  refine (report_heeded_iff sample_distinct ready ⟨rfl, by decide⟩ parsed (by decide) rfl rfl).2 ?_
  intro undamaged
  have actions : (reportMail .failed).actions = [.failed] := rfl
  have spared := undamaged.2
  rw [actions] at spared
  exact absurd rfl (spared .failed List.mem_cons_self)

end Sample

end OpenReachout
