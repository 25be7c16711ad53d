import OpenReachout.Properties.Correlation

/-!
# Opt-outs by mail

Every message advertises an opt-out by mail. The parser drops mail without reply
headers, and of a reply it reads the first readable plain part only: these are the
messages whose opt-out is lost.
-/

namespace OpenReachout

open Relational Relational.Program Text

set_option autoImplicit false

/-- A mail program's answer to `List-Unsubscribe: <mailto:...?subject=unsubscribe>`. -/
structure Honours (mail : InboundMail) : Prop where
  subject : mail.subject = "unsubscribe".toList
  inReplyTo : mail.inReplyTo = none
  references : mail.references = none

def asks (platform : Platform) (text : List Char) : Bool :=
  (platform.search unsubscribeRe text).isSome

/-- A reply that asks to unsubscribe, in its subject or in one of its text parts. -/
structure AsksInReply (platform : Platform) (mail : InboundMail) (touchId : Uuid)
    (domain : List Char) : Prop where
  quotes : Quotes mail touchId domain
  asking : asks platform mail.subject = true ∨
    ∃ part ∈ mail.walk, ∃ text, part.content = .text text ∧ asks platform text = true

/-- The answers of an oracle, but for a model that always gives the same verdict. -/
def answering (oracle : Nat → (call : Call) → call.Answer)
    (verdict : Except Exc ClassifyReplyOutput) (index : Nat) : (call : Call) → call.Answer
  | .classifyReply _ => verdict
  | other => oracle index other

section OptOut

variable (oracle : Nat → (call : Call) → call.Answer) (fault : Exc)
variable (first second : Moment Database RowLock) (deployment : Deployment)

/-- The address is suppressed everywhere and for good. -/
def Suppressed (address : String) (db : Database) : Prop :=
  ∃ row, db.suppressions.lookup (address, globalScope) = some row ∧ row.expiresAt = none

/-- The job as a worker leases it. -/
def leasedJob (id : Nat) (row : JobRow) : Job :=
  ⟨id, row.queue, row.payload, row.attempts + 1, row.maxAttempts⟩

/-- The mail is not dropped, and whatever the model answers, its ingestion and the
classify job that results from it end with the address suppressed. -/
def OptsOut (db : Database) (mail : InboundMail) (address : String) : Prop :=
  (parseInbound deployment.platform mail).isSome = true ∧ ∀ verdict, ∃ polled taken,
    solo (answering oracle verdict) fault first (pollInbox deployment [mail]) ⟨db, 0, false⟩ =
      (.ok (), ⟨polled, taken, false⟩) ∧
    (Suppressed address polled ∨ ∃ jobId row last total,
      db.jobs.lookup jobId = none ∧ polled.jobs.lookup jobId = some row ∧
      row.queue = .classify ∧
      solo (answering oracle verdict) fault second (handler deployment (leasedJob jobId row))
        ⟨polled, taken, false⟩ = (.ok (), ⟨last, total, false⟩) ∧
      Suppressed address last)

/-- The touch that a message is taken to be about. -/
def aboutTouch (platform : Platform) (mail : InboundMail) : Option Uuid :=
  if isBounce platform mail then originalMessageId platform mail
  else touchIdFrom platform [mail.inReplyTo, mail.references]

/-- The message is about something that looks like a touch, and it can be stored. -/
structure Readable (platform : Platform) (mail : InboundMail) : Prop where
  about : (aboutTouch platform mail).isSome = true
  id : storable mail.eventId.toList = true
  body : isBounce platform mail = true ∨
    ∃ body, plainBody mail = .text body ∧ storable body = true

/-- It leads to a touch of the address and is new, and it counts as a bounce or its
first readable plain part asks to stop. -/
structure MailHeard (platform : Platform) (db : Database) (mail : InboundMail)
    (address : String) : Prop where
  touch : ∃ touchId touch prospect tenant, aboutTouch platform mail = some touchId ∧
    joinedTouch db touchId = some (touch, prospect, tenant) ∧
    nonEmpty prospect.emailCanonical = some address
  unseen : db.providerEvents.lookup (providerName, mail.eventId) = none
  asking : isBounce platform mail = true ∨
    ∃ body, plainBody mail = .text body ∧ asks platform body = true

variable {oracle fault first second deployment}

theorem parse_eq (platform : Platform) (mail : InboundMail) :
    parseInbound platform mail = (aboutTouch platform mail).map fun touchId =>
      { providerEventId := mail.eventId
        kind := if isBounce platform mail then .bounce else .reply
        touchId
        payload := if isBounce platform mail then .transport else .body (plainBody mail) } := by
  unfold parseInbound aboutTouch
  by_cases bounced : isBounce platform mail = true
  · simp only [bounced, if_true]
  · simp only [bounced, if_false, Bool.false_eq_true]

theorem distinct_answering (distinct : Distinct oracle) (verdict : Except Exc ClassifyReplyOutput) :
    Distinct (answering oracle verdict) :=
  ⟨distinct.uuid, distinct.serial⟩

theorem ready_answering {platform : Platform} {db : Database} {answered : Nat}
    (ready : Ready platform oracle db answered) (verdict : Except Exc ClassifyReplyOutput) :
    Ready platform (answering oracle verdict) db answered :=
  ⟨ready.canonical, ready.replies, ready.escalations, ready.jobs, ready.classify⟩

/-- A mailbox with one message that makes an event. -/
theorem completes_poll (distinct : Distinct oracle) {db : Database}
    (ready : Ready deployment.platform oracle db 0) {mail : InboundMail} {event : InboundEvent}
    (parsed : parseInbound deployment.platform mail = some event) (stored : Storable event) :
    Completes oracle fault first (pollInbox deployment [mail]) db 0 fun _ later taken =>
      Ready deployment.platform oracle later taken ∧ Grown db later ∧
        Ingested event first.start.clock db later := by
  have batch : parseBatch deployment.platform [mail] = [event] := by
    simp [parseBatch, parsed]
  have kinds := kinds_of_batch deployment.platform [mail]
  rw [batch] at kinds
  unfold pollInbox
  rw [batch]
  refine completes_bind ((completes_ingestInbound distinct ready (kinds event List.mem_cons_self)
    stored).mono ?_)
  rintro _ later taken - ⟨kept, grown, -, ingested⟩
  exact completes_pure _ ⟨kept, grown, ingested⟩

/-- A suppression adds its address and takes none away. -/
theorem suppressed_suppressing {db later : Database} {email : Option String}
    {address reason : String} {time : Time}
    (written : later.suppressions = suppressing db.suppressions email reason time) :
    Suppressed address later ↔ email = some address ∨ Suppressed address db := by
  unfold Suppressed
  rw [written]
  cases email with
  | none => simp only [suppressing, reduceCtorEq, false_or]
  | some email =>
      simp only [suppressing, Table.lookup_upsert]
      by_cases same : email = address
      · subst same
        simp only [if_true, true_or, iff_true]
        refine ⟨⟨reason, none, time⟩, ?_, rfl⟩
        cases db.suppressions.lookup (email, globalScope) <;> rfl
      · have apart : (address, globalScope) ≠ (email, globalScope) :=
          fun equal => same (Prod.mk.inj equal).1.symm
        simp only [if_neg apart, Option.some.injEq, same, false_or]

theorem suppressed_of_same {db later : Database} {address : String}
    (same : later.suppressions = db.suppressions) :
    Suppressed address later ↔ Suppressed address db := by
  unfold Suppressed
  rw [same]

theorem handler_classify {id : Nat} {row : JobRow} {replyId : Uuid} (queue : row.queue = .classify)
    (payload : row.payload = .reply replyId) :
    handler deployment (leasedJob id row) = classify deployment replyId := by
  unfold handler leasedJob
  rw [queue, payload]

/-- Such a message makes an event that the database takes. -/
theorem event_of_readable {platform : Platform} {mail : InboundMail} {touchId : Uuid}
    (readable : Readable platform mail) (about : aboutTouch platform mail = some touchId) :
    ∃ event, parseInbound platform mail = some event ∧ Storable event ∧
      event.touchId = touchId ∧ event.key = (providerName, mail.eventId) ∧
      (isBounce platform mail = true ∧ event.kind = .bounce ∨
        isBounce platform mail = false ∧ event.kind = .reply ∧ ∃ body,
          plainBody mail = .text body ∧ event.payload = .body (.text body)) := by
  have parsed := parse_eq platform mail
  rw [about, Option.map_some] at parsed
  refine ⟨_, parsed, ?_, rfl, rfl, ?_⟩
  · rcases readable.body with bounced | ⟨body, text, plain⟩
    · simp only [bounced, if_true]
      exact ⟨rfl, by rw [Bool.and_eq_true]; exact ⟨readable.id, rfl⟩⟩
    · rw [text]
      by_cases bounced : isBounce platform mail = true
      · simp only [bounced, if_true]
        exact ⟨rfl, by rw [Bool.and_eq_true]; exact ⟨readable.id, rfl⟩⟩
      · simp only [bounced, if_false, Bool.false_eq_true]
        exact ⟨rfl, by rw [Bool.and_eq_true]; exact ⟨readable.id, plain⟩⟩
  · by_cases bounced : isBounce platform mail = true
    · exact Or.inl ⟨bounced, by simp only [bounced, if_true]⟩
    · rcases readable.body with other | ⟨body, text, _⟩
      · exact absurd other bounced
      · refine Or.inr ⟨by simpa using bounced, ?_, body, text, ?_⟩
        · simp only [bounced, if_false, Bool.false_eq_true]
        · simp only [bounced, if_false, Bool.false_eq_true, text]

theorem readable_of_event {platform : Platform} {mail : InboundMail} {event : InboundEvent}
    (parsed : parseInbound platform mail = some event) (stored : Storable event) :
    Readable platform mail := by
  have shape := parse_eq platform mail
  rw [parsed] at shape
  obtain ⟨touchId, about, made⟩ := Option.map_eq_some_iff.1 shape.symm
  subst made
  have json := stored.json
  have plain := stored.plain
  rw [Bool.and_eq_true] at plain
  refine ⟨by rw [about]; rfl, plain.1, ?_⟩
  by_cases bounced : isBounce platform mail = true
  · exact Or.inl bounced
  · simp only [bounced, if_false, Bool.false_eq_true] at json plain
    cases text : plainBody mail with
    | text body =>
        rw [text] at plain
        exact Or.inr ⟨body, rfl, plain.2⟩
    | bytes shown =>
        rw [text] at json
        cases json
    | unreadable =>
        rw [text] at json
        cases json

theorem optsOut_of_suppressed (distinct : Distinct oracle) {db : Database}
    (ready : Ready deployment.platform oracle db 0) {mail : InboundMail} {address : String}
    (readable : Readable deployment.platform mail) (already : Suppressed address db) :
    OptsOut oracle fault first second deployment db mail address := by
  obtain ⟨touchId, about⟩ := Option.isSome_iff_exists.1 readable.about
  obtain ⟨event, parsed, stored, _⟩ := event_of_readable readable about
  refine ⟨by rw [parsed]; rfl, ?_⟩
  intro verdict
  have poll : Completes (answering oracle verdict) fault first (pollInbox deployment [mail]) db 0 _ :=
    completes_poll (distinct_answering distinct verdict) (ready_answering ready verdict) parsed stored
  obtain ⟨_, polled, taken, ended, _, _, grown, _⟩ := poll
  obtain ⟨row, found, lasting⟩ := already
  exact ⟨polled, taken, ended, Or.inl (grown.suppressions _ _ found lasting)⟩

theorem optsOut_of_heard (distinct : Distinct oracle) {db : Database}
    (ready : Ready deployment.platform oracle db 0) {mail : InboundMail} {address : String}
    (readable : Readable deployment.platform mail)
    (heard : MailHeard deployment.platform db mail address) :
    OptsOut oracle fault first second deployment db mail address := by
  obtain ⟨touchId, touch, prospect, tenant, about, joined, named⟩ := heard.touch
  obtain ⟨event, parsed, stored, about_same, key, kind⟩ := event_of_readable readable about
  subst about_same
  refine ⟨by rw [parsed]; rfl, ?_⟩
  intro verdict
  have distinct := distinct_answering distinct verdict
  have poll : Completes (answering oracle verdict) fault first (pollInbox deployment [mail]) db 0 _ :=
    completes_poll distinct (ready_answering ready verdict) parsed stored
  obtain ⟨_, polled, taken, ended, _, kept, grown, ingested⟩ := poll
  refine ⟨polled, taken, ended, ?_⟩
  have unseen := heard.unseen
  rw [← key] at unseen
  rcases ingested.acted unseen joined with ⟨reply, _, id, recorded⟩ | ⟨_, _, _, written, _⟩
  · right
    rcases kind with ⟨_, other⟩ | ⟨plain, _, body, text, payload⟩
    · rw [reply] at other
      cases other
    · have asking : asks deployment.platform body = true := by
        rcases heard.asking with bounced | ⟨body', text', asking⟩
        · rw [plain] at bounced
          cases bounced
        · rw [text] at text'
          obtain rfl := Content.text.inj text'
          exact asking
      obtain ⟨jobId, row, absent, present, queue, job⟩ := recorded.job
      obtain ⟨after, joined_after, same⟩ := grown.joined joined
      rw [payload] at recorded
      have run : Completes (answering oracle verdict) fault second (classify deployment id) polled
          taken _ :=
        completes_classify_optOut distinct kept recorded.present rfl (found_of_joined joined_after)
          (named_of_joined joined_after) asking
      obtain ⟨_, last, total, classified, _, written⟩ := run
      refine ⟨jobId, row, last, total, absent, present, queue, ?_, ?_⟩
      · rw [handler_classify queue job]
        exact classified
      · have address_same : after.emailCanonical = prospect.emailCanonical := by
          have equal := congrArg Prospect.emailCanonical same
          exact equal
        rw [address_same, named] at written
        exact (suppressed_suppressing written).2 (Or.inl rfl)
  · left
    rw [named] at written
    exact (suppressed_suppressing written).2 (Or.inl rfl)

/-- A mail that ends with an address suppressed that was not has been heard. -/
theorem heard_of_optsOut (distinct : Distinct oracle) {db : Database}
    (ready : Ready deployment.platform oracle db 0) {mail : InboundMail} {address : String}
    (optsOut : OptsOut oracle fault first second deployment db mail address) :
    Readable deployment.platform mail ∧
      (MailHeard deployment.platform db mail address ∨ Suppressed address db) := by
  obtain ⟨taken_up, each⟩ := optsOut
  obtain ⟨event, parsed⟩ := Option.isSome_iff_exists.1 taken_up
  -- the verdict of a model that does not answer
  obtain ⟨polled, taken, ended, heard⟩ := each (.error ⟨.other, "no answer"⟩)
  have distinct := distinct_answering distinct (.error ⟨.other, "no answer"⟩)
  have ready := ready_answering ready (.error ⟨.other, "no answer"⟩)
  have batch : parseBatch deployment.platform [mail] = [event] := by
    simp [parseBatch, parsed]
  have stored : Storable event := by
    obtain ⟨before, after, value, done⟩ := ok_of_solo_forM _ ended event (by rw [batch]; simp)
    exact storable_of_ingested done
  have readable := readable_of_event parsed stored
  refine ⟨readable, ?_⟩
  by_cases already : Suppressed address db
  · exact Or.inr already
  left
  obtain ⟨touchId, about⟩ := Option.isSome_iff_exists.1 readable.about
  obtain ⟨event', parsed', _, about_same, key, kind⟩ := event_of_readable readable about
  obtain rfl := Option.some.inj (parsed'.symm.trans parsed)
  subst about_same
  have poll : Completes (answering oracle (.error ⟨.other, "no answer"⟩)) fault first
      (pollInbox deployment [mail]) db 0 _ :=
    completes_poll distinct ready parsed stored
  obtain ⟨_, polled', taken', ended', _, kept, grown, ingested⟩ := poll
  obtain ⟨rfl, rfl⟩ : polled' = polled ∧ taken' = taken := by
    have same := ended'.symm.trans ended
    simp only [Prod.mk.injEq, Alone.mk.injEq] at same
    exact ⟨same.2.1, same.2.2.1⟩
  have passes : ¬ ((db.providerEvents.lookup event'.key).isSome = true ∨
      joinedTouch db event'.touchId = none) := by
    intro passed
    obtain ⟨jobs, suppressions⟩ := ingested.idle passed
    rcases heard with holds | ⟨jobId, row, _, _, absent, present, _⟩
    · exact already ((suppressed_of_same suppressions).1 holds)
    · rw [jobs] at present
      exact absurd (present.symm.trans absent) nofun
  rw [not_or] at passes
  have unseen := Option.not_isSome_iff_eq_none.1 passes.1
  obtain ⟨⟨touch, prospect, tenant⟩, joined⟩ := Option.ne_none_iff_exists'.1 passes.2
  rcases ingested.acted unseen joined with ⟨reply, same, id, recorded⟩ | ⟨bounce, only, _, written, _⟩
  · rcases kind with ⟨_, other⟩ | ⟨plain, _, body, text, payload⟩
    · rw [reply] at other
      cases other
    rw [payload] at recorded
    rcases heard with holds | ⟨jobId, row, last, total, absent, present, _, done, holds⟩
    · exact absurd ((suppressed_of_same same).1 holds) already
    · obtain ⟨queue, job⟩ := recorded.jobs jobId row present absent
      rw [handler_classify queue job] at done
      obtain ⟨after, joined_after, alike⟩ := grown.joined joined
      have found := found_of_joined joined_after
      have named := named_of_joined joined_after
      cases asking : (deployment.platform.search unsubscribeRe body).isSome with
      | false =>
          have unanswered : ∃ later,
              solo (answering oracle (.error ⟨.other, "no answer"⟩)) fault second
                (classify deployment id) ⟨polled', taken', false⟩ =
                (.error ⟨.other, "no answer"⟩, later) :=
            solo_classify_unanswered recorded.present rfl found named asking fun _ => rfl
          obtain ⟨later, raised⟩ := unanswered
          rw [raised] at done
          cases (congrArg Prod.fst done : Except.error _ = Except.ok _)
      | true =>
          have run : Completes (answering oracle (.error ⟨.other, "no answer"⟩)) fault second
              (classify deployment id) polled' taken' _ :=
            completes_classify_optOut distinct kept recorded.present rfl found named asking
          obtain ⟨_, last', _, done', _, written⟩ := run
          obtain rfl : last' = last := by
            have same := done'.symm.trans done
            simp only [Prod.mk.injEq, Alone.mk.injEq] at same
            exact same.2.1
          rw [same] at written
          have address_same : after.emailCanonical = prospect.emailCanonical := by
            have equal := congrArg Prospect.emailCanonical alike
            exact equal
          rw [address_same] at written
          rcases (suppressed_suppressing written).1 holds with email | before
          · exact ⟨⟨_, _, _, _, about, joined, email⟩, by rw [← key]; exact unseen,
              Or.inr ⟨body, text, asking⟩⟩
          · exact absurd before already
  · have bounced : isBounce deployment.platform mail = true := by
      rcases kind with ⟨bounced, _⟩ | ⟨_, other, _⟩
      · exact bounced
      · rw [bounce] at other
        cases other
    rcases heard with holds | ⟨jobId, row, _, _, absent, present, queue, _⟩
    · rcases (suppressed_suppressing written).1 holds with email | before
      · exact ⟨⟨_, _, _, _, about, joined, email⟩, by rw [← key]; exact unseen, Or.inl bounced⟩
      · exact absurd before already
    · rw [only jobId row present absent] at queue
      cases queue

/-- A mail without reply headers is dropped, unless it comes from a mail system. -/
theorem lost_of_honours {db : Database} {mail : InboundMail} {address : String}
    (honours : Honours mail) (person : isBounce deployment.platform mail = false) :
    ¬ OptsOut oracle fault first second deployment db mail address := by
  rintro ⟨taken_up, _⟩
  have about : aboutTouch deployment.platform mail = none := by
    unfold aboutTouch
    rw [person, honours.inReplyTo, honours.references]
    rfl
  rw [parse_eq, about] at taken_up
  cases taken_up

/-- Every message advertises the opt-out. A mail ends with the address suppressed exactly
when the parser can read it and it is heard, or the address was suppressed already: a
reply is heard by its first readable plain part alone, and a mail that honours the
header is never taken up. -/
theorem opt_out_round_trip (distinct : Distinct oracle) {db : Database}
    (ready : Ready deployment.platform oracle db 0) (mail : InboundMail) (address : String) :
    (∀ provider conn touch subject body message,
      buildMessage provider conn touch subject body = .ok message →
        "<mailto:" ++ touch.mailbox ++ "?subject=unsubscribe>" ∈ message.listUnsubscribe) ∧
    (OptsOut oracle fault first second deployment db mail address ↔
      Readable deployment.platform mail ∧
        (MailHeard deployment.platform db mail address ∨ Suppressed address db)) ∧
    (Honours mail → isBounce deployment.platform mail = false →
      ¬ OptsOut oracle fault first second deployment db mail address) := by
  refine ⟨?_, ⟨heard_of_optsOut distinct ready, ?_⟩, lost_of_honours⟩
  · intro provider conn touch subject body message built
    unfold buildMessage at built
    dsimp only at built
    split at built
    · cases built
    · obtain rfl := Except.ok.inj built
      exact List.mem_append_right _ List.mem_cons_self
  · rintro ⟨readable, heard | already⟩
    · exact optsOut_of_heard distinct ready readable heard
    · exact optsOut_of_suppressed distinct ready readable already

/-- A reply to the sample touch. -/
def answerMail (subject body : String) : InboundMail :=
  { sampleMail (some sampleQuote) none with
    subject := subject.toList
    content := .text body.toList }

theorem reply_opts_out :
    MailHeard samplePlatform dispatchedDatabase (answerMail "Re: Sound checks" "Unsubscribe me.")
        sampleAddress ∧
      OptsOut sampleOracle integrityError sampleMoment sampleMoment sampleDeployment
        dispatchedDatabase (answerMail "Re: Sound checks" "Unsubscribe me.") sampleAddress := by
  have ready : Ready sampleDeployment.platform sampleOracle dispatchedDatabase 0 := sample_ready
  have about : aboutTouch samplePlatform (answerMail "Re: Sound checks" "Unsubscribe me.") =
      some 4 := by
    decide +kernel
  have asking : asks samplePlatform "Unsubscribe me.".toList = true := by decide +kernel
  have person : isBounce samplePlatform (answerMail "Re: Sound checks" "Unsubscribe me.") =
      false := by
    decide +kernel
  have body : plainBody (answerMail "Re: Sound checks" "Unsubscribe me.") =
      .text "Unsubscribe me.".toList := by
    decide +kernel
  have readable : Readable samplePlatform (answerMail "Re: Sound checks" "Unsubscribe me.") :=
    ⟨by rw [about]; rfl, by decide, Or.inr ⟨_, body, by decide⟩⟩
  have heard : MailHeard samplePlatform dispatchedDatabase
      (answerMail "Re: Sound checks" "Unsubscribe me.") sampleAddress :=
    ⟨⟨4, _, _, _, about, rfl, by decide⟩, rfl, Or.inr ⟨_, body, asking⟩⟩
  exact ⟨heard, (opt_out_round_trip sample_distinct ready _ _).2.1.2 ⟨readable, Or.inl heard⟩⟩

/-- What a mail program sends for the header: a new message with an empty body. -/
def headerMail : InboundMail :=
  { sampleMail none none with
    subject := "unsubscribe".toList
    content := .text [] }

theorem opt_out_lost :
    Distinct sampleOracle ∧ Ready samplePlatform sampleOracle dispatchedDatabase 0 ∧
      (dispatchedDatabase.touches.lookup 4).map Touch.status = some .dispatched ∧
      (joinedTouch dispatchedDatabase 4).map (fun row => row.2.1.emailCanonical) =
        some (some sampleAddress) ∧
      Honours headerMail ∧ headerMail.sender = sampleAddress.toList ∧
      ¬ OptsOut sampleOracle integrityError sampleMoment sampleMoment sampleDeployment
        dispatchedDatabase headerMail sampleAddress ∧
      AsksInReply samplePlatform (answerMail "unsubscribe" "") 4 "acme.example".toList ∧
      ¬ OptsOut sampleOracle integrityError sampleMoment sampleMoment sampleDeployment
        dispatchedDatabase (answerMail "unsubscribe" "") sampleAddress := by
  have ready : Ready sampleDeployment.platform sampleOracle dispatchedDatabase 0 := sample_ready
  have person : isBounce sampleDeployment.platform headerMail = false := by decide +kernel
  have asking : asks samplePlatform "unsubscribe".toList = true := by decide +kernel
  refine ⟨sample_distinct, sample_ready, rfl, rfl, ⟨rfl, rfl, rfl⟩, rfl,
    lost_of_honours ⟨rfl, rfl, rfl⟩ person, ⟨⟨_, Or.inl rfl, List.infix_refl _⟩, Or.inl asking⟩, ?_⟩
  intro optsOut
  obtain ⟨_, heard | ⟨row, found, _⟩⟩ := heard_of_optsOut sample_distinct ready optsOut
  · rcases heard.asking with bounced | ⟨body, text, asking⟩
    · have person : isBounce samplePlatform (answerMail "unsubscribe" "") = false := by
        decide +kernel
      exact absurd (person.symm.trans bounced) nofun
    · obtain rfl : body = [] := Content.text.inj text.symm
      have silent : asks samplePlatform [] = false := by decide +kernel
      exact absurd (silent.symm.trans asking) nofun
  · cases found

end OptOut

end OpenReachout
