import OpenReachout.Outreach.Completions
import OpenReachout.Properties.Runs

/-!
# Which touch an inbound message is about

The parser takes the first id in the reply headers that reads as a UUID, ours or not.
A message is acted on for its touch exactly when that id is the touch's, its
Message-ID is new, and nothing in the mailbox stops the transaction.
-/

namespace OpenReachout

open Relational Relational.Program Text Text.Regex

set_option autoImplicit false

section Headers

variable (platform : Platform)

/-- The ids in the reply headers, in the order in which the parser reads them. -/
def mentioned (mail : InboundMail) : List Uuid :=
  touchIds platform (mail.inReplyTo.getD []) ++ touchIds platform (mail.references.getD [])

/-- One of the reply headers holds the Message-ID of the touch. -/
def Quotes (mail : InboundMail) (touchId : Uuid) (domain : List Char) : Prop :=
  ∃ header, (mail.inReplyTo = some header ∨ mail.references = some header) ∧
    messageIdFor touchId domain <:+: header

variable {platform}

/-- Reading finds every id that was written, whatever stands around it. -/
theorem touch_id_mentioned {touchId : Uuid} (small : touchId < 2 ^ 128) {domain header : List Char}
    (quoted : messageIdFor touchId domain <:+: header) : touchId ∈ touchIds platform header := by
  obtain ⟨early, late, rfl⟩ := quoted
  have length := uuid_text_length touchId
  have accepted : (uuidText touchId).all isHexOrHyphen = true :=
    List.all_eq_true.2 (uuid_text_chars touchId)
  have found : '<' :: (uuidText touchId ++ ['@']) ∈ touchRe.findAll platform.isWord
      (early ++ ('<' :: (uuidText touchId ++ ['@']) ++ (domain ++ ['>'] ++ late))) := by
    apply mem_findAll_of_infix
    · intro before after
      have matched := match_delimited platform.isWord '<' '@' isHexOrHyphen 36 before
        (uuidText touchId) after length accepted
      rw [List.cons_append, List.append_assoc]
      exact matched
    · intro before rest found after matched
      obtain ⟨body, plain, rfl, split⟩ := shape_of_match_delimited platform.isWord matched
      refine ⟨split, body ++ ['@'], rfl, ?_⟩
      intro member
      rcases List.mem_append.1 member with inner | last
      · exact absurd (List.all_eq_true.1 plain '<' inner) (by decide)
      · exact absurd (List.mem_singleton.1 last) (by decide)
  unfold touchIds
  refine List.mem_filterMap.2 ⟨'<' :: (uuidText touchId ++ ['@']), ?_, ?_⟩
  · have same : early ++ messageIdFor touchId domain ++ late =
        early ++ ('<' :: (uuidText touchId ++ ['@']) ++ (domain ++ ['>'] ++ late)) := by
      simp [messageIdFor]
    rw [same]
    exact found
  · have group : (('<' :: (uuidText touchId ++ ['@'])).drop 1).take 36 = uuidText touchId := by
      rw [List.drop_one, List.tail_cons, ← length, List.take_left]
    rw [group]
    exact parse_uuid_text touchId small

theorem mentioned_of_quotes {mail : InboundMail} {touchId : Uuid} (small : touchId < 2 ^ 128)
    {domain : List Char} (quotes : Quotes mail touchId domain) :
    touchId ∈ mentioned platform mail := by
  obtain ⟨header, which, quoted⟩ := quotes
  have found : touchId ∈ touchIds platform header := touch_id_mentioned small quoted
  unfold mentioned
  rcases which with here | here <;> rw [here]
  · exact List.mem_append_left _ found
  · exact List.mem_append_right _ found

theorem touchIdFrom_headers (mail : InboundMail) :
    touchIdFrom platform [mail.inReplyTo, mail.references] = (mentioned platform mail).head? := by
  have one : ∀ header : Option (List Char),
      (header.bind fun text => (touchIds platform text).head?) =
        (touchIds platform (header.getD [])).head? := by
    intro header
    cases header <;> rfl
  unfold touchIdFrom mentioned
  simp only [List.findSome?_cons, one, List.findSome?_nil]
  rw [List.head?_append]
  cases (touchIds platform (mail.inReplyTo.getD [])).head? with
  | some id => rfl
  | none => cases (touchIds platform (mail.references.getD [])).head? <;> rfl

end Headers

section Poll

variable {oracle : Nat → (call : Call) → call.Answer} {fault : Exc}
variable {moment : Moment Database RowLock} {deployment : Deployment}

theorem kind_of_parse {platform : Platform} {mail : InboundMail} {event : InboundEvent}
    (parsed : parseInbound platform mail = some event) :
    event.providerEventId = mail.eventId ∧
      event.kind = if isBounce platform mail then .bounce else .reply := by
  unfold parseInbound at parsed
  by_cases bounced : isBounce platform mail = true
  · rw [if_pos bounced] at parsed ⊢
    obtain ⟨touchId, _, rfl⟩ := Option.map_eq_some_iff.1 parsed
    exact ⟨rfl, rfl⟩
  · rw [if_neg bounced] at parsed ⊢
    obtain ⟨touchId, _, rfl⟩ := Option.map_eq_some_iff.1 parsed
    exact ⟨rfl, rfl⟩

/-- A message whose headers mention ids gives an event for the first of them. -/
theorem parse_of_mentioned {platform : Platform} {mail : InboundMail} {touchId : Uuid}
    (first : (mentioned platform mail).head? = some touchId) :
    ∃ event, parseInbound platform mail = some event ∧ event.touchId = touchId := by
  rw [← touchIdFrom_headers] at first
  unfold parseInbound
  by_cases bounced : isBounce platform mail = true
  · rw [if_pos bounced]
    unfold originalMessageId
    rw [first]
    exact ⟨_, rfl, rfl⟩
  · rw [if_neg bounced, first]
    exact ⟨_, rfl, rfl⟩

theorem storable_of_ingested {event : InboundEvent} {value : Unit}
    {before after : Alone Database}
    (ended : solo oracle fault moment (ingestInbound deployment event) before =
      (.ok value, after)) : Storable event := by
  unfold ingestInbound at ended
  cases dumped : event.payload.json with
  | none =>
      rw [dumped] at ended
      cases (congrArg Prod.fst ended : Except.error _ = Except.ok _)
  | some fields =>
      rw [dumped] at ended
      dsimp only at ended
      by_cases plain :
          (storable event.providerEventId.toList && event.payload.storable) = true
      · exact ⟨by rw [dumped]; rfl, plain⟩
      · rw [if_neg plain] at ended
        cases (congrArg Prod.fst ended : Except.error _ = Except.ok _)

theorem completes_events (distinct : Distinct oracle) (events : List InboundEvent)
    (kinds : ∀ event ∈ events, event.kind = .reply ∨ event.kind = .bounce)
    (stored : ∀ event ∈ events, Storable event) {db : Database} {answered : Nat}
    (ready : Ready deployment.platform oracle db answered) :
    Completes oracle fault moment (events.forM fun event => ingestInbound deployment event) db
      answered fun _ later taken => Ready deployment.platform oracle later taken ∧
        Grown db later ∧ ∀ key, (later.providerEvents.lookup key).isSome ↔
          (db.providerEvents.lookup key).isSome ∨ ∃ event ∈ events, key = event.key := by
  induction events generalizing db answered with
  | nil => exact completes_pure _ ⟨ready, Grown.refl db, fun key => by simp⟩
  | cons event events induction =>
      refine completes_bind ((completes_ingestInbound distinct ready
        (kinds event List.mem_cons_self) (stored event List.mem_cons_self)).mono ?_)
      rintro _ middle taken - ⟨still, grown, keys, -⟩
      have rest := induction (fun later member => kinds later (List.mem_cons_of_mem _ member))
        (fun later member => stored later (List.mem_cons_of_mem _ member)) still
      refine rest.mono ?_
      rintro _ later total - ⟨kept, more, further⟩
      refine ⟨kept, grown.trans more, ?_⟩
      intro key
      rw [further, keys]
      simp only [List.mem_cons, exists_eq_or_imp, or_assoc]

theorem kinds_of_batch (platform : Platform) (mails : List InboundMail) :
    ∀ event ∈ parseBatch platform mails, event.kind = .reply ∨ event.kind = .bounce := by
  intro event member
  obtain ⟨mail, _, parsed⟩ := List.mem_filterMap.1 member
  have kind := (kind_of_parse parsed).2
  by_cases bounced : isBounce platform mail = true
  · rw [if_pos bounced] at kind
    exact Or.inr kind
  · rw [if_neg bounced] at kind
    exact Or.inl kind

theorem parse_batch_split {platform : Platform} {mail : InboundMail} {event : InboundEvent}
    (parsed : parseInbound platform mail = some event) (earlier later : List InboundMail) :
    parseBatch platform (earlier ++ mail :: later) =
      parseBatch platform earlier ++ event :: parseBatch platform later := by
  unfold parseBatch
  rw [List.filterMap_append, List.filterMap_cons, parsed]

/-- The event has left its trace, and the trace is there when the poll commits. -/
def RecordedFor (event : InboundEvent) (touch : Touch) (prospect : Prospect) (time : Time)
    (middle next last : Database) : Prop :=
  (event.kind = .reply ∧ ∃ id row,
    ReplyRecorded event.touchId touch.prospectId event.payload.text time id middle next ∧
    next.replies.lookup id = some row ∧ last.replies.lookup id = some row) ∨
  (event.kind = .bounce ∧ ∃ email row, nonEmpty prospect.emailCanonical = some email ∧
    next.suppressions.lookup (email, globalScope) = some ⟨"bounce", none, time⟩ ∧
    last.suppressions.lookup (email, globalScope) = some row ∧ row.expiresAt = none)

variable (oracle fault moment deployment)

/-- Polling a mailbox with `mail` among its unseen messages takes it for an event about
the touch, acts on it, and commits. -/
def ActsFor (db : Database) (earlier : List InboundMail) (mail : InboundMail)
    (later : List InboundMail) (touchId : Uuid) : Prop :=
  ∃ event touch prospect tenant middle taken next counted last total,
    parseInbound deployment.platform mail = some event ∧ event.touchId = touchId ∧
    joinedTouch db touchId = some (touch, prospect, tenant) ∧
    solo oracle fault moment (pollInbox deployment earlier) ⟨db, 0, false⟩ =
      (.ok (), ⟨middle, taken, false⟩) ∧
    solo oracle fault moment (ingestInbound deployment event) ⟨middle, taken, false⟩ =
      (.ok (), ⟨next, counted, false⟩) ∧
    solo oracle fault moment (pollInbox deployment (earlier ++ mail :: later)) ⟨db, 0, false⟩ =
      (.ok (), ⟨last, total, false⟩) ∧
    middle.providerEvents.lookup event.key = none ∧
    RecordedFor event touch prospect moment.start.clock middle next last

variable {oracle fault moment deployment}

/-- The condition on the messages, and on the state before the poll. -/
structure Correlates (platform : Platform) (db : Database) (earlier : List InboundMail)
    (mail : InboundMail) (later : List InboundMail) (touchId : Uuid) (prospect : Prospect) :
    Prop where
  first : ∀ other, (mentioned platform mail).head? = some other → other = touchId
  storable : ∀ event ∈ parseBatch platform (earlier ++ mail :: later), Storable event
  fresh : db.providerEvents.lookup (providerName, mail.eventId) = none
  unrepeated : ∀ event ∈ parseBatch platform earlier, event.providerEventId ≠ mail.eventId
  address : isBounce platform mail = true → (nonEmpty prospect.emailCanonical).isSome = true

theorem acts_of_correlates (distinct : Distinct oracle) {db : Database}
    (ready : Ready deployment.platform oracle db 0) {earlier later : List InboundMail}
    {mail : InboundMail} {touchId : Uuid} {touch : Touch} {prospect : Prospect} {tenant : String}
    (joined : joinedTouch db touchId = some (touch, prospect, tenant))
    (mentions : touchId ∈ mentioned deployment.platform mail)
    (correlates : Correlates deployment.platform db earlier mail later touchId prospect) :
    ActsFor oracle fault moment deployment db earlier mail later touchId := by
  have first : (mentioned deployment.platform mail).head? = some touchId := by
    cases ids : (mentioned deployment.platform mail).head? with
    | none => exact absurd (List.head?_eq_none_iff.1 ids ▸ mentions) List.not_mem_nil
    | some other => rw [correlates.first other ids]
  obtain ⟨event, parsed, about⟩ := parse_of_mentioned first
  obtain ⟨named, kind⟩ := kind_of_parse parsed
  have split := parse_batch_split parsed earlier later
  have kinds := kinds_of_batch deployment.platform (earlier ++ mail :: later)
  have stored := correlates.storable
  rw [split] at kinds stored
  have kinds_early : ∀ event ∈ parseBatch deployment.platform earlier,
      event.kind = .reply ∨ event.kind = .bounce :=
    fun event member => kinds event (List.mem_append_left _ member)
  have stored_early : ∀ event ∈ parseBatch deployment.platform earlier, Storable event :=
    fun event member => stored event (List.mem_append_left _ member)
  have own : event ∈ parseBatch deployment.platform earlier ++
      event :: parseBatch deployment.platform later :=
    List.mem_append_right _ List.mem_cons_self
  have behind : ∀ other ∈ parseBatch deployment.platform later,
      other ∈ parseBatch deployment.platform earlier ++
        event :: parseBatch deployment.platform later :=
    fun other member => List.mem_append_right _ (List.mem_cons_of_mem _ member)
  have front : Completes oracle fault moment (pollInbox deployment earlier) db 0 _ :=
    completes_events distinct _ kinds_early stored_early ready
  obtain ⟨_, middle, taken, early, _, ready_middle, grown, keys⟩ := front
  have itself : Completes oracle fault moment (ingestInbound deployment event) middle taken _ :=
    completes_ingestInbound distinct ready_middle (kinds event own) (stored event own)
  obtain ⟨_, next, counted, done, _, ready_next, _, _, ingested⟩ := itself
  have back : Completes oracle fault moment (pollInbox deployment later) next counted _ :=
    completes_events distinct _ (fun other member => kinds other (behind other member))
      (fun other member => stored other (behind other member)) ready_next
  obtain ⟨_, last, total, late, _, _, after, _⟩ := back
  have whole : solo oracle fault moment (pollInbox deployment (earlier ++ mail :: later))
      ⟨db, 0, false⟩ = (.ok (), ⟨last, total, false⟩) := by
    unfold pollInbox at early late ⊢
    rw [split, solo_forM_append, early]
    change solo oracle fault moment (ingestInbound deployment event >>= fun _ =>
      (parseBatch deployment.platform later).forM fun event => ingestInbound deployment event) _ = _
    rw [solo_bind, done]
    exact late
  have key_eq : event.key = (providerName, mail.eventId) := by rw [InboundEvent.key, named]
  have unseen : middle.providerEvents.lookup event.key = none := by
    rw [← Option.not_isSome_iff_eq_none, keys, key_eq, correlates.fresh]
    rintro (known | ⟨other, member, same⟩)
    · cases known
    · exact correlates.unrepeated other member (Prod.mk.inj same).2.symm
  obtain ⟨other, joined_middle, same⟩ := grown.joined joined
  have address_same : other.emailCanonical = prospect.emailCanonical := by
    have equal := congrArg Prospect.emailCanonical same
    exact equal
  refine ⟨event, touch, prospect, tenant, middle, taken, next, counted, last, total, parsed, about,
    joined, early, done, whole, unseen, ?_⟩
  rcases ingested.acted unseen (about ▸ joined_middle) with
    ⟨replied, _, id, recorded⟩ | ⟨bounced, _, _, suppressions, _⟩
  · exact Or.inl ⟨replied, id, _, recorded, recorded.present, after.replies id _ recorded.present⟩
  · have bounce : isBounce deployment.platform mail = true := by
      by_contra not_bounce
      rw [if_neg not_bounce, bounced] at kind
      cases kind
    obtain ⟨email, address⟩ := Option.isSome_iff_exists.1 (correlates.address bounce)
    rw [address_same, address] at suppressions
    have written : next.suppressions.lookup (email, globalScope) =
        some ⟨"bounce", none, moment.start.clock⟩ := by
      rw [suppressions, suppressing, Table.lookup_upsert, if_pos rfl]
      cases middle.suppressions.lookup (email, globalScope) <;> rfl
    obtain ⟨row, present, lasting⟩ := after.suppressions _ _ written rfl
    exact Or.inr ⟨bounced, email, row, address, written, present, lasting⟩

theorem correlates_of_acts (distinct : Distinct oracle) {db : Database}
    (ready : Ready deployment.platform oracle db 0) {earlier later : List InboundMail}
    {mail : InboundMail} {touchId : Uuid} {touch : Touch} {prospect : Prospect} {tenant : String}
    (joined : joinedTouch db touchId = some (touch, prospect, tenant))
    (acts : ActsFor oracle fault moment deployment db earlier mail later touchId) :
    Correlates deployment.platform db earlier mail later touchId prospect := by
  obtain ⟨event, touch', prospect', tenant', middle, taken, next, counted, last, total, parsed,
    about, joined', early, done, whole, unseen, recorded⟩ := acts
  obtain ⟨rfl, rfl, rfl⟩ : touch' = touch ∧ prospect' = prospect ∧ tenant' = tenant := by
    simpa using joined'.symm.trans joined
  obtain ⟨named, kind⟩ := kind_of_parse parsed
  have split := parse_batch_split parsed earlier later
  have stored : ∀ event ∈ parseBatch deployment.platform (earlier ++ mail :: later),
      Storable event := by
    intro other member
    obtain ⟨before, after, value, ended⟩ := ok_of_solo_forM _ whole other member
    exact storable_of_ingested ended
  have front : Completes oracle fault moment (pollInbox deployment earlier) db 0 _ :=
    completes_events distinct _ (kinds_of_batch _ _)
      (fun other member => stored other (by rw [split]; exact List.mem_append_left _ member)) ready
  obtain ⟨_, middle', _, early', _, _, _, keys⟩ := front
  obtain rfl : middle' = middle := by
    have same := early'.symm.trans early
    simp only [Prod.mk.injEq, Alone.mk.injEq] at same
    exact same.2.1
  rw [← Option.not_isSome_iff_eq_none, keys, not_or] at unseen
  have key_eq : event.key = (providerName, mail.eventId) := by rw [InboundEvent.key, named]
  refine ⟨?_, stored, ?_, ?_, ?_⟩
  · intro other first
    obtain ⟨event', parsed', about'⟩ := parse_of_mentioned first
    obtain rfl := Option.some.inj (parsed'.symm.trans parsed)
    exact about'.symm.trans about
  · rw [← key_eq, ← Option.not_isSome_iff_eq_none]
    exact unseen.1
  · intro other member same
    refine unseen.2 ⟨other, member, ?_⟩
    rw [key_eq, InboundEvent.key, same]
  · intro bounced
    rw [if_pos bounced] at kind
    rcases recorded with ⟨replied, _⟩ | ⟨_, email, row, address, _⟩
    · rw [kind] at replied
      cases replied
    · rw [address]
      rfl

/-- A reply or a bounce that quotes the touch is acted on for it exactly when its first
id is the touch's, its Message-ID is new, the mailbox can be ingested, and a bounce has
an address to suppress. -/
theorem inbound_correlation (distinct : Distinct oracle) {db : Database}
    (ready : Ready deployment.platform oracle db 0) (earlier later : List InboundMail)
    {mail : InboundMail} {touchId : Uuid} {touch : Touch} {prospect : Prospect} {tenant : String}
    (joined : joinedTouch db touchId = some (touch, prospect, tenant))
    (small : touchId < 2 ^ 128) {domain : List Char} (quotes : Quotes mail touchId domain) :
    ActsFor oracle fault moment deployment db earlier mail later touchId ↔
      Correlates deployment.platform db earlier mail later touchId prospect :=
  ⟨correlates_of_acts distinct ready joined,
    acts_of_correlates distinct ready joined (mentioned_of_quotes small quotes)⟩

/-- The sample world once its touch has gone out. -/
def dispatchedDatabase : Database :=
  { sampleDatabase with
    touches := Table.empty.insert 4 { sampleTouch with status := .dispatched }
    prospects := Table.empty.insert 3 { sampleProspect with state := .contacted } }

def sampleOracle (index : Nat) : (call : Call) → call.Answer := sampleReply sampleClock (100 + index)

theorem sample_distinct : Distinct sampleOracle := by
  constructor
  all_goals
    intro first second same
    have equal : 100 + first = 100 + second := same
    omega

theorem sample_ready : Ready samplePlatform sampleOracle dispatchedDatabase 0 := by
  refine ⟨?_, fun _ _ => rfl, fun _ _ => rfl, ?_, ?_⟩
  · intro id row email found stored
    simp only [dispatchedDatabase, Table.lookup_insert, Table.lookup_empty] at found
    by_cases same : id = 3
    · rw [if_pos same] at found
      obtain rfl := Option.some.inj found
      obtain rfl := Option.some.inj stored
      decide +kernel
    · rw [if_neg same] at found
      cases found
  · intro index _
    have apart : 100 + index ≠ 5 := by omega
    exact (Table.lookup_insert ..).trans (if_neg apart)
  · intro index _
    exact (Table.lookup_insert ..).trans (if_neg nofun)

def sampleMoment : Moment Database RowLock := ⟨dispatchedDatabase, fun _ => false⟩

def sampleMail (inReplyTo references : Option (List Char)) : InboundMail where
  contentType := "text/plain"
  content := .text "Tell me more about pricing?".toList
  payload := []
  messageId := some "<r1@clinic.example>"
  rawHash := 0
  sender := sampleAddress.toList
  subject := "Re: Sound checks".toList
  inReplyTo := inReplyTo
  references := references
  reportType := none
  isMultipart := false
  parts := []

def sampleQuote : List Char := messageIdFor 4 "acme.example".toList

/-- The id of a message of the reader's own mail program. -/
def foreignQuote : List Char := messageIdFor 7 "clinic.example".toList

theorem reply_acted_on : ActsFor sampleOracle integrityError sampleMoment sampleDeployment
    dispatchedDatabase [] (sampleMail (some sampleQuote) none) [] 4 := by
  have quotes : Quotes (sampleMail (some sampleQuote) none) 4 "acme.example".toList :=
    ⟨sampleQuote, Or.inl rfl, List.infix_refl _⟩
  have ready : Ready sampleDeployment.platform sampleOracle dispatchedDatabase 0 := sample_ready
  have correlates : Correlates sampleDeployment.platform dispatchedDatabase []
      (sampleMail (some sampleQuote) none) [] 4 { sampleProspect with state := .contacted } := by
    have ids : (mentioned samplePlatform (sampleMail (some sampleQuote) none)).head? = some 4 := by
      decide +kernel
    have stored : ∀ event ∈ parseBatch samplePlatform [sampleMail (some sampleQuote) none],
        Storable event := by
      decide +kernel
    exact ⟨fun other first => Option.some.inj (first.symm.trans ids), stored, rfl,
      fun _ member => absurd member List.not_mem_nil, fun _ => rfl⟩
  exact (inbound_correlation sample_distinct ready [] [] rfl (by decide) quotes).2 correlates

/-- A reply to a thread in which the reader has written before: the mail program's own id
comes first, and the parser takes it for a touch. -/
def lostMail : InboundMail := sampleMail (some foreignQuote) (some (sampleQuote ++ ' ' :: foreignQuote))

theorem reply_lost :
    Ready samplePlatform sampleOracle dispatchedDatabase 0 ∧ Distinct sampleOracle ∧
      (joinedTouch dispatchedDatabase 4).isSome ∧
      Quotes lostMail 4 "acme.example".toList ∧ joinedTouch dispatchedDatabase 7 = none ∧
      ¬ ActsFor sampleOracle integrityError sampleMoment sampleDeployment dispatchedDatabase []
        lostMail [] 4 := by
  have quotes : Quotes lostMail 4 "acme.example".toList :=
    ⟨_, Or.inr rfl, [], ' ' :: foreignQuote, rfl⟩
  refine ⟨sample_ready, sample_distinct, rfl, quotes, rfl, ?_⟩
  have parsed : (parseInbound samplePlatform lostMail).map InboundEvent.touchId = some 7 := by
    decide +kernel
  rintro ⟨event, _, _, _, _, _, _, _, _, _, found, about, _⟩
  rw [show parseInbound samplePlatform lostMail = some event from found, Option.map_some,
    about] at parsed
  cases parsed

end Poll

end OpenReachout
