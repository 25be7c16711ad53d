import OpenReachout.Adapters.Polling
import OpenReachout.Outreach.Discipline
import OpenReachout.Properties.Correlation
import OpenReachout.Relational.Hearing

/-!
# Polls

What becomes of a message between the Seen flag of the mail server and the row of the
service, wherever the poller stops: a message is acted on at most once, and it can be
lost.
-/

namespace OpenReachout

open Relational Relational.Program Text

set_option autoImplicit false

/-- The event has its row. -/
def Noted (eventId : String) (db : Database) : Prop :=
  (db.providerEvents.lookup (providerName, eventId)).isSome = true

/-- Rows of events are left where they are. -/
def noting : Allowed where
  mark _ := True
  write write := ∀ eventId db, Noted eventId db → Noted eventId (write.apply db)
  idle _ _ noted := noted

def Noting (old new : Database) : Prop := ∀ eventId, Noted eventId old → Noted eventId new

theorem noting_timeline : Timeline Noting :=
  ⟨fun _ _ noted => noted, fun first second eventId noted => second eventId (first eventId noted)⟩

theorem ordinary_noting : Ordinary noting := by
  constructor
  case marks => exact fun _ _ => trivial
  case providerEvents =>
    intro key row eventId db noted
    change ((db.providerEvents.insert key row).lookup (providerName, eventId)).isSome = true
    rw [Table.lookup_insert]
    split_ifs
    · rfl
    · exact noted
  case touches => exact fun _ _ _ _ _ noted => noted
  case counters => exact fun _ _ _ _ _ _ noted => noted
  case mailboxCounters => exact fun _ _ _ _ _ noted => noted
  case received => exact fun _ _ _ _ noted => noted
  case exchanged => exact fun _ _ _ _ noted => noted
  case audited => exact fun _ _ _ _ noted => noted
  case objections => exact fun _ _ _ noted => noted
  all_goals exact fun _ _ _ _ _ _ noted => noted

theorem liberal_noting : Liberal noting where
  toOrdinary := ordinary_noting
  prospects _ _ _ _ _ _ noted := noted
  replies _ _ _ _ _ _ noted := noted
  variantStats _ _ _ _ _ _ noted := noted
  capped _ _ _ _ _ _ noted := noted
  braked _ _ _ _ noted := noted
  moved _ _ _ _ noted := noted

theorem noting_moves (actor : String) : Moves noting.discipline actor :=
  liberal_noting.within_moves fun _ _ => trivial

section Views

variable {deployment : Deployment}

theorem within_noting (op : Op) : Within noting (Op.program deployment op) :=
  within_program liberal_noting op (fun _ => ⟨fun _ _ _ _ _ _ noted => noted⟩)
    (fun _ => ⟨fun _ _ _ _ noted => noted⟩) (fun _ => ⟨fun _ _ _ _ noted => noted⟩)
    fun _ _ _ _ => trivial

variable {Value : Type} {txn : Txn Database RowLock Mark Call}

theorem noted_view (writes : ∀ write ∈ txn.writes, noting.write write) {eventId : String}
    {db : Database} (noted : Noted eventId db) : Noted eventId (txn.view db) := by
  have step : ∀ (write : Write Database RowLock) (db : Database), noting.write write →
      Noted eventId db → Noted eventId (write.apply db) := fun _ db good => good eventId db
  exact view_induction writes step noted

/-- What a transaction sees noted it sees noted later on. -/
theorem noted_later (writes : ∀ write ∈ txn.writes, noting.write write) {eventId : String}
    {early late : Database} (later : Noting early late)
    (noted : Noted eventId (txn.view early)) : Noted eventId (txn.view late) := by
  by_cases already : Noted eventId late
  · exact noted_view writes already
  · -- nobody has noted it, so that its row is as it was
    have absent : ∀ db, ¬ Noted eventId db →
        db.providerEvents.lookup (providerName, eventId) = none := by
      intro db missing
      unfold Noted at missing
      rw [← Option.not_isSome_iff_eq_none]
      exact missing
    have before : ¬ Noted eventId early := fun known => already (later eventId known)
    have same : early.providerEvents.lookup (providerName, eventId) =
        late.providerEvents.lookup (providerName, eventId) := by
      rw [absent early before, absent late already]
    have cells := txn.cell_view_congr early (RowLock.providerEvent (providerName, eventId)) late same
    have rows : (txn.view early).providerEvents.lookup (providerName, eventId) =
        (txn.view late).providerEvents.lookup (providerName, eventId) := cells
    unfold Noted at noted ⊢
    rw [← rows]
    exact noted

variable {program : Program Database RowLock Exc Mark Call Call.Answer Value}
variable {a b : Point Database RowLock Mark Call} {outcome : Except Exc Value}

theorem writes_noting (within_ : Within noting program)
    (exec : Exec Noting program a outcome b)
    (writes : ∀ write ∈ a.txn.writes, noting.write write) :
    ∀ write ∈ b.txn.writes, noting.write write := by
  have only : Only noting.write program :=
    every_mono (fun _ _ holds => holds.2) (fun _ holds => holds) within_
  obtain ⟨more, same, good⟩ := exec_only only exec
  rw [same]
  intro write member
  rcases List.mem_append.1 member with old | new
  · exact writes write old
  · exact good write new

theorem noted_exec (within_ : Within noting program) (exec : Exec Noting program a outcome b)
    (writes : ∀ write ∈ a.txn.writes, noting.write write) {eventId : String}
    (noted : Noted eventId (a.txn.view a.committed)) :
    Noted eventId (b.txn.view b.committed) := by
  have only : Only noting.write program :=
    every_mono (fun _ _ holds => holds.2) (fun _ holds => holds) within_
  obtain ⟨more, same, good⟩ := exec_only only exec
  have early := noted_later writes (exec_extends noting_timeline exec).rely noted
  unfold Txn.view at early ⊢
  rw [same, List.foldl_append]
  generalize a.txn.writes.foldl _ b.committed = db at early
  clear same
  induction more generalizing db with
  | nil => exact early
  | cons write more induction =>
      have first := good write List.mem_cons_self eventId db early
      exact induction (fun later member => good later (List.mem_cons_of_mem _ member)) _ first

theorem noted_ingestEvent {event : ProviderEvent}
    (exec : Exec Noting (ingestEvent deployment event) a (.ok ()) b)
    (writes : ∀ write ∈ a.txn.writes, noting.write write) :
    Noted event.providerEventId (b.txn.view b.committed) := by
  unfold ingestEvent at exec
  obtain ⟨fresh, middle, inserted, rest⟩ := (exec_bind_ok ..).1 exec
  have insertion : Within noting (insertNew Tables.providerEvents
      (providerName, event.providerEventId) fun _ => ⟨event.kind.text, event.payload⟩ :
      Prog Bool) :=
    within_insertFresh (ordinary_noting.providerEvents _) _
  have written := writes_noting insertion inserted writes
  have noted : Noted event.providerEventId (middle.txn.view middle.committed) := by
    obtain ⟨db, _, _, _, busy, effect, success, _, rfl⟩ := (exec_perform_ok ..).1 inserted
    rw [Txn.view_record]
    split at success
    · next row found =>
        obtain rfl := Except.ok.inj success
        exact Option.isSome_iff_exists.2 ⟨row, found⟩
    · obtain rfl := Except.ok.inj success
      exact Option.isSome_iff_exists.2 ⟨_, (Table.lookup_insert ..).trans (if_pos rfl)⟩
  cases fresh with
  | false =>
      obtain ⟨_, rfl⟩ := rest
      exact noted
  | true =>
      have acting : Within noting (actOn deployment event) :=
        keeps_actOn ordinary_noting (noting_moves _) noting.catching liberal_noting.within_guards
          event
      exact noted_exec acting rest written noted

/-- What a transaction that ingests events has done by its end. -/
theorem noted_ingestEvents {events : List ProviderEvent}
    (exec : Exec Noting (ingestEvents deployment events) a (.ok ()) b)
    (writes : ∀ write ∈ a.txn.writes, noting.write write) :
    ∀ event ∈ events, Noted event.providerEventId (b.txn.view b.committed) := by
  induction events generalizing a with
  | nil => exact fun _ member => absurd member List.not_mem_nil
  | cons first events induction =>
      change Exec Noting (ingestEvent deployment first >>= fun _ => ingestEvents deployment events)
        a (.ok ()) b at exec
      obtain ⟨_, middle, one, others⟩ := (exec_bind_ok ..).1 exec
      have ingesting : Within noting (ingestEvent deployment first) :=
        keeps_ingestEvent ordinary_noting (noting_moves _) noting.catching
          liberal_noting.within_guards first
      have onward : Within noting (ingestEvents deployment events) :=
        keeps_ingestEvents ordinary_noting (noting_moves _) noting.catching
          liberal_noting.within_guards events
      have written := writes_noting ingesting one writes
      intro event member
      rcases List.mem_cons.1 member with rfl | member
      · exact noted_exec onward others written (noted_ingestEvent one writes)
      · exact induction others written event member

end Views

section Service

variable {deployment : Deployment} {world after : World} {action : Act}

theorem writes_of_commits {op : Op} {out : Out} {txn : Txn Database RowLock Mark Call}
    {db : Database} (commits : Commits (service deployment) Noting op out txn db) :
    ∀ write ∈ txn.writes, noting.write write := by
  obtain ⟨last, _, exec⟩ := commits.exec
  exact writes_noting (within_noting op) exec fun _ member => absurd member List.not_mem_nil

/-- No step takes a row of an event away. -/
theorem noting_step (sound : world.Sound (service deployment) Noting)
    (step : (service deployment).act action world = some after) :
    Noting world.committed after.committed := by
  intro eventId noted
  rcases act_committed step with same | ⟨ticks, _, moved⟩ | ⟨_, op, out, txn, _, there, intact, moved⟩
  · rw [same]
    exact noted
  · rw [moved]
    exact noted
  · rw [moved]
    exact noted_view (writes_of_commits (commits_of_done sound there intact)) noted

theorem sound_step (sound : world.Sound (service deployment) Noting)
    (step : (service deployment).act action world = some after) :
    after.Sound (service deployment) Noting :=
  act_sound noting_timeline sound step (noting_step sound step)

/-- The commit of a batch leaves a row for each of its events. -/
theorem noted_commit (sound : world.Sound (service deployment) Noting) {index : Nat}
    {events : List ProviderEvent} {out : Out} {txn : Txn Database RowLock Mark Call}
    (there : world.session index = some ⟨.ingestEvents events, .done out, txn⟩)
    (intact : txn.failed = false)
    (step : (service deployment).act (.finish index) world = some after) :
    ∀ event ∈ events, Noted event.providerEventId after.committed := by
  have commits := commits_of_done sound there intact
  obtain ⟨last, earlier, exec⟩ := commits.exec
  obtain ⟨_, middle, ingested, rest⟩ := (exec_bind_ok ..).1 exec
  obtain ⟨_, rfl⟩ := rest
  rw [committed_of_finish there intact step]
  intro event member
  have noted := noted_ingestEvents ingested (fun _ member => absurd member List.not_mem_nil)
    event member
  exact noted_later (writes_of_commits commits) earlier noted

end Service

section Letters

theorem getElem_markSeen (letters : List Letter) (num other : Nat) :
    (markSeen letters num)[other]? =
      letters[other]?.map fun letter =>
        if num = other then { letter with seen := true } else letter := by
  unfold markSeen
  rw [List.getElem?_modify]
  split_ifs with same
  · rfl
  · simp

theorem unseen_nodup (letters : List Letter) : (unseen letters).Nodup := by
  unfold unseen
  have part : ((letters.zipIdx.filter fun entry => !entry.1.seen).map Prod.snd).Sublist
      (letters.zipIdx.map Prod.snd) := (List.filter_sublist).map _
  refine part.nodup ?_
  rw [List.zipIdx_map_snd]
  exact List.nodup_range'

theorem letter_of_unseen {letters : List Letter} {num : Nat} (member : num ∈ unseen letters) :
    ∃ letter, letters[num]? = some letter ∧ letter.seen = false := by
  obtain ⟨entry, listed, rfl⟩ := List.mem_map.1 member
  obtain ⟨there, fresh⟩ := List.mem_filter.1 listed
  refine ⟨entry.1, List.mem_zipIdx_iff_getElem?.1 there, ?_⟩
  rw [Bool.not_eq_true'] at fresh
  exact fresh

/-- The hash of the bytes names the event, and decides nothing else. -/
theorem parseInbound_hashed (platform : Platform) (hash : Nat → InboundMail → Int) (salt : Nat)
    (mail : InboundMail) :
    parseInbound platform (mail.hashed hash salt) =
      (parseInbound platform mail).map fun event =>
        { event with providerEventId := (mail.hashed hash salt).eventId } := by
  unfold parseInbound
  change (if isBounce platform mail then _ else _) = _
  split_ifs
  · rw [Option.map_map]
    rfl
  · rw [Option.map_map]
    rfl

end Letters

section Rooms

variable (deployment : Deployment) (hash : Nat → InboundMail → Int)

namespace Mailroom

variable (room : Mailroom)

def Seen (box num : Nat) : Prop := ∃ letter, room.letter box num = some letter ∧ letter.seen = true

/-- The message has its row, under the id that it has for one process or another. -/
def Recorded (box num : Nat) : Prop :=
  ∃ letter salt, room.letter box num = some letter ∧
    Noted (letter.mail.hashed hash salt).eventId room.world.committed

/-- No message that belongs to a touch is lost. -/
def Kept : Prop :=
  ∀ box num, room.Seen box num → room.correlated deployment box num = true →
    room.Recorded hash box num

/-- What is marked as seen belongs to no touch, or has its row already. -/
def Stores (action : PollAction) : Prop :=
  ∀ box num nums raws rest, action = .store → room.poller = .storing box num nums raws rest →
    room.correlated deployment box num = true → room.Recorded hash box num

/-- The process goes on, and no transaction of it fails. -/
def Undisturbed : PollAction → Prop
  | .stop => False
  | .ingest => ∀ box raws rest, room.poller = .fetching box [] raws rest →
      ((parseBatch deployment.platform (room.mails hash box raws)).mapM
        InboundEvent.provided).isSome = true
  | .finish => ∀ index box raws rest, room.poller = .ingesting index box raws rest →
      Committable room.world index
  | _ => True

end Mailroom

end Rooms

section Moves

variable {deployment : Deployment} {hash : Nat → InboundMail → Int}
variable {room after : Mailroom} {action : PollAction} {box num : Nat} {letter later : Letter}

theorem letter_arrived (mail : InboundMail) (added : Nat) :
    (Function.update room.boxes added (room.boxes added ++ [⟨mail, false⟩]) box)[num]? =
      some later →
    room.letter box num = some later ∨ later.seen = false := by
  intro found
  by_cases same : box = added
  · subst same
    rw [Function.update_self, List.getElem?_append] at found
    split_ifs at found with inside
    · exact Or.inl found
    · have fresh : later = ⟨mail, false⟩ := by
        have member := List.mem_of_getElem? found
        exact List.mem_singleton.1 member
      exact Or.inr (congrArg Letter.seen fresh)
  · rw [Function.update_of_ne same] at found
    exact Or.inl found

theorem letter_stored (stored marked : Nat) :
    (Function.update room.boxes stored (markSeen (room.boxes stored) marked) box)[num]? =
      (room.letter box num).map fun letter =>
        if stored = box ∧ marked = num then { letter with seen := true } else letter := by
  unfold Mailroom.letter
  by_cases same : box = stored
  · subst same
    rw [Function.update_self, getElem_markSeen]
    simp only [true_and]
  · rw [Function.update_of_ne same]
    have apart : ¬ (stored = box ∧ marked = num) := fun both => same both.1.symm
    simp only [if_neg apart, Option.map_id']

/-- A message is as it was, or it is new, or it has been marked. -/
theorem letter_cases (moved : room.Moved deployment hash action after)
    (found : after.letter box num = some later) :
    room.letter box num = some later ∨ (action ≠ .store ∧ later.seen = false) ∨
      ∃ letter nums raws rest, action = .store ∧
        room.poller = .storing box num nums raws rest ∧ room.letter box num = some letter ∧
        later.mail = letter.mail := by
  cases moved with
  | arrived added mail =>
      rcases letter_arrived mail added found with old | fresh
      · exact Or.inl old
      · exact Or.inr (Or.inl ⟨nofun, fresh⟩)
  | stored stored marked nums raws rest at_ =>
      have mapped := (letter_stored stored marked).symm.trans found
      obtain ⟨letter, there, same⟩ := Option.map_eq_some_iff.1 mapped
      split_ifs at same with mine
      · obtain ⟨rfl, rfl⟩ := mine
        refine Or.inr (Or.inr ⟨letter, nums, raws, rest, rfl, at_, there, ?_⟩)
        rw [← same]
      · rw [← same]
        exact Or.inl there
  | _ => exact Or.inl found

/-- A message stays where it is, and stays seen. -/
theorem letter_kept (moved : room.Moved deployment hash action after)
    (found : room.letter box num = some letter) :
    ∃ later, after.letter box num = some later ∧ later.mail = letter.mail ∧
      (letter.seen = true → later.seen = true) := by
  cases moved with
  | arrived added mail =>
      refine ⟨letter, ?_, rfl, id⟩
      unfold Mailroom.letter at found ⊢
      by_cases same : box = added
      · subst same
        dsimp only
        rw [Function.update_self, List.getElem?_append_left]
        · exact found
        · exact (List.getElem?_eq_some_iff.1 found).1
      · dsimp only
        rw [Function.update_of_ne same]
        exact found
  | stored stored marked nums raws rest at_ =>
      refine ⟨if stored = box ∧ marked = num then { letter with seen := true } else letter,
        ?_, ?_, ?_⟩
      · refine (letter_stored stored marked).trans ?_
        rw [found]
        rfl
      · split_ifs <;> rfl
      · intro seen
        split_ifs
        · rfl
        · exact seen
  | _ => exact ⟨letter, found, rfl, id⟩

theorem correlated_kept (moved : room.Moved deployment hash action after)
    (found : room.letter box num = some letter) :
    after.correlated deployment box num = room.correlated deployment box num := by
  obtain ⟨later, there, same, _⟩ := letter_kept moved found
  unfold Mailroom.correlated
  rw [there, found]
  simp only [Option.any_some, same]

theorem noting_moved (sound : room.world.Sound (service deployment) Noting)
    (moved : room.Moved deployment hash action after) :
    Noting room.world.committed after.world.committed := by
  cases moved with
  | served step foreign => exact noting_step sound step
  | opened box raws rest events at_ given step => exact noting_step sound step
  | committed index box raws rest at_ commits step => exact noting_step sound step
  | raised index box raws rest at_ fails step => exact noting_step sound step
  | dropped index box raws rest at_ step => exact noting_step sound step
  | _ => exact fun _ noted => noted

theorem sound_moved (sound : room.world.Sound (service deployment) Noting)
    (moved : room.Moved deployment hash action after) :
    after.world.Sound (service deployment) Noting := by
  cases moved with
  | served step foreign => exact sound_step sound step
  | opened box raws rest events at_ given step => exact sound_step sound step
  | committed index box raws rest at_ commits step => exact sound_step sound step
  | raised index box raws rest at_ fails step => exact sound_step sound step
  | dropped index box raws rest at_ step => exact sound_step sound step
  | _ => exact sound

theorem recorded_moved (sound : room.world.Sound (service deployment) Noting)
    (moved : room.Moved deployment hash action after) (recorded : room.Recorded hash box num) :
    after.Recorded hash box num := by
  obtain ⟨letter, salt, found, noted⟩ := recorded
  obtain ⟨later, there, same, _⟩ := letter_kept moved found
  refine ⟨later, salt, there, ?_⟩
  rw [same]
  exact noting_moved sound moved _ noted

theorem seen_moved (moved : room.Moved deployment hash action after) (seen : room.Seen box num) :
    after.Seen box num := by
  obtain ⟨letter, found, marked⟩ := seen
  obtain ⟨later, there, _, kept⟩ := letter_kept moved found
  exact ⟨later, there, kept marked⟩

theorem seen_stored (moved : room.Moved deployment hash .store after) {nums raws rest : List Nat}
    (at_ : room.poller = .storing box num nums raws rest)
    (found : room.letter box num = some letter) : after.Seen box num := by
  cases moved with
  | stored stored marked nums' raws' rest' at_' =>
      obtain ⟨rfl, rfl, _⟩ := Poller.storing.inj (at_.symm.trans at_')
      refine ⟨{ letter with seen := true }, (letter_stored box num).trans ?_, rfl⟩
      rw [found]
      simp

/-- Marking a message gives it no row. -/
theorem recorded_stored (moved : room.Moved deployment hash .store after)
    (recorded : after.Recorded hash box num) : room.Recorded hash box num := by
  have same : after.world = room.world := by
    cases moved
    rfl
  obtain ⟨later, salt, found, noted⟩ := recorded
  rw [same] at noted
  rcases letter_cases moved found with old | fresh | ⟨letter, _, _, _, _, _, there, mail⟩
  · exact ⟨later, salt, old, noted⟩
  · exact absurd rfl fresh.1
  · rw [mail] at noted
    exact ⟨letter, salt, there, noted⟩

/-- The only step that loses a message is the one that marks it. -/
theorem kept_iff_stores (sound : room.world.Sound (service deployment) Noting)
    (kept : room.Kept deployment hash) (moved : room.Moved deployment hash action after) :
    after.Kept deployment hash ↔ room.Stores deployment hash action := by
  constructor
  · intro holds box num nums raws rest store at_ correlated
    subst store
    obtain ⟨letter, found, _⟩ := (Option.any_eq_true _ _).1 correlated
    apply recorded_stored moved
    apply holds box num (seen_stored moved at_ found)
    rw [correlated_kept moved found]
    exact correlated
  · intro stores box num seen correlated
    obtain ⟨later, found, marked⟩ := seen
    rcases letter_cases moved found with old | fresh | ⟨letter, nums, raws, rest, store, at_, there, _⟩
    · rw [correlated_kept moved old] at correlated
      exact recorded_moved sound moved (kept box num ⟨later, old, marked⟩ correlated)
    · rw [fresh.2] at marked
      cases marked
    · rw [correlated_kept moved there] at correlated
      exact recorded_moved sound moved (stores box num nums raws rest store at_ correlated)

end Moves

section Batches

/-- What the poller has read of a mailbox and not yet ingested. -/
def Poller.batch : Poller → Option (Nat × List Nat)
  | .idle | .polling _ => none
  | .fetching box _ raws _ | .storing box _ _ raws _ | .ingesting _ box raws _ => some (box, raws)

/-- What it is about to mark. -/
def Poller.ahead : Poller → Option (Nat × List Nat)
  | .fetching box nums _ _ => some (box, nums)
  | .storing box num nums _ _ => some (box, num :: nums)
  | _ => none

variable {deployment : Deployment} {hash : Nat → InboundMail → Int}

namespace Mailroom

variable (room : Mailroom)

def Fresh (box num : Nat) : Prop := ∃ letter, room.letter box num = some letter ∧ letter.seen = false

/-- Every message is ingested at most once: what is ingested has been seen, and what is
going to be was not seen before this poll. -/
structure Once : Prop where
  once : room.ingested.Nodup
  seen : ∀ box num, (box, num) ∈ room.ingested → room.Seen box num
  batch : ∀ box raws, room.poller.batch = some (box, raws) → raws.Nodup ∧
    ∀ num ∈ raws, room.Seen box num ∧ (box, num) ∉ room.ingested
  ahead : ∀ box nums, room.poller.ahead = some (box, nums) → nums.Nodup ∧
    ∀ num ∈ nums, room.Fresh box num

end Mailroom

variable {room after : Mailroom} {action : PollAction}

theorem unseen_of_fresh {box num : Nat} (fresh : room.Fresh box num) : ¬ room.Seen box num := by
  rintro ⟨letter, found, seen⟩
  obtain ⟨other, there, unseen⟩ := fresh
  obtain rfl := Option.some.inj (found.symm.trans there)
  rw [unseen] at seen
  cases seen

/-- Only marking a message makes it seen. -/
theorem fresh_moved (moved : room.Moved deployment hash action after) {box num : Nat}
    (fresh : room.Fresh box num)
    (spared : ∀ nums raws rest, action = .store →
      room.poller ≠ .storing box num nums raws rest) : after.Fresh box num := by
  obtain ⟨letter, found, unseen⟩ := fresh
  obtain ⟨later, there, _, _⟩ := letter_kept moved found
  refine ⟨later, there, ?_⟩
  rcases letter_cases moved there with old | new | ⟨_, nums, raws, rest, store, at_, _⟩
  · rw [found] at old
    rw [← Option.some.inj old]
    exact unseen
  · exact new.2
  · exact absurd at_ (spared nums raws rest store)

/-- Steps that read nothing and ingest nothing. -/
theorem once_carried (moved : room.Moved deployment hash action after) (once : room.Once)
    (same : after.ingested = room.ingested) (stores : action ≠ .store)
    (batch : after.poller.batch = none ∨ after.poller.batch = room.poller.batch)
    (ahead : after.poller.ahead = none ∨ after.poller.ahead = room.poller.ahead) :
    after.Once where
  once := by
    rw [same]
    exact once.once
  seen box num member := by
    rw [same] at member
    exact seen_moved moved (once.seen box num member)
  batch box raws found := by
    rcases batch with none_ | kept
    · rw [none_] at found
      cases found
    · rw [kept] at found
      obtain ⟨distinct, each⟩ := once.batch box raws found
      refine ⟨distinct, fun num member => ⟨seen_moved moved (each num member).1, ?_⟩⟩
      rw [same]
      exact (each num member).2
  ahead box nums found := by
    rcases ahead with none_ | kept
    · rw [none_] at found
      cases found
    · rw [kept] at found
      obtain ⟨distinct, each⟩ := once.ahead box nums found
      exact ⟨distinct, fun num member =>
        fresh_moved moved (each num member) fun _ _ _ store => absurd store stores⟩

theorem once_moved (once : room.Once) (moved : room.Moved deployment hash action after) :
    after.Once := by
  have whole := moved
  cases moved with
  | served step foreign => exact once_carried whole once rfl nofun (Or.inr rfl) (Or.inr rfl)
  | arrived box mail => exact once_carried whole once rfl nofun (Or.inr rfl) (Or.inr rfl)
  | started boxes salt at_ => exact once_carried whole once rfl nofun (Or.inl rfl) (Or.inl rfl)
  | ended at_ => exact once_carried whole once rfl nofun (Or.inl rfl) (Or.inl rfl)
  | skipped box raws rest at_ empty =>
      exact once_carried whole once rfl nofun (Or.inl rfl) (Or.inl rfl)
  | refused box raws rest at_ none_ =>
      exact once_carried whole once rfl nofun (Or.inl rfl) (Or.inl rfl)
  | raised index box raws rest at_ fails step =>
      exact once_carried whole once rfl nofun (Or.inl rfl) (Or.inl rfl)
  | halted => exact once_carried whole once rfl nofun (Or.inl rfl) (Or.inl rfl)
  | dropped index box raws rest at_ step =>
      exact once_carried whole once rfl nofun (Or.inl rfl) (Or.inl rfl)
  | got box num nums raws rest at_ =>
      exact once_carried whole once rfl nofun (Or.inr (by rw [at_]; rfl)) (Or.inr (by rw [at_]; rfl))
  | opened box raws rest events at_ given step =>
      exact once_carried whole once rfl nofun (Or.inr (by rw [at_]; rfl)) (Or.inl rfl)
  | searched box rest at_ =>
      refine ⟨once.once, fun box num member => seen_moved whole (once.seen box num member), ?_, ?_⟩
      · intro other raws found
        cases found
        exact ⟨List.nodup_nil, fun num member => absurd member List.not_mem_nil⟩
      · intro other nums found
        cases found
        exact ⟨unseen_nodup _, fun num member => letter_of_unseen member⟩
  | stored box num nums raws rest at_ =>
      obtain ⟨distinct, read⟩ := once.batch box raws (by rw [at_]; rfl)
      obtain ⟨apart, fresh⟩ := once.ahead box (num :: nums) (by rw [at_]; rfl)
      have unseen := unseen_of_fresh (fresh num List.mem_cons_self)
      refine ⟨once.once, fun box num member => seen_moved whole (once.seen box num member), ?_, ?_⟩
      · intro other raws' found
        cases found
        refine ⟨List.Nodup.append distinct (List.nodup_singleton num) ?_, ?_⟩
        · intro one member new
          rw [List.mem_singleton.1 new] at member
          exact unseen (read num member).1
        · intro one member
          rcases List.mem_append.1 member with old | new
          · exact ⟨seen_moved whole (read one old).1, (read one old).2⟩
          · rw [List.mem_singleton.1 new]
            obtain ⟨letter, there, _⟩ := fresh num List.mem_cons_self
            exact ⟨seen_stored whole at_ there, fun member => unseen (once.seen box num member)⟩
      · intro other nums' found
        cases found
        refine ⟨(List.nodup_cons.1 apart).2, fun one member => ?_⟩
        refine fresh_moved whole (fresh one (List.mem_cons_of_mem _ member)) ?_
        intro nums'' raws' rest' _ elsewhere
        obtain ⟨_, rfl, _⟩ := Poller.storing.inj (at_.symm.trans elsewhere)
        exact (List.nodup_cons.1 apart).1 member
  | committed index box raws rest at_ commits step =>
      obtain ⟨distinct, read⟩ := once.batch box raws (by rw [at_]; rfl)
      refine ⟨?_, ?_, nofun, nofun⟩
      · have pairs : Function.Injective fun num : Nat => (box, num) :=
          fun _ _ same => (Prod.mk.inj same).2
        refine List.Nodup.append once.once ((distinct.filter _).map pairs) ?_
        intro entry old new
        obtain ⟨num, member, rfl⟩ := List.mem_map.1 new
        exact (read num (List.mem_of_mem_filter member)).2 old
      · intro other num member
        rcases List.mem_append.1 member with old | new
        · exact seen_moved whole (once.seen other num old)
        · obtain ⟨one, inside, same⟩ := List.mem_map.1 new
          cases same
          exact seen_moved whole (read num (List.mem_of_mem_filter inside)).1

end Batches

section Pending

variable {deployment : Deployment} {hash : Nat → InboundMail → Int}

namespace Mailroom

variable (deployment hash) (room : Mailroom)

/-- What is seen has its row or is about to get it. -/
structure Pending : Prop where
  each : ∀ box num, room.Seen box num → room.correlated deployment box num = true →
    room.Recorded hash box num ∨ ∃ raws, room.poller.batch = some (box, raws) ∧ num ∈ raws
  batch : ∀ index box raws rest, room.poller = .ingesting index box raws rest →
    ∃ session events, room.world.session index = some session ∧
      session.op = .ingestEvents events ∧
      (parseBatch deployment.platform (room.mails hash box raws)).mapM InboundEvent.provided =
        some events

end Mailroom

variable {room after : Mailroom} {action : PollAction} {box num : Nat}

/-- A message that belongs to a touch makes an event of its batch. -/
theorem event_of_correlated {raws : List Nat} (member : num ∈ raws)
    (correlated : room.correlated deployment box num = true) :
    ∃ letter event, room.letter box num = some letter ∧
      event ∈ parseBatch deployment.platform (room.mails hash box raws) ∧
      event.providerEventId = (letter.mail.hashed hash room.salt).eventId := by
  obtain ⟨letter, found, parsed⟩ := (Option.any_eq_true _ _).1 correlated
  obtain ⟨event, parsed⟩ := Option.isSome_iff_exists.1 parsed
  refine ⟨letter, { event with
    providerEventId := (letter.mail.hashed hash room.salt).eventId }, found, ?_, rfl⟩
  refine List.mem_filterMap.2 ⟨letter.mail.hashed hash room.salt, ?_, ?_⟩
  · refine List.mem_filterMap.2 ⟨num, member, ?_⟩
    rw [found]
    rfl
  · rw [parseInbound_hashed, parsed]
    rfl

theorem provided_of_event {events : List InboundEvent} {provided : List ProviderEvent}
    (given : events.mapM InboundEvent.provided = some provided) {event : InboundEvent}
    (member : event ∈ events) :
    ∃ one ∈ provided, one.providerEventId = event.providerEventId := by
  induction events generalizing provided with
  | nil => cases member
  | cons first events induction =>
      rw [List.mapM_cons] at given
      obtain ⟨one, made, given⟩ := Option.bind_eq_some_iff.1 given
      obtain ⟨others, rest, same⟩ := Option.bind_eq_some_iff.1 given
      obtain rfl := Option.some.inj same
      rcases List.mem_cons.1 member with rfl | member
      · refine ⟨one, List.mem_cons_self, ?_⟩
        obtain ⟨payload, _, made⟩ := Option.bind_eq_some_iff.1 made
        split_ifs at made
        rw [← Option.some.inj made]
      · obtain ⟨other, inside, same⟩ := induction rest member
        exact ⟨other, List.mem_cons_of_mem _ inside, same⟩

/-- The messages that have been read stay as they were read. -/
theorem mails_moved (moved : room.Moved deployment hash action after)
    (salt : after.salt = room.salt) {raws : List Nat}
    (read : ∀ num ∈ raws, room.Seen box num) :
    after.mails hash box raws = room.mails hash box raws := by
  unfold Mailroom.mails
  refine List.filterMap_congr fun num member => ?_
  obtain ⟨letter, found, _⟩ := read num member
  obtain ⟨later, there, same, _⟩ := letter_kept moved found
  rw [found, there, salt, Option.map_some, Option.map_some, same]

theorem seen_cases (moved : room.Moved deployment hash action after) (seen : after.Seen box num)
    (correlated : after.correlated deployment box num = true) :
    room.correlated deployment box num = true ∧ (room.Seen box num ∨
      ∃ nums raws rest, action = .store ∧ room.poller = .storing box num nums raws rest) := by
  obtain ⟨later, found, marked⟩ := seen
  rcases letter_cases moved found with old | fresh | ⟨letter, nums, raws, rest, store, at_, there, _⟩
  · rw [correlated_kept moved old] at correlated
    exact ⟨correlated, Or.inl ⟨later, old, marked⟩⟩
  · rw [fresh.2] at marked
    cases marked
  · rw [correlated_kept moved there] at correlated
    exact ⟨correlated, Or.inr ⟨nums, raws, rest, store, at_⟩⟩

/-- Steps that drop no batch. -/
theorem each_carried (sound : room.world.Sound (service deployment) Noting)
    (pending : room.Pending deployment hash) (moved : room.Moved deployment hash action after)
    (stores : action ≠ .store)
    (batch : room.poller.batch = none ∨ after.poller.batch = room.poller.batch) :
    ∀ box num, after.Seen box num → after.correlated deployment box num = true →
      after.Recorded hash box num ∨
        ∃ raws, after.poller.batch = some (box, raws) ∧ num ∈ raws := by
  intro box num seen correlated
  obtain ⟨belonged, before | ⟨_, _, _, store, _⟩⟩ := seen_cases moved seen correlated
  · rcases pending.each box num before belonged with recorded | ⟨raws, held, member⟩
    · exact Or.inl (recorded_moved sound moved recorded)
    · rcases batch with none_ | same
      · rw [none_] at held
        cases held
      · exact Or.inr ⟨raws, same.trans held, member⟩
  · exact absurd store stores

theorem pending_moved (sound : room.world.Sound (service deployment) Noting) (once : room.Once)
    (pending : room.Pending deployment hash)
    (undisturbed : room.Undisturbed deployment hash action)
    (moved : room.Moved deployment hash action after) : after.Pending deployment hash := by
  have whole := moved
  cases moved with
  | served step foreign =>
      refine ⟨each_carried sound pending whole (fun store => by cases store) (Or.inr rfl), ?_⟩
      intro index box raws rest at_
      obtain ⟨session, events, found, op, given⟩ := pending.batch index box raws rest at_
      have apart : ∀ action, room.owned action = false → action ≠ .finish index ∧
          action ≠ .crash index := by
        rintro action free
        constructor
        all_goals
          rintro rfl
          simp [Mailroom.owned, show room.poller = _ from at_] at free
      obtain ⟨later, there, same, _⟩ :=
        session_kept step found (apart _ foreign).1 (apart _ foreign).2
      exact ⟨later, events, there, same.trans op, given⟩
  | arrived box mail =>
      refine ⟨each_carried sound pending whole (fun store => by cases store) (Or.inr rfl), ?_⟩
      intro index box raws rest at_
      obtain ⟨session, events, found, op, given⟩ := pending.batch index box raws rest at_
      have read := (once.batch box raws (by rw [show room.poller = _ from at_]; rfl)).2
      refine ⟨session, events, found, op, ?_⟩
      rw [mails_moved whole rfl fun num member => (read num member).1]
      exact given
  | started boxes salt at_ =>
      exact ⟨each_carried sound pending whole (fun store => by cases store) (Or.inl (by rw [at_]; rfl)),
        fun _ _ _ _ opening => by cases opening⟩
  | ended at_ =>
      exact ⟨each_carried sound pending whole (fun store => by cases store) (Or.inl (by rw [at_]; rfl)),
        fun _ _ _ _ opening => by cases opening⟩
  | searched box rest at_ =>
      exact ⟨each_carried sound pending whole (fun store => by cases store) (Or.inl (by rw [at_]; rfl)),
        fun _ _ _ _ opening => by cases opening⟩
  | got box num nums raws rest at_ =>
      exact ⟨each_carried sound pending whole (fun store => by cases store) (Or.inr (by rw [at_]; rfl)),
        fun _ _ _ _ opening => by cases opening⟩
  | stored box num nums raws rest at_ =>
      refine ⟨?_, fun _ _ _ _ opening => by cases opening⟩
      intro other one seen correlated
      obtain ⟨belonged, before | ⟨_, _, _, _, elsewhere⟩⟩ := seen_cases whole seen correlated
      · rcases pending.each other one before belonged with recorded | ⟨raws', held, member⟩
        · exact Or.inl (recorded_moved sound whole recorded)
        · rw [at_] at held
          cases held
          exact Or.inr ⟨_, rfl, List.mem_append_left _ member⟩
      · obtain ⟨rfl, rfl, _⟩ := Poller.storing.inj (at_.symm.trans elsewhere)
        exact Or.inr ⟨_, rfl, List.mem_append_right _ (List.mem_singleton_self _)⟩
  | skipped box raws rest at_ empty =>
      refine ⟨?_, fun _ _ _ _ opening => by cases opening⟩
      intro other one seen correlated
      obtain ⟨belonged, before | ⟨_, _, _, store, _⟩⟩ := seen_cases whole seen correlated
      · rcases pending.each other one before belonged with recorded | ⟨raws', held, member⟩
        · exact Or.inl (recorded_moved sound whole recorded)
        · rw [at_] at held
          cases held
          obtain ⟨_, event, _, inside, _⟩ :
              ∃ letter event, room.letter box one = some letter ∧
                event ∈ parseBatch deployment.platform (room.mails hash box raws) ∧
                event.providerEventId = (letter.mail.hashed hash room.salt).eventId :=
            event_of_correlated member belonged
          rw [empty] at inside
          cases inside
      · cases store
  | refused box raws rest at_ none_ =>
      have given := undisturbed box raws rest at_
      rw [none_] at given
      cases given
  | opened box raws rest events at_ given step =>
      refine ⟨each_carried sound pending whole (fun store => by cases store) (Or.inr (by rw [at_]; rfl)), ?_⟩
      intro index other raws' rest' opening
      cases opening
      simp only [Service.act, Option.ite_none_right_eq_some, Option.some.injEq] at step
      obtain ⟨_, rfl⟩ := step
      refine ⟨(service deployment).opened (.ingestEvents events) room.world.committed, events,
        ?_, rfl, given⟩
      rw [System.session, List.getElem?_concat_length]
      rfl
  | committed index box raws rest at_ commits step =>
      refine ⟨?_, fun _ _ _ _ opening => by cases opening⟩
      intro other one seen correlated
      obtain ⟨belonged, before | ⟨_, _, _, store, _⟩⟩ := seen_cases whole seen correlated
      · rcases pending.each other one before belonged with recorded | ⟨raws', held, member⟩
        · exact Or.inl (recorded_moved sound whole recorded)
        · rw [at_] at held
          cases held
          obtain ⟨letter, event, found, inside, name⟩ :
              ∃ letter event, room.letter box one = some letter ∧
                event ∈ parseBatch deployment.platform (room.mails hash box raws) ∧
                event.providerEventId = (letter.mail.hashed hash room.salt).eventId :=
            event_of_correlated member belonged
          obtain ⟨session, events, there, which, given⟩ := pending.batch index box raws rest at_
          obtain ⟨provided, among, same⟩ := provided_of_event given inside
          obtain ⟨op, out, txn, ended, intact⟩ := commits
          obtain rfl := Option.some.inj (there.symm.trans ended)
          dsimp only at which
          subst which
          have noted := noted_commit sound ended intact step provided among
          refine Or.inl ⟨letter, room.salt, found, ?_⟩
          rw [← name, ← same]
          exact noted
      · cases store
  | raised index box raws rest at_ fails step =>
      exact absurd (undisturbed index box raws rest at_) fails
  | halted => exact absurd undisturbed id
  | dropped index box raws rest at_ step => exact absurd undisturbed id

end Pending

section Runs

variable {deployment : Deployment} {hash : Nat → InboundMail → Int} {start room : Mailroom}
variable {allowed : Mailroom → PollAction → Prop}

theorem sound_of_polls (quiet : start.world.sessions = [])
    (run : Relation.ReflTransGen (Mailroom.Step deployment hash allowed) start room) :
    room.world.Sound (service deployment) Noting := by
  induction run with
  | refl => constructor <;> simp [System.session, quiet]
  | tail _ step induction =>
      obtain ⟨_, _, step⟩ := step
      exact sound_moved induction (moved_of_act step)

theorem once_of_polls (idle : start.poller = .idle) (none_ : start.ingested = [])
    (run : Relation.ReflTransGen (Mailroom.Step deployment hash allowed) start room) :
    room.Once := by
  induction run with
  | refl =>
      constructor
      all_goals simp [none_, idle, Poller.batch, Poller.ahead]
  | tail _ step induction =>
      obtain ⟨_, _, step⟩ := step
      exact once_moved induction (moved_of_act step)

theorem kept_of_polls (quiet : start.world.sessions = []) (kept : start.Kept deployment hash)
    (run : Relation.ReflTransGen (Mailroom.Step deployment hash
      (Mailroom.Stores deployment hash)) start room) : room.Kept deployment hash := by
  induction run with
  | refl => exact kept
  | tail before step induction =>
      obtain ⟨_, stores, step⟩ := step
      exact (kept_iff_stores (sound_of_polls quiet before) induction (moved_of_act step)).2 stores

theorem pending_of_polls (quiet : start.world.sessions = []) (idle : start.poller = .idle)
    (none_ : start.ingested = []) (kept : start.Kept deployment hash)
    (run : Relation.ReflTransGen (Mailroom.Step deployment hash
      (Mailroom.Undisturbed deployment hash)) start room) : room.Pending deployment hash := by
  induction run with
  | refl =>
      constructor
      · exact fun box num seen correlated => Or.inl (kept box num seen correlated)
      · intro index box raws rest at_
        rw [idle] at at_
        cases at_
  | tail before step induction =>
      obtain ⟨_, undisturbed, step⟩ := step
      exact pending_moved (sound_of_polls quiet before) (once_of_polls idle none_ before) induction
        undisturbed (moved_of_act step)

/-- Nothing is lost exactly as long as only messages with a row, or of no touch, are
marked; between polls nothing is lost that went undisturbed; and nothing counts twice. -/
theorem mail_kept (quiet : start.world.sessions = []) (idle : start.poller = .idle)
    (none_ : start.ingested = []) (kept : start.Kept deployment hash) :
    (∀ room, Relation.ReflTransGen (Mailroom.Step deployment hash
        (Mailroom.Stores deployment hash)) start room → room.Kept deployment hash) ∧
    (∀ room action after, Relation.ReflTransGen (Mailroom.Step deployment hash
        fun _ _ => True) start room → room.Kept deployment hash →
      room.act deployment hash action = some after →
      (after.Kept deployment hash ↔ room.Stores deployment hash action)) ∧
    (∀ room, Relation.ReflTransGen (Mailroom.Step deployment hash
        (Mailroom.Undisturbed deployment hash)) start room → room.poller = .idle →
      room.Kept deployment hash) ∧
    ∀ room, Relation.ReflTransGen (Mailroom.Step deployment hash fun _ _ => True) start room →
      room.ingested.Nodup := by
  refine ⟨fun _ run => kept_of_polls quiet kept run, ?_, ?_, ?_⟩
  · intro room action after run holds step
    exact kept_iff_stores (sound_of_polls quiet run) holds (moved_of_act step)
  · intro room run at_ box num seen correlated
    have pending := pending_of_polls quiet idle none_ kept run
    rcases pending.each box num seen correlated with recorded | ⟨raws, held, _⟩
    · exact recorded
    · rw [at_] at held
      cases held
  · intro room run
    exact (once_of_polls idle none_ run).once

end Runs

section Sample

def sampleHashes (salt : Nat) (_ : InboundMail) : Int := salt

abbrev Polls (allowed : Mailroom → PollAction → Prop) : Mailroom → Mailroom → Prop :=
  Relation.ReflTransGen (Mailroom.Step sampleDeployment sampleHashes allowed)

/-- The steps of a script, each of which is checked first. -/
def playPolls (check : Mailroom → PollAction → Bool) :
    List (Mailroom → PollAction) → Mailroom → Option Mailroom
  | [], room => some room
  | move :: moves, room =>
      if check room (move room) then
        (room.act sampleDeployment sampleHashes (move room)).bind (playPolls check moves)
      else none

theorem polls_of_play {allowed : Mailroom → PollAction → Prop}
    {check : Mailroom → PollAction → Bool}
    (checked : ∀ room action, check room action = true → allowed room action)
    {moves : List (Mailroom → PollAction)} {room after : Mailroom}
    (played : playPolls check moves room = some after) : Polls allowed room after := by
  induction moves generalizing room with
  | nil =>
      obtain rfl := Option.some.inj played
      exact Relation.ReflTransGen.refl
  | cons move moves induction =>
      unfold playPolls at played
      split_ifs at played with allows
      obtain ⟨middle, step, played⟩ := Option.bind_eq_some_iff.1 played
      exact Relation.ReflTransGen.head ⟨_, checked _ _ allows, step⟩ (induction played)

def undisturbed (room : Mailroom) : PollAction → Bool
  | .stop => false
  | .ingest => match room.poller with
    | .fetching box [] raws _ =>
        ((parseBatch samplePlatform (room.mails sampleHashes box raws)).mapM
          InboundEvent.provided).isSome
    | _ => true
  | .finish => match room.poller with
    | .ingesting index _ _ _ => match room.world.session index with
      | some ⟨_, .done _, txn⟩ => !txn.failed
      | _ => false
    | _ => true
  | _ => true

theorem undisturbed_sound (room : Mailroom) (action : PollAction)
    (checked : undisturbed room action = true) :
    room.Undisturbed sampleDeployment sampleHashes action := by
  cases action with
  | stop => cases checked
  | ingest =>
      intro box raws rest at_
      unfold undisturbed at checked
      simp only [at_] at checked
      exact checked
  | finish =>
      intro index box raws rest at_
      unfold undisturbed at checked
      simp only [at_] at checked
      split at checked
      · next op out txn found =>
          rw [Bool.not_eq_true'] at checked
          exact ⟨op, out, txn, found, checked⟩
      · cases checked
  | _ => trivial

/-- The sample world after its touch has been sent, with an empty mailbox. -/
def mailedRoom : Mailroom where
  world := { committed := dispatchedDatabase }
  boxes _ := []

theorem mailed_kept : mailedRoom.Kept sampleDeployment sampleHashes := by
  rintro box num ⟨letter, found, _⟩
  cases found

/-- A reply comes in and is read and marked. -/
def readOne : List (Mailroom → PollAction) :=
  [fun _ => .arrive 0 (sampleMail (some sampleQuote) none), fun _ => .poll [0] 7,
    fun _ => .search, fun _ => .read, fun _ => .store]

def serving (room : Mailroom) : PollAction :=
  .serve (Service.due (sampleReply sampleClock 400) 0 room.world)

/-- It is ingested, and the poll ends. -/
def ingestOne : List (Mailroom → PollAction) :=
  (fun _ => .ingest) :: List.replicate 10 serving ++ [fun _ => .finish, fun _ => .search]

/-- The process stops instead, and another poll is made. -/
def stopAndPoll : List (Mailroom → PollAction) :=
  [fun _ => .stop, fun _ => .poll [0] 8, fun _ => .search, fun _ => .ingest, fun _ => .search]

theorem reply_kept : ∃ room,
    Polls (Mailroom.Undisturbed sampleDeployment sampleHashes) mailedRoom room ∧
    room.Seen 0 0 ∧ room.ingested = [(0, 0)] ∧
    room.Kept sampleDeployment sampleHashes := by
  have tried : (playPolls undisturbed (readOne ++ ingestOne) mailedRoom).any (fun room =>
      decide (room.poller = .idle) && (room.letter 0 0).any Letter.seen &&
        decide (room.ingested = [(0, 0)])) = true := by
    decide +kernel
  obtain ⟨room, played, holds⟩ := (Option.any_eq_true _ _).1 tried
  simp only [Bool.and_eq_true, decide_eq_true_eq] at holds
  obtain ⟨⟨idle, seen⟩, ingested⟩ := holds
  have run : Polls (Mailroom.Undisturbed sampleDeployment sampleHashes) mailedRoom room :=
    polls_of_play undisturbed_sound played
  exact ⟨room, run, (Option.any_eq_true _ _).1 seen, ingested,
    (mail_kept rfl rfl rfl mailed_kept).2.2.1 room run idle⟩

theorem reply_never_ingested : ∃ room,
    Polls (fun _ _ => True) mailedRoom room ∧ room.poller = .idle ∧ room.ingested = [] ∧
    ¬ room.Kept sampleDeployment sampleHashes := by
  have tried : (playPolls (fun _ _ => true) (readOne ++ stopAndPoll) mailedRoom).any (fun room =>
      decide (room.poller = .idle) && decide (room.ingested = []) &&
        ((room.letter 0 0).any Letter.seen && room.correlated sampleDeployment 0 0 &&
          (room.world.committed.providerEvents.select fun _ _ => true).isEmpty)) = true := by
    decide +kernel
  obtain ⟨room, played, holds⟩ := (Option.any_eq_true _ _).1 tried
  simp only [Bool.and_eq_true, decide_eq_true_eq] at holds
  obtain ⟨⟨idle, none_⟩, ⟨seen, correlated⟩, empty⟩ := holds
  refine ⟨room, polls_of_play (fun _ _ _ => trivial) played, idle, none_, fun kept => ?_⟩
  obtain ⟨letter, salt, _, noted⟩ := kept 0 0 ((Option.any_eq_true _ _).1 seen) correlated
  obtain ⟨row, found⟩ := Option.isSome_iff_exists.1 noted
  have member : (_, row) ∈ room.world.committed.providerEvents.select fun _ _ => true :=
    (Table.mem_select_iff _ _ _ _).2 ⟨found, rfl⟩
  rw [List.isEmpty_iff.1 empty] at member
  cases member

end Sample

end OpenReachout
