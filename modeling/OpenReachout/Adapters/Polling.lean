import OpenReachout.Adapters.Inbound
import OpenReachout.Core.Worker

/-!
# Polling

`poll_once` and `_imap_fetch_unseen` of `adapters/sending/imap_poll.py`, step by
step, between a mail server and the service. The server keeps the Seen flags, the
service the events; nothing is kept of a poll that stops or raises.
-/

namespace OpenReachout

open Relational Text

set_option autoImplicit false

/-- A message on the server. -/
structure Letter where
  mail : InboundMail
  seen : Bool := false

/-- Where the poller is. A message is named by its number in its mailbox; `raws` are
those read so far, `rest` the mailboxes to come. -/
inductive Poller where
  | idle
  | polling (rest : List Nat)
  | fetching (box : Nat) (nums raws rest : List Nat)
  | storing (box num : Nat) (nums raws rest : List Nat)
  | ingesting (index box : Nat) (raws rest : List Nat)
  deriving DecidableEq

/-- `salt` is the one of the process's `hash`; `ingested` lists the messages whose
events the poller has committed. -/
structure Mailroom where
  world : World
  boxes : Nat → List Letter
  poller : Poller := .idle
  salt : Nat := 0
  ingested : List (Nat × Nat) := []

inductive PollAction where
  | serve (action : Act)
  | arrive (box : Nat) (mail : InboundMail)
  | poll (boxes : List Nat) (salt : Nat)
  | search
  | read
  | store
  | ingest
  | finish
  | stop

/-- `hash(raw)` depends on the process. -/
def InboundMail.hashed (hash : Nat → InboundMail → Int) (salt : Nat) (mail : InboundMail) :
    InboundMail := { mail with rawHash := hash salt mail }

/-- `SEARCH UNSEEN` -/
def unseen (letters : List Letter) : List Nat :=
  (letters.zipIdx.filter fun entry => !entry.1.seen).map Prod.snd

/-- `STORE +FLAGS \Seen` -/
def markSeen (letters : List Letter) (num : Nat) : List Letter :=
  letters.modify num fun letter => { letter with seen := true }

/-- The event as `ingest_events` stores it, where it can. -/
def InboundEvent.provided (event : InboundEvent) : Option ProviderEvent :=
  event.payload.json.bind fun payload =>
    if OpenReachout.storable event.providerEventId.toList && event.payload.storable then
      some ⟨event.providerEventId, event.kind, some event.touchId, payload⟩
    else none

section Steps

variable (deployment : Deployment) (hash : Nat → InboundMail → Int)

namespace Mailroom

variable (room : Mailroom)

def letter (box num : Nat) : Option Letter := (room.boxes box)[num]?

/-- The messages as this process reads them. -/
def mails (box : Nat) (raws : List Nat) : List InboundMail :=
  raws.filterMap fun num => (room.letter box num).map fun letter =>
    letter.mail.hashed hash room.salt

def correlated (box num : Nat) : Bool :=
  (room.letter box num).any fun letter => (parseInbound deployment.platform letter.mail).isSome

/-- The transaction of a mailbox is the poller's alone to end. -/
def owned (action : Act) : Bool :=
  match room.poller, action with
  | .ingesting index _ _ _, .finish other | .ingesting index _ _ _, .crash other => other = index
  | _, _ => false

/-- One transaction for the mailbox, where any message makes an event. One that the
store does not take raises, and takes the others with it. -/
def opening (box : Nat) (raws rest : List Nat) : Option Mailroom :=
  let events := parseBatch deployment.platform (room.mails hash box raws)
  if events.isEmpty then some { room with poller := .polling rest }
  else
    match events.mapM InboundEvent.provided with
    | none => some { room with poller := .idle }
    | some provided =>
        ((service deployment).act (.start (.ingestEvents provided)) room.world).map fun world =>
          { room with world, poller := .ingesting room.world.sessions.length box raws rest }

/-- The transaction commits and the poller goes on, or it does not and `poll_once`
raises. -/
def closing (index box : Nat) (raws rest : List Nat) : Option Mailroom :=
  let committed := match room.world.session index with
    | some ⟨_, .done _, txn⟩ => !txn.failed
    | _ => false
  ((service deployment).act (.finish index) room.world).map fun world =>
    if committed then
      { room with
        world, poller := .polling rest
        ingested := room.ingested ++
          (raws.filter (room.correlated deployment box)).map fun num => (box, num) }
    else { room with world, poller := .idle }

def stopped : Mailroom :=
  match room.poller with
  | .ingesting index _ _ _ =>
      { room with
        world := ((service deployment).act (.crash index) room.world).getD room.world
        poller := .idle }
  | _ => { room with poller := .idle }

def act : PollAction → Option Mailroom
  | .serve action =>
      if room.owned action then none
      else ((service deployment).act action room.world).map fun world => { room with world }
  | .arrive box mail =>
      some { room with boxes := Function.update room.boxes box (room.boxes box ++ [⟨mail, false⟩]) }
  | .poll boxes salt =>
      if room.poller = .idle then some { room with poller := .polling boxes, salt } else none
  | .search =>
      match room.poller with
      | .polling [] => some { room with poller := .idle }
      | .polling (box :: rest) =>
          some { room with poller := .fetching box (unseen (room.boxes box)) [] rest }
      | _ => none
  | .read =>
      match room.poller with
      | .fetching box (num :: nums) raws rest =>
          some { room with poller := .storing box num nums raws rest }
      | _ => none
  | .store =>
      match room.poller with
      | .storing box num nums raws rest =>
          some { room with
            boxes := Function.update room.boxes box (markSeen (room.boxes box) num)
            poller := .fetching box nums (raws ++ [num]) rest }
      | _ => none
  | .ingest =>
      match room.poller with
      | .fetching box [] raws rest => room.opening deployment hash box raws rest
      | _ => none
  | .finish =>
      match room.poller with
      | .ingesting index box raws rest => room.closing deployment index box raws rest
      | _ => none
  | .stop => some (room.stopped deployment)

/-- Steps that satisfy `allowed` in the state before them. -/
def Step (allowed : Mailroom → PollAction → Prop) (before after : Mailroom) : Prop :=
  ∃ action, allowed before action ∧ before.act deployment hash action = some after

end Mailroom

end Steps

section Moves

variable (deployment : Deployment) (hash : Nat → InboundMail → Int)

/-- The session has run to the end of its transaction, which commits. -/
def Committable (world : World) (index : Nat) : Prop :=
  ∃ op out txn, world.session index = some ⟨op, .done out, txn⟩ ∧ txn.failed = false

/-- What each step does, and when. -/
inductive Mailroom.Moved (room : Mailroom) : PollAction → Mailroom → Prop where
  | served {action : Act} {world : World}
      (step : (service deployment).act action room.world = some world)
      (foreign : room.owned action = false) : Moved room (.serve action) { room with world }
  | arrived (box : Nat) (mail : InboundMail) :
      Moved room (.arrive box mail)
        { room with
          boxes := Function.update room.boxes box (room.boxes box ++ [⟨mail, false⟩]) }
  | started (boxes : List Nat) (salt : Nat) (at_ : room.poller = .idle) :
      Moved room (.poll boxes salt) { room with poller := .polling boxes, salt }
  | ended (at_ : room.poller = .polling []) : Moved room .search { room with poller := .idle }
  | searched (box : Nat) (rest : List Nat) (at_ : room.poller = .polling (box :: rest)) :
      Moved room .search { room with poller := .fetching box (unseen (room.boxes box)) [] rest }
  | got (box num : Nat) (nums raws rest : List Nat)
      (at_ : room.poller = .fetching box (num :: nums) raws rest) :
      Moved room .read { room with poller := .storing box num nums raws rest }
  | stored (box num : Nat) (nums raws rest : List Nat)
      (at_ : room.poller = .storing box num nums raws rest) :
      Moved room .store
        { room with
          boxes := Function.update room.boxes box (markSeen (room.boxes box) num)
          poller := .fetching box nums (raws ++ [num]) rest }
  | skipped (box : Nat) (raws rest : List Nat) (at_ : room.poller = .fetching box [] raws rest)
      (empty : parseBatch deployment.platform (room.mails hash box raws) = []) :
      Moved room .ingest { room with poller := .polling rest }
  | refused (box : Nat) (raws rest : List Nat) (at_ : room.poller = .fetching box [] raws rest)
      (none_ : (parseBatch deployment.platform (room.mails hash box raws)).mapM
        InboundEvent.provided = none) : Moved room .ingest { room with poller := .idle }
  | opened (box : Nat) (raws rest : List Nat) (events : List ProviderEvent) {world : World}
      (at_ : room.poller = .fetching box [] raws rest)
      (given : (parseBatch deployment.platform (room.mails hash box raws)).mapM
        InboundEvent.provided = some events)
      (step : (service deployment).act (.start (.ingestEvents events)) room.world = some world) :
      Moved room .ingest
        { room with world, poller := .ingesting room.world.sessions.length box raws rest }
  | committed (index box : Nat) (raws rest : List Nat) {world : World}
      (at_ : room.poller = .ingesting index box raws rest)
      (commits : Committable room.world index)
      (step : (service deployment).act (.finish index) room.world = some world) :
      Moved room .finish
        { room with
          world, poller := .polling rest
          ingested := room.ingested ++
            (raws.filter (room.correlated deployment box)).map fun num => (box, num) }
  | raised (index box : Nat) (raws rest : List Nat) {world : World}
      (at_ : room.poller = .ingesting index box raws rest)
      (fails : ¬ Committable room.world index)
      (step : (service deployment).act (.finish index) room.world = some world) :
      Moved room .finish { room with world, poller := .idle }
  | halted : Moved room .stop { room with poller := .idle }
  | dropped (index box : Nat) (raws rest : List Nat) {world : World}
      (at_ : room.poller = .ingesting index box raws rest)
      (step : (service deployment).act (.crash index) room.world = some world) :
      Moved room .stop { room with world, poller := .idle }

variable {deployment hash}
variable {room after : Mailroom}

theorem moved_of_opening {box : Nat} {raws rest : List Nat}
    (at_ : room.poller = .fetching box [] raws rest)
    (step : room.opening deployment hash box raws rest = some after) :
    room.Moved deployment hash .ingest after := by
  unfold Mailroom.opening at step
  dsimp only at step
  split_ifs at step with empty
  · obtain rfl := Option.some.inj step
    exact .skipped box raws rest at_ (List.isEmpty_iff.1 empty)
  · split at step
    · next none_ =>
        obtain rfl := Option.some.inj step
        exact .refused box raws rest at_ none_
    · next events given =>
        obtain ⟨world, started, rfl⟩ := Option.map_eq_some_iff.1 step
        exact .opened box raws rest events at_ given started

theorem moved_of_closing {index box : Nat} {raws rest : List Nat}
    (at_ : room.poller = .ingesting index box raws rest)
    (step : room.closing deployment index box raws rest = some after) :
    room.Moved deployment hash .finish after := by
  unfold Mailroom.closing at step
  dsimp only at step
  obtain ⟨world, finished, same⟩ := Option.map_eq_some_iff.1 step
  split at same
  · next op out txn there =>
      split_ifs at same with intact
      · obtain rfl := same
        rw [Bool.not_eq_true'] at intact
        exact .committed index box raws rest at_ ⟨op, out, txn, there, intact⟩ finished
      · obtain rfl := same
        refine .raised index box raws rest at_ ?_ finished
        rintro ⟨_, _, _, found, whole⟩
        rw [there] at found
        cases found
        rw [whole] at intact
        exact intact rfl
  · next other =>
      rw [if_neg (by simp)] at same
      obtain rfl := same
      refine .raised index box raws rest at_ ?_ finished
      rintro ⟨op, out, txn, found, _⟩
      exact other op out txn found

theorem moved_of_act {action : PollAction} (step : room.act deployment hash action = some after) :
    room.Moved deployment hash action after := by
  cases action with
  | serve action =>
      unfold Mailroom.act at step
      dsimp only at step
      split_ifs at step with own
      obtain ⟨world, served, rfl⟩ := Option.map_eq_some_iff.1 step
      exact .served served (Bool.eq_false_iff.2 own)
  | arrive box mail =>
      obtain rfl := Option.some.inj step
      exact .arrived box mail
  | poll boxes salt =>
      unfold Mailroom.act at step
      dsimp only at step
      split_ifs at step with idle
      obtain rfl := Option.some.inj step
      exact .started boxes salt idle
  | search =>
      unfold Mailroom.act at step
      dsimp only at step
      split at step
      · next at_ =>
          obtain rfl := Option.some.inj step
          exact .ended at_
      · next box rest at_ =>
          obtain rfl := Option.some.inj step
          exact .searched box rest at_
      · cases step
  | read =>
      unfold Mailroom.act at step
      dsimp only at step
      split at step
      · next box num nums raws rest at_ =>
          obtain rfl := Option.some.inj step
          exact .got box num nums raws rest at_
      · cases step
  | store =>
      unfold Mailroom.act at step
      dsimp only at step
      split at step
      · next box num nums raws rest at_ =>
          obtain rfl := Option.some.inj step
          exact .stored box num nums raws rest at_
      · cases step
  | ingest =>
      unfold Mailroom.act at step
      dsimp only at step
      split at step
      · next box raws rest at_ => exact moved_of_opening at_ step
      · cases step
  | finish =>
      unfold Mailroom.act at step
      dsimp only at step
      split at step
      · next index box raws rest at_ => exact moved_of_closing at_ step
      · cases step
  | stop =>
      obtain rfl := Option.some.inj step
      unfold Mailroom.stopped
      split
      · next index box raws rest at_ =>
          cases gone : (service deployment).act (.crash index) room.world with
          | none => exact .halted
          | some world => exact .dropped index box raws rest at_ gone
      · exact .halted

end Moves

section Batches

variable {deployment : Deployment}

theorem ingestInbound_provided {event : InboundEvent} {provided : ProviderEvent}
    (given : event.provided = some provided) :
    ingestInbound deployment event = ingestEvent deployment provided := by
  obtain ⟨payload, json, given⟩ := Option.bind_eq_some_iff.1 given
  unfold ingestInbound
  rw [json]
  dsimp only
  split_ifs at given with storable
  rw [if_pos storable, Option.some.inj given]

theorem ingestInbound_unprovided {event : InboundEvent} (none_ : event.provided = none) :
    ∃ error : Exc, ingestInbound deployment event = throw error := by
  unfold ingestInbound
  unfold InboundEvent.provided at none_
  cases json : event.payload.json with
  | none => exact ⟨_, rfl⟩
  | some payload =>
      rw [json] at none_
      dsimp only [Option.bind] at none_ ⊢
      split_ifs at none_ ⊢ with storable
      exact ⟨_, rfl⟩

/-- A batch that the store takes is one of provider events. -/
theorem pollInbox_provided {mails : List InboundMail} {provided : List ProviderEvent}
    (given : (parseBatch deployment.platform mails).mapM InboundEvent.provided = some provided) :
    pollInbox deployment mails = ingestEvents deployment provided := by
  unfold pollInbox ingestEvents
  generalize parseBatch deployment.platform mails = events at given
  induction events generalizing provided with
  | nil =>
      obtain rfl := Option.some.inj given
      rfl
  | cons event events induction =>
      rw [List.mapM_cons] at given
      obtain ⟨first, one, given⟩ := Option.bind_eq_some_iff.1 given
      obtain ⟨others, rest, same⟩ := Option.bind_eq_some_iff.1 given
      obtain rfl := Option.some.inj same
      change (ingestInbound deployment event >>= fun _ => events.forM _) =
        (ingestEvent deployment first >>= fun _ => others.forM _)
      rw [ingestInbound_provided one, induction rest]

/-- Any other batch raises. -/
theorem pollInbox_unprovided {rely : Database → Database → Prop} {mails : List InboundMail}
    (none_ : (parseBatch deployment.platform mails).mapM InboundEvent.provided = none)
    {a b : Point Database RowLock Mark Call} {outcome : Except Exc PUnit}
    (exec : Program.Exec rely (pollInbox deployment mails) a outcome b) :
    ∃ error, outcome = .error error := by
  unfold pollInbox at exec
  generalize parseBatch deployment.platform mails = events at none_ exec
  induction events generalizing a with
  | nil => cases none_
  | cons event events induction =>
      change Program.Exec rely (ingestInbound deployment event >>= fun _ => events.forM _) a
        outcome b at exec
      rw [List.mapM_cons] at none_
      cases one : event.provided with
      | none =>
          have raised : ∃ error : Exc, ingestInbound deployment event = throw error :=
            ingestInbound_unprovided one
          obtain ⟨error, same⟩ := raised
          rw [same] at exec
          exact ⟨error, exec.1⟩
      | some first =>
          rw [one] at none_
          have others : events.mapM InboundEvent.provided = none := by
            cases rest : events.mapM InboundEvent.provided with
            | none => rfl
            | some others =>
                rw [rest] at none_
                cases none_
          rcases (Program.exec_bind ..).1 exec with ⟨_, middle, _, late⟩ | ⟨error, same, _⟩
          · exact induction others late
          · exact ⟨error, same⟩

end Batches

end OpenReachout
