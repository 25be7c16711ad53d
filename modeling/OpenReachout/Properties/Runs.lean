import OpenReachout.Core.Worker

/-!
# Runs of the service

What a run is, and the deployment on which concrete runs are tried: one tenant,
one mailbox, and one drafted first contact with its deliver job.
-/

namespace OpenReachout

open Relational Text

set_option autoImplicit false

/-- Runs in which every action satisfies `allowed` in the state before it. -/
abbrev Run (deployment : Deployment) (allowed : World → Act → Prop) : World → World → Prop :=
  Relation.ReflTransGen ((service deployment).Step allowed)

def unrestricted (_ : World) (_ : Act) : Prop := True

/-- Whatever the others do. -/
def anything (_ _ : Database) : Prop := True

theorem anything_timeline : Timeline anything := ⟨fun _ => trivial, fun _ _ => trivial⟩

theorem sound_of_run {deployment : Deployment} {allowed : World → Act → Prop}
    {start world : World} (quiet : start.sessions = []) (run : Run deployment allowed start world) :
    world.Sound (service deployment) anything :=
  (invariant_of_steps anything_timeline (fun _ => True)
    (fun _ _ _ _ _ _ _ => ⟨trivial, trivial⟩) quiet trivial run).1

section Sample

def sampleSubject : List Char := "Sound checks".toList
def sampleBody : List Char := "Hi Ana. Maya Reyes, 12 Elm St. Reply STOP to end.".toList
def sampleHash : String := "sha256-of-draft"
def sampleAddress : String := "ana@clinic.example"

def samplePlatform : Platform :=
  Platform.ascii [(sampleSubject ++ '\x00' :: sampleBody, sampleHash),
    (sampleAddress.toList, "sha256-of-address")]

def sampleContext : ValidatorContext where
  physicalAddress := "12 Elm St".toList
  unsubscribeText := "Reply STOP".toList
  senderIdentity := "Maya Reyes".toList
  allowedUrlPrefixes := []

def sampleSequence : SequenceSpec where
  steps := 3
  gapsDays := [3, 4]
  steps_pos := by decide
  steps_le := by decide
  gaps_length := by decide
  gaps_ge := by decide
  tasks_inside := by decide

def samplePersona : PersonaSpec where
  id := "therapist"
  description := "runs a practice"
  valueProp := "quiet rooms"
  sequence := sampleSequence
  cohorts := [{ id := "austin", sources := [] }]
  variants := [⟨"v0", "email", "write"⟩, ⟨"v1", "followup", "write again"⟩]

def sampleRuntime : TenantRuntime where
  tenant := "acme"
  tenantId := 1
  personas := [samplePersona]
  validatorCtx := sampleContext

/-- Sends over SMTP from the mailbox `m@acme.example`. -/
def sampleDeployment : Deployment where
  runtime := { platform := samplePlatform }
  provider := .smtp { mailboxes := [("m@acme.example", ⟨"Maya Reyes"⟩)] }
  contexts := [("acme", sampleContext)]
  sequences := some [("acme", [("therapist", sampleSequence)])]
  runtimes := [("acme", sampleRuntime)]
  handlers := [.control, .trigger, .classify, .deliver, .compose]

def sampleClock : Time := days 19783
def sampleDay : Period := dayOf sampleClock
def sampleMonth : Period := monthOf sampleClock

def sampleProspect : Prospect where
  tenantId := 1
  entityId := 2
  cohortId := "austin"
  personaId := "therapist"
  state := .queued
  emailRaw := some sampleAddress
  emailCanonical := some sampleAddress
  emailConfidence := some .verified
  sourceAdapter := "directory"
  sourceRef := []
  dataBasis := "government_public"

def sampleTouch : Touch where
  prospectId := 3
  campaignId := "therapist:email"
  variantId := some "v0"
  stepIndex := 0
  kind := .cold
  status := .drafted
  subject := some sampleSubject
  body := some sampleBody
  contentHash := sampleHash

/-- The sample touch as the gates see it. -/
def sampleDraftTouch : DraftTouch where
  touchId := 4
  tenant := "acme"
  entityId := 2
  emailCanonical := sampleAddress
  draft := ⟨sampleSubject, sampleBody, 0⟩
  storedContentHash := sampleHash
  groundednessPassedHash := some sampleHash
  profile := .cold
  validatorCtx := sampleContext
  cohortId := "austin"
  prospectId := 3

def sampleJob : JobRow where
  queue := .deliver
  payload := .touch 4
  idempotencyKey := .deliver 4
  runAfter := sampleClock

def sampleDatabase : Database where
  clock := sampleClock
  tenants := Table.empty.insert 1 "acme"
  entities := Table.empty.insert 2 { tenantId := 1, displayName := some "Ana" }
  prospects := Table.empty.insert 3 sampleProspect
  touches := Table.empty.insert 4 sampleTouch
  jobs := Table.empty.insert 5 sampleJob
  jobIndex := Table.empty.insert (.deliver 4) 5
  mailboxes := Table.empty.insert "m@acme.example" ⟨"acme", true, 20⟩
  counters := (Table.empty.insert (.tenantMonth, "acme", sampleMonth) ⟨0, 50⟩).insert
    (.cohortMonth, "austin", sampleMonth) ⟨0, 50⟩

def sampleWorld : World := { committed := sampleDatabase }

/-- Answers of a clock that stands at `time` and of services that do what they
are asked, with `id` as the next identifier. -/
def sampleReply (time : Time) (id : Nat) : (query : Call) → query.Answer
  | .now => time
  | .uuid => id
  | .serial => id
  | .send _ _ _ => .ok []
  | .transport _ _ => .ok ()
  | .pauseLead _ => .ok ()
  | .pauseAllCampaigns _ => .ok ()
  | .compose _ => .ok ⟨⟨sampleSubject, sampleBody, 0⟩, sampleHash⟩
  | .composeReply _ _ _ => .ok ⟨⟨sampleSubject, sampleBody, 0⟩, sampleHash⟩
  | .classifyReply _ => .ok { intent := .notInterested, confidence := 1 }
  | .qualify _ _ => .ok ⟨true, "", false⟩
  | .enrich _ => .ok []
  | .findEmail _ => .ok none
  | .verify _ => .ok .verified
  | .discover _ _ _ => .ok ⟨[], none⟩
  | .thompson arms _ _ => .ok ((arms.head?.map Prod.fst).getD "")
  | .sentiment _ => 0
  | .synthesize _ _ => .ok ()

abbrev Move := Act ⊕ (((query : Call) → query.Answer) × Nat × Nat)

def begin (op : Op) : Move := .inl (.start op)

/-- The session `index` takes `count` steps. -/
def go (index count : Nat) (id : Nat := 100) (time : Time := sampleClock) : Move :=
  .inr (sampleReply time id, index, count)

def play (moves : List Move) : Option World := (service sampleDeployment).script moves sampleWorld

theorem run_of_play {moves : List Move} {world : World} (played : play moves = some world) :
    Run sampleDeployment unrestricted sampleWorld world :=
  (service sampleDeployment).run_of_script (fun _ _ => trivial) played

/-- What a script has been seen to lead to. -/
theorem run_of_tried {moves : List Move} {seen : World → Bool}
    (tried : (play moves).any seen = true) :
    ∃ world, Run sampleDeployment unrestricted sampleWorld world ∧ seen world = true := by
  obtain ⟨world, played, holds⟩ := (Option.any_eq_true seen (play moves)).1 tried
  exact ⟨world, run_of_play played, holds⟩

/-- The same of a run and of how it goes on, from any state of any deployment. -/
theorem scripts_of_tried {site : Deployment} {start : World} {moves further : List Move}
    {related : World → World → Bool}
    (tried : ((service site).script moves start).any (fun world =>
      ((service site).script further world).any (related world)) = true) :
    ∃ world later, Run site unrestricted start world ∧
      (service site).script further world = some later ∧ related world later = true := by
  obtain ⟨world, played, onward⟩ := (Option.any_eq_true _ _).1 tried
  obtain ⟨later, further_played, holds⟩ := (Option.any_eq_true (related world) _).1 onward
  have run : Run site unrestricted start world :=
    (service site).run_of_script (fun _ _ => trivial) played
  exact ⟨world, later, run, further_played, holds⟩

theorem runs_of_tried {moves further : List Move} {related : World → World → Bool}
    (tried : (play moves).any (fun world =>
      ((service sampleDeployment).script further world).any (related world)) = true) :
    ∃ world later, Run sampleDeployment unrestricted sampleWorld world ∧
      (service sampleDeployment).script further world = some later ∧ related world later = true :=
  scripts_of_tried tried

theorem run_of_further {site : Deployment} {moves : List Move} {world later : World}
    (played : (service site).script moves world = some later) :
    Run site unrestricted world later :=
  (service site).run_of_script (fun _ _ => trivial) played

theorem step_of_script {site : Deployment} {action : Act} {world later : World}
    (played : (service site).script [.inl action] world = some later) :
    (service site).act action world = some later := by
  obtain ⟨middle, step, rest⟩ := Option.bind_eq_some_iff.1 played
  obtain rfl := Option.some.inj rest
  exact step

end Sample

end OpenReachout
