import OpenReachout.Core.Config
import OpenReachout.Relational.System

/-!
# Sender profiles

`core/sender_profile.py`. The facts about the sender are researched, and trusted once a human
has approved them. The table `sender_profiles` is read and written by these transactions
alone, so they make up a store and a service of their own.
-/

namespace OpenReachout.SenderProfile

open Relational Text

set_option autoImplicit false

/-- `[a-z0-9_]` -/
def isSlug (c : Char) : Bool :=
  'a' ≤ c && c ≤ 'z' || '0' ≤ c && c ≤ '9' || c = '_'

structure SenderFact where
  slug : String
  fact : String
  sourceUrl : String := ""
  slug_shape : slug.toList ≠ [] ∧ slug.toList.all isSlug = true := by decide
  fact_long : 5 ≤ fact.toList.length := by decide
  deriving DecidableEq

structure SenderProfileOutput where
  facts : List SenderFact
  injectionSuspected : Bool := false

inductive ProfileStatus where
  | proposed | approved | superseded
  deriving DecidableEq

structure Profile where
  tenant : String
  facts : List SenderFact
  status : ProfileStatus := .proposed
  approvedBy : Option String := none
  createdAt : Time
  resolvedAt : Option Time := none
  deriving DecidableEq

structure Store where
  clock : Time
  senderProfiles : Table Uuid Profile := .empty
  auditEvents : List AuditEvent := []

inductive Lock where
  | profile (id : Uuid)
  deriving DecidableEq

instance : Lockable Store Lock where
  Cell _ := Option Profile
  cell | .profile id, db => db.senderProfiles.lookup id

namespace Tables

@[reducible] def senderProfiles : TableRef Store Lock Uuid Profile where
  get := Store.senderProfiles
  set table db := { db with senderProfiles := table }
  lock := .profile
  ofRow _ row := row
  ofRow_injective _ _ _ same := same
  get_set _ _ := rfl
  set_get _ := rfl
  cell_eq _ _ := rfl
  cell_set other _ _ apart := by
    cases other
    exact absurd rfl (apart _)

def auditEvents : LogRef Store Lock AuditEvent where
  get := Store.auditEvents
  set rows db := { db with auditEvents := rows }
  cell_set _ _ _ := rfl

end Tables

/-- The statement by which an approval supersedes the other profiles. -/
inductive Mark where
  | supersede (profileId : Uuid)
  deriving DecidableEq

/-- What is put into the frame of the prompt, and the source of the identifiers. -/
inductive Call where
  | uuid
  | senderResearch (name whatWeDo sender : String) (links : List (String × String))
      (siteText : String)

@[reducible] def Call.Answer : Call → Type
  | .uuid => Uuid
  | .senderResearch _ _ _ _ _ => Except Exc SenderProfileOutput

abbrev Prog := Program Store Lock Exc Mark Call Call.Answer

def propose {runtime : Runtime} (config : TenantConfig runtime) (siteText : String) :
    Prog Uuid := do
  let about := config.aboutUs
  let answer ← Program.ask (.senderResearch about.name about.whatWeDo about.identity.sender
    about.links (if siteText = "" then "(none)" else siteText))
  let result : SenderProfileOutput ← MonadExcept.ofExcept answer
  let id ← Program.ask Call.uuid
  Program.insertRow Tables.senderProfiles none integrityError (fun _ _ _ => none) id fun moment =>
    { tenant := config.tenant, facts := result.facts, createdAt := moment.start.clock }
  pure id

def approve (profileId : Uuid) (actor : String) : Prog Bool := do
  if !humanActorPrefix.toList.isPrefixOf actor.toList then
    throw ⟨.permissionError, "sender-profile approval requires a human"⟩
  let rows ← Program.update Tables.senderProfiles
    (fun _ _ id row => id = profileId && row.status = .proposed)
    fun moment row =>
      { row with
        status := .approved, approvedBy := some actor, resolvedAt := some moment.start.clock }
  match rows.head? with
  | none => pure false
  | some (_, profile) =>
      let _ ← Program.updateChecked Tables.senderProfiles (some (.supersede profileId))
        (fun _ _ _ _ => none)
        (fun _ _ id row =>
          row.tenant = profile.tenant && row.status = .approved && id ≠ profileId)
        fun moment row =>
          { row with status := .superseded, resolvedAt := some moment.start.clock }
      Program.appendRow Tables.auditEvents fun _ =>
        { subjectType := "sender_profile", subjectId := toString profileId, event := "approved",
          actor }
      pure true

/-- The slugs are the keys of a dict, so the last fact of a slug is the one kept. -/
def Profile.dict (profile : Profile) : Table String String :=
  profile.facts.foldl (fun dict fact => dict.upsert fact.slug fact.fact fun _ => fact.fact) .empty

/-- `ORDER BY resolved_at DESC`, where what is not resolved comes first. -/
def resolvedLater (first second : Uuid × Profile) : Bool :=
  match first.2.resolvedAt, second.2.resolvedAt with
  | none, _ => true
  | some _, none => false
  | some one, some two => two ≤ one

def approvedFacts (tenant : String) : Prog (Table String String) := do
  let rows ← Program.query fun _ db => (db.senderProfiles.select fun _ row =>
    row.tenant = tenant && row.status = .approved).mergeSort resolvedLater
  match rows.head? with
  | none => pure .empty
  | some (_, profile) => pure profile.dict

inductive Op (runtime : Runtime) where
  | propose (config : TenantConfig runtime) (siteText : String)
  | approve (profileId : Uuid) (actor : String)
  | approvedFacts (tenant : String)

inductive Out where
  | proposed (profileId : Uuid)
  | decided (success : Bool)
  | facts (dict : Table String String)

variable {runtime : Runtime}

def Op.program : Op runtime → Prog Out
  | .propose config siteText => do
      let id ← SenderProfile.propose config siteText
      pure (.proposed id)
  | .approve profileId actor => do
      let success ← SenderProfile.approve profileId actor
      pure (.decided success)
  | .approvedFacts tenant => do
      let dict ← SenderProfile.approvedFacts tenant
      pure (.facts dict)

def service : Service Store Lock Exc Mark Call Call.Answer (Op runtime) Out where
  program := Op.program
  next _ _ := none
  entry _ := true
  fault := ⟨.databaseError, "statement failed"⟩
  advance ticks db := { db with clock := db.clock + ticks }
  advance_cell _ _ _ := rfl

abbrev World (runtime : Runtime) := System Store Lock Exc Mark Call Call.Answer (Op runtime) Out
abbrev Act (runtime : Runtime) := Action Call Call.Answer (Op runtime)

abbrev Run (allowed : World runtime → Act runtime → Prop) : World runtime → World runtime → Prop :=
  Relation.ReflTransGen (service.Step allowed)

end OpenReachout.SenderProfile
