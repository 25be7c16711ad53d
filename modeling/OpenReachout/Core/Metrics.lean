import OpenReachout.Agents.Discovery
import OpenReachout.Core.Events

/-!
# Metrics

The funnel and the cohorts of `core/metrics.py` and the campaign note of
`core/research.py`, each read from one state of the database. The store of the notes is
left out.
-/

namespace OpenReachout

open Relational

set_option autoImplicit false

section Funnels

/-- `STAGE_OF`, and 0 for what is not in it. -/
def ProspectState.stage : ProspectState → Nat
  | .discovered | .unenrichable => 1
  | .enriched | .disqualified => 2
  | .qualified | .queued => 3
  | .contacted | .bounced | .noResponse | .declined | .unsubscribed => 4
  | .engaged => 5
  | .converted => 6
  | .forgotten => 0

/-- `STAGES`, numbered from 1. -/
def stages : List (String × Nat) :=
  [("discovered", 1), ("enriched", 2), ("qualified", 3), ("contacted", 4), ("engaged", 5),
    ("converted", 6)]

/-- `EXIT_LABEL` -/
def exitLabels : List (ProspectState × String) :=
  [(.unenrichable, "enrichment (no verified email)"),
    (.disqualified, "qualification (didn't match persona)"),
    (.bounced, "delivery (bounced)"),
    (.unsubscribed, "after contact (opted out)"),
    (.declined, "after contact (not interested)"),
    (.noResponse, "after contact (no response)")]

structure Funnel where
  reached : List (String × Nat)
  exits : List (String × Nat)
  replies : Nat
  positiveReplies : Nat
  converted : Nat
  inConversation : Nat

def Funnel.contacted (funnel : Funnel) : Nat := (funnel.reached.lookup "contacted").getD 0

/-- `CAST(:c AS text) IS NULL OR p.cohort_id = :c` -/
def inCohort (cohortId : Option String) (row : Prospect) : Bool :=
  cohortId.all fun id => row.cohortId = id

/-- `GROUP BY p.state`, as a dict. -/
def byState (rows : List Prospect) : List (ProspectState × Nat) :=
  (rows.map Prospect.state).dedup.map fun state => (state, rows.countP fun row => row.state = state)

/-- The replies that join to such a prospect. -/
def Database.repliesWhere (db : Database) (holds : Prospect → Bool) : List Reply :=
  (db.replies.select fun _ reply => (db.prospects.lookup reply.prospectId).any holds).map Prod.snd

def funnel (db : Database) (tenant : String) (cohortId : Option String) : Funnel :=
  let rows := (db.ofTenant tenant).filter fun row => row.state ≠ .forgotten && inCohort cohortId row
  let counts := byState rows
  let replies := db.repliesWhere fun row =>
    db.tenants.lookup row.tenantId = some tenant && inCohort cohortId row
  { reached := stages.map fun entry =>
      (entry.1, ((counts.filter fun count => entry.2 ≤ count.1.stage).map Prod.snd).sum)
    exits := exitLabels.filterMap fun exit =>
      ((counts.lookup exit.1).filter (· ≠ 0)).map fun count => (exit.2, count)
    replies := replies.length
    positiveReplies := replies.countP fun reply => reply.intent = some .interested
    converted := (counts.lookup .converted).getD 0
    inConversation := (counts.lookup .engaged).getD 0 }

end Funnels

section Cohorts

/-- How the database compares texts. -/
structure Collation where
  le : String → String → Bool

structure CohortSummary where
  cohortId : String
  personaId : String
  members : Nat
  contacted : Nat
  replies : Nat
  converted : Nat

/-- `NOT IN ('discovered','enriched','qualified','queued','disqualified','unenrichable')` -/
def ProspectState.pastQueue : ProspectState → Bool
  | .discovered | .enriched | .qualified | .queued | .disqualified | .unenrichable => false
  | _ => true

def summaryIn (collation : Collation) (db : Database) (rows : List Prospect) (cohortId : String) :
    CohortSummary where
  cohortId := cohortId
  personaId := ((rows.filter fun row => row.cohortId = cohortId).map Prospect.personaId).foldl
    (fun best id => if collation.le best id then id else best) ""
  members := countIn rows cohortId fun _ => true
  contacted := countIn rows cohortId ProspectState.pastQueue
  replies := (db.repliesWhere fun row => row.cohortId = cohortId).length
  converted := countIn rows cohortId fun state => state = .converted

def cohorts (collation : Collation) (db : Database) (tenant : String) : List CohortSummary :=
  let rows := (db.ofTenant tenant).filter fun row => row.state ≠ .forgotten
  ((rows.map Prospect.cohortId).dedup.mergeSort collation.le).map (summaryIn collation db rows)

end Cohorts

section Notes

structure ResearchNarrative where
  summary : String
  recommendations : List String := []
  injectionSuspected : Bool := false

/-- A row of the first query of `refresh_campaign_note`. -/
structure CampaignRow where
  cohortId : String
  reached : Nat
  converted : Nat

structure CampaignFindings where
  cohorts : List (String × Nat × Nat)
  replyIntents : List (String × Nat)
  researchDirective : String
  recommendations : Option (List String) := none

structure Note where
  level : String
  subjectId : String
  summary : String
  findings : CampaignFindings

/-- `NOT IN ('discovered','enriched','qualified','queued')` -/
def ProspectState.leftQueue : ProspectState → Bool
  | .discovered | .enriched | .qualified | .queued => false
  | _ => true

def campaignRow (rows : List Prospect) (cohortId : String) : CampaignRow where
  cohortId := cohortId
  reached := countIn rows cohortId ProspectState.leftQueue
  converted := countIn rows cohortId fun state => state = .converted

/-- How the groups of a query come out of the database. -/
structure RowOrder (Row : Type) where
  arrange : List Row → List Row
  arrange_perm : ∀ rows, (arrange rows).Perm rows

/-- `GROUP BY 1 ORDER BY 2 DESC` -/
def campaignRows (order : RowOrder CampaignRow) (db : Database) (tenant : String) :
    List CampaignRow :=
  let rows := db.ofTenant tenant
  (order.arrange ((rows.map Prospect.cohortId).dedup.map (campaignRow rows))).mergeSort
    fun first second => second.reached ≤ first.reached

def intentText (reply : Reply) : String := (reply.intent.map Intent.text).getD "unclassified"

def intentRows (order : RowOrder (String × Nat)) (db : Database) (tenant : String) :
    List (String × Nat) :=
  let replies := db.repliesWhere fun row => db.tenants.lookup row.tenantId = some tenant
  (order.arrange ((replies.map intentText).dedup.map fun intent =>
    (intent, replies.countP fun reply => intentText reply = intent))).mergeSort
      fun first second => second.2 ≤ first.2

def CampaignRow.rate (row : CampaignRow) : Rat :=
  if row.reached = 0 then 0 else row.converted / row.reached

/-- `refresh_campaign_note`, with the rates over the rationals; a model answers to what
is put before it. -/
def refreshCampaignNote (groups : RowOrder CampaignRow) (intents : RowOrder (String × Nat))
    (db : Database) (tenant : String) (llm : Option (CampaignFindings → ResearchNarrative))
    (researchDirective : String) : Note :=
  let rows := campaignRows groups db tenant
  let findings : CampaignFindings :=
    { cohorts := rows.map fun row => (row.cohortId, row.reached, row.converted)
      replyIntents := intentRows intents db tenant
      researchDirective }
  let market := "Market view across " ++ toString rows.length ++ " cohort(s): " ++
    toString (rows.map CampaignRow.reached).sum ++ " reached, " ++
    toString (rows.map CampaignRow.converted).sum ++ " converted."
  let summary := match rows.argmax CampaignRow.rate with
    | some best => market ++ " Strongest cohort so far: " ++ best.cohortId ++ "."
    | none => market
  match llm.map fun complete => complete findings with
  | some narrative =>
      if narrative.injectionSuspected then
        ⟨"campaign", tenant, summary, findings⟩
      else
        ⟨"campaign", tenant, narrative.summary ++ " | " ++ summary,
          { findings with recommendations := some narrative.recommendations }⟩
  | none => ⟨"campaign", tenant, summary, findings⟩

end Notes

end OpenReachout
