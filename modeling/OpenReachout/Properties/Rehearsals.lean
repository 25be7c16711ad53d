import OpenReachout.Core.Rehearsal
import OpenReachout.Properties.Compositions

/-!
# What a dry run comes to

Each cohort that waits for no event is asked for once, each of its first candidates ends in
one list of the report, and the lists say why.
-/

namespace OpenReachout.Dryrun

open Relational Consulting Text Variables Evidence Agents

set_option autoImplicit false

section Visits

inductive Filing where
  | composed (result : Agents.ComposeResult)
  | disqualified (why : List Char)
  | escalated (why : List Char)

/-- A candidate, where it ended, and what was asked on the way. -/
structure Visit where
  candidate : Candidate
  filing : Filing
  contacts : List Contact

def DryRunReport.file (cohortId : String) (report : DryRunReport) (visit : Visit) :
    DryRunReport :=
  match visit.filing with
  | .composed result => report.compose cohortId visit.candidate.displayName result
  | .disqualified why => report.disqualify cohortId visit.candidate.displayName why
  | .escalated why => report.escalate cohortId visit.candidate.displayName why

variable (runtime : Runtime) (tenant : TenantConfig runtime) (persona : PersonaSpec)
variable (prompt : List Char) (candidate : Candidate)

/-- The candidate has a card, and no address that is not verified. -/
inductive Addressed (card : EvidenceCard) : List Contact → Prop where
  | unfound : Addressed card [.enriched candidate card, .found candidate none]
  | verified (address : String) : Addressed card
      [.enriched candidate card, .found candidate (some address), .verified address .verified]

/-- The model has been asked about the persona, with the evidence of the card. -/
def Judged (card : EvidenceCard) (asked : QualifyPrompt) : Prop :=
  asked.persona = persona.description ∧
    qualifyEvidence runtime.platform card = .ok asked.evidenceBlocks

/-- No more than the attempts of a composer, and one audit. -/
def Brief (exchanges : List Exchange) : Prop :=
  composeCalls exchanges ≤ maxComposeRetries + 1 ∧ auditCalls exchanges ≤ 1

/-- A draft from what the card says at the time. -/
structure Drafted (card : EvidenceCard) (time : Time) (values : List (List Char × ResolvedValue))
    (exchanges : List Exchange) (result : Agents.ComposeResult) : Prop where
  built : buildValues candidate tenant persona [] time prompt card = .ok values
  accepted : Accepted runtime (inputs tenant persona prompt values) exchanges result
  compliant : card.Named →
    Compliant runtime (inputs tenant persona prompt values) card time exchanges result

/-- The ways a candidate can go, each with all that is asked on it. -/
inductive Course : List Contact → Filing → Prop where
  | unverified (card : EvidenceCard) (address : String) (bucket : ConfidenceBucket)
      (doubtful : bucket ≠ .verified) :
      Course [.enriched candidate card, .found candidate (some address), .verified address bucket]
        (.disqualified "email failed verification".toList)
  | suspected {card : EvidenceCard} {early : List Contact} (asked : QualifyPrompt)
      (output : QualifyOutput) (addressed : Addressed candidate card early)
      (judged : Judged runtime persona card asked) (suspected : output.injectionSuspected = true) :
      Course (early ++ [.qualified asked output])
        (.escalated "injection suspicion during qualification".toList)
  | unqualified {card : EvidenceCard} {early : List Contact} (asked : QualifyPrompt)
      (output : QualifyOutput) (addressed : Addressed candidate card early)
      (judged : Judged runtime persona card asked) (unsuspected : output.injectionSuspected = false)
      (refused : output.verdict ≠ .qualified) :
      Course (early ++ [.qualified asked output]) (.disqualified output.rationale.toList)
  | undrafted {card : EvidenceCard} {early : List Contact} (asked : QualifyPrompt)
      (output : QualifyOutput) (exchanges : List Exchange) (error : Exc)
      (addressed : Addressed candidate card early) (judged : Judged runtime persona card asked)
      (unsuspected : output.injectionSuspected = false) (passed : output.verdict = .qualified)
      (brief : Brief exchanges) (kind : error.kind = .composeEscalation ∨ error.kind = .keyError) :
      Course (early ++ .qualified asked output :: exchanges.map .said)
        (.escalated (excText runtime.platform error))
  | composed {card : EvidenceCard} {early : List Contact} (asked : QualifyPrompt)
      (output : QualifyOutput) (time : Time) (values : List (List Char × ResolvedValue))
      (exchanges : List Exchange) (result : Agents.ComposeResult)
      (addressed : Addressed candidate card early) (judged : Judged runtime persona card asked)
      (unsuspected : output.injectionSuspected = false) (passed : output.verdict = .qualified)
      (brief : Brief exchanges)
      (drafted : Drafted runtime tenant persona prompt candidate card time values exchanges result) :
      Course (early ++ .qualified asked output :: exchanges.map .said) (.composed result)

end Visits

section Stops

/-- A cohort that has been asked for, and what became of its candidates. -/
structure Stop where
  persona : PersonaSpec
  cohort : CohortSpec
  result : DiscoverResult
  visits : List Visit

def Stop.place (stop : Stop) : PersonaSpec × CohortSpec := (stop.persona, stop.cohort)

def Stop.contacts (stop : Stop) : List Contact :=
  .discovered stop.cohort.id stop.result :: stop.visits.flatMap Visit.contacts

def DryRunReport.stop (report : DryRunReport) (stop : Stop) : DryRunReport :=
  stop.visits.foldl (DryRunReport.file stop.cohort.id) report

variable {runtime : Runtime} (adapters : Adapters) (tenant : TenantConfig runtime)
variable (nPerCohort : Int)

structure Stop.Made (stop : Stop) : Prop where
  taken : stop.visits.map Visit.candidate = firstOf nPerCohort stop.result.candidates
  courses : ∃ variant others, stop.persona.variants = variant :: others ∧
    ∀ visit ∈ stop.visits, Course runtime tenant stop.persona variant.prompt.toList
      visit.candidate visit.contacts visit.filing

/-- A cohort that waits for no event and has a source. -/
def placeOf (persona : PersonaSpec) (cohort : CohortSpec) : Option (PersonaSpec × CohortSpec) :=
  if cohort.trigger.isNone && (sourceOf adapters cohort).isSome then some (persona, cohort)
  else none

def placesOf (persona : PersonaSpec) : List (PersonaSpec × CohortSpec) :=
  persona.cohorts.filterMap (placeOf adapters persona)

def DryRunReport.entries (report : DryRunReport) : Nat :=
  report.composed.length + report.disqualified.length + report.escalated.length

/-- A dry run as a list of its stops. -/
structure Rehearsed (stops : List Stop) (report : DryRunReport) (contacts : List Contact) :
    Prop where
  places : stops.map Stop.place = tenant.personas.flatMap (placesOf adapters)
  made : ∀ stop ∈ stops, stop.Made tenant nPerCohort
  filed : report = stops.foldl DryRunReport.stop {}
  counted : report.entries =
    (stops.map fun stop => (firstOf nPerCohort stop.result.candidates).length).sum
  told : contacts = stops.flatMap Stop.contacts ++ [.written report.toMarkdown]
  shown : ∀ entry ∈ report.composed, entry.2.2.draft.subject <:+: report.toMarkdown ∧
    entry.2.2.draft.body <:+: report.toMarkdown

end Stops

section Steps

variable {runtime : Runtime} {adapters : Adapters} {tenant : TenantConfig runtime}
variable {persona : PersonaSpec} {cohortId : String} {prompt : List Char}

/-- Nothing has been written to the review file. -/
def Unwritten (contacts : List Contact) : Prop :=
  ∀ contact ∈ contacts, ∀ text, contact ≠ .written text

theorem unwritten_append {early late : List Contact} (first : Unwritten early)
    (second : Unwritten late) : Unwritten (early ++ late) := by
  intro contact member
  rcases List.mem_append.1 member with before | after
  · exact first contact before
  · exact second contact after

theorem unwritten_said (exchanges : List Exchange) : Unwritten (exchanges.map .said) := by
  intro contact member text same
  obtain ⟨exchange, -, rfl⟩ := List.mem_map.1 member
  cases same

theorem unwritten_addressed {candidate : Candidate} {card : EvidenceCard} {early : List Contact}
    (addressed : Addressed candidate card early) : Unwritten early := by
  intro contact member text same
  subst same
  cases addressed <;> simp at member

theorem unwritten_judged (asked : QualifyPrompt) (output : QualifyOutput)
    (exchanges : List Exchange) : Unwritten (.qualified asked output :: exchanges.map .said) := by
  intro contact member text same
  rcases List.mem_cons.1 member with rfl | later
  · cases same
  · exact unwritten_said exchanges contact later text same

theorem unwritten_course {candidate : Candidate} {contacts : List Contact} {filing : Filing}
    (course : Course runtime tenant persona prompt candidate contacts filing) :
    Unwritten contacts := by
  cases course with
  | unverified card address bucket doubtful =>
      intro contact member text same
      subst same
      simp at member
  | suspected asked output addressed =>
      exact unwritten_append (unwritten_addressed addressed) (unwritten_judged asked output [])
  | unqualified asked output addressed =>
      exact unwritten_append (unwritten_addressed addressed) (unwritten_judged asked output [])
  | undrafted asked output exchanges error addressed =>
      exact unwritten_append (unwritten_addressed addressed)
        (unwritten_judged asked output exchanges)
  | composed asked output time values exchanges result addressed =>
      exact unwritten_append (unwritten_addressed addressed)
        (unwritten_judged asked output exchanges)

theorem unverified_tells (email : Option String) :
    Tells (Ends
      (fun doubtful notes => match email with
        | none => doubtful = false ∧ notes = []
        | some address => ∃ bucket : ConfidenceBucket, doubtful = decide (bucket ≠ .verified) ∧
            notes = [.verified address bucket])
      (fun _ notes => notes = [])) (unverified adapters email) := by
  cases email with
  | none => exact tells_pure false ⟨rfl, rfl⟩
  | some address =>
      apply tells_bind (tells_consult _ _)
      case failed => exact fun _ _ failed => failed.1
      rintro bucket early ⟨rfl, -⟩
      exact tells_pure _ ⟨bucket, rfl, rfl⟩

theorem qualify_tells (card : EvidenceCard) :
    Tells (Ends
      (fun verdict notes => ∃ asked output, notes = [.qualified asked output] ∧
        verdict = output.result ∧ Judged runtime persona card asked)
      (fun _ notes => notes = []))
      (Agents.qualify runtime.platform adapters.qualify .qualified card persona.description) := by
  apply tells_bind (tells_ofExcept _)
  case failed => exact fun _ _ failed => failed.1
  rintro evidence early ⟨rfl, shown⟩
  apply tells_bind (tells_consult _ _)
  case failed => exact fun _ _ failed => failed.1
  rintro output early ⟨rfl, -⟩
  exact tells_pure _ ⟨_, output, rfl, rfl, rfl, shown⟩

theorem now_tells : Tells (Ends (fun _ notes => notes = []) (fun _ _ => False)) (now adapters) :=
  fun past => ⟨[], (List.append_nil past).symm, rfl⟩

theorem draft_tells (candidate : Candidate) (card : EvidenceCard) :
    Tells (Ends
      (fun result notes => ∃ time values exchanges, notes = exchanges.map .said ∧
        Brief exchanges ∧
        Drafted runtime tenant persona prompt candidate card time values exchanges result)
      (fun _ notes => ∃ exchanges, notes = exchanges.map .said ∧ Brief exchanges))
      (draft adapters tenant persona prompt candidate card) := by
  have silent : Brief [] := ⟨Nat.zero_le _, Nat.zero_le _⟩
  apply tells_bind now_tells
  case failed => exact fun _ _ failed => failed.elim
  rintro time early rfl
  apply tells_bind (tells_ofExcept _)
  case failed => exact fun _ early failed => ⟨[], failed.1, silent⟩
  rintro values early ⟨rfl, built⟩
  apply tells_within
  intro before
  cases talked : Agents.compose runtime (adapters.llm before)
      (injectionSuspects runtime.platform) (inputs tenant persona prompt values) [] with
  | mk outcome exchanges =>
      have brief : Brief exchanges := compose_calls talked
      cases outcome with
      | error error => exact ⟨exchanges, rfl, brief⟩
      | ok result =>
          refine ⟨time, values, exchanges, rfl, brief, built, ?_, ?_⟩
          · exact accepted_of_compose talked
          · exact fun named => compliant_of_compose named built talked

theorem tried_tells (candidate : Candidate) (card : EvidenceCard) :
    Tells (Ends
      (fun drafted notes => ∃ exchanges, notes = exchanges.map .said ∧ Brief exchanges ∧
        match drafted with
        | .ok result => ∃ time values,
            Drafted runtime tenant persona prompt candidate card time values exchanges result
        | .error error => error.kind = .composeEscalation ∨ error.kind = .keyError)
      (fun _ notes => ∃ exchanges, notes = exchanges.map .said ∧ Brief exchanges))
      (tried adapters tenant persona prompt candidate card) := by
  have kept : Tells (Ends
      (fun drafted notes => ∃ result, drafted = .ok result ∧ ∃ time values exchanges,
        notes = exchanges.map .said ∧ Brief exchanges ∧
        Drafted runtime tenant persona prompt candidate card time values exchanges result)
      (fun _ notes => ∃ exchanges, notes = exchanges.map .said ∧ Brief exchanges))
      (do return (.ok (← draft adapters tenant persona prompt candidate card)) : Trial (Except Exc Agents.ComposeResult)) := by
    apply tells_bind (draft_tells candidate card)
    case failed => exact fun _ _ failed => failed
    rintro result early drafted
    exact tells_pure _ ⟨result, rfl, by rwa [List.append_nil]⟩
  apply tells_handle kept
  case done =>
    rintro drafted notes ⟨result, rfl, time, values, exchanges, same, brief, drafted⟩
    exact ⟨exchanges, same, brief, time, values, drafted⟩
  rintro error early ⟨exchanges, same, brief⟩
  by_cases caught : (error.kind = .composeEscalation || error.kind = .keyError) = true
  · rw [if_pos caught]
    rw [Bool.or_eq_true, decide_eq_true_eq, decide_eq_true_eq] at caught
    exact tells_pure _ ⟨exchanges, by rwa [List.append_nil], brief, caught⟩
  · rw [if_neg caught]
    exact tells_throw _ ⟨exchanges, by rwa [List.append_nil], brief⟩

/-- How a candidate that can be addressed is filed. -/
theorem judge_tells (candidate : Candidate) (card : EvidenceCard) (report : DryRunReport) :
    Tells (Ends
      (fun filed notes => ∀ early, Addressed candidate card early → ∃ filing,
        Course runtime tenant persona prompt candidate (early ++ notes) filing ∧
        filed = report.file cohortId ⟨candidate, filing, early ++ notes⟩)
      (fun _ notes => Unwritten notes))
      (judge adapters tenant persona cohortId prompt candidate card report) := by
  apply tells_bind (qualify_tells card)
  case failed =>
    rintro error early rfl
    exact fun _ member => absurd member List.not_mem_nil
  rintro verdict early ⟨asked, output, rfl, rfl, judged⟩
  by_cases suspected : output.injectionSuspected = true
  · rw [if_pos (show output.result.escalate = true from suspected)]
    exact tells_pure _ fun early addressed =>
      ⟨_, .suspected asked output addressed judged suspected, rfl⟩
  rw [if_neg (show ¬output.result.escalate = true from suspected)]
  rw [Bool.not_eq_true] at suspected
  have fit : output.result.qualified = decide (output.verdict = .qualified) := by
    unfold QualifyOutput.result
    simp [suspected]
  by_cases passed : output.verdict = .qualified
  · rw [if_neg (by simp [fit, passed])]
    apply tells_bind (tried_tells candidate card)
    case failed =>
      rintro error late ⟨exchanges, rfl, -⟩
      exact unwritten_judged asked output exchanges
    rintro drafted late ⟨exchanges, rfl, brief, how⟩
    cases drafted with
    | ok result =>
        obtain ⟨time, values, drafted⟩ := how
        refine tells_pure _ fun early addressed => ?_
        rw [List.append_nil]
        exact ⟨_, .composed asked output time values exchanges result addressed judged suspected
          passed brief drafted, rfl⟩
    | error error =>
        refine tells_pure _ fun early addressed => ?_
        rw [List.append_nil]
        exact ⟨_, .undrafted asked output exchanges error addressed judged suspected passed brief
          how, rfl⟩
  · rw [if_pos (by simp [fit, passed])]
    exact tells_pure _ fun early addressed =>
      ⟨_, .unqualified asked output addressed judged suspected passed, rfl⟩

/-- The candidate is filed in one list, after a course of its own. -/
theorem process_tells (candidate : Candidate) (report : DryRunReport) :
    Tells (Ends
      (fun filed notes => ∃ filing,
        Course runtime tenant persona prompt candidate notes filing ∧
        filed = report.file cohortId ⟨candidate, filing, notes⟩)
      (fun _ notes => Unwritten notes))
      (process adapters tenant persona cohortId prompt candidate report) := by
  apply tells_bind (tells_consult _ _)
  case failed =>
    rintro error early ⟨rfl, -⟩
    exact fun _ member => absurd member List.not_mem_nil
  rintro card early ⟨rfl, -⟩
  apply tells_bind (tells_consult _ _)
  case failed =>
    rintro error early ⟨rfl, -⟩ contact member text rfl
    simp at member
  rintro email early ⟨rfl, -⟩
  apply tells_bind (unverified_tells email)
  case failed =>
    rintro error early rfl contact member text rfl
    simp at member
  intro doubtful early doubted
  have split : (doubtful = true ∧ ∃ address bucket, email = some address ∧ bucket ≠ .verified ∧
      early = [.verified address bucket]) ∨ (doubtful = false ∧
      Addressed candidate card (.enriched candidate card :: .found candidate email :: early)) := by
    cases email with
    | none =>
        obtain ⟨rfl, rfl⟩ := doubted
        exact .inr ⟨rfl, .unfound⟩
    | some address =>
        obtain ⟨bucket, rfl, rfl⟩ := doubted
        by_cases trusted : bucket = .verified
        · subst trusted
          exact .inr ⟨rfl, .verified address⟩
        · exact .inl ⟨decide_eq_true trusted, address, bucket, rfl, trusted, rfl⟩
  rcases split with ⟨rfl, address, bucket, rfl, distrusted, rfl⟩ | ⟨rfl, addressed⟩
  · exact tells_pure _ ⟨_, .unverified card address bucket distrusted, rfl⟩
  · apply (judge_tells candidate card report).mono
    intro outcome late ended
    cases outcome with
    | error error =>
        have whole := unwritten_append (unwritten_addressed addressed) ended
        exact whole
    | ok filed => exact ended _ addressed

theorem unwritten_flatMap {Part : Type} {told : Part → List Contact} {parts : List Part}
    (each : ∀ part ∈ parts, Unwritten (told part)) : Unwritten (parts.flatMap told) := by
  intro contact member
  obtain ⟨part, among, inside⟩ := List.mem_flatMap.1 member
  exact each part among contact inside

end Steps

section Loops

variable {runtime : Runtime} {adapters : Adapters} {tenant : TenantConfig runtime}
variable {nPerCohort : Int} {persona : PersonaSpec} {cohortId : String} {prompt : List Char}

/-- Some candidates of a cohort, one after the other. -/
abbrev Visits (runtime : Runtime) (tenant : TenantConfig runtime) (persona : PersonaSpec)
    (cohortId : String) (prompt : List Char) :=
  Leg Visit.candidate
    (fun visit => Course runtime tenant persona prompt visit.candidate visit.contacts visit.filing)
    (DryRunReport.file cohortId) Visit.contacts

theorem candidates_tell (candidates : List Candidate) (report : DryRunReport) :
    Tells (Ends
      (fun filed notes => ∃ visits,
        Visits runtime tenant persona cohortId prompt candidates visits report filed notes)
      (fun _ notes => Unwritten notes))
      (forEach (process adapters tenant persona cohortId prompt) candidates report) := by
  have looped : Tells (Ends
      (Rounds (fun candidate state next notes => ∃ visits,
        Visits runtime tenant persona cohortId prompt [candidate] visits state next notes)
        candidates report)
      (fun _ notes => Unwritten notes))
      (forEach (process adapters tenant persona cohortId prompt) candidates report) :=
    tells_forEach ?_ ?_ report
  · apply looped.mono
    intro outcome notes ended
    cases outcome with
    | error error => exact ended
    | ok filed =>
        have found := Rounds.legs ended
        rwa [List.flatMap_singleton'] at found
  · intro candidate member state
    apply (process_tells candidate state).mono
    intro outcome notes ended
    cases outcome with
    | error error => exact ended
    | ok filed =>
        obtain ⟨filing, course, rfl⟩ := ended
        refine ⟨[⟨candidate, filing, notes⟩], rfl, ?_, rfl, ?_⟩
        · intro visit among
          rw [List.mem_singleton.1 among]
          exact course
        · rw [List.flatMap_singleton]
  · rintro candidate member state next notes error later ⟨visits, leg⟩ quiet
    rw [leg.noted]
    exact unwritten_append (unwritten_flatMap fun visit among =>
      unwritten_course (leg.sound visit among)) quiet

/-- Some cohorts, one after the other. -/
abbrev Stops (tenant : TenantConfig runtime) (nPerCohort : Int) :=
  Leg Stop.place (Stop.Made tenant nPerCohort) DryRunReport.stop Stop.contacts

theorem unwritten_stop {stop : Stop} (made : stop.Made tenant nPerCohort) :
    Unwritten stop.contacts := by
  obtain ⟨variant, others, -, courses⟩ := made.courses
  have visited := unwritten_flatMap fun visit among => unwritten_course (courses visit among)
  intro contact member text same
  rcases List.mem_cons.1 member with rfl | later
  · cases same
  · exact visited contact later text same

theorem unwritten_stops {places : List (PersonaSpec × CohortSpec)} {stops : List Stop}
    {report filed : DryRunReport} {notes : List Contact}
    (leg : Stops tenant nPerCohort places stops report filed notes) : Unwritten notes := by
  rw [leg.noted]
  exact unwritten_flatMap fun stop among => unwritten_stop (leg.sound stop among)

theorem cohort_tells {variant : VariantSpec} {others : List VariantSpec}
    (first : persona.variants = variant :: others) (cohort : CohortSpec)
    (report : DryRunReport) :
    Tells (Ends
      (fun filed notes => ∃ stops, Stops tenant nPerCohort
        (placeOf adapters persona cohort).toList stops report filed notes)
      (fun _ notes => Unwritten notes))
      (runCohort adapters tenant nPerCohort persona variant.prompt.toList cohort report) := by
  unfold runCohort placeOf
  by_cases waits : cohort.trigger.isSome = true
  · rw [if_pos waits, if_neg (by simp [Option.isNone_eq_false_iff.2 waits])]
    exact tells_pure _ ⟨[], rfl, fun _ member => absurd member List.not_mem_nil, rfl, rfl⟩
  rw [if_neg waits]
  cases source : sourceOf adapters cohort with
  | none =>
      rw [if_neg (by simp)]
      exact tells_pure _ ⟨[], rfl, fun _ member => absurd member List.not_mem_nil, rfl, rfl⟩
  | some discover =>
      have idle : cohort.trigger.isNone = true := by simpa using waits
      rw [if_pos (by simp [idle])]
      apply tells_bind (tells_consult _ _)
      case failed =>
        rintro error early ⟨rfl, -⟩
        exact fun _ member => absurd member List.not_mem_nil
      rintro result early ⟨rfl, -⟩
      apply (candidates_tell _ report).mono
      intro outcome notes ended
      cases outcome with
      | error error =>
          intro contact member text same
          rcases List.mem_cons.1 member with rfl | later
          · cases same
          · exact ended contact later text same
      | ok filed =>
          obtain ⟨visits, leg⟩ := ended
          refine ⟨[⟨persona, cohort, result, visits⟩], rfl, ?_, leg.applied, ?_⟩
          · intro stop among
            rw [List.mem_singleton.1 among]
            exact ⟨leg.keyed, variant, others, first, leg.sound⟩
          · rw [List.flatMap_singleton, leg.noted]
            rfl

theorem persona_tells (persona : PersonaSpec) (report : DryRunReport) :
    Tells (Ends
      (fun filed notes => ∃ stops, Stops tenant nPerCohort (placesOf adapters persona) stops
        report filed notes)
      (fun _ notes => Unwritten notes))
      (runPersona adapters tenant nPerCohort persona report) := by
  unfold runPersona
  cases variants : persona.variants with
  | nil => exact tells_throw _ fun _ member => absurd member List.not_mem_nil
  | cons variant others =>
      have looped : Tells (Ends
          (Rounds (fun cohort state next notes => ∃ stops, Stops tenant nPerCohort
            (placeOf adapters persona cohort).toList stops state next notes)
            persona.cohorts report)
          (fun _ notes => Unwritten notes))
          (forEach (runCohort adapters tenant nPerCohort persona variant.prompt.toList)
            persona.cohorts report) := tells_forEach ?_ ?_ report
      · apply looped.mono
        intro outcome notes ended
        cases outcome with
        | error error => exact ended
        | ok filed =>
            have found := Rounds.legs ended
            rwa [← List.filterMap_eq_flatMap_toList] at found
      · exact fun cohort _ state => cohort_tells variants cohort state
      · rintro cohort member state next notes error later ⟨stops, leg⟩ quiet
        exact unwritten_append (unwritten_stops leg) quiet

theorem personas_tell (report : DryRunReport) :
    Tells (Ends
      (fun filed notes => ∃ stops, Stops tenant nPerCohort
        (tenant.personas.flatMap (placesOf adapters)) stops report filed notes)
      (fun _ notes => Unwritten notes))
      (forEach (runPersona adapters tenant nPerCohort) tenant.personas report) := by
  have looped : Tells (Ends
      (Rounds (fun persona state next notes => ∃ stops, Stops tenant nPerCohort
        (placesOf adapters persona) stops state next notes) tenant.personas report)
      (fun _ notes => Unwritten notes))
      (forEach (runPersona adapters tenant nPerCohort) tenant.personas report) :=
    tells_forEach ?_ ?_ report
  · apply looped.mono
    intro outcome notes ended
    cases outcome with
    | error error => exact ended
    | ok filed => exact Rounds.legs ended
  · exact fun persona _ state => persona_tells persona state
  · rintro persona member state next notes error later ⟨stops, leg⟩ quiet
    exact unwritten_append (unwritten_stops leg) quiet

theorem entries_file (report : DryRunReport) (visit : Visit) :
    (report.file cohortId visit).entries = report.entries + 1 := by
  unfold DryRunReport.file DryRunReport.entries
  cases visit.filing with
  | composed result =>
      simp only [DryRunReport.compose, List.length_append, List.length_singleton]
      omega
  | disqualified why =>
      simp only [DryRunReport.disqualify, List.length_append, List.length_singleton]
      omega
  | escalated why =>
      simp only [DryRunReport.escalate, List.length_append, List.length_singleton]
      omega

theorem entries_visits (visits : List Visit) (report : DryRunReport) :
    (visits.foldl (DryRunReport.file cohortId) report).entries =
      report.entries + visits.length := by
  induction visits generalizing report with
  | nil => rfl
  | cons visit visits induction =>
      rw [List.foldl_cons, induction, entries_file, List.length_cons]
      omega

theorem entries_stops {stops : List Stop} (made : ∀ stop ∈ stops, stop.Made tenant nPerCohort)
    (report : DryRunReport) :
    (stops.foldl DryRunReport.stop report).entries = report.entries +
      (stops.map fun stop => (firstOf nPerCohort stop.result.candidates).length).sum := by
  induction stops generalizing report with
  | nil => rfl
  | cons stop stops induction =>
      have taken := (made stop List.mem_cons_self).taken
      have visited : (report.stop stop).entries =
          report.entries + (firstOf nPerCohort stop.result.candidates).length := by
        rw [← taken, List.length_map]
        exact entries_visits stop.visits report
      rw [List.foldl_cons, induction (fun other member => made other (List.mem_cons_of_mem _ member)),
        visited, List.map_cons, List.sum_cons]
      omega

/-- The review shows each draft as it would be sent. -/
theorem draft_shown {report : DryRunReport} {entry : String × String × Agents.ComposeResult}
    (among : entry ∈ report.composed) {line : List Char} (inside : line ∈ draftLines entry) :
    line <:+: report.toMarkdown := by
  have printed : line ∈ report.composed.flatMap draftLines :=
    List.mem_flatMap.2 ⟨entry, among, inside⟩
  have joined := infix_intercalate ['\n'] (List.mem_append_left
    (listing "## Escalated to review" report.escalated) (List.mem_append_left
      (listing "## Disqualified" report.disqualified) (List.mem_append_right
        ["# Dry-run review".toList, [],
          count report.composed.length ++ " would-send drafts, ".toList ++
            count report.disqualified.length ++ " disqualified, ".toList ++
            count report.escalated.length ++ " escalated. Nothing was sent.".toList] printed)))
  exact joined.trans (List.infix_append' [] _ ['\n'])

theorem run_tells :
    Tells (Ends
      (fun report notes => ∃ stops, Rehearsed adapters tenant nPerCohort stops report notes)
      (fun _ notes => Unwritten notes)) (run adapters tenant nPerCohort) := by
  apply tells_bind (personas_tell {})
  case failed => exact fun _ _ failed => failed
  rintro report early ⟨stops, leg⟩
  apply tells_bind (tells_consult _ _)
  case failed =>
    rintro error late ⟨rfl, -⟩
    exact unwritten_append (unwritten_stops leg) fun _ member => absurd member List.not_mem_nil
  rintro written late ⟨rfl, -⟩
  refine tells_pure report ⟨stops, leg.keyed, leg.sound, leg.applied, ?_, ?_, ?_⟩
  · rw [leg.applied, entries_stops leg.sound]
    exact Nat.zero_add _
  · rw [leg.noted, List.append_nil]
  · intro entry among
    have subject : "**Subject:** ".toList ++ entry.2.2.draft.subject <:+: report.toMarkdown :=
      draft_shown among (by simp [draftLines])
    have body : entry.2.2.draft.body <:+: report.toMarkdown :=
      draft_shown among (by simp [draftLines])
    exact ⟨(List.suffix_append _ _).isInfix.trans subject, body⟩

def benCandidate : Candidate := { anaCandidate with displayName := "Ben Ito" }

/-- A persona with a cohort that waits for an event, and one that does not. -/
def austinPersona : PersonaSpec :=
  { quietPersona with
    cohorts := [{ id := "moved", sources := ["npi"], trigger := some "license.issued" },
      { id := "austin", sources := ["npi"] }]
    variants := [⟨"opener", "opener_strategy", String.ofList bioPrompt⟩] }

def austinConfig : TenantConfig plainRuntime := { acmeConfig with personas := [austinPersona] }

/-- Two candidates, of whom one has an address that is risky. -/
def austinAdapters : Adapters where
  sources := [("npi", fun _ _ => .ok { candidates := [anaCandidate, benCandidate] })]
  enrich _ _ := .ok anaCard
  find _ candidate := .ok (if candidate = benCandidate then some "ben@old.example" else none)
  verify _ _ := .ok .risky
  qualify _ _ := .ok { verdict := .qualified, rationale := "sees couples" }
  llm _ := learningModel
  clock _ := 0
  write _ _ := .ok ()

end Loops

end OpenReachout.Dryrun
