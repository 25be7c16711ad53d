import OpenReachout.Api.App
import OpenReachout.Properties.HumanTasks
import OpenReachout.Properties.Tokens
import OpenReachout.Relational.Lineage
import OpenReachout.Text.Separated

/-!
# Who may ask for what

What is accepted as a list of tokens is well formed and is read back as it is written;
the first token with the secret of a request decides it. With the interface in front of
the service, what the operators' transactions do to the database was asked for by
requests with the tokens for it.
-/

namespace OpenReachout

open Relational Text

set_option autoImplicit false

variable {platform : Platform}

section Lists

theorem absent_of_piece {mark : Char} {text piece : List Char} (member : piece ∈ text.splitOn mark) :
    mark ∉ piece := by
  induction text using pieces_induction mark with
  | single text alone =>
      rw [List.splitOn_eq_singleton alone] at member
      rw [List.mem_singleton.1 member]
      exact alone
  | joined first rest alone induction =>
      rw [List.splitOn_append_cons_self_of_not_mem alone] at member
      rcases List.mem_cons.1 member with rfl | later
      · exact alone
      · exact induction later

theorem strip_strip (text : List Char) :
    Platform.strip (Platform.strip text) = Platform.strip text := by
  obtain ⟨before, after, blank, blank_after, whole⟩ := Platform.exists_spaces_strip text
  have same := Platform.strip_spaces blank blank_after (Platform.strip text)
  rw [← whole] at same
  exact same.symm

theorem strip_subset {text : List Char} {char : Char} (member : char ∈ Platform.strip text) :
    char ∈ text := by
  obtain ⟨before, after, _, _, whole⟩ := Platform.exists_spaces_strip text
  rw [whole]
  exact List.mem_append_left _ (List.mem_append_right _ member)

/-- A list is read entry by entry. -/
theorem mapM_eq_ok_iff {Input Output Error : Type} {step : Input → Except Error Output}
    {inputs : List Input} {outputs : List Output} :
    inputs.mapM step = .ok outputs ↔
      List.Forall₂ (fun input output => step input = .ok output) inputs outputs := by
  induction inputs generalizing outputs with
  | nil =>
      rw [List.mapM_nil, List.forall₂_nil_left_iff]
      constructor
      · intro same
        exact (Except.ok.inj same).symm
      · intro same
        rw [same]
        rfl
  | cons input inputs induction =>
      rw [List.mapM_cons, List.forall₂_cons_left_iff]
      constructor
      · intro read
        cases here : step input with
        | error error =>
            rw [here] at read
            cases read
        | ok output =>
            cases rest : inputs.mapM step with
            | error error =>
                rw [here, rest] at read
                cases read
            | ok others =>
                rw [here, rest] at read
                exact ⟨output, others, rfl, induction.1 rest, (Except.ok.inj read).symm⟩
      · rintro ⟨output, others, here, there, rfl⟩
        rw [here, induction.2 there]
        rfl

theorem input_of_output {Input Output Error : Type} {step : Input → Except Error Output}
    {inputs : List Input} {outputs : List Output} (read : inputs.mapM step = .ok outputs)
    {output : Output} (member : output ∈ outputs) : ∃ input ∈ inputs, step input = .ok output := by
  have pairs := mapM_eq_ok_iff.1 read
  clear read
  induction pairs with
  | nil => cases member
  | @cons input first inputs outputs here _ induction =>
      rcases List.mem_cons.1 member with rfl | later
      · exact ⟨input, List.mem_cons_self, here⟩
      · obtain ⟨other, there, same⟩ := induction later
        exact ⟨other, List.mem_cons_of_mem _ there, same⟩

end Lists

section Entries

/-- A token as an operator writes it. -/
def ApiToken.written (token : ApiToken) : List Char :=
  token.name ++ ':' :: token.secret ++ ':' :: ['|'].intercalate token.scopes

def writtenTokens (tokens : List ApiToken) : List Char :=
  [','].intercalate (tokens.map ApiToken.written)

/-- The token can be written in a list: its parts are free of the marks that end them. -/
structure ApiToken.Writable (token : ApiToken) : Prop where
  name : ':' ∉ token.name
  secret : ':' ∉ token.secret
  long : minSecret ≤ token.secret.length
  scopes : token.scopes ≠ []
  scope : ∀ scope ∈ token.scopes, '|' ∉ scope
  listed : ',' ∉ token.written
  trimmed : Platform.strip token.written = token.written

theorem splitEntry_eq_ok_iff {entry name secret scopes : List Char} :
    splitEntry entry = .ok (name, secret, scopes) ↔
      entry = name ++ ':' :: secret ++ ':' :: scopes ∧ ':' ∉ name ∧ ':' ∉ secret := by
  unfold splitEntry
  constructor
  · intro read
    cases first : partition ':' entry with
    | none =>
        rw [first] at read
        cases read
    | some parts =>
        obtain ⟨head, rest⟩ := parts
        rw [first] at read
        cases second : partition ':' rest with
        | none =>
            simp only [second] at read
            cases read
        | some parts =>
            obtain ⟨middle, tail⟩ := parts
            simp only [second, Except.ok.injEq, Prod.mk.injEq] at read
            obtain ⟨rfl, rfl, rfl⟩ := read
            obtain ⟨rfl, plain⟩ := (partition_eq_some_iff _ _ _ _).1 first
            obtain ⟨rfl, bare⟩ := (partition_eq_some_iff _ _ _ _).1 second
            simp [plain, bare]
  · rintro ⟨rfl, plain, bare⟩
    have first : partition ':' (name ++ ':' :: secret ++ ':' :: scopes) =
        some (name, secret ++ ':' :: scopes) :=
      (partition_eq_some_iff _ _ _ _).2 ⟨by simp, plain⟩
    have second : partition ':' (secret ++ ':' :: scopes) = some (secret, scopes) :=
      (partition_eq_some_iff _ _ _ _).2 ⟨rfl, bare⟩
    simp only [first, second]

/-- An entry is read as the token that it is written for. -/
theorem parseToken_eq_ok_iff {entry : List Char} {token : ApiToken} :
    parseToken platform entry = .ok token ↔
      entry = token.written ∧ ':' ∉ token.name ∧ ':' ∉ token.secret ∧
        minSecret ≤ token.secret.length ∧ token.scopes ≠ [] ∧
        ∀ scope ∈ token.scopes, '|' ∉ scope := by
  constructor
  · intro read
    unfold parseToken at read
    cases split : splitEntry entry with
    | error error =>
        rw [split] at read
        cases read
    | ok parts =>
        obtain ⟨name, secret, scopes⟩ := parts
        obtain ⟨rfl, plain, bare⟩ := splitEntry_eq_ok_iff.1 split
        rw [split] at read
        by_cases short : secret.length < minSecret
        · simp only [bind, Except.bind, if_pos short] at read
          cases read
        · simp only [bind, Except.bind, if_neg short] at read
          obtain rfl := Except.ok.inj read
          refine ⟨?_, plain, bare, Nat.not_lt.1 short, List.splitOn_ne_nil _ _,
            fun scope member => absent_of_piece member⟩
          unfold ApiToken.written
          rw [List.intercalate_splitOn]
  · rintro ⟨rfl, plain, bare, long, some_scope, scope⟩
    have split : splitEntry token.written =
        .ok (token.name, token.secret, ['|'].intercalate token.scopes) :=
      splitEntry_eq_ok_iff.2 ⟨rfl, plain, bare⟩
    unfold parseToken
    rw [split]
    simp only [bind, Except.bind, if_neg (Nat.not_lt.2 long)]
    rw [List.splitOn_intercalate _ scope some_scope]
    rfl

theorem parseToken_of_writable {token : ApiToken} (writable : token.Writable) :
    parseToken platform token.written = .ok token :=
  parseToken_eq_ok_iff.2 ⟨rfl, writable.name, writable.secret, writable.long, writable.scopes,
    writable.scope⟩

theorem plain_entry {raw entry : List Char} (member : entry ∈ tokenEntries raw) :
    ',' ∉ entry ∧ Platform.strip entry = entry := by
  obtain ⟨stripped, _⟩ := List.mem_filter.1 member
  obtain ⟨piece, whole, rfl⟩ := List.mem_map.1 stripped
  exact ⟨fun marked => absent_of_piece whole (strip_subset marked), strip_strip piece⟩

theorem written_ne_nil (token : ApiToken) : token.written ≠ [] := by
  unfold ApiToken.written
  simp

theorem tokenEntries_written {tokens : List ApiToken} (writable : ∀ token ∈ tokens, token.Writable) :
    tokenEntries (writtenTokens tokens) = tokens.map ApiToken.written := by
  cases tokens with
  | nil => rfl
  | cons first others =>
      unfold tokenEntries writtenTokens
      have apart : ∀ text ∈ (first :: others).map ApiToken.written, ',' ∉ text := by
        intro text member
        obtain ⟨token, known, rfl⟩ := List.mem_map.1 member
        exact (writable token known).listed
      rw [List.splitOn_intercalate _ apart (by simp), List.map_map]
      have trimmed : (first :: others).map (Platform.strip ∘ ApiToken.written) =
          (first :: others).map ApiToken.written :=
        List.map_congr_left fun token known => (writable token known).trimmed
      rw [trimmed, List.filter_eq_self]
      intro text member
      obtain ⟨token, _, rfl⟩ := List.mem_map.1 member
      simp [written_ne_nil token]

end Entries

section Scopes

variable {server : ApiServer}

/-- The texts can be compared. -/
def Plain (text : List Char) : Prop := text.all isAscii = true

/-- The header presents the token, which has the scope: its secret is what the header
carries, and no token before it has that secret. -/
structure Presents (tokens : List ApiToken) (authorization : List Char) (token : ApiToken)
    (scope : String) : Prop where
  secret : token.secret = Platform.strip (removePrefix "Bearer ".toList authorization)
  plain : Plain token.secret
  allows : scope.toList ∈ token.scopes
  first : ∃ before after, tokens = before ++ token :: after ∧
    ∀ other ∈ before, Plain other.secret ∧ other.secret ≠ token.secret

variable {scope : String} {secret : List Char} {tokens : List ApiToken} {token first : ApiToken}

theorem compareDigest_plain {expected given : List Char} (plain : Plain expected)
    (also : Plain given) : compareDigest expected given = .ok (decide (expected = given)) := by
  unfold compareDigest
  rw [if_pos ((Bool.and_eq_true _ _).mpr ⟨plain, also⟩)]

theorem plain_of_compared {expected given : List Char} {same : Bool}
    (compared : compareDigest expected given = .ok same) : Plain expected ∧ Plain given := by
  unfold compareDigest at compared
  by_cases plain : (expected.all isAscii && given.all isAscii) = true
  · exact (Bool.and_eq_true _ _).mp plain
  · rw [if_neg plain] at compared
    cases compared

/-- The token with the secret decides. -/
theorem authorize_same (plain : Plain secret) (same : first.secret = secret) :
    authorize scope secret (first :: tokens) =
      if first.scopes.contains scope.toList then .ok first
      else .error (.http 403 ("token lacks scope '" ++ scope ++ "'")) := by
  rw [authorize, same, compareDigest_plain plain plain, decide_eq_true rfl]

theorem authorize_other (plain : Plain first.secret) (also : Plain secret)
    (differs : first.secret ≠ secret) :
    authorize scope secret (first :: tokens) = authorize scope secret tokens := by
  rw [authorize, compareDigest_plain plain also, decide_eq_false differs]

theorem plain_of_authorized (read : authorize scope secret (first :: tokens) = .ok token) :
    Plain first.secret ∧ Plain secret := by
  rw [authorize] at read
  cases compared : compareDigest first.secret secret with
  | error error =>
      rw [compared] at read
      cases read
  | ok same => exact plain_of_compared compared

/-- The first token with the secret of the header is the one that is found, and it has the
scope; the secrets up to it can be compared. -/
theorem authorize_found (read : authorize scope secret tokens = .ok token) :
    token.secret = secret ∧ Plain secret ∧ scope.toList ∈ token.scopes ∧
      ∃ before after, tokens = before ++ token :: after ∧
        ∀ other ∈ before, Plain other.secret ∧ other.secret ≠ secret := by
  induction tokens with
  | nil => cases read
  | cons first rest induction =>
      obtain ⟨plain, also⟩ := plain_of_authorized read
      by_cases same : first.secret = secret
      · rw [authorize_same also same] at read
        by_cases allows : first.scopes.contains scope.toList = true
        · rw [if_pos allows] at read
          obtain rfl := Except.ok.inj read
          exact ⟨same, also, List.contains_iff_mem.1 allows, [], rest, rfl,
            fun other member => absurd member List.not_mem_nil⟩
        · rw [if_neg allows] at read
          cases read
      · rw [authorize_other plain also same] at read
        obtain ⟨mine, _, allows, before, after, split, others⟩ := induction read
        refine ⟨mine, also, allows, first :: before, after, ?_, fun other member => ?_⟩
        · rw [split]
          rfl
        · rcases List.mem_cons.1 member with rfl | later
          · exact ⟨plain, same⟩
          · exact others other later

theorem authorize_after {before after : List ApiToken} (plain : Plain token.secret)
    (allows : scope.toList ∈ token.scopes)
    (others : ∀ other ∈ before, Plain other.secret ∧ other.secret ≠ token.secret) :
    authorize scope token.secret (before ++ token :: after) = .ok token := by
  induction before with
  | nil => rw [List.nil_append, authorize_same plain rfl, if_pos (List.contains_iff_mem.2 allows)]
  | cons first before induction =>
      obtain ⟨bare, differs⟩ := others first List.mem_cons_self
      rw [List.cons_append, authorize_other bare plain differs]
      exact induction fun other member => others other (List.mem_cons_of_mem _ member)

theorem require_eq_ok_iff {authorization : List Char} :
    server.require scope authorization = .ok token ↔
      Presents server.tokens authorization token scope := by
  constructor
  · intro read
    obtain ⟨mine, plain, allows, first⟩ := authorize_found read
    rw [← mine] at plain first
    exact ⟨mine, plain, allows, first⟩
  · intro presents
    obtain ⟨before, after, split, others⟩ := presents.first
    unfold ApiServer.require
    rw [← presents.secret, split]
    exact authorize_after presents.plain presents.allows others

end Scopes

section Requests

variable {server : ApiServer}

/-- What the interface lets a request do. -/
inductive Allows (server : ApiServer) : Request → Op → Prop where
  | conversion (authorization link head : List Char) (token : ApiToken) (touchId : Uuid)
      (presents : Presents server.tokens authorization token "conversions:write")
      (named : server.platform.uuidOf head = some touchId)
      (signed : link = head ++ '.' :: macOf server.platform server.key (uuidHex touchId)) :
      Allows server (.conversions authorization link) (.recordConversion touchId)
  | forget (authorization : List Char) (ref : ForgetRef) (token : ApiToken)
      (presents : Presents server.tokens authorization token "privacy:write") :
      Allows server (.forget authorization ref) (.forget ref)
  | halt (authorization : List Char) (scope : String) (token : ApiToken)
      (presents : Presents server.tokens authorization token "control:write") :
      Allows server (.halt authorization scope) (.halt scope token.actor "halted")
  | resume (authorization : List Char) (scope : String) (token : ApiToken)
      (presents : Presents server.tokens authorization token "control:write") :
      Allows server (.resume authorization scope) (.resume scope token.actor)
  | event (authorization : List Char) (eventType : String) (selector : Payload)
      (dedupeKey : Option String) (token : ApiToken)
      (presents : Presents server.tokens authorization token "events:write")
      (named : eventType ≠ "") :
      Allows server (.operatorEvents authorization eventType selector dedupeKey)
        (.operatorEvent eventType selector dedupeKey)
  | webhook (payload signature : String) (events : List ProviderEvent)
      (read : server.parseWebhook payload signature = some events) :
      Allows server (.providerHook payload signature) (.ingestEvents events)
  | manage (action : ManageAction) (configured : server.manageToken ≠ []) :
      Allows server (.manage server.manageToken action) action.op

theorem respond_of_require {authorization : List Char} {scope : String}
    {outcome : ApiToken → Except Failure (Option Op)} {op : Op}
    (answered : (server.require scope authorization >>= outcome) = .ok (some op)) :
    ∃ token, Presents server.tokens authorization token scope ∧
      outcome token = .ok (some op) := by
  cases required : server.require scope authorization with
  | error error =>
      rw [required] at answered
      cases answered
  | ok token =>
      rw [required] at answered
      exact ⟨token, require_eq_ok_iff.1 required, answered⟩

theorem allows_of_respond {request : Request} {op : Op}
    (answered : server.respond request = .ok (some op)) : Allows server request op := by
  cases request with
  | conversions authorization link =>
      obtain ⟨token, presents, answered⟩ := respond_of_require answered
      cases verified : verify server.platform link server.key with
      | error error =>
          rw [verified] at answered
          cases answered
      | ok touch =>
          cases touch with
          | none =>
              rw [verified] at answered
              cases answered
          | some touch =>
              rw [verified] at answered
              obtain ⟨head, id, named, same, signed⟩ :=
                (verify_eq_some_iff server.platform server.key link touch).1 verified
              have cast : castTouch touch = .ok id := by
                unfold castTouch
                rw [same, parse_uuid_text id (uuidOf_small _ named)]
              simp only [cast, bind, Except.bind] at answered
              obtain rfl := Option.some.inj (Except.ok.inj answered)
              exact .conversion authorization link head token id presents named signed
  | forget authorization ref =>
      obtain ⟨token, presents, answered⟩ := respond_of_require answered
      obtain rfl := Option.some.inj (Except.ok.inj answered)
      exact .forget authorization ref token presents
  | halt authorization scope =>
      obtain ⟨token, presents, answered⟩ := respond_of_require answered
      obtain rfl := Option.some.inj (Except.ok.inj answered)
      exact .halt authorization scope token presents
  | resume authorization scope =>
      obtain ⟨token, presents, answered⟩ := respond_of_require answered
      obtain rfl := Option.some.inj (Except.ok.inj answered)
      exact .resume authorization scope token presents
  | operatorEvents authorization eventType selector dedupeKey =>
      obtain ⟨token, presents, answered⟩ := respond_of_require answered
      by_cases unnamed : eventType = ""
      · rw [if_pos unnamed] at answered
        cases answered
      · rw [if_neg unnamed] at answered
        obtain rfl := Option.some.inj (Except.ok.inj answered)
        exact .event authorization eventType selector dedupeKey token presents unnamed
  | funnel authorization =>
      obtain ⟨token, presents, answered⟩ := respond_of_require answered
      cases Except.ok.inj answered
  | providerHook payload signature =>
      unfold ApiServer.respond at answered
      cases read : server.parseWebhook payload signature with
      | none =>
          simp only [read] at answered
          cases answered
      | some events =>
          simp only [read] at answered
          obtain rfl := Option.some.inj (Except.ok.inj answered)
          exact .webhook payload signature events read
  | manage given action =>
      unfold ApiServer.respond ApiServer.checkManage at answered
      by_cases unset : server.manageToken.isEmpty = true
      · simp only [if_pos unset] at answered
        cases answered
      · by_cases differs : given ≠ server.manageToken
        · simp only [if_neg unset, if_pos differs] at answered
          cases answered
        · simp only [if_neg unset, if_neg differs] at answered
          obtain rfl := Option.some.inj (Except.ok.inj answered)
          rw [not_not.1 differs]
          refine .manage action fun empty => unset ?_
          rw [empty]
          rfl

theorem respond_of_allows {request : Request} {op : Op} (allows : Allows server request op) :
    server.respond request = .ok (some op) := by
  have required : ∀ {authorization : List Char} {token : ApiToken} {scope : String},
      Presents server.tokens authorization token scope →
      server.require scope authorization = .ok token := fun presents => require_eq_ok_iff.2 presents
  cases allows with
  | conversion authorization link head token touchId presents named signed =>
      unfold ApiServer.respond
      have verified : verify server.platform link server.key = .ok (some (uuidText touchId)) :=
        (verify_eq_some_iff _ _ _ _).2 ⟨head, touchId, named, rfl, signed⟩
      have cast : castTouch (uuidText touchId) = .ok touchId := by
        unfold castTouch
        rw [parse_uuid_text touchId (uuidOf_small _ named)]
      simp only [required presents, verified, cast, bind, Except.bind]
      rfl
  | forget authorization ref token presents =>
      simp only [ApiServer.respond, required presents, bind, Except.bind]
      rfl
  | halt authorization scope token presents =>
      simp only [ApiServer.respond, required presents, bind, Except.bind]
      rfl
  | resume authorization scope token presents =>
      simp only [ApiServer.respond, required presents, bind, Except.bind]
      rfl
  | event authorization eventType selector dedupeKey token presents named =>
      simp only [ApiServer.respond, required presents, bind, Except.bind, if_neg named]
      rfl
  | webhook payload signature events read =>
      simp only [ApiServer.respond, read]
      rfl
  | manage action configured =>
      have set : ¬ server.manageToken.isEmpty = true := fun empty =>
        configured (List.isEmpty_iff.1 empty)
      have admitted : server.checkManage server.manageToken = .ok () := by
        unfold ApiServer.checkManage
        rw [if_neg set, if_neg (not_not.2 rfl)]
      simp only [ApiServer.respond, admitted, bind, Except.bind]
      rfl

end Requests

section Runs

variable {site : Deployment} {server : ApiServer} {made : Request → Prop}
variable {world later start : World}

/-- What starts only where an operator asks for it. -/
def Op.operators : Op → Bool
  | .recordConversion _ | .approvePending _ _ | .rejectPending _ _ _ | .resolveTask _ _ _ _ |
    .resume _ _ | .forget _ | .approveProposal _ _ | .declineProposal _ _ _ => true
  | _ => false

/-- What an operator asks for comes through the interface, from the requests that are made. -/
def Fronted (server : ApiServer) (made : Request → Prop) (_ : World) (action : Act) : Prop :=
  ∀ op, action = .start op → op.operators = true →
    ∃ request, made request ∧ server.respond request = .ok (some op)

def Bidden (server : ApiServer) (made : Request → Prop) (op : Op) : Prop :=
  op.operators = true → ∃ request, made request ∧ Allows server request op

theorem breeds_bidden : (service site).Breeds (Fronted server made) (Bidden server made) where
  starts _ op fronted operators := by
    obtain ⟨request, given, answered⟩ := fronted op rfl operators
    exact ⟨request, given, allows_of_respond answered⟩
  follows op outcome next follows _ operators := by
    change Op.next op outcome = some next at follows
    unfold Op.next at follows
    split at follows
    · rw [← Option.some.inj follows] at operators
      cases operators
    · rw [← Option.some.inj follows] at operators
      cases operators
    · split at follows <;> rw [← Option.some.inj follows] at operators <;> cases operators
    · cases follows

/-- A request has been made with a token that has the scope. -/
def Bearing (server : ApiServer) (made : Request → Prop) (scope : String)
    (request : List Char → Request) : Prop :=
  ∃ authorization token, made (request authorization) ∧
    Presents server.tokens authorization token scope

/-- The management surface is on, and its token has been given for the action. -/
def Managed (server : ApiServer) (made : Request → Prop) (action : ManageAction) : Prop :=
  server.manageToken ≠ [] ∧ made (.manage server.manageToken action)

theorem resumed_of_bidden {scope actor : String} (bidden : Bidden server made (.resume scope actor)) :
    Bearing server made "control:write" (Request.resume · scope) ∨
      Managed server made (.resumeTenant scope) := by
  obtain ⟨request, given, allows⟩ := bidden rfl
  generalize which : Op.resume scope actor = op at allows
  cases allows with
  | resume authorization other token presents =>
      obtain ⟨rfl, _⟩ := Op.resume.inj which
      exact Or.inl ⟨authorization, token, given, presents⟩
  | manage action configured =>
      cases action <;> cases which
      exact Or.inr ⟨configured, given⟩
  | _ => cases which

theorem forgotten_of_bidden {ref : ForgetRef} (bidden : Bidden server made (.forget ref)) :
    Bearing server made "privacy:write" (Request.forget · ref) := by
  obtain ⟨request, given, allows⟩ := bidden rfl
  generalize which : Op.forget ref = op at allows
  cases allows with
  | forget authorization other token presents =>
      obtain rfl := Op.forget.inj which
      exact ⟨authorization, token, given, presents⟩
  | manage action configured => cases action <;> cases which
  | _ => cases which

theorem approved_of_bidden {touchId : Uuid} {actor : String}
    (bidden : Bidden server made (.approvePending touchId actor)) :
    Managed server made (.rampSend touchId) := by
  obtain ⟨request, given, allows⟩ := bidden rfl
  generalize which : Op.approvePending touchId actor = op at allows
  cases allows with
  | manage action configured =>
      cases action <;> cases which
      exact ⟨configured, given⟩
  | _ => cases which

theorem rejected_of_bidden {touchId : Uuid} {actor note : String}
    (bidden : Bidden server made (.rejectPending touchId actor note)) :
    Managed server made (.rampReject touchId) := by
  obtain ⟨request, given, allows⟩ := bidden rfl
  generalize which : Op.rejectPending touchId actor note = op at allows
  cases allows with
  | manage action configured =>
      cases action <;> cases which
      exact ⟨configured, given⟩
  | _ => cases which

theorem resolved_of_bidden {taskId : Uuid} {actor note : String} {finished : Bool}
    (bidden : Bidden server made (.resolveTask taskId actor finished note)) :
    Managed server made (if finished then .taskDone taskId else .taskSkip taskId) := by
  obtain ⟨request, given, allows⟩ := bidden rfl
  generalize which : Op.resolveTask taskId actor finished note = op at allows
  cases allows with
  | manage action configured => cases action <;> cases which <;> exact ⟨configured, given⟩
  | _ => cases which

theorem converted_of_bidden {touchId : Uuid} (bidden : Bidden server made (.recordConversion touchId)) :
    ∃ head, server.platform.uuidOf head = some touchId ∧
      Bearing server made "conversions:write" (Request.conversions ·
        (head ++ '.' :: macOf server.platform server.key (uuidHex touchId))) := by
  obtain ⟨request, given, allows⟩ := bidden rfl
  generalize which : Op.recordConversion touchId = op at allows
  cases allows with
  | conversion authorization link head token id presents named signed =>
      obtain rfl := Op.recordConversion.inj which
      rw [signed] at given
      exact ⟨head, named, authorization, token, given, presents⟩
  | manage action configured => cases action <;> cases which
  | _ => cases which

/-- A prospect is forgotten by the transaction that forgets only. -/
theorem forgotten_of_deeds {vouch : Mark → Ledger → Prop} {op : Op} {begun l after : Ledger}
    (path : Relation.ReflTransGen (Deed site vouch op begun) l after) {id : Uuid}
    {lead next : Prospect} (found : l.prospects id = some lead)
    (known : lead.state ≠ .forgotten) (there : after.prospects id = some next)
    (gone : next.state = .forgotten) : ∃ ref, op = .forget ref := by
  induction path generalizing next with
  | refl =>
      rw [Option.some.inj (found.symm.trans there)] at known
      exact absurd gone known
  | @tail between last before deed induction =>
      rcases prospect_of_deed deed there with same | ⟨absent, _⟩ | ⟨old, present, step⟩
      · exact induction same gone
      · obtain ⟨middle, kept, _⟩ := (path_later before).prospects id lead found
        rw [absent] at kept
        cases kept
      · cases step with
        | move target alive stable edges => exact absurd gone alive
        | address address bucket which fresh vouched =>
            change (if bucket = .verified then _ else _) = ProspectState.forgotten at gone
            split_ifs at gone
        | erase ref which => exact ⟨ref, which⟩

/-- What an operator decides between two states has been asked for with the token that it
takes: a flag is taken down and a prospect forgotten with a token of the scope, drafts and
tasks are ruled on at the management surface. -/
structure Supervised (server : ApiServer) (made : Request → Prop) (before after : Ledger) :
    Prop where
  flags : ∀ scope, before.flags scope ≠ none → after.flags scope = none →
    Bearing server made "control:write" (Request.resume · scope) ∨
      Managed server made (.resumeTenant scope)
  people : ∀ id lead next, before.prospects id = some lead → lead.state ≠ .forgotten →
    after.prospects id = some next → next.state = .forgotten →
      ∃ ref, Bearing server made "privacy:write" (Request.forget · ref)
  drafts : ∀ touchId item, before.touches touchId = some item → item.status = .pendingReview →
    ∃ next, after.touches touchId = some next ∧
      (next.status = .pendingReview ∨
        next.status = .drafted ∧ Managed server made (.rampSend touchId) ∨
        next.status = .released ∧ Managed server made (.rampReject touchId))
  tasks : ∀ id task, before.tasks id = some task → task.status = .pending →
    ∃ next, after.tasks id = some next ∧
      (next = task ∨ next.status = .expired ∨
        next.status = .done ∧ Managed server made (.taskDone id) ∨
        next.status = .skipped ∧ Managed server made (.taskSkip id))

theorem supervised_same (l : Ledger) (time : Time) :
    Supervised server made l { l with clock := time } where
  flags _ set taken := absurd taken set
  people id lead next found known there gone := by
    rw [Option.some.inj (found.symm.trans there)] at known
    exact absurd gone known
  drafts _ item found held := ⟨item, found, Or.inl held⟩
  tasks _ task found _ := ⟨task, found, Or.inl rfl⟩

theorem supervised_of_path {vouch : Mark → Ledger → Prop} {op : Op} {begun l after : Ledger}
    (path : Relation.ReflTransGen (Deed site vouch op begun) l after) (linked : Linked l)
    (withheld : Withheld l) (paired : Paired l) (idle : Idle op l)
    (bidden : Bidden server made op) : Supervised server made l after where
  flags := by
    intro scope set taken
    by_contra unasked
    refine flag_of_path path set (fun actor which => ?_) taken
    subst which
    exact absurd (resumed_of_bidden bidden) unasked
  people := by
    intro id lead next found known there gone
    obtain ⟨ref, rfl⟩ := forgotten_of_deeds path found known there gone
    exact ⟨ref, forgotten_of_bidden bidden⟩
  drafts := by
    intro touchId item found held
    have rules := along_path guides_rules linked withheld path
    have unqueued := withheld.unqueued found held
    obtain ⟨next, there, ruling⟩ := rules.held touchId item found held (idle touchId unqueued)
    refine ⟨next, there, ?_⟩
    cases ruling with
    | waits status => exact Or.inl status
    | approve actor which status queued =>
        subst which
        exact Or.inr (Or.inl ⟨status, approved_of_bidden bidden⟩)
    | reject actor note which status rejected =>
        subst which
        exact Or.inr (Or.inr ⟨status, rejected_of_bidden bidden⟩)
  tasks := by
    intro id task found pending
    obtain ⟨_, _, working⟩ := working_path withheld paired idle path
    obtain ⟨next, there, ending⟩ := working.tasks id task found
    refine ⟨next, there, ?_⟩
    cases ending with
    | kept same touch => exact Or.inl same
    | expired which _ status => exact Or.inr (Or.inl status)
    | resolved actor note finished which _ status signed =>
        subst which
        have managed := resolved_of_bidden bidden
        cases finished with
        | true => exact Or.inr (Or.inr (Or.inl ⟨status, managed⟩))
        | false => exact Or.inr (Or.inr (Or.inr ⟨status, managed⟩))

/-- With the interface in front of the service, all that an operator decides in a run has
been asked for with the token that it takes, and every conversion is recorded for a link
that is signed with the key. -/
theorem access_controlled (quiet : start.sessions = []) (unlogged : start.log = [])
    (linked : Linked start.committed.ledger) (withheld : Withheld start.committed.ledger)
    (paired : Paired start.committed.ledger) (run : Run site (Fronted server made) start world) :
    (∀ touchId, .recordConversion touchId ∈ world.log →
      ∃ head, server.platform.uuidOf head = some touchId ∧
        Bearing server made "conversions:write" (Request.conversions ·
          (head ++ '.' :: macOf server.platform server.key (uuidHex touchId)))) ∧
    ∀ action later, (service site).act action world = some later →
      Supervised server made world.committed.ledger later.committed.ledger := by
  have none_logged : ∀ op ∈ start.log, Bidden server made op := by
    intro op member
    rw [unlogged] at member
    cases member
  have only : world.Only (Bidden server made) :=
    only_run breeds_bidden (only_quiet quiet none_logged) run
  obtain ⟨sane, staffed⟩ := staffed_run quiet linked withheld paired run
  refine ⟨fun touchId logged => converted_of_bidden (only.logged _ logged),
    fun action later step => ?_⟩
  have free : Vouched (fun _ _ _ _ => True) world action := fun _ _ _ _ _ _ _ _ => trivial
  have advance := advance_of_step sane.sound sane.begun free step
  cases advance with
  | idle same =>
      rw [same]
      exact supervised_same world.committed.ledger world.committed.clock
  | clock ticks moved =>
      rw [moved]
      exact supervised_same world.committed.ledger _
  | commit index session out found commits since wrote path =>
      exact supervised_of_path path sane.linked staffed.withheld staffed.paired
        (staffed.idle found) (only.working index session found)

end Runs

section Sample

/-- An interface with nothing but the management surface. -/
def sampleServer : ApiServer where
  platform := samplePlatform
  key := "key".toList
  tokens := []
  manageToken := "manage-token".toList
  parseWebhook _ _ := none

/-- The held draft is sent from the management surface. -/
def sampleRequest : Request := .manage sampleServer.manageToken (.rampSend 4)

/-- What the request leads to is all that an operator starts. -/
def startsSample (_ : World) : Act → Bool
  | .start (.approvePending touchId actor) => touchId = 4 && actor = dashboardActor
  | .start op => !op.operators
  | _ => true

theorem startsSample_sound (world : World) (action : Act) (seen : startsSample world action = true) :
    Fronted sampleServer (· = sampleRequest) world action := by
  intro op which operators
  subst which
  cases op with
  | approvePending touchId actor =>
      obtain ⟨touch, human⟩ := (Bool.and_eq_true _ _).mp seen
      rw [of_decide_eq_true touch, of_decide_eq_true human]
      exact ⟨sampleRequest, rfl, rfl⟩
  | _ => first | (cases seen; done) | cases operators

theorem held_paired : Paired heldWorld.committed.ledger := by
  refine ⟨?_, ?_, ?_⟩
  · intro id task found
    simp [Database.ledger, heldWorld, sampleDatabase] at found
  · intro id other task second found
    simp [Database.ledger, heldWorld, sampleDatabase] at found
  · intro id task found
    simp [Database.ledger, heldWorld, sampleDatabase] at found

theorem held_supervised : ∃ (world later : World) (next : Touch),
    Run sampleDeployment (Fronted sampleServer (· = sampleRequest)) heldWorld world ∧
    (service sampleDeployment).act (.finish 0) world = some later ∧
    later.committed.touches.lookup 4 = some next ∧ next.status = .drafted ∧
    Managed sampleServer (· = sampleRequest) (.rampSend 4) := by
  have tried : ((service sampleDeployment).scriptChecked startsSample
      [begin (.approvePending 4 dashboardActor), go 0 5 50] heldWorld).any
      (fun world => ((service sampleDeployment).script [.inl (.finish 0)] world).any
        fun later : World =>
          (world.committed.touches.lookup 4).any (fun item => item.status = .pendingReview) &&
          (later.committed.touches.lookup 4).any fun item => item.status = .drafted) = true := by
    decide +kernel
  obtain ⟨world, played, onward⟩ := (Option.any_eq_true _ _).1 tried
  obtain ⟨later, further, seen⟩ := (Option.any_eq_true _ _).1 onward
  obtain ⟨before, after⟩ := (Bool.and_eq_true _ _).mp seen
  obtain ⟨item, found, held⟩ := (Option.any_eq_true _ _).1 before
  obtain ⟨moved, there, drafted⟩ := (Option.any_eq_true _ _).1 after
  have run : Run sampleDeployment (Fronted sampleServer (· = sampleRequest)) heldWorld world :=
    run_of_scriptChecked (service sampleDeployment) startsSample_sound played
  have step := step_of_script further
  obtain ⟨_, supervised⟩ :=
    access_controlled rfl rfl held_linked held_withheld held_paired run
  obtain ⟨next, present, decided⟩ :=
    (supervised _ later step).drafts 4 item found (of_decide_eq_true held)
  have status : next.status = .drafted := by
    rw [Option.some.inj (present.symm.trans there)]
    exact of_decide_eq_true drafted
  refine ⟨world, later, next, run, step, present, status, ?_⟩
  rcases decided with waits | ⟨_, managed⟩ | ⟨released, _⟩
  · rw [status] at waits
    cases waits
  · exact managed
  · rw [status] at released
    cases released

end Sample

end OpenReachout
