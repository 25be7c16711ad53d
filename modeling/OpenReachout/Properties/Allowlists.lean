import OpenReachout.Properties.Compositions
import OpenReachout.Text.Cutting
import OpenReachout.Text.Url

/-!
# What the allowlists let pass

The validators look at the links of a body and at its claims. Which links and claims of a
message they leave alone is said here.
-/

namespace OpenReachout

open Text Text.Regex Text.Platform

set_option autoImplicit false

section Findings

variable {runtime : Runtime} {draft : Draft} {ctx : ValidatorContext}

theorem except_bind_ok {Value Other : Type} {first : Except Exc Value}
    {rest : Value → Except Exc Other} {other : Other} (succeeds : (first >>= rest) = .ok other) :
    ∃ value, first = .ok value ∧ rest value = .ok other := by
  cases first with
  | error exc => cases succeeds
  | ok value => exact ⟨value, rfl, succeeds⟩

/-- The links and the claims of the draft that were looked at are allowed. -/
structure Unflagged (runtime : Runtime) (draft : Draft) (ctx : ValidatorContext) : Prop where
  linked : ∀ link ∈ url.findAll runtime.platform.isWord (strip draft.body),
    ∃ start ∈ ctx.allowedUrlPrefixes,
      runtime.platform.lower start <+: runtime.platform.lower link
  claimed : ctx.claimMode = "allowlist" → ∃ cutoff,
    find (runtime.platform.lower (strip ctx.unsubscribeText))
      (runtime.platform.lower (strip draft.body)) = some cutoff ∧
    unregisteredClaims runtime.platform ((strip draft.body).take cutoff) ctx.approvedClaims = []

theorem linked_of_unflagged
    (unflagged : ((url.findAll runtime.platform.isWord (strip draft.body)).filter fun link =>
      !(ctx.allowedUrlPrefixes.any fun start =>
        (runtime.platform.lower start).isPrefixOf (runtime.platform.lower link))) = [])
    (link : List Char) (member : link ∈ url.findAll runtime.platform.isWord (strip draft.body)) :
    ∃ start ∈ ctx.allowedUrlPrefixes,
      runtime.platform.lower start <+: runtime.platform.lower link := by
  have allowed := List.filter_eq_nil_iff.1 unflagged link member
  rw [Bool.not_eq_true', Bool.not_eq_false, List.any_eq_true] at allowed
  obtain ⟨start, listed, begins⟩ := allowed
  exact ⟨start, listed, List.isPrefixOf_iff_prefix.1 begins⟩

theorem unflagged_of_parts {missing unregistered : List Char → Finding} {absent : Finding}
    (present : (if (!contains (runtime.platform.lower (strip draft.body))
      (runtime.platform.lower (strip ctx.unsubscribeText))) = true then [absent] else []) = [])
    (unflagged : ((url.findAll runtime.platform.isWord (strip draft.body)).filter fun link =>
      !(ctx.allowedUrlPrefixes.any fun start =>
        (runtime.platform.lower start).isPrefixOf (runtime.platform.lower link))).map missing = [])
    (registered : (if ctx.claimMode = "allowlist" then
      (unregisteredClaims runtime.platform
        (match find (runtime.platform.lower (strip ctx.unsubscribeText))
            (runtime.platform.lower (strip draft.body)) with
          | some cutoff => (strip draft.body).take cutoff
          | none => strip draft.body) ctx.approvedClaims).map unregistered else []) = []) :
    Unflagged runtime draft ctx where
  linked := linked_of_unflagged (List.map_eq_nil_iff.1 unflagged)
  claimed := by
    intro allowlist
    have contained : contains (runtime.platform.lower (strip draft.body))
        (runtime.platform.lower (strip ctx.unsubscribeText)) = true := by
      by_contra gone
      rw [Bool.not_eq_true] at gone
      rw [gone] at present
      cases present
    obtain ⟨cutoff, found⟩ := Option.isSome_iff_exists.1 contained
    rw [if_pos allowlist, found] at registered
    exact ⟨cutoff, found, List.map_eq_nil_iff.1 registered⟩

theorem unflagged_of_valid (valid : validate runtime draft ctx = .ok []) :
    Unflagged runtime draft ctx := by
  unfold validate at valid
  dsimp only at valid
  by_cases empty : ((strip draft.subject).isEmpty || (strip draft.body).isEmpty) = true
  · rw [if_pos empty] at valid
    cases valid
  · rw [if_neg empty] at valid
    obtain ⟨forbidden, -, checked⟩ := except_bind_ok valid
    have concluding {address unsubscribe sender fake deceptive long hits links bump phi regime claims :
        List Finding} (findings : address ++ unsubscribe ++ sender ++ fake ++ deceptive ++ long ++
          hits ++ links ++ bump ++ phi ++ regime ++ claims = [])
        (cleared : unsubscribe = [] → links = [] → claims = [] → Unflagged runtime draft ctx) :
        Unflagged runtime draft ctx := by
      simp only [List.append_eq_nil_iff] at findings
      obtain ⟨⟨⟨⟨⟨⟨⟨⟨⟨⟨⟨-, present⟩, -⟩, -⟩, -⟩, -⟩, -⟩, linked⟩, -⟩, -⟩, -⟩, claimed⟩ := findings
      exact cleared present linked claimed
    by_cases federal : ctx.complianceRegime = "us_can_spam"
    · rw [if_pos federal] at checked
      exact concluding (Except.ok.inj checked) unflagged_of_parts
    · rw [if_neg federal] at checked
      obtain ⟨regime, -, returned⟩ := except_bind_ok checked
      exact concluding (Except.ok.inj returned) unflagged_of_parts

end Findings

section Links

variable {runtime : Runtime}

/-- The links in a text, as the checks find them. -/
def linksIn (runtime : Runtime) (text : List Char) : List (List Char) :=
  url.findAll runtime.platform.isWord (strip text)

def configuredLinks (tenant : TenantConfig runtime) : List (List Char) :=
  (tenant.aboutUs.links.map fun link => link.2.toList) ++
    tenant.aboutUs.assets.map fun asset => asset.url.toList

/-- A link as it is compared: schemes and hosts do not depend on the case. -/
def plainLink (runtime : Runtime) (link : List Char) : List Char :=
  Url.trim (runtime.platform.lower link)

/-- The link has the scheme and the host of a configured one. -/
def AtSite (tenant : TenantConfig runtime) (link : List Char) : Prop :=
  ∃ start ∈ configuredLinks tenant,
    Url.site (plainLink runtime start) = Url.site (plainLink runtime link)

instance (tenant : TenantConfig runtime) (link : List Char) : Decidable (AtSite tenant link) :=
  inferInstanceAs (Decidable (∃ start ∈ configuredLinks tenant, _))

def Begins (runtime : Runtime) (start link : List Char) : Prop :=
  runtime.platform.lower start <+: runtime.platform.lower link

/-- The link begins with configured ones, and these all stop at their host. -/
def LetInShort (tenant : TenantConfig runtime) (link : List Char) : Prop :=
  (∃ start ∈ configuredLinks tenant, Begins runtime start link) ∧
    ∀ start ∈ configuredLinks tenant, Begins runtime start link →
      Url.goesPastHost (plainLink runtime start) = false

/-- A link that begins with a configured one that goes past its host is at its site. -/
theorem atSite_of_begins {tenant : TenantConfig runtime} {start link : List Char}
    (listed : start ∈ configuredLinks tenant)
    (begins : Begins runtime start link)
    (past : Url.goesPastHost (plainLink runtime start) = true) : AtSite tenant link :=
  ⟨start, listed, (Url.site_of_prefix (Url.trim_prefix begins) past).symm⟩

/-- The links of a valid draft are at the sites of the configuration as far as those of its
subject are, and those of its body that only links without a path let in. -/
theorem links_at_sites_iff (tenant : TenantConfig runtime) (draft : Draft)
    (valid : validate runtime draft (Dryrun.validatorContext tenant) = .ok []) :
    (∀ link, link ∈ linksIn runtime draft.subject ∨ link ∈ linksIn runtime draft.body →
      AtSite tenant link) ↔
    (∀ link ∈ linksIn runtime draft.subject, AtSite tenant link) ∧
      ∀ link ∈ linksIn runtime draft.body, LetInShort tenant link → AtSite tenant link := by
  constructor
  · intro every
    exact ⟨fun link member => every link (Or.inl member),
      fun link member _ => every link (Or.inr member)⟩
  · rintro ⟨subject, body⟩ link (member | member)
    · exact subject link member
    · by_cases further : ∃ start ∈ configuredLinks tenant, Begins runtime start link ∧
          Url.goesPastHost (plainLink runtime start) = true
      · obtain ⟨start, listed, begins, past⟩ := further
        exact atSite_of_begins listed begins past
      · apply body link member
        have let_in : ∃ start ∈ configuredLinks tenant, Begins runtime start link :=
          (unflagged_of_valid valid).linked link member
        refine ⟨let_in, ?_⟩
        intro start listed begins
        rw [← Bool.not_eq_true]
        exact fun past => further ⟨start, listed, begins, past⟩

/-- A host that goes on after the name of a configured one. -/
def strangeDraft : Draft where
  subject := "Rooms in Austin".toList
  body := ("See https://acme.com.example.net/rooms\n- Maya Reyes, Acme\n1 Main St, Austin\n" ++
    "Reply STOP to opt out").toList

theorem strange_link_passes :
    validate plainRuntime strangeDraft (Dryrun.validatorContext acmeConfig) = .ok [] ∧
    ∃ link ∈ linksIn plainRuntime strangeDraft.body, ¬ AtSite acmeConfig link := by
  decide +kernel

/-- The link of the configuration itself. -/
def homeDraft : Draft where
  subject := "Rooms in Austin".toList
  body := ("See HTTPS://Acme.com/rooms.\n- Maya Reyes, Acme\n1 Main St, Austin\n" ++
    "Reply STOP to opt out").toList

theorem home_link_at_site :
    validate plainRuntime homeDraft (Dryrun.validatorContext acmeConfig) = .ok [] ∧
    ∀ link, link ∈ linksIn plainRuntime homeDraft.subject ∨
      link ∈ linksIn plainRuntime homeDraft.body → AtSite acmeConfig link := by
  have valid : validate plainRuntime homeDraft (Dryrun.validatorContext acmeConfig) = .ok [] := by
    decide +kernel
  have home : ∀ link ∈ linksIn plainRuntime homeDraft.body, AtSite acmeConfig link := by
    decide +kernel
  have none_else : linksIn plainRuntime homeDraft.subject = [] := by
    decide +kernel
  refine ⟨valid, ?_⟩
  apply (links_at_sites_iff acmeConfig homeDraft valid).2
  rw [none_else]
  exact ⟨fun link member => absurd member List.not_mem_nil, fun link member _ => home link member⟩

end Links

section Claims

variable (runtime : Runtime) (ctx : ValidatorContext)

def endsSentence (char : Char) : Bool := char = '.' || char = '!' || char = '?' || char = '\n'

def claimLike (sentence : List Char) : Bool :=
  (runtime.platform.search (claimSignal runtime.platform) sentence).isSome

def Approved (sentence : List Char) : Prop :=
  ∃ claim ∈ ctx.approvedClaims,
    contains (runtime.platform.lower sentence) (runtime.platform.lower (strip claim)) = true

/-- The text has the unsubscribe text somewhere. -/
def HasUnsubscribe (text : List Char) : Prop :=
  ∃ front seen rest, text = front ++ (seen ++ rest) ∧
    runtime.platform.lower seen = runtime.platform.lower (strip ctx.unsubscribeText)

/-- A sentence of the body that makes a claim, before the last unsubscribe text. -/
structure ClaimBefore (body before sentence after : List Char) : Prop where
  bounded : Piece endsSentence body before sentence after
  claims : claimLike runtime sentence = true
  followed : HasUnsubscribe runtime ctx after

/-- Where the validators stop looking for claims. -/
def cutoffOf (body : List Char) : Nat :=
  (find (runtime.platform.lower (strip ctx.unsubscribeText)) (runtime.platform.lower body)).getD
    body.length

variable {runtime ctx}

theorem claimLike_nil : claimLike runtime [] = false := rfl

theorem approved_of_registered {content sentence : List Char}
    (registered : unregisteredClaims runtime.platform content ctx.approvedClaims = [])
    (member : sentence ∈ sentenceSplit.split runtime.platform.isWord content)
    (claims : claimLike runtime sentence = true) : Approved runtime ctx sentence := by
  unfold unregisteredClaims at registered
  have passed := List.filterMap_eq_nil_iff.1 registered sentence member
  have signals : (runtime.platform.search (claimSignal runtime.platform) sentence).isNone = false := by
    rw [← Option.not_isSome]
    exact congrArg not claims
  rw [signals, if_neg Bool.false_ne_true, ite_eq_left_iff] at passed
  have named : (ctx.approvedClaims.map fun claim => runtime.platform.lower (strip claim)).any
      (contains (runtime.platform.lower sentence)) = true := by
    by_contra unnamed
    cases passed unnamed
  rw [List.any_map, List.any_eq_true] at named
  exact named

/-- What is left of a text that ends after a piece has that piece. -/
theorem piece_of_take {stops : Char → Bool} {text before piece after : List Char} {limit : Nat}
    (bounded : Piece stops text before piece after) (inside : (before ++ piece).length ≤ limit) :
    Piece stops (text.take limit) before piece
      (after.take (limit - (before ++ piece).length)) where
  whole := by
    rw [bounded.whole, ← List.append_assoc, List.take_append, List.take_of_length_le inside,
      List.append_assoc]
  plain := bounded.plain
  starts := bounded.starts
  ends := by
    intro char first
    rw [List.head?_take] at first
    split_ifs at first
    · cases first
    · exact bounded.ends char first

/-- In allowlist mode the claims before the last unsubscribe text are approved as far as
those are that end behind the first one. -/
theorem claims_approved_iff (runtime : Runtime) (ctx : ValidatorContext) (draft : Draft)
    (allowlist : ctx.claimMode = "allowlist") (valid : validate runtime draft ctx = .ok []) :
    (∀ before sentence after, ClaimBefore runtime ctx (strip draft.body) before sentence after →
      Approved runtime ctx sentence) ↔
    ∀ before sentence after, ClaimBefore runtime ctx (strip draft.body) before sentence after →
      cutoffOf runtime ctx (strip draft.body) < (before ++ sentence).length →
      Approved runtime ctx sentence := by
  constructor
  · intro every before sentence after claim _
    exact every before sentence after claim
  · intro later before sentence after claim
    by_cases beyond : cutoffOf runtime ctx (strip draft.body) < (before ++ sentence).length
    · exact later before sentence after claim beyond
    · obtain ⟨cutoff, found, registered⟩ := (unflagged_of_valid valid).claimed allowlist
      have cutoff_eq : cutoffOf runtime ctx (strip draft.body) = cutoff := by
        unfold cutoffOf
        rw [found, Option.getD_some]
      rw [cutoff_eq] at beyond
      have some_sentence : sentence ≠ [] := by
        rintro rfl
        cases claim.claims
      have member : sentence ∈ sentenceSplit.split runtime.platform.isWord
          ((strip draft.body).take cutoff) :=
        mem_split_of_piece (piece_of_take claim.bounded (Nat.le_of_not_lt beyond)) some_sentence
      exact approved_of_registered registered member claim.claims

def roomsContext : ValidatorContext where
  physicalAddress := "1 Main St, Austin".toList
  unsubscribeText := "Reply STOP to opt out".toList
  senderIdentity := "Maya Reyes, Acme".toList
  allowedUrlPrefixes := []
  claimMode := "allowlist"
  approvedClaims := ["free for a month".toList]

/-- The unsubscribe text stands at the top too. -/
def exemptDraft : Draft where
  subject := "Rooms in Austin".toList
  body := ("Reply STOP to opt out.\nIt is all free.\n- Maya Reyes, Acme\n1 Main St, Austin\n" ++
    "Reply STOP to opt out").toList

theorem early_unsubscribe_exempts :
    validate plainRuntime exemptDraft roomsContext = .ok [] ∧
    ∃ before sentence after,
      ClaimBefore plainRuntime roomsContext (strip exemptDraft.body) before sentence after ∧
      ¬ Approved plainRuntime roomsContext sentence := by
  have valid : validate plainRuntime exemptDraft roomsContext = .ok [] := by
    decide +kernel
  refine ⟨valid, "Reply STOP to opt out.\n".toList, "It is all free".toList,
    ".\n- Maya Reyes, Acme\n1 Main St, Austin\nReply STOP to opt out".toList, ⟨⟨?_, ?_, ?_, ?_⟩, ?_,
    ?_⟩, ?_⟩
  · decide +kernel
  · exact every_of_all (by decide +kernel)
  · have last : "Reply STOP to opt out.\n".toList.getLast? = some '\n' := by decide
    intro char member
    rw [last] at member
    obtain rfl := Option.some.inj member
    decide
  · intro char member
    obtain rfl := Option.some.inj (show some '.' = some char from member)
    decide
  · decide +kernel
  · exact ⟨".\n- Maya Reyes, Acme\n1 Main St, Austin\n".toList, "Reply STOP to opt out".toList, [],
      by decide +kernel, by decide +kernel⟩
  · unfold Approved
    decide +kernel

/-- A claim with an approved phrase, and one unsubscribe text. -/
def approvedDraft : Draft where
  subject := "Rooms in Austin".toList
  body := ("It is Free for a Month.\n- Maya Reyes, Acme\n1 Main St, Austin\n" ++
    "Reply STOP to opt out").toList

theorem approved_claim_passes :
    validate plainRuntime approvedDraft roomsContext = .ok [] ∧ ∀ before sentence after,
      ClaimBefore plainRuntime roomsContext (strip approvedDraft.body) before sentence after →
      Approved plainRuntime roomsContext sentence := by
  have valid : validate plainRuntime approvedDraft roomsContext = .ok [] := by
    decide +kernel
  refine ⟨valid, ?_⟩
  apply (claims_approved_iff plainRuntime roomsContext approvedDraft rfl valid).2
  intro before sentence after claim beyond
  exfalso
  obtain ⟨front, seen, rest, split, same⟩ := claim.followed
  have last : cutoffOf plainRuntime roomsContext (strip approvedDraft.body) +
      (strip roomsContext.unsubscribeText).length = (strip approvedDraft.body).length := by
    decide +kernel
  have seen_length : seen.length = (strip roomsContext.unsubscribeText).length := by
    have lengths := congrArg List.length same
    simp only [plainRuntime, Platform.ascii, List.length_map] at lengths
    exact lengths
  have whole_length := congrArg List.length claim.bounded.whole
  rw [split] at whole_length
  simp only [List.length_append] at whole_length beyond
  omega

end Claims

end OpenReachout
