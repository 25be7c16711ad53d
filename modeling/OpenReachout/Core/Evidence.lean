import OpenReachout.Environment
import OpenReachout.Text.Hex

/-!
# Evidence

`core/evidence.py`: the facts on a prospect's card, and which of them are too old to be
used.
-/

namespace OpenReachout.Evidence

open Text

set_option autoImplicit false

/-- `EvidenceFact` as a card has it. -/
structure CardFact where
  factId : List Char
  factType : String
  content : List Char
  sourceUrl : String
  observedAt : Time
  deriving DecidableEq

structure EvidenceCard where
  prospectRef : String
  facts : List CardFact
  deriving DecidableEq

/-- `STALENESS_DAYS` -/
def stalenessDays : List (String × Nat) :=
  [("event_series", 60), ("calendar", 60), ("recent_gig", 60), ("pricing", 90), ("service", 180),
    ("bio", 365), ("specialty", 365)]

def defaultStalenessDays : Nat := 90

def isFresh (now : Time) (fact : CardFact) : Bool :=
  now ≤ fact.observedAt + days ((stalenessDays.lookup fact.factType).getD defaultStalenessDays)

def freshFacts (now : Time) (card : EvidenceCard) : List CardFact :=
  card.facts.filter (isFresh now)

/-- The card of `_load_card`, from the facts it has read. -/
def storedCard (prospectId : Uuid) (facts : List Fact) : EvidenceCard where
  prospectRef := toString prospectId
  facts := facts.map fun fact =>
    { factId := uuidText fact.factId, factType := fact.factType, content := fact.content.toList
      sourceUrl := fact.sourceUrl, observedAt := fact.observedAt }

/-- Every fact has an id. -/
def EvidenceCard.Named (card : EvidenceCard) : Prop := ∀ fact ∈ card.facts, fact.factId ≠ []

theorem storedCard_named (prospectId : Uuid) (facts : List Fact) :
    (storedCard prospectId facts).Named := by
  intro fact member empty
  obtain ⟨stored, -, rfl⟩ := List.mem_map.1 member
  have length := uuid_text_length stored.factId
  change (uuidText stored.factId) = [] at empty
  rw [empty] at length
  cases length

end OpenReachout.Evidence
