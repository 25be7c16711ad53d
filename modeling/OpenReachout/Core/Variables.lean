import OpenReachout.Schema
import OpenReachout.Text.Platform

/-!
# Variables of prompts

`core/variables.py`: the slots of a prompt and what stands for each of them. A value
from outside is never spliced into the text; a marker takes its place.
-/

namespace OpenReachout.Variables

open Text Text.Regex Text.Platform

set_option autoImplicit false

inductive TrustClass where
  | trusted | prospect | untrusted
  deriving DecidableEq

def TrustClass.text : TrustClass → String
  | .trusted => "trusted"
  | .prospect => "prospect"
  | .untrusted => "untrusted"

abbrev Registry := List (List Char × TrustClass)

def defaultRegistry : Registry :=
  [("persona.value_prop".toList, .trusted), ("persona.voice_rules".toList, .trusted),
    ("tenant.name".toList, .trusted), ("tenant.links.*".toList, .trusted),
    ("variant.*".toList, .trusted), ("prospect.first_name".toList, .prospect),
    ("prospect.org_name".toList, .prospect), ("prospect.city".toList, .prospect),
    ("asset.*".toList, .trusted), ("sender.*".toList, .trusted),
    ("evidence.*".toList, .untrusted), ("signal.*".toList, .untrusted),
    ("thread.*".toList, .untrusted)]

structure ResolvedValue where
  slot : List Char
  value : List Char
  trust : TrustClass
  factId : Option (List Char) := none
  sourceUrl : Option String := none
  deriving DecidableEq

/-- Trusted values stand in the text; the others travel beside it. -/
structure ResolvedPrompt where
  text : List Char
  untrusted : List ResolvedValue := []
  resolved : List ResolvedValue := []
  deriving DecidableEq

def isSlotStart (char : Char) : Bool :=
  ('a' ≤ char && char ≤ 'z') || ('A' ≤ char && char ≤ 'Z') || char = '_'

def isSlotChar (char : Char) : Bool :=
  isSlotStart char || ('0' ≤ char && char ≤ '9') || char = '.'

/-- `SLOT_RE` -/
def slotRe : Regex :=
  .sequence [literal "\x7b\x7b", .star space, .set isSlotStart, .star (.set isSlotChar),
    .star space, literal "\x7d\x7d"]

/-- The group of a match of `slotRe`. -/
def slotOf (found : List Char) : List Char := found.filter isSlotChar

section Resolve

variable (platform : Platform)

def extractSlots (prompt : List Char) : List (List Char) :=
  ((slotRe.findAll platform.isWord prompt).map slotOf).eraseDups

/-- The class of a slot, or of the longest prefix of it that the registry has. -/
def lookupSlot (slot : List Char) (registry : Registry := defaultRegistry) : Option TrustClass :=
  match registry.lookup slot with
  | some trust => some trust
  | none =>
      let parts := slot.splitOn '.'
      ((List.range parts.length).reverse.filter (0 < ·)).findSome? fun count =>
        registry.lookup (['.'].intercalate (parts.take count) ++ ".*".toList)

/-- The slots that the registry does not know. -/
def validatePrompt (prompt : List Char) (registry : Registry := defaultRegistry) :
    List (List Char) :=
  (extractSlots platform prompt).filter fun slot => (lookupSlot slot registry).isNone

def markerFor (slot : List Char) : List Char := "[UNTRUSTED-REF:".toList ++ slot ++ [']']

/-- `substitute`: the text for a slot, and the value it stands for. -/
def substitute (values : List (List Char × ResolvedValue)) (registry : Registry)
    (found : List Char) : Except Exc (List Char × ResolvedValue) :=
  let slot := slotOf found
  match lookupSlot slot registry, values.lookup slot with
  | none, _ => .error ⟨.other, "AssertionError"⟩
  | _, none => .error ⟨.keyError, String.ofList slot⟩
  | some trust, some value =>
      if value.trust ≠ trust then
        .error ⟨.valueError, "value for " ++ String.ofList (platform.repr slot) ++ " declared " ++
          value.trust.text ++ ", registry says " ++ trust.text⟩
      else if trust = .untrusted then .ok (markerFor slot, value)
      else .ok (value.value, value)

def resolve (prompt : List Char) (values : List (List Char × ResolvedValue))
    (registry : Registry := defaultRegistry) : Except Exc ResolvedPrompt := do
  let unknown := validatePrompt platform prompt registry
  if !unknown.isEmpty then
    throw ⟨.valueError, "unknown variable slot(s): " ++ ", ".intercalate
      ((unknown.map String.ofList).mergeSort fun first second => !(second < first))⟩
  let pieces := slotRe.cutText platform.isWord prompt
  let parts ← pieces.1.mapM fun piece => do
    let put ← substitute platform values registry piece.2
    pure (piece.1 ++ put.1, put.2)
  let resolved := parts.map Prod.snd
  return { text := parts.flatMap Prod.fst ++ pieces.2
           untrusted := resolved.filter fun value => value.trust = .untrusted
           resolved }

end Resolve

end OpenReachout.Variables
