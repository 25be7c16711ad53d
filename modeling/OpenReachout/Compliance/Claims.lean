import OpenReachout.Core.Config
import Mathlib.Data.List.Sort

/-!
# The claim registry

`core/compliance/claims.py`: the version of a tenant's claims, and the rows that keep
every claim of every version. A row has the columns the insert sets and those with a
constant default.
-/

namespace OpenReachout

open Relational Text Text.Regex Text.Platform

set_option autoImplicit false

namespace Claims

def denylistVersion : String := "deny-pack@1"

/-- The order of texts by their code points. -/
def atMost : List Char → List Char → Bool
  | [], _ => true
  | _ :: _, [] => false
  | char :: rest, other :: others =>
      if char = other then atMost rest others else char.toNat < other.toNat

/-- `c.strip().lower()` -/
def normalized (platform : Platform) (claimText : String) : List Char :=
  platform.lower (strip claimText.toList)

/-- What the version of a set of claims is the digest of. -/
def versionText (platform : Platform) (approvedClaims : List String) : List Char :=
  ['\x00'].intercalate
    ((approvedClaims.map (normalized platform)).insertionSort fun first second =>
      atMost first second = true)

/-- The first twelve characters of the digest. -/
def digest (platform : Platform) (text : List Char) : String :=
  String.ofList ((platform.sha256 text).toList.take 12)

section Registry

variable {runtime : Runtime}

def registryVersion (aboutUs : AboutUs runtime) : String :=
  if aboutUs.claimsMode ≠ .allowlist then denylistVersion
  else "allowlist@" ++ digest runtime.platform (versionText runtime.platform aboutUs.approvedClaims)

def notSlug : Regex :=
  plus (.set fun char => !(('a' ≤ char && char ≤ 'z') || ('0' ≤ char && char ≤ '9')))

def slug (platform : Platform) (text : List Char) : List Char :=
  let pieces := notSlug.cutText platform.isWord text
  (pieces.1.flatMap fun piece => piece.1 ++ ['_']) ++ pieces.2

/-- `strip("_")` -/
def stripUnderscores (text : List Char) : List Char :=
  ((text.dropWhile (· = '_')).reverse.dropWhile (· = '_')).reverse

/-- The claim id of a text in its normal form. -/
def idOf (platform : Platform) (normal : List Char) : String :=
  let short := (stripUnderscores (slug platform normal)).take 60
  if short.isEmpty then "claim" else String.ofList short

/-- `_claim_id` -/
def claimId (platform : Platform) (claimText : String) : String :=
  idOf platform (normalized platform claimText)

structure ClaimRow where
  claimText : String
  status : String := "approved"
  approvedBy : String := "config"
  deriving DecidableEq

/-- Tenant, claim id and version are the key. -/
abbrev ClaimRegistry := Table (String × String × String) ClaimRow

/-- The insert for one claim, which leaves a row with its key as it is. -/
def register (runtime : Runtime) (tenant version : String) (registry : ClaimRegistry)
    (claimText : String) : Except Exc ClaimRegistry :=
  if storable tenant.toList && storable (strip claimText.toList) then
    .ok (registry.insert (tenant, claimId runtime.platform claimText, version)
      { claimText := String.ofList (strip claimText.toList) })
  else .error ⟨.databaseError, "NUL in a text"⟩

def ensureRegistry (tenant : String) (aboutUs : AboutUs runtime) (registry : ClaimRegistry) :
    Except Exc (ClaimRegistry × String) := do
  let version := registryVersion aboutUs
  if aboutUs.claimsMode = .allowlist then
    let registry ← aboutUs.approvedClaims.foldlM (register runtime tenant version) registry
    return (registry, version)
  else
    return (registry, version)

/-- What is left of the registry after a call: a call that raises is rolled back. -/
def afterCall (tenant : String) (registry : ClaimRegistry) (aboutUs : AboutUs runtime) :
    ClaimRegistry :=
  match ensureRegistry tenant aboutUs registry with
  | .ok (later, _) => later
  | .error _ => registry

/-- The registry after a sequence of calls. -/
def afterCalls (tenant : String) (registry : ClaimRegistry) (configs : List (AboutUs runtime)) :
    ClaimRegistry :=
  configs.foldl (afterCall tenant) registry

end Registry

end Claims

end OpenReachout
