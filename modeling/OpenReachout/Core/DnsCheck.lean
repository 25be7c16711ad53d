import OpenReachout.Text.Platform
import Mathlib.Data.List.DropRight

/-!
# Records of a sending domain

`core/dnscheck.py`: what the TXT strings of a domain are found to say, before any mail
is sent from it.
-/

namespace OpenReachout

open Text

set_option autoImplicit false

inductive Severity where
  | ok | warn | fail
  deriving DecidableEq

structure DnsFinding where
  check : String
  severity : Severity
  detail : List Char
  deriving DecidableEq

variable (platform : Platform)

/-- `str.rstrip` -/
def rstrip (text : List Char) : List Char := text.rdropWhile Platform.isSpace

/-- `t.replace(" ", "")` -/
def withoutSpaces (text : List Char) : List Char := text.filter (· != ' ')

def everyoneAuthorized : DnsFinding :=
  ⟨"spf", .fail, "SPF '+all' authorizes the whole internet".toList⟩

/-- The TXT strings that `evaluate_spf` takes for SPF records. -/
def spfRecords (txts : List (List Char)) : List (List Char) :=
  txts.filter fun txt => "v=spf1".toList.isPrefixOf (platform.lower txt)

def evaluateSpf (txts : List (List Char)) : DnsFinding :=
  match spfRecords platform txts with
  | [] => ⟨"spf", .fail, "no v=spf1 TXT record".toList⟩
  | [only] =>
      let record := platform.lower only
      if Platform.contains record "+all".toList then
        everyoneAuthorized
      else if "?all".toList.isSuffixOf (rstrip record) then
        ⟨"spf", .warn, "SPF '?all' is neutral; prefer ~all or -all".toList⟩
      else
        ⟨"spf", .ok, record⟩
  | _ => ⟨"spf", .fail, "multiple SPF records (receivers reject)".toList⟩

/-- The TXT strings that `evaluate_dmarc` takes for DMARC records. -/
def dmarcRecords (txts : List (List Char)) : List (List Char) :=
  txts.filter fun txt => "v=dmarc1".toList.isPrefixOf (withoutSpaces (platform.lower txt))

def evaluateDmarc (txts : List (List Char)) : DnsFinding :=
  match dmarcRecords platform txts with
  | [] =>
      ⟨"dmarc", .fail,
        "no _dmarc TXT record (required by Google/Microsoft bulk-sender rules)".toList⟩
  | first :: _ =>
      let record := withoutSpaces (platform.lower first)
      if Platform.contains record "p=none".toList then
        ⟨"dmarc", .ok, "p=none (the required minimum; consider quarantine once aligned)".toList⟩
      else if Platform.contains record "p=quarantine".toList ||
          Platform.contains record "p=reject".toList then
        ⟨"dmarc", .ok, record⟩
      else
        ⟨"dmarc", .fail, "DMARC record lacks a policy tag: ".toList ++ record⟩

end OpenReachout
