import OpenReachout.Compliance.Validators
import OpenReachout.Text.Uuid

/-!
# Link tokens

The tokens of `core/attribution.py`: a link carries the touch it was sent with and a MAC
of it, and the conversion endpoint reads them back.
-/

namespace OpenReachout

open Text

set_option autoImplicit false

def macLen : Nat := 12

/-- `hmac.new(key, text, sha256).hexdigest()[:MAC_LEN]` -/
def macOf (platform : Platform) (key text : List Char) : List Char :=
  (hexDigits 64 (platform.hmac key text)).take macLen

def tokenFor (platform : Platform) (touchId : Uuid) (key : List Char) : List Char :=
  let canonical := uuidHex touchId
  canonical ++ '.' :: macOf platform key canonical

def tokenizeLinks (platform : Platform) (body : List Char) (touchId : Uuid) (key : List Char) :
    List Char :=
  let token := tokenFor platform touchId key
  let pieces := url.cutText platform.isWord body
  (pieces.1.flatMap fun piece =>
    piece.1 ++ piece.2 ++ (if piece.2.contains '?' then '&' else '?') :: 't' :: '=' :: token) ++
    pieces.2

/-- `text.partition(mark)`; none where the mark is not found. -/
def partition (mark : Char) : List Char → Option (List Char × List Char)
  | [] => none
  | char :: rest =>
      if char = mark then some ([], rest)
      else (partition mark rest).map fun parts => (char :: parts.1, parts.2)

/-- `hmac.compare_digest` on two strings -/
def compareDigest (expected given : List Char) : Except Exc Bool :=
  if expected.all isAscii && given.all isAscii then .ok (decide (expected = given))
  else .error ⟨.other, "comparing strings with non-ASCII characters is not supported"⟩

/-- The touch of a token, or none for a malformed or forged one. -/
def verify (platform : Platform) (token key : List Char) : Except Exc (Option (List Char)) :=
  match partition '.' token with
  | none => .ok none
  | some (head, mac) =>
      match platform.uuidOf head with
      | none => .ok none
      | some id =>
          (compareDigest (macOf platform key (uuidHex id)) mac).map fun same =>
            if same then some (uuidText id) else none

end OpenReachout
