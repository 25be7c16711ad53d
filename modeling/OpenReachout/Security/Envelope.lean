import OpenReachout.Schema
import OpenReachout.Text.Platform

/-!
# The envelope of untrusted content

`wrap` of `security/envelope.py`, through which all content from outside enters a
prompt.
-/

namespace OpenReachout

open Text Text.Regex

set_option autoImplicit false

structure Envelope where
  text : List Char
  sha256 : String
  source : String
  deriving DecidableEq

def openTag : List Char := "<untrusted".toList
def closeTag : List Char := "</untrusted>".toList

/-- The close tag with a fraction slash. -/
def escapedTag : List Char := "<⁄untrusted>".toList

def escapeRe : Regex := word "</untrusted>"

/-- No content ends its own envelope. -/
def escapeContent (platform : Platform) (content : List Char) : List Char :=
  let pieces := escapeRe.cutText platform.isWord content
  (pieces.1.flatMap fun piece => piece.1 ++ escapedTag) ++ pieces.2

def allowedSource (source : String) : Bool :=
  ["web", "reply", "import", "research_note"].contains source ||
    "variable:".toList.isPrefixOf source.toList

def wrap (platform : Platform) (content : List Char) (source : String)
    (idem : List Char := []) : Except Exc Envelope :=
  if !allowedSource source then
    .error ⟨.valueError, "unknown envelope source: " ++ source⟩
  else
    let escaped := escapeContent platform content
    let digest := platform.sha256 escaped
    .ok { text := openTag ++ " source=\"".toList ++ source.toList ++ "\" sha256=\"".toList ++
            digest.toList ++ "\" idem=\"".toList ++ idem ++ "\">\n".toList ++ escaped ++
            '\n' :: closeTag
          sha256 := digest, source }

end OpenReachout
