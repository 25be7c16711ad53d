import OpenReachout.Core.Events
import OpenReachout.Text.Hex

/-!
# Inbound mail

`adapters/sending/inbound.py` and `adapters/sending/imap_poll.py`: from a parsed
message to the event that `ingest_events` takes, and `message_id_for` of
`core/message.py`. The parts of a message are what the mail parser of the standard
library makes of it.
-/

namespace OpenReachout

open Relational Text Text.Regex Text.Platform

set_option autoImplicit false

/-- What `get_content()` returns: text, bytes with their `str()`, or nothing where it
raises `LookupError` or `ValueError`. -/
inductive Content where
  | text (value : List Char)
  | bytes (shown : List Char)
  | unreadable
  deriving DecidableEq

/-- The values of an `Action` field of a delivery status. -/
inductive DeliveryAction where
  | failed | delayed | delivered | relayed | expanded
  deriving DecidableEq

structure MailPart where
  contentType : String
  content : Content
  /-- `str(get_payload())` -/
  payload : List Char
  /-- the `Action` field, where the part is a block of a delivery status about a recipient -/
  action : Option DeliveryAction := none
  deriving DecidableEq

/-- A message as it was received; the fields of `MailPart` are those of its root. -/
structure InboundMail extends MailPart where
  messageId : Option String
  rawHash : Int
  sender : List Char
  subject : List Char
  inReplyTo : Option (List Char)
  references : Option (List Char)
  reportType : Option String
  isMultipart : Bool
  /-- the parts below the root, in the order of `walk()` -/
  parts : List MailPart
  deriving DecidableEq

def InboundMail.walk (mail : InboundMail) : List MailPart :=
  mail.toMailPart :: (if mail.isMultipart then mail.parts else [])

inductive InboundPayload where
  | transport
  | body (content : Content)
  deriving DecidableEq

structure InboundEvent where
  providerEventId : String
  kind : EventKind
  touchId : Uuid
  payload : InboundPayload
  deriving DecidableEq

def messageIdFor (touchId : Uuid) (domain : List Char) : List Char :=
  '<' :: uuidText touchId ++ '@' :: domain ++ ['>']

def touchRe : Regex :=
  .sequence [.set (· = '<'), exactly (.set isHexOrHyphen) 36, .set (· = '@')]

def bounceSender : Regex :=
  choice [word "mailer-daemon", word "postmaster",
    .sequence [word "no", opt (.set (· = '-')), word "reply"]]

section Parse

variable (platform : Platform)

/-- The ids that a header mentions, in their order. -/
def touchIds (value : List Char) : List Uuid :=
  (touchRe.findAll platform.isWord value).filterMap fun found => parseUuid ((found.drop 1).take 36)

/-- `_touch_id_from` -/
def touchIdFrom (headerValues : List (Option (List Char))) : Option Uuid :=
  headerValues.findSome? fun value => value.bind fun text => (touchIds platform text).head?

/-- `_is_bounce` -/
def isBounce (mail : InboundMail) : Bool :=
  (mail.contentType = "multipart/report" &&
    contains ((mail.reportType.getD "").toList) "delivery-status".toList) ||
    (platform.search bounceSender mail.sender).isSome

/-- `_plain_body` -/
def plainBody (mail : InboundMail) : Content :=
  let stripped : Content → Option Content
    | .text value => some (.text (strip value))
    | .bytes shown => some (.bytes shown)
    | .unreadable => none
  if mail.isMultipart then
    ((mail.walk.filter fun part => part.contentType = "text/plain").findSome? fun part =>
      stripped part.content).getD (.text [])
  else if mail.content = .bytes "b''".toList then .text []
  else (stripped mail.content).getD (.text [])

def reportTypes : List String := ["message/rfc822", "text/rfc822-headers", "message/delivery-status"]

def MailPart.nested (part : MailPart) : List Char :=
  match part.content with
  | .text value => value
  | .bytes shown => shown
  | .unreadable => part.payload

/-- `_original_message_id` -/
def originalMessageId (mail : InboundMail) : Option Uuid :=
  match touchIdFrom platform [mail.inReplyTo, mail.references] with
  | some direct => some direct
  | none => (mail.walk.filter fun part => reportTypes.contains part.contentType).findSome?
      fun part => touchIdFrom platform [some part.nested]

def InboundMail.eventId (mail : InboundMail) : String :=
  match mail.messageId with
  | some id => if id = "" then s!"inbound:{mail.rawHash}" else id
  | none => s!"inbound:{mail.rawHash}"

def parseInbound (mail : InboundMail) : Option InboundEvent :=
  if isBounce platform mail then
    (originalMessageId platform mail).map fun touchId =>
      { providerEventId := mail.eventId, kind := .bounce, touchId, payload := .transport }
  else
    (touchIdFrom platform [mail.inReplyTo, mail.references]).map fun touchId =>
      { providerEventId := mail.eventId, kind := .reply, touchId
        payload := .body (plainBody mail) }

def parseBatch (mails : List InboundMail) : List InboundEvent :=
  mails.filterMap (parseInbound platform)

end Parse

section Poll

variable (deployment : Deployment)

/-- `json.dumps(event.payload)`, which has no form for bytes. -/
def InboundPayload.json : InboundPayload → Option Payload
  | .transport => some [("transport", .text "smtp")]
  | .body (.text value) => some [("body", .text (String.ofList value))]
  | .body _ => none

def InboundPayload.storable : InboundPayload → Bool
  | .body (.text value) => OpenReachout.storable value
  | _ => true

def ingestInbound (event : InboundEvent) : Prog Unit :=
  match event.payload.json with
  | none => raise .other "Object of type bytes is not JSON serializable"
  | some payload =>
      if OpenReachout.storable event.providerEventId.toList && event.payload.storable then
        ingestEvent deployment ⟨event.providerEventId, event.kind, some event.touchId, payload⟩
      else raise .databaseError "NUL in a text"

/-- What `poll_once` does for one mailbox, whose unseen messages are given: one
transaction, where any of them makes an event. -/
def pollInbox (mails : List InboundMail) : Prog Unit :=
  (parseBatch deployment.platform mails).forM fun event => ingestInbound deployment event

end Poll

end OpenReachout
