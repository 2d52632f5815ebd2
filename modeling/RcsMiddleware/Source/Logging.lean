import RcsMiddleware.Source.RcsClient
import RcsMiddleware.Source.Signing
import RcsMiddleware.Source.WebhookService
import RcsMiddleware.Support.Secrets

/-!
# Source — Logging

The processor of `core/logging.py` that masks secrets, and the events of `submit_raw`,
`plain_request` and `_do_request` that hold the body of a request.  An event is the list of its
members; `context` stands for those the other processors add, as the level and the time.
-/

namespace Rcs

open Support Support.Text

/-! ### Masking -/

/-- `str.lower`, which on ASCII text changes the letters `A` to `Z` only. -/
structure StrLower where
  lower : String → String
  lower_ascii : ∀ s, isAscii s = true → lower s = s.toLower

/-- `SENSITIVE_LOG_FIELDS`. -/
def sensitiveLogFields : List String :=
  ["password", "secret", "token", "authorization", "x-api-key", "x-webhook-signature"]

namespace StrLower

variable (str : StrLower)

/-- The test on a key in `_mask_sensitive` and `_mask_dict`. -/
def isSensitive (key : String) : Bool :=
  let lowered := str.lower key
  sensitiveLogFields.contains lowered ||
    ["secret", "token", "password"].any fun s => hasSub lowered s

mutual
/-- `_mask_dict`. -/
def maskDict : List (String × Json) → List (String × Json)
  | [] => []
  | (k, v) :: rest => (k, if str.isSensitive k then .str "***" else maskValue v) :: maskDict rest

/-- What becomes of a value under another key. -/
def maskValue : Json → Json
  | .obj fields => .obj (maskDict fields)
  | v => v
end

/-- `_mask_sensitive`. -/
def maskSensitive (event : List (String × Json)) : List (String × Json) :=
  event.map fun (k, v) => (k, if str.isSensitive k then .str "***" else str.maskValue v)

end StrLower

/-! ### The events -/

/-- A body, or `None`, as a value. -/
def bodyValue : Option (List (String × Json)) → Json
  | none => .null
  | some fields => .obj fields

/-- `request_body_for_log`. -/
def requestBodyForLog (body : Option (List (String × Json))) : Json :=
  match body with
  | none => .null
  | some fields =>
      let text := (Json.obj fields).plainText
      if text.length ≤ 1200 then .obj fields
      else .obj [("_truncated", .bool true), ("preview", .str (.ofList (text.take 1200)))]

/-- A `dict` of strings. -/
def textMembers (members : List (String × String)) : Json :=
  .obj (members.map fun (k, v) => (k, .str v))

/-- `rcs_submit_attempt`, of `submit_raw`. -/
def submitAttemptEvent (request : RcsRawSubmitRequest) (path : String)
    (context : List (String × Json)) : List (String × Json) :=
  [("method", .str request.method.upper), ("path", .str path),
    ("send_signed", .bool request.sendSigned), ("persist_task", .bool request.persistTask),
    ("body", bodyValue request.body), ("event", .str "rcs_submit_attempt")] ++ context

/-- `rcs_plain_request_outgoing`, of `plain_request`. -/
def plainRequestEvent (method : HttpMethod) (path fullUrl : String) (now : DateTime)
    (body : Option (List (String × Json))) (context : List (String × Json)) :
    List (String × Json) :=
  [("method", .str method.upper), ("path", .str path), ("full_url", .str fullUrl),
    ("headers", textMembers (RCS2000Client.plainHeaders now)), ("body", requestBodyForLog body),
    ("event", .str "rcs_plain_request_outgoing")] ++ context

/-- `rcs_signed_request_outgoing`, of `_do_request`. -/
def signedRequestEvent (strategy : HmacSha256Strategy) (draw : SigningDraw) (method : HttpMethod)
    (path fullUrl : String) (params : List (String × String))
    (body : Option (List (String × Json))) (context : List (String × Json)) :
    List (String × Json) :=
  let signed := strategy.sign draw method.upper path (bodyText body).toUTF8
  [("method", .str method.upper), ("path", .str path), ("full_url", .str fullUrl),
    ("headers", textMembers signed.headers),
    ("params", textMembers (params ++ [("sign", signed.sign)])),
    ("body", requestBodyForLog body), ("event", .str "rcs_signed_request_outgoing")] ++ context

end Rcs
