import RcsMiddleware.Source.Schemas

/-!
# Source — Signing

`utils/signing.py`: the strategy that signs a request for RCS.  The hash functions and `str.upper`
are parameters; what is drawn anew for each request (the time, the nonce and the two ids) is an
argument of `sign`.
-/

namespace Rcs

open Support

/-- `HmacSha256Strategy`, with the functions of the standard library it calls. -/
structure HmacSha256Strategy where
  appKey : String
  appSecret : String
  apiVersion : String
  /-- `str.upper`. -/
  upper : String → String
  /-- `hashlib.md5(body).hexdigest()`. -/
  md5 : ByteArray → String
  /-- `hmac.new(secret, message, hashlib.sha256).hexdigest()`. -/
  hmacSha256 : String → String → String

/-- What `sign` draws for one request. -/
structure SigningDraw where
  timestamp : String
  nonce : String
  requestId : String
  traceId : String

namespace HmacSha256Strategy

variable (strategy : HmacSha256Strategy)

def buildCanonicalString (method path : String) (body : ByteArray) (nonce timestamp : String) :
    String :=
  timestamp ++ "\n" ++ nonce ++ "\n" ++ strategy.upper method ++ "\n" ++ path ++ "\n" ++
    strategy.md5 body

/-- `_build_sign`. -/
def buildSign (method path : String) (body : ByteArray) (nonce timestamp : String) : String :=
  strategy.hmacSha256 strategy.appSecret
    (strategy.buildCanonicalString method path body nonce timestamp)

def sign (draw : SigningDraw) (method path : String) (body : ByteArray) : SignedRequest where
  headers := [
    ("Authorization", "nonce=\"" ++ draw.nonce ++ "\", method=\"HMAC-SHA256\", timestamp=\"" ++
      draw.timestamp ++ "\""),
    ("X-lr-appkey", strategy.appKey),
    ("X-lr-version", strategy.apiVersion),
    ("X-lr-request-id", draw.requestId),
    ("X-lr-trace-id", draw.traceId),
    ("Content-Type", "application/json;charset=UTF-8")]
  sign := strategy.buildSign method path body draw.nonce draw.timestamp
  nonce := draw.nonce
  timestamp := draw.timestamp
  requestId := draw.requestId
  traceId := draw.traceId

end HmacSha256Strategy

end Rcs
