import ChatAssistant.Url.Basic

/-!
# HTTP

Requests, and how an exchange with a server ends. A response is its status and its body; whatever
happens before one is there either ran out of time or failed.
-/

namespace ChatAssistant
namespace Http

inductive Method where
  | get
  | post
  deriving DecidableEq, Repr

structure Request where
  method : Method
  url : Url
  /-- A body in JSON. -/
  body : Option Text
  deriving DecidableEq, Repr

/-- How an exchange ends. -/
inductive Exchange where
  | answered (status : Nat) (body : Text)
  | timedOut
  /-- The connection could not be made, or broke off. -/
  | broken
  deriving DecidableEq, Repr

/-- What becomes of requests. -/
abbrev Network := Request → Exchange

def Network.unreachable : Network := fun _ => .broken

/-! ## Status -/

def isSuccess (status : Nat) : Bool := 200 ≤ status && status ≤ 299

def badRequest : Nat := 400

def reason? : Nat → Option String
  | 100 => "Continue"
  | 101 => "Switching Protocols"
  | 102 => "Processing"
  | 103 => "Early Hints"
  | 200 => "OK"
  | 201 => "Created"
  | 202 => "Accepted"
  | 203 => "Non Authoritative Information"
  | 204 => "No Content"
  | 205 => "Reset Content"
  | 206 => "Partial Content"
  | 207 => "Multi-Status"
  | 208 => "Already Reported"
  | 226 => "IM Used"
  | 300 => "Multiple Choices"
  | 301 => "Moved Permanently"
  | 302 => "Found"
  | 303 => "See Other"
  | 304 => "Not Modified"
  | 305 => "Use Proxy"
  | 307 => "Temporary Redirect"
  | 308 => "Permanent Redirect"
  | 400 => "Bad Request"
  | 401 => "Unauthorized"
  | 402 => "Payment Required"
  | 403 => "Forbidden"
  | 404 => "Not Found"
  | 405 => "Method Not Allowed"
  | 406 => "Not Acceptable"
  | 407 => "Proxy Authentication Required"
  | 408 => "Request Timeout"
  | 409 => "Conflict"
  | 410 => "Gone"
  | 411 => "Length Required"
  | 412 => "Precondition Failed"
  | 413 => "Payload Too Large"
  | 414 => "URI Too Long"
  | 415 => "Unsupported Media Type"
  | 416 => "Range Not Satisfiable"
  | 417 => "Expectation Failed"
  | 418 => "I'm a teapot"
  | 421 => "Misdirected Request"
  | 422 => "Unprocessable Entity"
  | 423 => "Locked"
  | 424 => "Failed Dependency"
  | 425 => "Too Early"
  | 426 => "Upgrade Required"
  | 428 => "Precondition Required"
  | 429 => "Too Many Requests"
  | 431 => "Request Header Fields Too Large"
  | 451 => "Unavailable For Legal Reasons"
  | 500 => "Internal Server Error"
  | 501 => "Not Implemented"
  | 502 => "Bad Gateway"
  | 503 => "Service Unavailable"
  | 504 => "Gateway Timeout"
  | 505 => "HTTP Version Not Supported"
  | 506 => "Variant Also Negotiates"
  | 507 => "Insufficient Storage"
  | 508 => "Loop Detected"
  | 510 => "Not Extended"
  | 511 => "Network Authentication Required"
  | _ => none

def statusText (status : Nat) : Text :=
  Decimal.digitsOfNat status ++ ' ' :: ((reason? status).getD "<unknown status code>").toList

/-! ## Faults in words -/

def brokenDetail : Text := "error sending request".toList

def bodyDetail : Text := "error decoding response body".toList

/-- The detail of a request to a text that is no address. -/
def addressDetail : Text := "builder error".toList

end Http
end ChatAssistant
