import Gateway.Text
import Gateway.Url.Reader

/-! # Calls to services and what comes of them -/
namespace Gateway
open Text

/-- No answer, for some reason, or one with a status and a body. -/
inductive Exchange
  | failed (reason : String)
  | answered (status : Nat) (body : Bytes)
  deriving DecidableEq, Repr

/-- The phrases that go with status codes. -/
def statusPhrases : List (Nat × String) := [
  (100, "Continue"), (101, "Switching Protocols"), (102, "Processing"), (103, "Early Hints"),
  (200, "OK"), (201, "Created"), (202, "Accepted"), (203, "Non Authoritative Information"),
  (204, "No Content"), (205, "Reset Content"), (206, "Partial Content"), (207, "Multi-Status"),
  (208, "Already Reported"), (226, "IM Used"), (300, "Multiple Choices"),
  (301, "Moved Permanently"), (302, "Found"), (303, "See Other"), (304, "Not Modified"),
  (305, "Use Proxy"), (307, "Temporary Redirect"), (308, "Permanent Redirect"),
  (400, "Bad Request"), (401, "Unauthorized"), (402, "Payment Required"), (403, "Forbidden"),
  (404, "Not Found"), (405, "Method Not Allowed"), (406, "Not Acceptable"),
  (407, "Proxy Authentication Required"), (408, "Request Timeout"), (409, "Conflict"),
  (410, "Gone"), (411, "Length Required"), (412, "Precondition Failed"),
  (413, "Payload Too Large"), (414, "URI Too Long"), (415, "Unsupported Media Type"),
  (416, "Range Not Satisfiable"), (417, "Expectation Failed"), (418, "I'm a teapot"),
  (421, "Misdirected Request"), (422, "Unprocessable Entity"), (423, "Locked"),
  (424, "Failed Dependency"), (425, "Too Early"), (426, "Upgrade Required"),
  (428, "Precondition Required"), (429, "Too Many Requests"),
  (431, "Request Header Fields Too Large"), (451, "Unavailable For Legal Reasons"),
  (500, "Internal Server Error"), (501, "Not Implemented"), (502, "Bad Gateway"),
  (503, "Service Unavailable"), (504, "Gateway Timeout"), (505, "HTTP Version Not Supported"),
  (506, "Variant Also Negotiates"), (507, "Insufficient Storage"), (508, "Loop Detected"),
  (510, "Not Extended"), (511, "Network Authentication Required")]

/-- A status code with its phrase. -/
def describeStatus (status : Nat) : String :=
  toString status ++ " " ++ (statusPhrases.lookup status).getD "<unknown status code>"

/-- The body of an answer, unless the status tells of an error. -/
def Exchange.body (url : String) : Exchange → Except String Bytes
  | failed reason => .error reason
  | answered status body =>
    if 400 ≤ status && status < 600 then
      let side := if status < 500 then "client" else "server"
      .error ("HTTP status " ++ side ++ " error (" ++ describeStatus status ++ ") for url (" ++
        url ++ ")")
    else .ok body

/-- What is said about a body that is not of the form it should have. -/
def undecodableBody : String := "error decoding response body"

/-- What is said about a call that reaches no service. -/
def unreachable (url : String) : String :=
  let shown := match Url.read url with
    | .ok u => u.render
    | .error _ => url
  "error sending request for url (" ++ shown ++ ")"

end Gateway
