/-!
# Status codes

A status code is a number of three digits. Some codes have a standard reason phrase, which
`Status.reason?` lists.
-/

namespace HttpGateway

/-- A status code. -/
@[ext] structure Status where
  /-- The code as a number. -/
  code : Nat
  /-- The code has three digits. -/
  bounds : 100 ≤ code ∧ code < 1000 := by decide
deriving DecidableEq

namespace Status

/-- The status with a code of three digits. -/
def ofCode? (code : Nat) : Option Status :=
  if h : 100 ≤ code ∧ code < 1000 then some ⟨code, h⟩ else none

/-- The request succeeded. -/
def ok : Status := { code := 200 }

/-- The request created something. -/
def created : Status := { code := 201 }

/-- The request is accepted for later. -/
def accepted : Status := { code := 202 }

/-- The request succeeded and the answer has no body. -/
def noContent : Status := { code := 204 }

/-- The request is malformed. -/
def badRequest : Status := { code := 400 }

/-- The caller is not known. -/
def unauthorized : Status := { code := 401 }

/-- The caller is known and may not do this. -/
def forbidden : Status := { code := 403 }

/-- There is nothing here. -/
def notFound : Status := { code := 404 }

/-- The request took too long to answer. -/
def requestTimeout : Status := { code := 408 }

/-- The request contradicts the present state. -/
def conflict : Status := { code := 409 }

/-- The body of the request is too long. -/
def payloadTooLarge : Status := { code := 413 }

/-- The request is well formed and cannot be followed. -/
def unprocessable : Status := { code := 422 }

/-- The request failed for a reason of the server. -/
def internalServerError : Status := { code := 500 }

/-- A server further on gave no usable answer. -/
def badGateway : Status := { code := 502 }

/-- The server cannot answer for the time being. -/
def serviceUnavailable : Status := { code := 503 }

/-- Whether a status tells of success. -/
def isSuccess (status : Status) : Bool := 200 ≤ status.code && status.code < 300

/-- The standard reason phrases. -/
def reasons : List (Nat × String) :=
  [(100, "Continue"), (101, "Switching Protocols"), (102, "Processing"), (103, "Early Hints"),
    (200, "OK"), (201, "Created"), (202, "Accepted"), (203, "Non Authoritative Information"),
    (204, "No Content"), (205, "Reset Content"), (206, "Partial Content"), (207, "Multi-Status"),
    (208, "Already Reported"), (226, "IM Used"), (300, "Multiple Choices"),
    (301, "Moved Permanently"), (302, "Found"), (303, "See Other"), (304, "Not Modified"),
    (305, "Use Proxy"), (307, "Temporary Redirect"), (308, "Permanent Redirect"),
    (400, "Bad Request"), (401, "Unauthorized"), (402, "Payment Required"), (403, "Forbidden"),
    (404, "Not Found"), (405, "Method Not Allowed"), (406, "Not Acceptable"),
    (407, "Proxy Authentication Required"), (408, "Request Timeout"), (409, "Conflict"),
    (410, "Gone"), (411, "Length Required"), (412, "Precondition Failed"),
    (413, "Payload Too Large"), (414, "URI Too Long"), (415, "Unsupported Media Type"),
    (416, "Range Not Satisfiable"), (417, "Expectation Failed"), (418, "I'm a teapot"),
    (421, "Misdirected Request"), (422, "Unprocessable Entity"), (423, "Locked"),
    (424, "Failed Dependency"), (425, "Too Early"), (426, "Upgrade Required"),
    (428, "Precondition Required"), (429, "Too Many Requests"),
    (431, "Request Header Fields Too Large"), (451, "Unavailable For Legal Reasons"),
    (500, "Internal Server Error"), (501, "Not Implemented"), (502, "Bad Gateway"),
    (503, "Service Unavailable"), (504, "Gateway Timeout"), (505, "HTTP Version Not Supported"),
    (506, "Variant Also Negotiates"), (507, "Insufficient Storage"), (508, "Loop Detected"),
    (510, "Not Extended"), (511, "Network Authentication Required")]

/-- The standard reason phrase of a status. -/
def reason? (status : Status) : Option String := reasons.lookup status.code

end Status

end HttpGateway
