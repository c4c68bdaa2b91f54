import ControlPlane.Http.Target
import ControlPlane.Json.Value

/-!
# Requests and responses

A request has a method, a target, header fields and a body.  It is valid if the
method and the names of the fields are tokens, the target has a path, and the
fields hold no control characters.  A response has a status, header fields and a
body, which is a JSON value or plain text.
-/

namespace ControlPlane.Http

/-! ## Requests -/

/-- The marks that a token may hold besides letters and digits. -/
def tokenMarks : List Char :=
  ['!', '#', '$', '%', '&', '\'', '*', '+', '-', '.', '^', '_', '\x60', '|', '~']

/-- A character of a token. -/
def isTokenChar (c : Char) : Bool :=
  isLetter c || Text.isDecimal c || tokenMarks.contains c

/-- A nonempty run of token characters. -/
def isToken (s : String) : Bool :=
  !s.isEmpty && s.toList.all isTokenChar

/-- A value of a header field holds no control characters except tabs. -/
def isFieldValue (s : String) : Bool :=
  s.toList.all fun c => (0x20 ≤ c.toNat && c.toNat ≠ 0x7F) || c = '\t'

/-- What is done to a resource. -/
inductive Method
  | get
  | head
  | post
  | delete
  | options
  | other (name : String)
deriving Repr, DecidableEq

namespace Method

/-- The name of a method. -/
def name : Method → String
  | get => "GET"
  | head => "HEAD"
  | post => "POST"
  | delete => "DELETE"
  | options => "OPTIONS"
  | other name => name

/-- The method of a name; capitals matter. -/
def ofName (name : String) : Method :=
  if name = "GET" then get
  else if name = "HEAD" then head
  else if name = "POST" then post
  else if name = "DELETE" then delete
  else if name = "OPTIONS" then options
  else other name

end Method

/-- A request as it comes in. -/
structure Request where
  method : String
  target : String
  fields : List (String × String)
  body : String
deriving Repr, DecidableEq

namespace Request

/-- Is the request one that a server reads at all? -/
def isValid (r : Request) : Bool :=
  isToken r.method && (Target.path? r.target).isSome &&
    r.fields.all fun field => isToken field.1 && isFieldValue field.2

/-- The path of the request; that of an invalid target is empty. -/
def path (r : Request) : List Char :=
  (Target.path? r.target).getD []

/-- The value of the first field of a name, given in small letters. -/
def field? (r : Request) (name : String) : Option String :=
  (r.fields.find? fun field => field.1.toList.map Char.toLower = name.toList).map Prod.snd

end Request

/-! ## Responses -/

/-- What a response carries. -/
inductive Body
  | empty
  | json (value : Json.Value)
  | text (content : String)
deriving Repr

/-- A response: status, header fields and body. -/
structure Response where
  status : Nat
  fields : List (String × String)
  body : Body
deriving Repr

namespace Response

/-- A response without a body. -/
def empty (status : Nat) : Response :=
  ⟨status, [], .empty⟩

/-- A response with a JSON body. -/
def json (status : Nat) (value : Json.Value) : Response :=
  ⟨status, [("content-type", "application/json")], .json value⟩

/-- A response with a plain text body. -/
def text (status : Nat) (content : String) : Response :=
  ⟨status, [("content-type", "text/plain; charset=utf-8")], .text content⟩

/-- The response with more header fields. -/
def withFields (r : Response) (fields : List (String × String)) : Response :=
  { r with fields := r.fields ++ fields }

/-- The response without its body. -/
def withoutBody (r : Response) : Response :=
  { r with body := .empty }

end Response

/-- A number as a status code, which has three digits. -/
def statusCode? (n : Nat) : Option Nat :=
  if 100 ≤ n ∧ n < 1000 then some n else none

/-- A status with its reason phrase. -/
def statusText (status : Nat) : String :=
  match status with
  | 200 => "200 OK"
  | 201 => "201 Created"
  | 400 => "400 Bad Request"
  | 404 => "404 Not Found"
  | 405 => "405 Method Not Allowed"
  | 415 => "415 Unsupported Media Type"
  | 422 => "422 Unprocessable Entity"
  | 500 => "500 Internal Server Error"
  | other => Text.decimalText other

end ControlPlane.Http
