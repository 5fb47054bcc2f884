import ResourceSymbols.Charset.Guess
import ResourceSymbols.Json.Reader

/-!
# Requests and what comes of them
-/

namespace ResourceSymbols.Web

/-- A request: what is asked for, and how long to wait for it. -/
structure Request where
  url : Json.Value
  timeout : Json.Value

/-- The class of what goes wrong with a request: one of the classes that a client has for
it, or any other under its name. -/
inductive Trouble
  | request
  | http
  | connection
  | proxy
  | ssl
  | timeout
  | connectTimeout
  | readTimeout
  | urlRequired
  | tooManyRedirects
  | missingSchema
  | invalidSchema
  | invalidUrl
  | invalidProxyUrl
  | invalidHeader
  | invalidJson
  | jsonDecode
  | chunkedEncoding
  | contentDecoding
  | streamConsumed
  | retry
  | unrewindableBody
  /-- An error of the system that the client makes nothing of. -/
  | system (name : String)
  /-- What is neither a failure of the request nor an error of the system. -/
  | other (name : String)
deriving DecidableEq, Repr

namespace Trouble

/-- The classes that a class is derived from.  A connection that takes too long to come
about is a failure to connect and also one to answer in time. -/
def ancestors : Trouble → List Trouble
  | connectTimeout => [connection, timeout, request]
  | readTimeout => [timeout, request]
  | proxy | ssl => [connection, request]
  | invalidProxyUrl => [invalidUrl, request]
  | jsonDecode => [invalidJson, request]
  | request | system _ | other _ => []
  | _ => [request]

/-- Whether the class is the other one, or derived from it. -/
def isA (t base : Trouble) : Bool := t = base || t.ancestors.contains base

/-- Whether the class is derived from that of the errors of the system, as the failures of
requests are. -/
def isOfSystem : Trouble → Bool
  | other _ => false
  | _ => true

end Trouble

/-- What comes of a request. -/
inductive Exchange
  | trouble (t : Trouble) (text : String)
  | response (status : Int) (body : List UInt8)

/-- Whether the status says that the request failed. -/
def isFailure (status : Int) : Bool := decide (400 ≤ status) && decide (status < 600)

/-- The text of a body: in the encoding that it shows, or as octets that do not tell
how they are to be read. -/
def bodyText (body : List UInt8) : List Char :=
  Text.spelled
    (((Text.Encoding.detect? body).bind fun e => e.decode? body).getD (Charset.guess body))

/-- The document in a body. -/
def document (body : List UInt8) : Except Json.ReadError Json.Value :=
  Json.Value.read (bodyText body)

end ResourceSymbols.Web
