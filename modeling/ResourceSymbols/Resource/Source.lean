import ResourceSymbols.Files.Tree
import ResourceSymbols.Log.Record
import ResourceSymbols.Resource.Document
import ResourceSymbols.Web.Exchange
import ResourceSymbols.Web.Url

/-!
# Sources of tables

A table document comes from a file or from the web, from exactly one of the two.
Loading keeps a log, and a list of the requests that were made.
-/

namespace ResourceSymbols.Resource.Source

/-- Why a source gives no document. -/
inductive Refusal
  | notOneSource
  | unreadable (path reason : String)
  | notJson (path : String) (place : Text.Place)
  | notHypertext (url : String)
  | timedOut (url timeout : String)
  | unreachable (url : String)
  | answered (url : String) (status : Int)
  | failed (url reason : String)
  | bodyNotJson (url : String)
deriving DecidableEq, Repr

/-- The refusal in words. -/
def Refusal.message : Refusal → String
  | notOneSource => "Give exactly one resource table source: a file path or a URL"
  | unreadable path reason => s!"Cannot read resource table {path}: {reason}"
  | notJson path place =>
    s!"Resource table {path} is not valid JSON (line {place.line}, column {place.column})"
  | notHypertext url => s!"Resource table URL must be http(s): {url}"
  | timedOut url timeout => s!"Timed out after {timeout}s fetching resource table from {url}"
  | unreachable url => s!"Cannot connect to {url} to fetch the resource table"
  | answered url status => s!"Resource table request answered HTTP {status}: {url}"
  | failed url reason => s!"Resource table request to {url} failed: {reason}"
  | bodyNotJson url => s!"Resource table from {url} is not valid JSON"

/-- Why nothing was loaded. -/
inductive Error
  | refused (r : Refusal)
  /-- There is no such file. -/
  | missing (path : String)
  /-- The system does not say whether there is such a file. -/
  | file (e : Files.Error)
  /-- The document goes beyond the limits on documents. -/
  | excess (e : Json.Excess)
  /-- The location cannot be taken apart. -/
  | url (e : Web.UrlError)
  /-- The exchange ended without the response that its failure speaks of. -/
  | unanswered
  /-- What is no failure of the request. -/
  | passed (t : Web.Trouble) (text : String)
  /-- A value is not of the kind that it is used as, or cannot be shown. -/
  | misuse (m : Json.Misuse)
  /-- The document describes no table. -/
  | document (e : Document.Error)

/-- The error in words. -/
def Error.message : Error → String
  | refused r => r.message
  | missing path => s!"Resource table not found: {path}"
  | file e => e.message
  | excess e => e.message
  | url e => e.message
  | unanswered => (Json.Misuse.noOperation "NoneType" "status_code").message
  | passed _ text => text
  | misuse m => m.message
  | document e => e.message

/-- What came of loading, its log, and the requests that were made. -/
structure Loading (α : Type) where
  outcome : Except Error α
  log : List Log.Record := []
  requests : List Web.Request := []

/-- A document and where it comes from. -/
structure Found where
  source : String
  document : Json.Value

/-! ## From a file -/

/-- The document in the text of a file. -/
def parseFile (path : String) (log : List Log.Record) (text : List Char) : Loading Found :=
  match Json.Value.read text with
  | .error (.excess e) => { outcome := .error (.excess e), log }
  | .error (.malformed defect place) =>
    let reason := (Json.ReadError.malformed defect place).message
    { outcome := .error (.refused (.notJson path place))
      log := log ++ [⟨.error, s!"Resource table {path} is not JSON: {reason}"⟩] }
  | .ok document =>
    { outcome := .ok { source := path, document }
      log := log ++ [⟨.info, s!"Read resource table document from {path}"⟩] }

/-- The document in a file that is there. -/
def readFile (t : Files.Tree) (p : Files.Path) (log : List Log.Record) : Loading Found :=
  let unreadable (reason : String) : Loading Found :=
    { outcome := .error (.refused (.unreadable p.text reason))
      log := log ++ [⟨.error, s!"Cannot read resource table {p.text}: {reason}"⟩] }
  match t.read p with
  | .error e => unreadable e.message
  | .ok octets =>
    match Text.Utf8.decode octets with
    | .error fault => unreadable fault.message
    | .ok text => parseFile p.text log (Text.foldLineEnds text)

/-- The document in the file. -/
def fromFile (t : Files.Tree) (p : Files.Path) : Loading Found :=
  let started : Log.Record := ⟨.debug, s!"Reading resource table from {p.text}"⟩
  match t.isFile p with
  | .error e => { outcome := .error (.file e), log := [started] }
  | .ok false =>
    { outcome := .error (.missing p.text)
      log := [started, ⟨.error, s!"No resource table at {p.text}"⟩] }
  | .ok true =>
    if p.isJson then readFile t p [started]
    else
      readFile t p
        [started,
          ⟨.warning, s!"Resource table {p.text} has no .json extension, reading it anyway"⟩]

/-! ## From the web -/

/-- The document in the body of a response.  An integer with too many digits is a
fault of the body like any other. -/
def parseBody (url : String) (body : List UInt8) :
    Except Error Json.Value × List Log.Record :=
  match Web.document body with
  | .error (.excess (.depth isObject)) => (.error (.excess (.depth isObject)), [])
  | .error e =>
    (.error (.refused (.bodyNotJson url)),
      [⟨.error, s!"Resource table from {url} is not JSON: {e.message}"⟩])
  | .ok document => (.ok document, [⟨.info, s!"Fetched resource table document from {url}"⟩])

/-- What is made of an exchange that went wrong.  The classes are tried one after the other,
and the first that fits decides.  That a request failed after the protocol is taken to say
that there is a response. -/
def fromTrouble (url : String) (timeout : Json.Value) (t : Web.Trouble) (text : String) :
    Except Error Json.Value × List Log.Record :=
  if t.isA .timeout then
    match timeout.shown? with
    | none => (.error (.misuse .digitLimit), [])
    | some limit =>
      (.error (.refused (.timedOut url limit)),
        [⟨.error, s!"No response from {url} within {limit}s"⟩])
  else if t.isA .connection then
    (.error (.refused (.unreachable url)), [⟨.error, s!"Cannot connect to {url}: {text}"⟩])
  else if t.isA .http then (.error .unanswered, [])
  else if t.isA .request then
    (.error (.refused (.failed url text)),
      [⟨.error, s!"Resource table request to {url} failed: {text}"⟩])
  else (.error (.passed t text), [])

/-- What is made of an exchange. -/
def fromExchange (url : String) (timeout : Json.Value) (exchange : Web.Exchange) :
    Except Error Json.Value × List Log.Record :=
  match exchange with
  | .trouble t text => fromTrouble url timeout t text
  | .response status body =>
    if Web.isFailure status then
      (.error (.refused (.answered url status)),
        [⟨.error, s!"Resource table request to {url} answered {status}"⟩])
    else parseBody url body

/-- The document at a location. -/
def fromUrl (url : String) (timeout : Json.Value) (exchange : Web.Exchange) : Loading Found :=
  let started : Log.Record := ⟨.debug, s!"Fetching resource table from {url}"⟩
  match Web.Url.ofText url with
  | .error e => { outcome := .error (.url e), log := [started] }
  | .ok parsed =>
    if !parsed.isHypertext then
      { outcome := .error (.refused (.notHypertext url))
        log := [started, ⟨.error, s!"Refusing to fetch resource table from {Text.quoted url}"⟩] }
    else
      let (outcome, log) := fromExchange url timeout exchange
      { outcome := outcome.map fun document => { source := url, document }
        log := started :: log
        requests := [{ url := .text url, timeout }] }

/-! ## From one of them -/

/-- What there is to load from: files, and what comes of a request. -/
structure Surroundings where
  tree : Files.Tree
  exchange : Web.Exchange

/-- The document from the one source that is given. -/
def find (s : Surroundings) (file url timeout : Json.Value) : Loading Found :=
  if file.isTruthy = url.isTruthy then
    match file.literal?, url.literal? with
    | some f, some u =>
      { outcome := .error (.refused .notOneSource)
        log := [⟨.error, s!"Expected one table source, got file={f} url={u}"⟩] }
    | _, _ => { outcome := .error (.misuse .digitLimit) }
  else if file.isTruthy then
    match file with
    | .text path => fromFile s.tree (.ofText path)
    | v => { outcome := .error (.misuse (.notAPath v.kindName)) }
  else
    match url, url.shown? with
    | .text url, _ => fromUrl url timeout s.exchange
    | v, some shown =>
      { outcome := .error (.misuse (.noOperation v.kindName "decode"))
        log := [⟨.debug, s!"Fetching resource table from {shown}"⟩] }
    | _, none => { outcome := .error (.misuse .digitLimit) }

/-- The table from the one source that is given. -/
def load (s : Surroundings) (file url timeout : Json.Value) : Loading Table :=
  let found := find s file url timeout
  match found.outcome with
  | .error e => { outcome := .error e, log := found.log, requests := found.requests }
  | .ok f =>
    match Table.ofDocument f.document with
    | .error e => { outcome := .error (.document e), log := found.log, requests := found.requests }
    | .ok table =>
      { outcome := .ok table
        log := found.log ++ [⟨.debug, s!"Built table {table.package} from {f.source}"⟩]
        requests := found.requests }

end ResourceSymbols.Resource.Source
