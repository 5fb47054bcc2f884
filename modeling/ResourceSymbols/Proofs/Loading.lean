import ResourceSymbols.Resource.Source

/-!
# How loading ends

A document comes from one file or from one location on the web.  Loading it is said to end
with the document, with a refusal, or with a file that is missing.  It ends otherwise too:
where the system does not tell what stands at a path, where a document goes beyond its
limits, where a location cannot be taken apart, and where an exchange fails in a way that
brings no response or is no failure of the request.  Each of these takes its own inputs.

## Main results

* `fromFile_eq_iff`, `fromUrl_eq_iff`, `find_eq_iff` — what comes of a source that is not
  refused.
* `requests_fromUrl`, `requests_find` — which requests are made.
* `find_ends` — how loading ends, and what it asks for.
* `find_not_refused` — ends that nobody is told of.
-/

namespace ResourceSymbols

/-! ## Files that are there -/

/-- A file that can be read is a file. -/
theorem Files.Tree.isFile_of_read {t : Tree} {p : Path} {octets : List UInt8}
    (hOctets : t.read p = .ok octets) : t.isFile p = .ok true := by
  unfold read at hOctets
  unfold isFile check
  cases hStat : t.stat p with
  | error e => simp [hStat] at hOctets
  | ok n =>
      cases n with
      | directory => simp [hStat] at hOctets
      | file found => rfl
      | readOnly found => rfl

/-! ## Classes of failures -/

namespace Web.Trouble

variable {t : Trouble}

theorem isA_request_of_timeout (hLate : t.isA .timeout = true) : t.isA .request = true := by
  cases t with
  | timeout | connectTimeout | readTimeout => rfl
  | _ => cases hLate

theorem isA_request_of_connection (hCut : t.isA .connection = true) : t.isA .request = true := by
  cases t with
  | connection | proxy | ssl | connectTimeout => rfl
  | _ => cases hCut

/-- No class is derived from that of the failures after the protocol. -/
theorem isA_http_eq_false (hNot : t ≠ .http) : t.isA .http = false := by
  cases t with
  | http => exact absurd rfl hNot
  | _ => rfl

end Web.Trouble

namespace Resource.Source

/-- The source is refused, or there is no such file. -/
inductive Refuses {α : Type} : Except Error α → Prop
  | refused (r : Refusal) : Refuses (.error (.refused r))
  | missing (path : String) : Refuses (.error (.missing path))

/-! ## From a file -/

/-- What comes of the file at the path, unless it is refused. -/
inductive FileLoads (t : Files.Tree) (p : Files.Path) : Except Error Found → Prop
  | document {octets : List UInt8} {text : List Char} {v : Json.Value}
      (hOctets : t.read p = .ok octets) (hText : Text.Utf8.decode octets = .ok text)
      (hRead : Json.Value.read (Text.foldLineEnds text) = .ok v) :
      FileLoads t p (.ok { source := p.text, document := v })
  /-- The system does not tell whether a file is there. -/
  | unchecked {e : Files.Error} (hCheck : t.isFile p = .error e) :
      FileLoads t p (.error (.file e))
  /-- The document has an integer with too many digits, or it is too deep. -/
  | excess {octets : List UInt8} {text : List Char} {x : Json.Excess}
      (hOctets : t.read p = .ok octets) (hText : Text.Utf8.decode octets = .ok text)
      (hRead : Json.Value.read (Text.foldLineEnds text) = .error (.excess x)) :
      FileLoads t p (.error (.excess x))

section

variable {t : Files.Tree} {p : Files.Path} {log : List Log.Record} {r : Except Error Found}

theorem parseFile_eq_iff {path : String} {text : List Char} (hKept : ¬ Refuses r) :
    (parseFile path log text).outcome = r ↔
      (∃ v, Json.Value.read text = .ok v ∧ r = .ok { source := path, document := v }) ∨
        ∃ x, Json.Value.read text = .error (.excess x) ∧ r = .error (.excess x) := by
  unfold parseFile
  rcases Json.Value.read text with (⟨defect, place⟩ | x) | v
  · simp only [reduceCtorEq, false_and, exists_false, or_self, iff_false, Except.error.injEq]
    rintro rfl
    exact hKept (.refused _)
  · simp [eq_comm]
  · simp [eq_comm]

theorem readFile_eq_iff (hKept : ¬ Refuses r) :
    (readFile t p log).outcome = r ↔
      ∃ octets text, t.read p = .ok octets ∧ Text.Utf8.decode octets = .ok text ∧
        ((∃ v, Json.Value.read (Text.foldLineEnds text) = .ok v ∧
            r = .ok { source := p.text, document := v }) ∨
          ∃ x, Json.Value.read (Text.foldLineEnds text) = .error (.excess x) ∧
            r = .error (.excess x)) := by
  have hUnreadable : ∀ reason, Except.error (.refused (.unreadable p.text reason)) ≠ r := by
    rintro reason rfl
    exact hKept (.refused _)
  unfold readFile
  cases hOctets : t.read p with
  | error e => simp [hUnreadable]
  | ok octets =>
      cases hText : Text.Utf8.decode octets with
      | error fault => simp [hText, hUnreadable]
      | ok text => simp [hText, parseFile_eq_iff hKept]

/-- What comes of a file is what it holds, or the file is refused. -/
theorem fromFile_eq_iff (hKept : ¬ Refuses r) :
    (fromFile t p).outcome = r ↔ FileLoads t p r := by
  have hReads : ∀ log, (readFile t p log).outcome = r → FileLoads t p r := by
    intro log hOutcome
    obtain ⟨octets, text, hOctets, hText, hRead⟩ := (readFile_eq_iff hKept).1 hOutcome
    rcases hRead with ⟨v, hRead, rfl⟩ | ⟨x, hRead, rfl⟩
    · exact .document hOctets hText hRead
    · exact .excess hOctets hText hRead
  have hLoads : ∀ {octets text}, t.read p = .ok octets → Text.Utf8.decode octets = .ok text →
      ((∃ v, Json.Value.read (Text.foldLineEnds text) = .ok v ∧
          r = .ok { source := p.text, document := v }) ∨
        ∃ x, Json.Value.read (Text.foldLineEnds text) = .error (.excess x) ∧
          r = .error (.excess x)) → (fromFile t p).outcome = r := by
    intro octets text hOctets hText hRead
    have hOutcome : ∀ log, (readFile t p log).outcome = r := fun log =>
      (readFile_eq_iff hKept).2 ⟨octets, text, hOctets, hText, hRead⟩
    unfold fromFile
    rw [Files.Tree.isFile_of_read hOctets]
    cases hJson : p.isJson with
    | true => simpa [hJson] using hOutcome _
    | false => simpa [hJson] using hOutcome _
  constructor
  · intro hOutcome
    unfold fromFile at hOutcome
    cases hCheck : t.isFile p with
    | error e =>
        simp only [hCheck] at hOutcome
        exact hOutcome ▸ .unchecked hCheck
    | ok isFile =>
        cases isFile with
        | false =>
            simp only [hCheck] at hOutcome
            exact absurd (hOutcome ▸ .missing _) hKept
        | true =>
            simp only [hCheck] at hOutcome
            split at hOutcome
            · exact hReads _ hOutcome
            · exact hReads _ hOutcome
  · intro hEnds
    cases hEnds with
    | document hOctets hText hRead => exact hLoads hOctets hText (.inl ⟨_, hRead, rfl⟩)
    | excess hOctets hText hRead => exact hLoads hOctets hText (.inr ⟨_, hRead, rfl⟩)
    | unchecked hCheck =>
        unfold fromFile
        rw [hCheck]

end

/-! ## From the web -/

/-- The text is a location of the hypertext protocol, plain or secure, that names a
host. -/
def IsHypertext (url : String) : Prop :=
  ∃ parsed, Web.Url.ofText url = .ok parsed ∧
    (parsed.scheme = "http" ∨ parsed.scheme = "https") ∧ parsed.authority ≠ ""

/-- What comes of the location, unless it is refused. -/
inductive WebLoads (url : String) (timeout : Json.Value) :
    Web.Exchange → Except Error Found → Prop
  | document {status : Int} {body : List UInt8} {v : Json.Value} (hUrl : IsHypertext url)
      (hStatus : Web.isFailure status = false) (hRead : Web.document body = .ok v) :
      WebLoads url timeout (.response status body) (.ok { source := url, document := v })
  /-- The location cannot be taken apart. -/
  | unparsed {exchange : Web.Exchange} {x : Web.UrlError}
      (hParts : Web.Url.ofText url = .error x) : WebLoads url timeout exchange (.error (.url x))
  /-- A failure of the protocol comes without a response. -/
  | unanswered {text : String} (hUrl : IsHypertext url) :
      WebLoads url timeout (.trouble .http text) (.error .unanswered)
  /-- The exchange fails with what is no failure of a request. -/
  | passed {t : Web.Trouble} {text : String} (hUrl : IsHypertext url)
      (hOther : t.isA .request = false) :
      WebLoads url timeout (.trouble t text) (.error (.passed t text))
  /-- The document is too deep. -/
  | depth {status : Int} {body : List UInt8} {isObject : Bool} (hUrl : IsHypertext url)
      (hStatus : Web.isFailure status = false)
      (hRead : Web.document body = .error (.excess (.depth isObject))) :
      WebLoads url timeout (.response status body) (.error (.excess (.depth isObject)))
  /-- The time to wait for a response has too many digits to be shown. -/
  | limit {t : Web.Trouble} {text : String} (hUrl : IsHypertext url)
      (hLate : t.isA .timeout = true) (hLimit : timeout.shown? = none) :
      WebLoads url timeout (.trouble t text) (.error (.misuse .digitLimit))

section

variable {url : String} {timeout : Json.Value} {exchange : Web.Exchange}

theorem isHypertext_of_parsed {parsed : Web.Url} (hParts : Web.Url.ofText url = .ok parsed) :
    parsed.isHypertext = true ↔ IsHypertext url := by
  simp [IsHypertext, hParts, Web.Url.isHypertext]

theorem exists_error_fromTrouble (url : String) (timeout : Json.Value) (t : Web.Trouble)
    (text : String) : ∃ x, (fromTrouble url timeout t text).1 = .error x := by
  unfold fromTrouble
  split
  · split <;> exact ⟨_, rfl⟩
  · split
    · exact ⟨_, rfl⟩
    · split
      · exact ⟨_, rfl⟩
      · split <;> exact ⟨_, rfl⟩

/-- What comes of an exchange that went wrong, unless the location is refused. -/
theorem fromTrouble_eq_iff {t : Web.Trouble} {text : String} {x : Error}
    (hKept : ∀ r, x ≠ .refused r) :
    (fromTrouble url timeout t text).1 = .error x ↔
      (t.isA .timeout = true ∧ timeout.shown? = none ∧ x = .misuse .digitLimit) ∨
        (t = .http ∧ x = .unanswered) ∨ (t.isA .request = false ∧ x = .passed t text) := by
  have hRefused : ∀ r, Error.refused r ≠ x := fun r hSame => hKept r hSame.symm
  cases hLate : t.isA .timeout with
  | true =>
      have hRequest : t.isA .request = true := Web.Trouble.isA_request_of_timeout hLate
      have hHttp : t ≠ .http := by rintro rfl; cases hLate
      cases hLimit : timeout.shown? with
      | some limit => simp [fromTrouble, hLate, hLimit, hRequest, hHttp, hRefused]
      | none => simp [fromTrouble, hLate, hLimit, hRequest, hHttp, eq_comm]
  | false =>
      cases hCut : t.isA .connection with
      | true =>
          have hRequest : t.isA .request = true := Web.Trouble.isA_request_of_connection hCut
          have hHttp : t ≠ .http := by rintro rfl; cases hCut
          simp [fromTrouble, hLate, hCut, hRequest, hHttp, hRefused]
      | false =>
          by_cases hHttp : t = .http
          · subst hHttp
            simp [fromTrouble, Web.Trouble.isA, Web.Trouble.ancestors, eq_comm]
          · have hNot : t.isA .http = false := Web.Trouble.isA_http_eq_false hHttp
            cases hRequest : t.isA .request with
            | true => simp [fromTrouble, hLate, hCut, hNot, hRequest, hHttp, hRefused]
            | false => simp [fromTrouble, hLate, hCut, hNot, hRequest, hHttp, eq_comm]

/-- What comes of an exchange is what the response holds, or the location is refused. -/
theorem fromExchange_eq_iff {r : Except Error Found} (hKept : ¬ Refuses r)
    (hUrl : IsHypertext url) :
    ((fromExchange url timeout exchange).1.map fun document => { source := url, document }) = r ↔
      WebLoads url timeout exchange r := by
  have hRefused : ∀ refusal, Except.error (.refused refusal) ≠ r := by
    rintro refusal rfl
    exact hKept (.refused _)
  obtain ⟨parsed, hParsed, -⟩ := id hUrl
  constructor
  · rintro rfl
    cases exchange with
    | trouble t text =>
        obtain ⟨x, hError⟩ := exists_error_fromTrouble url timeout t text
        have hSame : ((fromExchange url timeout (.trouble t text)).1.map fun document =>
            { source := url, document : Found }) = .error x := by
          rw [fromExchange, hError]
          rfl
        rw [hSame] at hRefused ⊢
        have hNot : ∀ r, x ≠ .refused r := fun r hIs => hRefused r (hIs ▸ rfl)
        rcases (fromTrouble_eq_iff hNot).1 hError with ⟨hLate, hLimit, rfl⟩ | ⟨rfl, rfl⟩ |
          ⟨hOther, rfl⟩
        · exact .limit hUrl hLate hLimit
        · exact .unanswered hUrl
        · exact .passed hUrl hOther
    | response status body =>
        cases hStatus : Web.isFailure status with
        | true => simp [fromExchange, hStatus, Except.map] at hRefused
        | false =>
            -- A document with an integer of too many digits is refused as no document.
            rcases hRead : Web.document body with (⟨defect, place⟩ | (count | isObject)) | v
            · simp [fromExchange, hStatus, parseBody, hRead, Except.map] at hRefused
            · simp [fromExchange, hStatus, parseBody, hRead, Except.map] at hRefused
            · simpa [fromExchange, hStatus, parseBody, hRead, Except.map] using
                WebLoads.depth hUrl hStatus hRead
            · simpa [fromExchange, hStatus, parseBody, hRead, Except.map] using
                WebLoads.document hUrl hStatus hRead
  · intro hEnds
    cases hEnds with
    | document hUrl hStatus hRead => simp [fromExchange, hStatus, parseBody, hRead, Except.map]
    | unparsed hParts => simp [hParts] at hParsed
    | unanswered => rfl
    | passed _ hOther =>
        rw [fromExchange, (fromTrouble_eq_iff (by rintro r ⟨⟩)).2 (.inr (.inr ⟨hOther, rfl⟩))]
        rfl
    | depth hUrl hStatus hRead => simp [fromExchange, hStatus, parseBody, hRead, Except.map]
    | limit _ hLate hLimit =>
        rw [fromExchange, (fromTrouble_eq_iff (by rintro r ⟨⟩)).2 (.inl ⟨hLate, hLimit, rfl⟩)]
        rfl

theorem outcome_fromUrl {parsed : Web.Url} (hParts : Web.Url.ofText url = .ok parsed)
    (hUrl : IsHypertext url) :
    (fromUrl url timeout exchange).outcome =
      (fromExchange url timeout exchange).1.map fun document => { source := url, document } := by
  simp [fromUrl, hParts, (isHypertext_of_parsed hParts).2 hUrl]

/-- What comes of a location is what comes of the exchange, or the location is refused. -/
theorem fromUrl_eq_iff {r : Except Error Found} (hKept : ¬ Refuses r) :
    (fromUrl url timeout exchange).outcome = r ↔ WebLoads url timeout exchange r := by
  cases hParts : Web.Url.ofText url with
  | error x =>
      have hNot : ¬ IsHypertext url := by simp [IsHypertext, hParts]
      have hOutcome : (fromUrl url timeout exchange).outcome = .error (.url x) := by
        simp [fromUrl, hParts]
      rw [hOutcome]
      constructor
      · rintro rfl
        exact .unparsed hParts
      · intro hEnds
        cases hEnds with
        | unparsed hOther => rw [hParts] at hOther; cases hOther; rfl
        | _ => exact absurd ‹IsHypertext url› hNot
  | ok parsed =>
      by_cases hUrl : IsHypertext url
      · rw [outcome_fromUrl hParts hUrl]
        exact fromExchange_eq_iff hKept hUrl
      · have hIs : parsed.isHypertext = false :=
          Bool.eq_false_iff.2 (mt (isHypertext_of_parsed hParts).1 hUrl)
        constructor
        · rintro rfl
          refine absurd ?_ hKept
          simpa [fromUrl, hParts, hIs] using Refuses.refused (.notHypertext url)
        · intro hEnds
          cases hEnds with
          | unparsed hOther => simp [hParts] at hOther
          | _ => exact absurd ‹IsHypertext url› hUrl

/-- One request is made for a location of the hypertext protocol, and none for another. -/
theorem requests_fromUrl :
    (IsHypertext url → (fromUrl url timeout exchange).requests = [{ url := .text url, timeout }]) ∧
      (¬ IsHypertext url → (fromUrl url timeout exchange).requests = []) := by
  cases hParts : Web.Url.ofText url with
  | error x => simp [IsHypertext, fromUrl, hParts]
  | ok parsed =>
      rw [← isHypertext_of_parsed hParts]
      cases hIs : parsed.isHypertext with
      | true => simp [fromUrl, hParts, hIs]
      | false => simp [fromUrl, hParts, hIs]

end

/-! ## From one of them -/

/-- What comes of a file, a location and a time to wait, unless they are refused. -/
inductive Loads (s : Surroundings) :
    Json.Value → Json.Value → Json.Value → Except Error Found → Prop
  | file {path : String} {url timeout : Json.Value} {r : Except Error Found}
      (hFile : (Json.Value.text path).isTruthy = true) (hUrl : url.isTruthy = false)
      (hLoads : FileLoads s.tree (.ofText path) r) : Loads s (.text path) url timeout r
  | web {file : Json.Value} {url : String} {timeout : Json.Value} {r : Except Error Found}
      (hFile : file.isTruthy = false) (hUrl : (Json.Value.text url).isTruthy = true)
      (hLoads : WebLoads url timeout s.exchange r) : Loads s file (.text url) timeout r
  /-- The file is no text. -/
  | noPath {file url timeout : Json.Value} (hFile : file.isTruthy = true)
      (hUrl : url.isTruthy = false) (hText : file.text? = none) :
      Loads s file url timeout (.error (.misuse (.notAPath file.kindName)))
  /-- The location is no text. -/
  | noLocation {file url timeout : Json.Value} (hFile : file.isTruthy = false)
      (hUrl : url.isTruthy = true) (hText : url.text? = none) (hShown : url.shown? ≠ none) :
      Loads s file url timeout (.error (.misuse (.noOperation url.kindName "decode")))
  /-- The location is no text, and it has too many digits to be shown. -/
  | longLocation {file url timeout : Json.Value} (hFile : file.isTruthy = false)
      (hUrl : url.isTruthy = true) (hText : url.text? = none) (hShown : url.shown? = none) :
      Loads s file url timeout (.error (.misuse .digitLimit))
  /-- Both are given or none is, and one has too many digits to be shown. -/
  | long {file url timeout : Json.Value} (hBoth : file.isTruthy = url.isTruthy)
      (hLong : file.literal? = none ∨ url.literal? = none) :
      Loads s file url timeout (.error (.misuse .digitLimit))

/-- No file is given, and the location is one of the hypertext protocol. -/
structure Asks (file url : Json.Value) (location : String) : Prop where
  noFile : file.isTruthy = false
  isGiven : url = .text location
  isHypertext : IsHypertext location

section

variable {s : Surroundings} {file url timeout : Json.Value} {r : Except Error Found}

theorem FileLoads.not_refuses {t : Files.Tree} {p : Files.Path} (hLoads : FileLoads t p r) :
    ¬ Refuses r := by
  rintro (_ | _)
  · cases hLoads
  · cases hLoads

theorem WebLoads.not_refuses {location : String} {exchange : Web.Exchange}
    (hLoads : WebLoads location timeout exchange r) : ¬ Refuses r := by
  rintro (_ | _)
  · cases hLoads
  · cases hLoads

theorem Loads.not_refuses (hLoads : Loads s file url timeout r) : ¬ Refuses r := by
  cases hLoads with
  | file _ _ hLoads => exact hLoads.not_refuses
  | web _ _ hLoads => exact hLoads.not_refuses
  | _ => rintro ⟨⟩

theorem find_of_both (hBoth : file.isTruthy = url.isTruthy) :
    (find s file url timeout).requests = [] ∧
      (find s file url timeout).outcome = .error
        (if file.literal? = none ∨ url.literal? = none then .misuse .digitLimit
          else .refused .notOneSource) := by
  unfold find
  rw [if_pos hBoth]
  cases file.literal? with
  | none => exact ⟨rfl, rfl⟩
  | some f =>
      cases url.literal? with
      | none => exact ⟨rfl, rfl⟩
      | some u => exact ⟨rfl, rfl⟩

theorem find_of_path {path : String} (hFile : (Json.Value.text path).isTruthy = true)
    (hUrl : url.isTruthy = false) :
    find s (.text path) url timeout = fromFile s.tree (.ofText path) := by
  simp [find, hFile, hUrl]

theorem find_of_noPath (hFile : file.isTruthy = true) (hUrl : url.isTruthy = false)
    (hText : file.text? = none) :
    find s file url timeout = { outcome := .error (.misuse (.notAPath file.kindName)) } := by
  cases file with
  | text path => cases hText
  | _ => simp [find, hFile, hUrl]

theorem find_of_location {location : String} (hFile : file.isTruthy = false)
    (hUrl : (Json.Value.text location).isTruthy = true) :
    find s file (.text location) timeout = fromUrl location timeout s.exchange := by
  simp [find, hFile, hUrl]

theorem find_of_noLocation (hFile : file.isTruthy = false) (hUrl : url.isTruthy = true)
    (hText : url.text? = none) :
    (find s file url timeout).requests = [] ∧
      (find s file url timeout).outcome = .error (.misuse
        (if url.shown? = none then .digitLimit else .noOperation url.kindName "decode")) := by
  cases url with
  | text location => cases hText
  | _ =>
      unfold find
      rw [if_neg (by simp [hFile, hUrl]), if_neg (by simp [hFile])]
      generalize Json.Value.shown? _ = shown
      cases shown with
      | none => exact ⟨rfl, rfl⟩
      | some text => exact ⟨rfl, rfl⟩

/-- What comes of a file and a location is what comes of the one that is given, or they are
refused. -/
theorem find_eq_iff (hKept : ¬ Refuses r) :
    (find s file url timeout).outcome = r ↔ Loads s file url timeout r := by
  constructor
  · rintro rfl
    by_cases hBoth : file.isTruthy = url.isTruthy
    · rw [(find_of_both hBoth).2] at hKept ⊢
      split at hKept
      · rename_i hLong
        rw [if_pos hLong]
        exact .long hBoth hLong
      · exact absurd (.refused _) hKept
    · cases hFile : file.isTruthy with
      | true =>
          have hUrl : url.isTruthy = false := by simpa [hFile] using hBoth
          cases hText : file.text? with
          | none =>
              rw [find_of_noPath hFile hUrl hText]
              exact .noPath hFile hUrl hText
          | some path =>
              obtain rfl := Json.Value.eq_text_of_text? hText
              rw [find_of_path hFile hUrl] at hKept ⊢
              exact .file hFile hUrl ((fromFile_eq_iff hKept).1 rfl)
      | false =>
          have hUrl : url.isTruthy = true := by simpa [hFile] using hBoth
          cases hText : url.text? with
          | none =>
              rw [(find_of_noLocation hFile hUrl hText).2]
              split
              · rename_i hShown
                exact .longLocation hFile hUrl hText hShown
              · rename_i hShown
                exact .noLocation hFile hUrl hText hShown
          | some location =>
              obtain rfl := Json.Value.eq_text_of_text? hText
              rw [find_of_location hFile hUrl] at hKept ⊢
              exact .web hFile hUrl ((fromUrl_eq_iff hKept).1 rfl)
  · intro hEnds
    cases hEnds with
    | file hFile hUrl hLoads =>
        rw [find_of_path hFile hUrl]
        exact (fromFile_eq_iff hKept).2 hLoads
    | web hFile hUrl hLoads =>
        rw [find_of_location hFile hUrl]
        exact (fromUrl_eq_iff hKept).2 hLoads
    | noPath hFile hUrl hText => rw [find_of_noPath hFile hUrl hText]
    | noLocation hFile hUrl hText hShown =>
        rw [(find_of_noLocation hFile hUrl hText).2, if_neg hShown]
    | longLocation hFile hUrl hText hShown =>
        rw [(find_of_noLocation hFile hUrl hText).2, if_pos hShown]
    | long hBoth hLong => rw [(find_of_both hBoth).2, if_pos hLong]

/-- An empty text is no location. -/
theorem IsHypertext.isTruthy {location : String} (hIs : IsHypertext location) :
    (Json.Value.text location).isTruthy = true := by
  by_cases hEmpty : location = ""
  · subst hEmpty
    obtain ⟨parsed, hParts, -, hHost⟩ := hIs
    have hNone : Web.Url.ofText "" = .ok { scheme := "", authority := "" } := rfl
    cases hNone.symm.trans hParts
    exact absurd rfl hHost
  · simp [Json.Value.isTruthy, hEmpty]

/-- No file asks for a request. -/
theorem requests_fromFile {t : Files.Tree} {p : Files.Path} : (fromFile t p).requests = [] := by
  have hRead : ∀ log, (readFile t p log).requests = [] := by
    intro log
    unfold readFile parseFile
    dsimp only
    repeat' split
    all_goals rfl
  unfold fromFile
  dsimp only
  repeat' split
  all_goals first | rfl | exact hRead _

/-- One request is made, for a location that is asked for. -/
theorem requests_find :
    (∀ location, Asks file url location →
        (find s file url timeout).requests = [{ url := .text location, timeout }]) ∧
      ((∀ location, ¬ Asks file url location) → (find s file url timeout).requests = []) := by
  constructor
  · rintro location ⟨hFile, rfl, hIs⟩
    rw [find_of_location hFile hIs.isTruthy]
    exact requests_fromUrl.1 hIs
  · intro hNone
    by_cases hBoth : file.isTruthy = url.isTruthy
    · exact (find_of_both hBoth).1
    · cases hFile : file.isTruthy with
      | true =>
          have hUrl : url.isTruthy = false := by simpa [hFile] using hBoth
          cases hText : file.text? with
          | none => rw [find_of_noPath hFile hUrl hText]
          | some path =>
              obtain rfl := Json.Value.eq_text_of_text? hText
              rw [find_of_path hFile hUrl]
              exact requests_fromFile
      | false =>
          have hUrl : url.isTruthy = true := by simpa [hFile] using hBoth
          cases hText : url.text? with
          | none => exact (find_of_noLocation hFile hUrl hText).1
          | some location =>
              obtain rfl := Json.Value.eq_text_of_text? hText
              rw [find_of_location hFile hUrl]
              exact requests_fromUrl.2 fun hIs => hNone location ⟨hFile, rfl, hIs⟩

/-- Loading ends with a document, a refusal, a file that is missing, or one of the ends that
are told of nowhere.  It makes one request at most, and only for a location of the hypertext
protocol that names a host. -/
theorem find_ends (s : Surroundings) (file url timeout : Json.Value) :
    (∀ r, (find s file url timeout).outcome = r ∧ ¬ Refuses r ↔ Loads s file url timeout r) ∧
      (∀ location, Asks file url location →
        (find s file url timeout).requests = [{ url := .text location, timeout }]) ∧
      ((∀ location, ¬ Asks file url location) → (find s file url timeout).requests = []) := by
  refine ⟨fun r => ⟨?_, fun hLoads => ?_⟩, requests_find⟩
  · rintro ⟨hOutcome, hKept⟩
    exact (find_eq_iff hKept).1 hOutcome
  · exact ⟨(find_eq_iff hLoads.not_refuses).2 hLoads, hLoads.not_refuses⟩

/-- Two ends that are no refusals: a location whose brackets do not match, and an exchange
that fails after the protocol and brings no response. -/
theorem find_not_refused :
    (find { tree := .empty, exchange := .response 200 [] } .null (.text "http://[/t")
        (.int 30)).outcome = .error (.url .badBrackets) ∧
      ¬ Refuses (α := Found) (.error (.url .badBrackets)) ∧
      (find { tree := .empty, exchange := .trouble .http "boom" } .null
        (.text "http://x/t") (.int 30)).outcome = .error .unanswered ∧
      ¬ Refuses (α := Found) (.error .unanswered) := by
  refine ⟨rfl, ?_, rfl, ?_⟩
  · rintro ⟨⟩
  · rintro ⟨⟩

end

end Resource.Source

end ResourceSymbols
