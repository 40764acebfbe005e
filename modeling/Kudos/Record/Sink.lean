import Kudos.Host
import Kudos.Text.Utf8

/-!
# Sinks

Where records go: to memory, to a local file with one line for each record, or to a server. Records
are one-way messages: `submitSafely` logs an expected failure and goes on.
-/

namespace Kudos

/-- A destination of records. -/
inductive Sink where
  /-- Memory; the delivery that is tried as number `n` fails if `fails n` says how. -/
  | memory (fails : Nat → Option Failure)
  /-- A file with a line for each record. -/
  | file (path : Path)
  /-- A server, with the seconds to wait for its answer. -/
  | server (endpoint : Text) (timeout : Number)

namespace Sink

/-- The seconds to wait for a server. -/
def defaultTimeout : Number := .whole 10

/-- The server at an address, in which slashes at the end do not count. -/
def ofEndpoint (endpoint : Text) (timeout : Number) : Sink :=
  server (Text.dropRightWhile (· == '/') endpoint) timeout

/-- The sink for a configured address: a server, or the local file if there is no address. -/
def ofSetting (recordsFile : Path) (endpoint : Text) : Sink :=
  if endpoint.isEmpty then file recordsFile else ofEndpoint endpoint defaultTimeout

/-- An address without blanks and brackets around it and without an empty fragment. -/
def cleanUrl (url : Text) : Text :=
  let t := Text.trim url
  let t := if t.head? = some '<' && t.getLast? = some '>' then Text.trim (t.drop 1).dropLast else t
  let t := if t.startsWith "URL:".toList then Text.trim (t.drop 4) else t
  if t.getLast? = some '#' then t.dropLast else t

/-- Whether an address starts with a scheme: something before its first colon, without a slash. -/
def hasScheme (url : Text) : Bool :=
  let scheme := url.takeWhile fun c => c != ':' && c != '/'
  !scheme.isEmpty && url[scheme.length]? = some ':'

/-- The request that sends a record to a collection of a server. -/
def post (endpoint : Text) (timeout : Number) (collection : Text) (record : Record) :
    Except Failure Post :=
  let url := cleanUrl (endpoint ++ '/' :: collection)
  if hasScheme url then .ok ⟨url, timeout, record.body⟩
  else .error (.badValue ("unknown url type: ".toList ++ Text.quote url))

/-- The kind of data that is posted. -/
def contentType : Text := "application/json".toList

/-- The name under which the program posts. -/
def userAgent : Text := "Gratitude-CLI/0.1.0".toList

/-- The files with a record added to one of them. -/
def appendRecord (files : FileTree) (path : Path) (collection : Text) (record : Record) :
    Except FileError FileTree := do
  let files ← files.makeDirectories path.parent
  files.append path (Utf8.encode (record.line collection ++ ['\n']))

/-- Hands a record to a sink. A record that goes beyond a limit is not even written down, so nothing
is done with it; memory takes any. -/
def submit (sink : Sink) (collection : Text) (record : Record) (h : Host) :
    Except Failure Unit × Host :=
  match sink with
  | memory fails =>
    let h' := { h with attempts := h.attempts + 1 }
    match fails h.attempts with
    | some cause => (.error cause, h')
    | none => (.ok (), { h' with deliveries := ⟨collection, record⟩ :: h.deliveries })
  | file path =>
    match (record.filed collection).overrun? h.limits with
    | some limit => (.error (.beyond limit), h)
    | none =>
      match appendRecord h.files path collection record with
      | .ok files => (.ok (), { h with files })
      | .error cause => (.error (.file cause), h)
  | server endpoint timeout =>
    match record.toJson.overrun? h.limits with
    | some limit => (.error (.beyond limit), h)
    | none =>
      match post endpoint timeout collection record with
      | .ok p => (.ok (), { h with posts := p :: h.posts })
      | .error cause => (.error cause, h)

/-- Hands a record to a sink and logs an expected failure. The result says whether the record was
delivered. -/
def submitSafely (sink : Sink) (collection : Text) (record : Record) (h : Host) :
    Except Failure Bool × Host :=
  match sink.submit collection record h with
  | (.ok (), h) => (.ok true, h)
  | (.error cause, h) =>
    if cause.isExpected then (.ok false, h.warn (.recordLost collection cause))
    else (.error cause, h)

/-- Hands a record to a sink without waiting for the result; a failure never reaches the caller. -/
def submitInBackground (sink : Sink) (collection : Text) (record : Record) (h : Host) : Host :=
  (sink.submitSafely collection record h).2

/-- The name of the thread that hands over a record. -/
def threadName (collection : Text) : Text :=
  "gratitude-submit-".toList ++ collection

end Sink

end Kudos
