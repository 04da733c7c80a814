import ControlFan.Esp
import ControlFan.Lib.CString
import ControlFan.Ota.Session

/-!
# Ota — the polling client (`ota_driver/otadrive_esp.c`)

`otadrive_test` asks for the current firmware with `otadrive_updateFirmwareInfo` every 15
minutes and downloads a new one with `otadrive_updateFirmware`. Both are steps of one
machine over the globals they share: the HTTP client of the last check, the flag `lock`
that lets the download ask it for the image size once, and that `size`.
-/

namespace ControlFan.Ota

open CString

/-! ## State and outputs -/

inductive Slot where
  | running
  | update
  deriving DecidableEq, Repr

/-- The globals of `otadrive_esp.c` with the static `size` of `otadrive_updateFirmware`, and
what the calls leave alive: HTTP clients of `otadrive_updateFirmwareInfo`, sessions of
`otadrive_updateFirmware`. `halted`: the chip panicked or was restarted. -/
structure World where
  client : Bool := false
  lock : UInt8 := 1
  size : Int := 0
  hdrVer : CArray 32 := CArray.zero 32
  otadrvLock : Bool := false
  boot : Slot := .running
  infoClients : Nat := 0
  sessions : Nat := 0
  halted : Bool := false
  deriving DecidableEq, Repr

structure OtadriveResult where
  code : Int := 0
  availableVersion : CArray 32 := CArray.zero 32
  availableSize : Int := 0
  deriving DecidableEq, Repr

/-- What a call shows to the outside: the events it posts, each evaluation of
`dl * 100 / size`, the results of the last steps of a download, and how it ends. -/
inductive Output where
  | post (e : OtadriveEvent)
  | evalProgress (dl size : Int)
  | postProgress (progress : Nat)
  | completeData (received : Bool)
  | otaEnd (ret : Int)
  | setBoot (ret : Int)
  | giveLock
  | restart
  | panic
  | result (r : OtadriveResult)
  deriving DecidableEq, Repr

/-! ## The HTTP client of the check -/

/-- The key and the value of a header. -/
abbrev Header := List UInt8 × List UInt8

/-- A response, as the parser hands it on. `joined`: what is read at once holds the next one too,
as it may behind an interim response, and `esp_http_client_fetch_headers` goes through both. -/
structure Response where
  headers : List Header := []
  statusCode : Int := 200
  contentLength : Int := 0
  joined : Bool := false
  deriving DecidableEq, Repr

/-- The fields of the client by which `esp_http_client_perform` asks again. -/
structure HttpClient where
  redirectCounter : Nat := 0
  authHeader : Option (List UInt8) := none
  deriving DecidableEq, Repr

def maxRedirectionCount : Nat := 10

/-- `HttpStatus_MovedPermanently`, `HttpStatus_Found` and `HttpStatus_TemporaryRedirect`. -/
def redirections : List Int := [301, 302, 307]

def wwwAuthenticate : List UInt8 :=
  ascii ['W', 'W', 'W', '-', 'A', 'u', 't', 'h', 'e', 'n', 't', 'i', 'c', 'a', 't', 'e']

def digest : List UInt8 := ascii ['D', 'i', 'g', 'e', 's', 't']

/-- `http_on_header_value`. The challenges of all responses are appended to each other. -/
def HttpClient.onHeaderValue (c : HttpClient) (header : Header) : HttpClient :=
  if strcasecmp header.1 wwwAuthenticate = 0 then
    { c with authHeader := some (cstr (c.authHeader.getD []) ++ header.2) }
  else c

/-- `http_utils_trim_whitespace`. -/
def trimWhitespace (s : List UInt8) : List UInt8 :=
  (((cstr s).dropWhile isSpace).reverse.dropWhile isSpace).reverse

/-- `esp_http_client_add_auth`, and `process_again`. Basic authentication is not compiled in. -/
def HttpClient.addAuth (c : HttpClient) : HttpClient × Bool :=
  match c.authHeader with
  | none => (c, false)
  | some authHeader =>
    let authHeader := trimWhitespace authHeader
    ({ redirectCounter := c.redirectCounter + 1, authHeader := some authHeader },
      digest.isPrefixOf authHeader)

/-- `esp_http_check_response`, and `process_again`. A redirection whose `Location` is missing or no
URL goes to the old address. -/
def HttpClient.checkResponse (c : HttpClient) (statusCode : Int) : HttpClient × Int × Bool :=
  if 200 ≤ statusCode ∧ statusCode < 300 then (c, espOk, false)
  else if maxRedirectionCount ≤ c.redirectCounter then (c, espErrHttpMaxRedirect, false)
  else if statusCode ∈ redirections then
    ({ c with redirectCounter := c.redirectCounter + 1 }, espOk, true)
  else if statusCode = 401 then
    let (c, processAgain) := c.addAuth
    (c, espOk, processAgain)
  else (c, espOk, false)

/-- `esp_http_client_perform` of a `HEAD`: the headers that it dispatches, the response that it
leaves in the client and its result. When the responses run out a request fails, here with the error
of a response that breaks off, and `broken` is what was read of it. -/
def espHttpClientPerform (broken : List Header) :
    HttpClient → List Response → List Header × Option Response × Int
  | _, [] => (broken, none, espErrHttpFetchHeader)
  | c, r :: rs =>
    let c := r.headers.foldl HttpClient.onHeaderValue c
    let rest (c : HttpClient) : List Header × Option Response × Int :=
      let (headers, response, ret) := espHttpClientPerform broken c rs
      (r.headers ++ headers, response, ret)
    if r.joined ∧ rs ≠ [] then rest c
    else
      let (c, ret, processAgain) := c.checkResponse r.statusCode
      if ret ≠ espOk then (r.headers, some r, ret)
      else if processAgain then rest c
      else (r.headers, some r, espOk)

/-! ## The check for new firmware -/

/-- What `otadrive_updateFirmwareInfo` meets. The second `esp_http_client_fetch_headers`
finds the client without a request and changes nothing. -/
structure InfoEnv where
  lockTaken : Bool := true
  clientInit : Bool := true
  responses : List Response := [{}]
  broken : List Header := []
  deriving DecidableEq, Repr

def xVersion : List UInt8 := ascii ['X', '-', 'V', 'e', 'r', 's', 'i', 'o', 'n']

/-- `_http_event_handler`, case `HTTP_EVENT_ON_HEADER`. -/
def httpEventHandler (hdrVer : CArray 32) (header : Header) : CArray 32 :=
  if strncasecmp header.1 xVersion 20 = 0 then strncpyZeroed 32 header.2 32 else hdrVer

def infoResult (hdrVer : CArray 32) (r : Response) : OtadriveResult :=
  if r.statusCode = 200 then
    { code := 200
      availableVersion := strncpyZeroed 32 hdrVer.bytes 31
      availableSize := r.contentLength }
  else if r.statusCode = 304 ∨ r.statusCode = 401 ∨ r.statusCode = 404 then
    { code := r.statusCode }
  else { code := 404 }

/-- `otadrive_updateFirmwareInfo`. The client is closed at the end, never cleaned up. -/
def updateFirmwareInfo (w : World) (i : InfoEnv) : World × List Output :=
  if ¬ i.lockTaken then (w, [.result {}])
  else if ¬ i.clientInit then
    -- `esp_http_client_perform(NULL)`
    ({ w with client := false, otadrvLock := true, halted := true }, [.post .startCheck, .panic])
  else
    let (headers, response, err) := espHttpClientPerform i.broken {} i.responses
    -- `otadrv_hdl` keeps the version of an earlier response when this one sends none
    let hdrVer := headers.foldl httpEventHandler w.hdrVer
    let r := if err = espOk then response.elim {} (infoResult hdrVer) else {}
    ({ w with client := true, infoClients := w.infoClients + 1, hdrVer := hdrVer },
      [.post .startCheck, .giveLock, .result r])

/-! ## The download -/

/-- What one `esp_http_client_fetch_headers` reads: `received` are the headers. -/
inductive HeaderFetch where
  | failed (received : List Header := [])
  | headers (contentLength : Int) (received : List Header := [])
  deriving DecidableEq, Repr

/-- `esp_http_client_fetch_headers`: `0` stands for a chunked response. -/
def espHttpClientFetchHeaders : HeaderFetch → Int
  | .failed _ => espFail
  | .headers contentLength _ => if contentLength ≤ 0 then 0 else contentLength

def HeaderFetch.received : HeaderFetch → List Header
  | .failed received | .headers _ received => received

/-- What one round of the download loop meets: the clock at its top, the answers of
`esp_https_ota_perform`, those of the request for the size, the clock at the end. -/
structure Iter where
  now : Int
  perform : PerformEnv := {}
  fetch : HeaderFetch := .failed
  later : Int := 0
  deriving DecidableEq, Repr

structure Loop where
  tBreak : Int
  lastDl : Int := -1
  lastProgress : Int := -1
  failCount : Int := 0
  deriving DecidableEq, Repr

/-- How the loop is left: `break` with the last result of `esp_https_ota_perform`, `goto
ota_end`, or a division by zero. -/
inductive LoopExit where
  | done (s : Session) (err : Int)
  | otaEnd
  | panic
  deriving DecidableEq, Repr

/-- The size is asked for once a boot, by the first round that finds a client. It is the client of
a check, and hands its headers to the event handler. -/
def World.fetchSize (w : World) (fetch : HeaderFetch) : World :=
  if w.client ∧ w.lock = 1 then
    { w with
      lock := 0
      size := espHttpClientFetchHeaders fetch
      hdrVer := fetch.received.foldl httpEventHandler w.hdrVer }
  else w

def progressOf (dl size : Int) : Nat := ((wrap32 (dl * 100)).tdiv size % 256).toNat

/-- The `fail_count` part of a round, `none` for `goto ota_end`. -/
def Loop.count (l : Loop) (dl later : Int) : Option Loop :=
  -- `last_dl` is -1 in the first round only
  if l.lastDl ≠ -1 ∧ dl = l.lastDl then
    if l.failCount + 1 = 5 then none else some { l with failCount := l.failCount + 1, lastDl := dl }
  else some { l with failCount := 0, tBreak := later + 1000 * 1000 * 120, lastDl := dl }

def Loop.posts (l : Loop) (progress : Nat) : List Output :=
  if (progress : Int) ≠ l.lastProgress then [.postProgress progress] else []

/-- The download loop. A list of rounds that runs out finds the connection closed. -/
def download (f : Flash) : World → Session → Loop → List Iter → World × List Output × LoopExit
  | w, s, _, [] => (w, [], .done s espFail)
  | w, s, l, it :: its =>
    if l.tBreak < it.now then (w, [], .otaEnd)
    else
      let (s, err) := espHttpsOtaPerform f s it.perform
      if err ≠ espErrHttpsOtaInProgress then (w, [], .done s err)
      else
        let dl := espHttpsOtaGetImageLenRead s
        -- the `static int32_t size` outlives the call
        let w := w.fetchSize it.fetch
        match l.count dl it.later with
        | none => (w, [], .otaEnd)
        | some l =>
          if w.size = 0 then (w, [.evalProgress dl 0], .panic)
          else
            let progress := progressOf dl w.size
            let rest := download f w s { l with lastProgress := progress } its
            (rest.1, .evalProgress dl w.size :: l.posts progress ++ rest.2.1, rest.2.2)

/-- What `otadrive_updateFirmware` meets. `imageSize` is the length of the image that this
call's response carries. -/
structure UpdateEnv where
  lockTaken : Bool := true
  start : Int := 0
  flash : Flash
  begin : BeginEnv := {}
  headerReads : List HttpRead
  antiRollback : Bool := false
  secureVersion : Nat := 0
  hwSecVersion : Nat := 0
  iters : List Iter
  finish : FinishEnv := {}
  imageSize : Nat
  deriving DecidableEq, Repr

def validateImageHeader (u : UpdateEnv) : Int :=
  if u.antiRollback ∧ u.secureVersion < u.hwSecVersion then espFail else espOk

/-- The label `ota_end`; the call of `esp_https_ota_abort` there is commented out. -/
def World.otaEnd (w : World) : World × List Output :=
  ({ w with otadrvLock := false }, [.post .updateFailed, .giveLock, .result {}])

/-- `otadrive_updateFirmware` behind the download loop. -/
def World.finish (w : World) (u : UpdateEnv) (s : Session) (err : Int) : World × List Output :=
  if ¬ s.complete then
    let (w, outs) := w.otaEnd
    (w, .completeData false :: outs)
  else
    let (finishErr, ended, switched) := espHttpsOtaFinish u.flash s u.finish
    let w :=
      { w with
        sessions := w.sessions - 1
        boot := if switched = some espOk then .update else w.boot }
    -- `esp_https_ota_finish` frees the session on every path
    let outs := .completeData true :: ended.toList.map .otaEnd ++ switched.toList.map .setBoot
    if err = espOk ∧ finishErr = espOk then
      ({ w with halted := true },
        outs ++ [.post .finishUpdate, .post .pendingReboot, .restart])
    else ({ w with otadrvLock := false }, outs ++ [.post .updateFailed, .giveLock, .result {}])

/-- The session of a call that gets as far as the download loop: begun, with its image
description read and its header accepted. -/
def UpdateEnv.session (u : UpdateEnv) : Option Session :=
  match espHttpsOtaBegin u.begin with
  | .error _ => none
  | .ok s =>
    let (s, err) := espHttpsOtaGetImgDesc s u.headerReads
    if err ≠ espOk then none else if validateImageHeader u ≠ espOk then none else some s

def UpdateEnv.loop (u : UpdateEnv) : Loop := { tBreak := u.start + 1000 * 1000 * 30 }

def World.begun (w : World) : World := { w with otadrvLock := true, sessions := w.sessions + 1 }

def leaveLoop (u : UpdateEnv) : World × List Output × LoopExit → World × List Output
  | (w, outs, .panic) => ({ w with halted := true }, outs ++ [.panic])
  | (w, outs, .otaEnd) => (w.otaEnd.1, outs ++ w.otaEnd.2)
  | (w, outs, .done s err) => ((w.finish u s err).1, outs ++ (w.finish u s err).2)

def updateFirmware (w : World) (u : UpdateEnv) : World × List Output :=
  if ¬ u.lockTaken then (w, [.result {}])
  else
    match espHttpsOtaBegin u.begin with
    | .error _ => ({ w with otadrvLock := true } : World).otaEnd
    | .ok _ =>
      match u.session with
      | none => w.begun.otaEnd
      | some s => leaveLoop u (download u.flash w.begun s u.loop u.iters)

/-! ## The machine -/

inductive Call where
  | info (i : InfoEnv)
  | update (u : UpdateEnv)
  deriving DecidableEq, Repr

def World.step (w : World) (c : Call) : World × List Output :=
  if w.halted then (w, [])
  else
    match c with
    | .info i => updateFirmwareInfo w i
    | .update u => updateFirmware w u

end ControlFan.Ota
