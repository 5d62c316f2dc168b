import Mathlib
import PinpointExamples.Carrier.CurlAppend
import PinpointExamples.Server.WrapHandler

/-!
# The libcurl demo

`handle_run_request` makes one transfer with libcurl.  It has no wrapper: it opens and ends its span itself.  What
libcurl does is a parameter (`CurlOutcomes`).  A character stands for one byte here: the body is what libcurl wrote
byte by byte, and its preview is cut after 200 of them.
-/

namespace PinpointExamples.CurlWeb

open Scoped

/-- `CURLcode`; an error comes with the text of `curl_easy_strerror`. -/
inductive CurlCode
  | ok
  | failed (strerror : Str)
  deriving DecidableEq, Repr

/-- Whether `curl_easy_init` returned a handle, which calls of `curl_slist_append` succeed (by their number), what the
transfer wrote through `WriteCallback` and how it ended, and the response code. -/
structure CurlOutcomes where
  easyInit : Bool
  appends : Nat → Bool
  written : List Str
  perform : CurlCode
  responseCode : Int

def extractHost (url : Str) : Str :=
  let start := match find "://" url with
    | none => 0
    | some start => start + 3
  match findCharFrom '/' start url with
  | none => url.drop start
  | some stop => (url.drop start).take (stop - start)

/-- The calls of `Set` that `InjectContext` makes for the pairs of a context, with what becomes of their appends. -/
def CurlOutcomes.setCalls (o : CurlOutcomes) (context : List (Str × Str)) : List SetCall :=
  context.zipIdx.map fun (kv, k) => ⟨kv.1, kv.2, o.appends k⟩

def writeCallback (contents userp : Str) : Str := userp ++ contents

/-- `perform_curl_request`; the state is `out_response`, and `context` are the pairs that `InjectContext` sets. -/
def performCurlRequest (context : List (Str × Str)) (o : CurlOutcomes) (url : Str) (span : SpanPtr) :
    Traced Str Bool :=
  scopedSpanEvent span "execute_curl" .cppHttpClient fun se =>
    if o.easyInit then do
      .call (.injectContext se)
      let headers := SetCall.run [] (o.setCalls context)
      .call (.traceHttpClientRequest se (extractHost url) url (CurlHeaderReader.pairs headers))
      .modify fun out => o.written.foldl (fun out contents => writeCallback contents out) out
      match o.perform with
      | .failed strerror => do
        .call (.setError se none strerror)
        pure false
      | .ok => do
        .call (.traceHttpClientResponse se o.responseCode [])
        pure true
    else
      pure true

/-- The end of `handle_run_request`: the answer, and what is recorded on the span. -/
def reportRunRequest (lib : HttplibHeaders) (success : Bool) (responseBody : Str) (span : SpanId) (req : Request)
    (res : Response) (t : WorkerThread) : Response × WorkerThread :=
  let (res, t) :=
    if success then
      ({ res with status := 200 }.setContent lib
        ("cURL request successful\nResponse body preview: " ++ responseBody.take 200) "text/plain", t)
    else
      ({ res with status := 500 }.setContent lib "cURL request failed" "text/plain",
        t.record (.event (.spanSetError (some span) "cURL request failed")))
  let t := t.record (.traceHttpServerResponse span req.matchedRoute req.method res.status res.headers)
  (res, t.record (.endSpan span))

/-- `handle_run_request`; `gTargetUrl` is the global `g_target_url`. -/
def handleRunRequest (lib : HttplibHeaders) (gTargetUrl : Str) (context : List (Str × Str)) (o : CurlOutcomes)
    (req : Request) (res : Response) (t : WorkerThread) : Except Exn Unit × Response × WorkerThread :=
  let (span, t) := t.newSpan "CurlWebExample" "/run_request" req.headers
  let t := t.record (.traceHttpServerRequest span req.remoteAddr (lib.getHeaderValue req.headers "Host")
    req.headers)
  let target := if req.hasParam "url" then req.getParamValue "url" else gTargetUrl
  match t.runTraced (performCurlRequest context o target (some span)) [] with
  | (.error e, _, t) => (.error e, res, t)
  | (.ok success, responseBody, t) => (.ok (), reportRunRequest lib success responseBody span req res t)

end PinpointExamples.CurlWeb
