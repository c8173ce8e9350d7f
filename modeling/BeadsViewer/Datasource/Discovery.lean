import BeadsViewer.Datasource.HttpPoller
import BeadsViewer.Loader.Http
/-
  beads_viewer formalization — finding and checking the daemon source:
  `discoverHTTPSources`, `validateHTTP` and `HTTPReader.Ping` of
  `pkg/datasource`.

  * `discoverHTTPSources` takes the option's endpoint, else `BV_BEADS_URL`,
    else `BD_DAEMON_HOST`, trims the trailing slashes, and returns one
    unvalidated source, or none when all three are empty.
  * `Ping` is the number of issues `LoadIssuesFromURL` loads: on a reply
    that decodes, the records that convert and validate (`ping_records`).
  * `validateHTTP` leaves the source as it is when the ping fails, with an
    error saying the daemon is unreachable; when the ping succeeds it stamps
    the source and, with `CountIssues`, records the count
    (`validateHTTP_error`, `validateHTTP_ok`).
-/

namespace BeadsViewer.Datasource

open Loader

/-- `DiscoveryOptions`, by the fields `discoverHTTPSources` reads. -/
structure DiscoveryOptions where
  httpEndpoint : String
  httpAPIKey : String
  verbose : Bool

/-- `ValidationOptions`, by the fields `validateHTTP` reads. -/
structure ValidationOptions where
  countIssues : Bool
  verbose : Bool

/-- `discoverHTTPSources(opts)`, with `os.Getenv` as `getenv` and `time.Now()`
    as `now`: the sources, and the lines given to `opts.Logger`.  The
    source's `Type`, `Priority` and `Valid = false` are left out. -/
def discoverHTTPSources (getenv : String → String) (now : Time) (opts : DiscoveryOptions) :
    List DataSource × List String :=
  let url := opts.httpEndpoint
  let url := if url = "" then getenv "BV_BEADS_URL" else url
  let url := if url = "" then getenv "BD_DAEMON_HOST" else url
  if url = "" then ([], [])
  else
    let url := url.dropRightWhile (· = '/')
    ([{ path := url, apiKey := opts.httpAPIKey, issueCount := 0, modTime := now }],
      if opts.verbose then ["Found HTTP source: " ++ url] else [])

section
variable (timeParse : String → Except String Time) (normalizeIssueStatus : Status → Status)
  (validate : Issue → Except String Unit) (newRequest : String → Except String Unit)
  (roundTrip : String → Except String Reply) (unmarshal : String → Except String (List ProtoIssue))

/-- `HTTPReader.Ping`: the number of issues `LoadIssuesFromURL` loads with the
    default `ParseOptions`.  `Ping` also passes the API key, which the
    loader of the sources does not take. -/
def HTTPReader.ping (r : HTTPReader) : PingResult :=
  (loadIssuesFromURL timeParse normalizeIssueStatus validate newRequest roundTrip unmarshal
    r.baseURL {}).map (·.1.length)

/-- `validateHTTP(source, opts)`, pinging through `NewHTTPReader(source.Path,
    source.apiKey)` at time `now`: the source as it is left, the error
    returned, and the lines given to `opts.Logger`. -/
def validateHTTP (now : Time) (source : DataSource) (opts : ValidationOptions) :
    DataSource × Except String Unit × List String :=
  match HTTPReader.ping timeParse normalizeIssueStatus validate newRequest roundTrip unmarshal
      ⟨source.path, source.apiKey⟩ with
  | .error e => (source, .error ("daemon unreachable: " ++ e), [])
  | .ok count =>
    let source := if opts.countIssues then { source with issueCount := count } else source
    ({ source with modTime := now }, .ok (),
      if opts.verbose then
        ["HTTP validation passed: " ++ source.path ++ " (" ++ toString count ++ " issues)"]
      else [])

/-- **What `Ping` counts.**  When the request goes out, the daemon answers
    `200` and the body decodes to `records`, `Ping` is the number of records
    that convert and validate after normalisation: with the default options
    no record is filtered out. -/
theorem ping_records {r : HTTPReader} {reply : Reply} {body : String} {records : List ProtoIssue}
    (hreq : newRequest (listIssuesEndpoint r.baseURL) = .ok ())
    (hrt : roundTrip (listIssuesEndpoint r.baseURL) = .ok reply) (hcode : reply.statusCode = 200)
    (hbody : reply.body = .ok body) (hdec : unmarshal body = .ok records) :
    HTTPReader.ping timeParse normalizeIssueStatus validate newRequest roundTrip unmarshal r =
      .ok (records.filterMap fun p =>
        (convertRecord timeParse normalizeIssueStatus validate p).toOption).length := by
  simp only [HTTPReader.ping, loadIssuesFromURL, hreq, hrt, hcode, hbody, hdec, Except.mapError, bind,
    Except.bind, pure, Except.pure, ne_eq, not_true_eq_false, if_false, Except.map, loadRecords,
    foldl_loadStep, List.nil_append]
  congr 3
  funext p
  cases (convertRecord timeParse normalizeIssueStatus validate p).toOption <;> rfl

/-- A failed ping leaves the source as it was and returns
    `daemon unreachable: ` and the ping's error; nothing is logged. -/
theorem validateHTTP_error (now : Time) (source : DataSource) (opts : ValidationOptions) {e : String}
    (h : HTTPReader.ping timeParse normalizeIssueStatus validate newRequest roundTrip unmarshal
      ⟨source.path, source.apiKey⟩ = .error e) :
    validateHTTP timeParse normalizeIssueStatus validate newRequest roundTrip unmarshal now source
      opts = (source, .error ("daemon unreachable: " ++ e), []) := by
  simp only [validateHTTP, h]

/-- A successful ping keeps the source's path and key, stamps it with `now`,
    and records the count exactly when `CountIssues` is set. -/
theorem validateHTTP_ok (now : Time) (source : DataSource) (opts : ValidationOptions) {count : Nat}
    (h : HTTPReader.ping timeParse normalizeIssueStatus validate newRequest roundTrip unmarshal
      ⟨source.path, source.apiKey⟩ = .ok count) :
    let res := validateHTTP timeParse normalizeIssueStatus validate newRequest roundTrip unmarshal
      now source opts
    res.2.1 = .ok () ∧ res.1.path = source.path ∧ res.1.apiKey = source.apiKey ∧
      res.1.modTime = now ∧
      res.1.issueCount = (if opts.countIssues then (count : Int) else source.issueCount) := by
  simp only [validateHTTP, h]
  cases opts.countIssues <;> simp

end

end BeadsViewer.Datasource
