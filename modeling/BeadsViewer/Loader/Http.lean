import BeadsViewer.Model
/-
  beads_viewer formalization — the ConnectRPC loader (`pkg/loader/http.go`):
  `toModelIssue`, which converts one `protoIssue` record into a `model.Issue`
  and flattens its four dependency arrays and its parent into typed edges.

  * `toModelIssue` fails exactly when a timestamp does not parse
    (`toModelIssue_ok_iff`);
  * `toModelIssue_dependencies`: the dependencies are one `blocks` edge per
    distinct non-empty id of `dependsOn ++ blockedBy`, in first-occurrence
    order, then a `parent-child` edge to the parent unless the parent is
    already one of those blockers (the shared `seen` set drops it).
  * `loadIssuesFromURL` posts to the `ListIssues` endpoint and, on a `200`
    reply that decodes, keeps each record that converts, validates and
    passes the filter, and warns once for each record that fails to convert
    or validate, in order; a record the filter rejects is dropped without a
    warning (`loadIssuesFromURL_records`).

  `time.Parse(time.RFC3339, ·)` is the parameter `timeParse`; the status
  normalisation, `Validate`, the HTTP client and the JSON decoder are
  parameters as well.
-/

namespace BeadsViewer.Loader

/-- `protoIssue`, the record of a `ListIssues` response.  `createdBy`,
    `hookBead` and `agentState` are read by no modelled function. -/
structure ProtoIssue where
  id : String
  title : String
  description : String
  status : String
  type : String
  priority : Int
  createdAt : String
  updatedAt : String
  closedAt : String
  parent : String
  assignee : String
  labels : List String
  children : List String
  dependsOn : List String
  blocks : List String
  blockedBy : List String
  deriving DecidableEq, Repr, Inhabited

/-- `protoStatusMap`. -/
def protoStatusMap : List (String × Status) :=
  [("ISSUE_STATUS_OPEN", .open), ("ISSUE_STATUS_IN_PROGRESS", .inProgress),
   ("ISSUE_STATUS_BLOCKED", .blocked), ("ISSUE_STATUS_DEFERRED", .deferred),
   ("ISSUE_STATUS_PINNED", .pinned), ("ISSUE_STATUS_HOOKED", .hooked),
   ("ISSUE_STATUS_CLOSED", .closed), ("ISSUE_STATUS_TOMBSTONE", .tombstone)]

/-- `protoTypeMap`. -/
def protoTypeMap : List (String × IssueType) :=
  [("ISSUE_TYPE_TASK", .task), ("ISSUE_TYPE_BUG", .bug), ("ISSUE_TYPE_FEATURE", .feature),
   ("ISSUE_TYPE_EPIC", .epic), ("ISSUE_TYPE_CHORE", .chore)]

/-- `mapProtoStatus`: the enum's status, else the value without its prefix, in
    lower case (`strings.ToLower`; the enum values are ASCII). -/
def mapProtoStatus (s : String) : Status :=
  match protoStatusMap.lookup s with
  | some v => v
  | none => ⟨(s.stripPrefix "ISSUE_STATUS_").toLower⟩

/-- `mapProtoType`. -/
def mapProtoType (s : String) : IssueType :=
  match protoTypeMap.lookup s with
  | some v => v
  | none => ⟨(s.stripPrefix "ISSUE_TYPE_").toLower⟩

section
variable (timeParse : String → Except String Time)

/-- `parseProtoTime`: the zero time for an empty string. -/
def parseProtoTime (s : String) : Except String Time :=
  if s = "" then .ok Time.zero else timeParse s

/-- The error of `toModelIssue` for the timestamp `field` of `p`. -/
def timeError (p : ProtoIssue) (field value err : String) : String :=
  "issue " ++ p.id ++ ": invalid " ++ field ++ " " ++ value.quote ++ ": " ++ err

/-- One step of the two flattening loops: skip an empty or already `seen` id,
    else mark it seen and append a `blocks` dependency on it. -/
def addBlocking (pid : String) (acc : List String × List Dependency) (dep : String) :
    List String × List Dependency :=
  if dep = "" ∨ dep ∈ acc.1 then acc else (dep :: acc.1, acc.2 ++ [⟨pid, dep, .blocks⟩])

/-- The flattened dependencies: `dependsOn`, then `blockedBy` with the same
    `seen` set, then the parent unless it was seen.  `blocks` and `children`
    are skipped. -/
def flattenDependencies (p : ProtoIssue) : List Dependency :=
  let acc := p.blockedBy.foldl (addBlocking p.id) (p.dependsOn.foldl (addBlocking p.id) ([], []))
  if p.parent ≠ "" ∧ p.parent ∉ acc.1 then acc.2 ++ [⟨p.id, p.parent, .parentChild⟩]
  else acc.2

/-- `toModelIssue`. -/
def toModelIssue (p : ProtoIssue) : Except String Issue := do
  let createdAt ← (parseProtoTime timeParse p.createdAt).mapError
    (timeError p "created_at" p.createdAt)
  let updatedAt ← (parseProtoTime timeParse p.updatedAt).mapError
    (timeError p "updated_at" p.updatedAt)
  let closedAt ← if p.closedAt ≠ "" then
      some <$> (parseProtoTime timeParse p.closedAt).mapError (timeError p "closed_at" p.closedAt)
    else pure none
  pure { id := p.id, title := p.title, description := p.description,
         status := mapProtoStatus p.status, issueType := mapProtoType p.type,
         priority := p.priority, createdAt, updatedAt, closedAt, assignee := p.assignee,
         labels := p.labels, dependencies := flattenDependencies p }

/-- The three timestamps of `p` parse (an empty one is the zero time). -/
def TimestampsParse (p : ProtoIssue) : Prop :=
  (parseProtoTime timeParse p.createdAt).isOk ∧ (parseProtoTime timeParse p.updatedAt).isOk ∧
    (parseProtoTime timeParse p.closedAt).isOk

instance (p : ProtoIssue) : Decidable (TimestampsParse timeParse p) :=
  inferInstanceAs (Decidable (_ ∧ _ ∧ _))

/-! ## Dependency flattening -/

/-- The `blocks` dependency of `pid` on `dep`. -/
def blockingDep (pid dep : String) : Dependency := ⟨pid, dep, .blocks⟩

/-- The distinct non-empty ids of `dependsOn ++ blockedBy`, in first-occurrence order. -/
def blockingTargets (p : ProtoIssue) : List String :=
  ((p.dependsOn ++ p.blockedBy).filter (· ≠ "")).eraseDups

theorem mem_eraseDups_loop {a : String} :
    ∀ {xs bs : List String}, a ∈ List.eraseDups.loop xs bs ↔ a ∈ xs ∨ a ∈ bs
  | [], bs => by simp [List.eraseDups.loop]
  | x :: xs, bs => by
    by_cases hx : x ∈ bs
    · have : bs.elem x = true := by simpa using hx
      simp only [List.eraseDups.loop, this, mem_eraseDups_loop, List.mem_cons]
      by_cases h : a = x <;> simp_all
    · have : bs.elem x = false := by simpa using hx
      simp only [List.eraseDups.loop, this, mem_eraseDups_loop, List.mem_cons]
      tauto

/-- The loops keep the dependencies equal to the seen ids, in the order seen. -/
theorem foldl_addBlocking (pid : String) :
    ∀ (xs seen : List String), xs.foldl (addBlocking pid) (seen, (seen.map (blockingDep pid)).reverse) =
      ((List.eraseDups.loop (xs.filter (· ≠ "")) seen).reverse,
        (List.eraseDups.loop (xs.filter (· ≠ "")) seen).map (blockingDep pid))
  | [], seen => by simp [List.eraseDups.loop]
  | x :: xs, seen => by
    rw [List.foldl_cons]
    by_cases hx : x = ""
    · rw [addBlocking, if_pos (Or.inl hx), foldl_addBlocking pid xs seen]
      simp [hx]
    · by_cases hs : x ∈ seen
      · rw [addBlocking, if_pos (Or.inr hs), foldl_addBlocking pid xs seen]
        simp [hx, List.eraseDups.loop, hs]
      · have hstep : addBlocking pid (seen, (seen.map (blockingDep pid)).reverse) x =
            (x :: seen, ((x :: seen).map (blockingDep pid)).reverse) := by
          simp [addBlocking, hx, hs, blockingDep]
        rw [hstep, foldl_addBlocking pid xs (x :: seen)]
        simp [hx, List.eraseDups.loop, hs]

theorem flattenDependencies_eq (p : ProtoIssue) :
    flattenDependencies p = (blockingTargets p).map (blockingDep p.id) ++
      (if p.parent ≠ "" ∧ p.parent ∉ p.dependsOn ++ p.blockedBy
        then [⟨p.id, p.parent, .parentChild⟩] else []) := by
  have h := foldl_addBlocking p.id (p.dependsOn ++ p.blockedBy) []
  rw [List.map_nil, List.reverse_nil, List.foldl_append] at h
  have hmem : p.parent ≠ "" → (p.parent ∈ (List.eraseDups.loop
      ((p.dependsOn ++ p.blockedBy).filter (· ≠ "")) []).reverse ↔
      p.parent ∈ p.dependsOn ++ p.blockedBy) := by
    intro hp; simp [mem_eraseDups_loop, hp]
  unfold flattenDependencies blockingTargets List.eraseDups
  rw [h]
  by_cases hp : p.parent = ""
  · simp [hp]
  · simp only [ne_eq, hp, not_false_eq_true, true_and, hmem hp]
    split <;> simp

/-! ## `toModelIssue` -/

theorem parseProtoTime_empty : parseProtoTime timeParse "" = .ok Time.zero := rfl

/-- `toModelIssue` fails exactly when one of the timestamps does not parse. -/
theorem toModelIssue_ok_iff (p : ProtoIssue) :
    (toModelIssue timeParse p).isOk ↔ TimestampsParse timeParse p := by
  unfold toModelIssue TimestampsParse
  by_cases hz : p.closedAt = ""
  · generalize parseProtoTime timeParse p.createdAt = a
    generalize parseProtoTime timeParse p.updatedAt = b
    cases a <;> cases b <;> simp [hz, parseProtoTime_empty, Except.isOk, Except.toBool, Except.mapError, bind, Except.bind,
      pure, Except.pure]
  · generalize parseProtoTime timeParse p.createdAt = a
    generalize parseProtoTime timeParse p.updatedAt = b
    generalize parseProtoTime timeParse p.closedAt = c
    cases a <;> cases b <;> cases c <;> simp [hz, Except.isOk, Except.toBool, Except.mapError, bind, Except.bind, pure,
      Except.pure, Functor.map, Except.map]

/-- A converted issue carries the record's fields; only its times come from
    `timeParse`. -/
theorem toModelIssue_eq_ok {p : ProtoIssue} {iss : Issue} (h : toModelIssue timeParse p = .ok iss) :
    ∃ createdAt updatedAt closedAt, iss =
      { id := p.id, title := p.title, description := p.description,
        status := mapProtoStatus p.status, issueType := mapProtoType p.type,
        priority := p.priority, createdAt, updatedAt, closedAt, assignee := p.assignee,
        labels := p.labels, dependencies := flattenDependencies p } := by
  unfold toModelIssue at h
  generalize parseProtoTime timeParse p.createdAt = a at h
  generalize parseProtoTime timeParse p.updatedAt = b at h
  generalize parseProtoTime timeParse p.closedAt = c at h
  by_cases hz : p.closedAt = "" <;> cases a <;> cases b <;> cases c <;>
    simp [hz, Except.mapError, bind, Except.bind, pure, Except.pure, Functor.map, Except.map] at h <;>
    exact ⟨_, _, _, h.symm⟩

theorem dependencies_of_toModelIssue {p : ProtoIssue} {iss : Issue}
    (h : toModelIssue timeParse p = .ok iss) : iss.dependencies = flattenDependencies p := by
  obtain ⟨_, _, _, rfl⟩ := toModelIssue_eq_ok timeParse h
  rfl

/-- **Dependency flattening.**  When its timestamps parse, `toModelIssue p`
    succeeds, and its dependencies are a `blocks` edge on each distinct
    non-empty id of `dependsOn ++ blockedBy` in first-occurrence order, then a
    `parent-child` edge on a non-empty parent that is none of those ids.
    `blocks` and `children` contribute nothing. -/
theorem toModelIssue_dependencies (p : ProtoIssue) (h : TimestampsParse timeParse p) :
    ∃ iss, toModelIssue timeParse p = .ok iss ∧
      iss.dependencies = (blockingTargets p).map (blockingDep p.id) ++
        (if p.parent ≠ "" ∧ p.parent ∉ p.dependsOn ++ p.blockedBy
          then [⟨p.id, p.parent, .parentChild⟩] else []) := by
  rcases hp : toModelIssue timeParse p with e | iss
  · have := (toModelIssue_ok_iff timeParse p).2 h
    simp [hp, Except.isOk, Except.toBool] at this
  · exact ⟨iss, rfl, (dependencies_of_toModelIssue timeParse hp).trans (flattenDependencies_eq p)⟩

/-- A parent that is also a blocker gets no `parent-child` edge. -/
theorem toModelIssue_parent_blocker_dropped :
    ¬ ∃ iss, toModelIssue (fun _ => .error "")
        { (default : ProtoIssue) with id := "bv-1", dependsOn := ["bv-2"], parent := "bv-2" } =
        .ok iss ∧
      iss.dependencies = [⟨"bv-1", "bv-2", .blocks⟩, ⟨"bv-1", "bv-2", .parentChild⟩] := by
  rintro ⟨iss, h, hd⟩
  have := dependencies_of_toModelIssue _ h
  rw [hd] at this
  revert this
  decide

end

/-! ## `loadIssuesFromURL` -/

/-- `ParseOptions`, by the field that decides what `loadIssuesFromURL`
    returns: `IssueFilter`, `none` for nil.  `WarningHandler` receives the
    warnings the loop emits, in order, or a nil handler discards them. -/
structure ParseOptions where
  issueFilter : Option (Issue → Bool) := none

/-- What `client.Do` yields for the request: the status code, and the body
    as `io.ReadAll` reads it (or the read's error). -/
structure Reply where
  statusCode : Nat
  body : Except String String

/-- `strings.TrimRight(baseURL, "/")` followed by the `ListIssues` path. -/
def listIssuesEndpoint (baseURL : String) : String :=
  baseURL.dropRightWhile (· = '/') ++ "/gastown.v1.BeadsService/ListIssues"

section
variable (timeParse : String → Except String Time) (normalizeIssueStatus : Status → Status)
  (validate : Issue → Except String Unit)

/-- The record loop's first three steps: `toModelIssue`, the status
    normalised, `Validate`; a failure is the warning the loop emits for the
    record.  `normalizeIssueStatus` and `Issue.Validate` are not part of the
    sources: they are parameters. -/
def convertRecord (p : ProtoIssue) : Except String Issue := do
  let issue ← (toModelIssue timeParse p).mapError ("skipping issue: " ++ ·)
  let issue := { issue with status := normalizeIssueStatus issue.status }
  (validate issue).mapError (("skipping invalid issue " ++ issue.id ++ ": ") ++ ·)
  return issue

/-- One turn of the record loop: a warning, the issue appended, or nothing
    when `IssueFilter` rejects it. -/
def loadStep (opts : ParseOptions) (acc : List Issue × List String) (p : ProtoIssue) :
    List Issue × List String :=
  match convertRecord timeParse normalizeIssueStatus validate p with
  | .error warning => (acc.1, acc.2 ++ [warning])
  | .ok issue => if opts.issueFilter.all (· issue) then (acc.1 ++ [issue], acc.2) else acc

/-- The record loop, on the decoded records: the issues and the warnings. -/
def loadRecords (opts : ParseOptions) (records : List ProtoIssue) : List Issue × List String :=
  records.foldl (loadStep timeParse normalizeIssueStatus validate opts) ([], [])

variable (newRequest : String → Except String Unit) (roundTrip : String → Except String Reply)
  (unmarshal : String → Except String (List ProtoIssue))

/-- `loadIssuesFromURL`, with `http.NewRequestWithContext`, `client.Do` and
    `json.Unmarshal` as parameters: the issues, with the warnings passed to
    `warn`.  The error body is cut to its first 1024 characters
    (`io.LimitReader`). -/
def loadIssuesFromURL (baseURL : String) (opts : ParseOptions) :
    Except String (List Issue × List String) := do
  let endpoint := listIssuesEndpoint baseURL
  (newRequest endpoint).mapError ("failed to create request: " ++ ·)
  let resp ← (roundTrip endpoint).mapError (("HTTP request to " ++ endpoint ++ " failed: ") ++ ·)
  if resp.statusCode ≠ 200 then
    throw ("daemon returned HTTP " ++ toString resp.statusCode ++ ": " ++
      (resp.body.toOption.getD "").take 1024)
  let body ← resp.body.mapError ("failed to read response body: " ++ ·)
  let records ← (unmarshal body).mapError ("failed to parse response JSON: " ++ ·)
  return loadRecords timeParse normalizeIssueStatus validate opts records

end

/-! ## The record loop -/

section
variable {timeParse : String → Except String Time} {normalizeIssueStatus : Status → Status}
  {validate : Issue → Except String Unit}

/-- `convertRecord` succeeds exactly on a record that converts and whose
    normalised issue validates. -/
theorem convertRecord_eq_ok {p : ProtoIssue} {issue : Issue} :
    convertRecord timeParse normalizeIssueStatus validate p = .ok issue ↔
      ∃ i, toModelIssue timeParse p = .ok i ∧
        issue = { i with status := normalizeIssueStatus i.status } ∧
        validate { i with status := normalizeIssueStatus i.status } = .ok () := by
  unfold convertRecord
  cases toModelIssue timeParse p with
  | error e => simp [Except.mapError, bind, Except.bind]
  | ok i =>
    cases hv : validate { i with status := normalizeIssueStatus i.status } with
    | error e => simp [Except.mapError, bind, Except.bind, hv]
    | ok u => simp [Except.mapError, bind, Except.bind, hv, pure, Except.pure, eq_comm]

/-- The warning of a record: the conversion's error, or the validation's. -/
theorem convertRecord_eq_error {p : ProtoIssue} {warning : String} :
    convertRecord timeParse normalizeIssueStatus validate p = .error warning ↔
      (∃ e, toModelIssue timeParse p = .error e ∧ warning = "skipping issue: " ++ e) ∨
      ∃ i e, toModelIssue timeParse p = .ok i ∧
        validate { i with status := normalizeIssueStatus i.status } = .error e ∧
        warning = "skipping invalid issue " ++ i.id ++ ": " ++ e := by
  unfold convertRecord
  cases toModelIssue timeParse p with
  | error e => simp [Except.mapError, bind, Except.bind, eq_comm]
  | ok i =>
    cases hv : validate { i with status := normalizeIssueStatus i.status } with
    | error e => simp [Except.mapError, bind, Except.bind, hv, eq_comm, String.append_assoc]
    | ok u => simp [Except.mapError, bind, Except.bind, hv, pure, Except.pure]

/-- The record loop from any accumulator: each record adds its issue or its
    warning, on its own. -/
theorem foldl_loadStep (opts : ParseOptions) :
    ∀ (records : List ProtoIssue) (acc : List Issue × List String),
      records.foldl (loadStep timeParse normalizeIssueStatus validate opts) acc =
        (acc.1 ++ records.filterMap fun p =>
            (convertRecord timeParse normalizeIssueStatus validate p).toOption.filter
              fun i => opts.issueFilter.all fun f => f i,
          acc.2 ++ records.filterMap fun p =>
            match convertRecord timeParse normalizeIssueStatus validate p with
            | .error warning => some warning
            | .ok _ => none)
  | [], acc => by simp
  | p :: records, acc => by
    rw [List.foldl_cons, foldl_loadStep opts records, loadStep]
    simp only [List.filterMap_cons]
    cases convertRecord timeParse normalizeIssueStatus validate p with
    | error w => simp [Except.toOption]
    | ok i =>
      by_cases hf : opts.issueFilter.all (· i) = true <;>
        simp [Except.toOption, Option.filter, hf]

/-- **The records of a decoded response.**  When the request is sent, the
    daemon answers `200` and its body decodes to `records`,
    `loadIssuesFromURL` returns, in order, the issues of the records that
    convert, validate after normalisation and pass `IssueFilter`, and, in
    order, one warning for each record that fails to convert or to validate;
    a record `IssueFilter` rejects is dropped without a warning. -/
theorem loadIssuesFromURL_records (newRequest : String → Except String Unit)
    (roundTrip : String → Except String Reply) (unmarshal : String → Except String (List ProtoIssue))
    {baseURL : String} {opts : ParseOptions} {reply : Reply} {body : String}
    {records : List ProtoIssue}
    (hreq : newRequest (listIssuesEndpoint baseURL) = .ok ())
    (hrt : roundTrip (listIssuesEndpoint baseURL) = .ok reply) (hcode : reply.statusCode = 200)
    (hbody : reply.body = .ok body) (hdec : unmarshal body = .ok records) :
    loadIssuesFromURL timeParse normalizeIssueStatus validate newRequest roundTrip unmarshal
        baseURL opts =
      .ok (records.filterMap fun p =>
          (convertRecord timeParse normalizeIssueStatus validate p).toOption.filter
            fun i => opts.issueFilter.all fun f => f i,
        records.filterMap fun p =>
          match convertRecord timeParse normalizeIssueStatus validate p with
          | .error warning => some warning
          | .ok _ => none) := by
  simp only [loadIssuesFromURL, hreq, hrt, hcode, hbody, hdec, Except.mapError, bind, Except.bind,
    pure, Except.pure, ne_eq, not_true_eq_false, if_false]
  rw [loadRecords, foldl_loadStep]
  rfl

/-- A record's issue keeps the record's id. -/
theorem id_of_convertRecord {p : ProtoIssue} {issue : Issue}
    (h : convertRecord timeParse normalizeIssueStatus validate p = .ok issue) : issue.id = p.id := by
  obtain ⟨i, hi, rfl, -⟩ := convertRecord_eq_ok.1 h
  obtain ⟨_, _, _, rfl⟩ := toModelIssue_eq_ok timeParse hi
  rfl

end

/-- A response read with helpers that accept every record and a filter that
    keeps open issues. -/
theorem loadIssuesFromURL_records_two :
    let records : List ProtoIssue :=
      [{ (default : ProtoIssue) with id := "bv-1", status := "ISSUE_STATUS_OPEN" },
        { (default : ProtoIssue) with id := "bv-2" }]
    let opts : ParseOptions := { issueFilter := some fun i => i.status == .open }
    (fun _ => .ok () : String → Except String Unit) (listIssuesEndpoint "http://localhost:8443/") =
        .ok () ∧
      (fun _ => .ok ⟨200, .ok "{}"⟩ : String → Except String Reply)
          (listIssuesEndpoint "http://localhost:8443/") = .ok ⟨200, .ok "{}"⟩ ∧
      (⟨200, .ok "{}"⟩ : Reply).statusCode = 200 ∧ (⟨200, .ok "{}"⟩ : Reply).body = .ok "{}" ∧
      (fun _ => .ok records : String → Except String (List ProtoIssue)) "{}" = .ok records ∧
      loadIssuesFromURL (fun _ => .ok Time.zero) id (fun _ => .ok ()) (fun _ => .ok ())
          (fun _ => .ok ⟨200, .ok "{}"⟩) (fun _ => .ok records) "http://localhost:8443/" opts =
        .ok (records.filterMap fun p =>
            (convertRecord (fun _ => .ok Time.zero) id (fun _ => .ok ()) p).toOption.filter
              fun i => opts.issueFilter.all fun f => f i,
          records.filterMap fun p =>
            match convertRecord (fun _ => .ok Time.zero) id (fun _ => .ok ()) p with
            | .error warning => some warning
            | .ok _ => none) := by
  intro records opts
  exact ⟨rfl, rfl, rfl, rfl, rfl, loadIssuesFromURL_records (fun _ => .ok ())
    (fun _ => .ok ⟨200, .ok "{}"⟩) (fun _ => .ok records) rfl rfl rfl rfl rfl⟩

/-- The records of `TestLoadIssuesFromURLFilter`: whatever the helpers, if
    the test passes (the filter keeps `bv-20` alone) then `bv-20` converts
    and validates, and a filter rejecting it drops it without a warning. -/
theorem loadRecords_filtered_without_warning :
    let bv20 : ProtoIssue := { (default : ProtoIssue) with
      id := "bv-20", title := "Keep me", status := "ISSUE_STATUS_OPEN", type := "ISSUE_TYPE_TASK",
      createdAt := "2024-01-01T00:00:00Z", updatedAt := "2024-01-02T00:00:00Z" }
    let bv21 : ProtoIssue := { (default : ProtoIssue) with
      id := "bv-21", title := "Filter me", status := "ISSUE_STATUS_CLOSED", type := "ISSUE_TYPE_BUG",
      createdAt := "2024-01-01T00:00:00Z", updatedAt := "2024-01-02T00:00:00Z" }
    ¬ ∃ (timeParse : String → Except String Time) (normalizeIssueStatus : Status → Status)
        (validate : Issue → Except String Unit),
      (loadRecords timeParse normalizeIssueStatus validate
          { issueFilter := some fun i => i.status == .open } [bv20, bv21]).1.map Issue.id =
        ["bv-20"] ∧
      (loadRecords timeParse normalizeIssueStatus validate
          { issueFilter := some fun _ => false } [bv20]).2.length = 1 := by
  intro bv20 bv21
  rintro ⟨timeParse, normalizeIssueStatus, validate, hkeep, hwarn⟩
  rw [loadRecords, foldl_loadStep] at hkeep hwarn
  simp only [List.filterMap_cons, List.filterMap_nil] at hkeep hwarn
  cases h20 : convertRecord timeParse normalizeIssueStatus validate bv20 with
  | ok i => simp [h20] at hwarn
  | error w =>
    cases h21 : convertRecord timeParse normalizeIssueStatus validate bv21 with
    | error w' => simp [h20, h21, Except.toOption] at hkeep
    | ok j =>
      have hj : j.id = "bv-21" := id_of_convertRecord h21
      by_cases hf : (j.status == Status.open) = true <;>
        simp [h20, h21, hj, Except.toOption, Option.filter, hf] at hkeep

end BeadsViewer.Loader
