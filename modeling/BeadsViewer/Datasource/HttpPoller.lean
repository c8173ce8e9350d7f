import BeadsViewer.Model
/-
  beads_viewer formalization — the daemon poller (`HTTPPoller` in
  `pkg/datasource`): a state machine over the ticks of its ticker.

  * `poll` is one tick: a failed `Ping` only logs; a successful one replaces
    `lastCount` and, when the count changed, stamps the source and calls the
    callback.  `run` is the ticker loop over a sequence of tick outcomes.
  * `run_callbacks`: over every run, the callback fires at exactly the ticks
    whose `Ping` succeeds with a count other than the last known one, the
    known count starting at `lastCount`.
  * `run_inStep`: over every run, a poller whose `lastCount` is its source's
    `IssueCount` keeps them equal.
  * `newHTTPPoller` leaves `lastCount` at Go's zero value, not at the
    validated `source.IssueCount` (`newHTTPPoller_lastCount`).

  `Ping`'s result and `time.Now()` are the inputs of a tick; the logger and
  the callback are the effects it emits.
-/

namespace BeadsViewer.Datasource

/-- `DataSource`, with the fields the poller reads and writes. -/
structure DataSource where
  path : String
  apiKey : String
  issueCount : Int
  modTime : Time
  deriving DecidableEq, Repr, Inhabited

/-- `HTTPReader`: the daemon it pings. -/
structure HTTPReader where
  baseURL : String
  apiKey : String
  deriving DecidableEq, Repr

/-- `HTTPPollerOptions`: `interval` in nanoseconds, `0` for the default;
    `hasLogger` is `Logger != nil`. -/
structure HTTPPollerOptions where
  interval : Nat
  verbose : Bool
  hasLogger : Bool
  deriving DecidableEq, Repr

/-- `HTTPPoller`: `hasCallback` is `callback != nil`, `hasLogger` whether
    `logger` is the caller's (not the no-op default). -/
structure HTTPPoller where
  reader : HTTPReader
  interval : Nat
  hasCallback : Bool
  lastCount : Int
  source : DataSource
  verbose : Bool
  hasLogger : Bool
  deriving DecidableEq, Repr

/-- What a tick does outside the poller: a log line, or a callback call. -/
inductive Effect where
  | log (msg : String)
  | callback (source : DataSource)
  deriving DecidableEq, Repr

/-- One tick's `Ping`: an error, or the number of issues. -/
abbrev PingResult := Except String Nat

/-- `NewHTTPPoller`.  `lastCount` is not set: Go's zero value. -/
def newHTTPPoller (source : DataSource) (hasCallback : Bool) (opts : HTTPPollerOptions) :
    HTTPPoller where
  reader := ⟨source.path, source.apiKey⟩
  interval := if opts.interval = 0 then 30 * 1000000000 else opts.interval
  hasCallback := hasCallback
  lastCount := 0
  source := source
  verbose := opts.verbose
  hasLogger := opts.hasLogger

namespace HTTPPoller

/-- `p.logger(msg)` when verbose. -/
def logIf (p : HTTPPoller) (msg : String) : List Effect :=
  if p.verbose ∧ p.hasLogger then [.log msg] else []

/-- `poll`, at time `now`, given the tick's `Ping` result. -/
def poll (p : HTTPPoller) (r : PingResult) (now : Time) : HTTPPoller × List Effect :=
  match r with
  | .error e => (p, p.logIf ("HTTP poll failed: " ++ e))
  | .ok count =>
    if (count : Int) ≠ p.lastCount then
      let source := { p.source with issueCount := count, modTime := now }
      ({ p with lastCount := count, source },
        p.logIf ("HTTP source changed: " ++ toString count ++ " issues (was " ++
          toString p.lastCount ++ ")") ++
        (if p.hasCallback then [.callback source] else []))
    else ({ p with lastCount := count }, [])

/-- `run`: the ticks in order; the effects of each tick, in order. -/
def run (p : HTTPPoller) : List (PingResult × Time) → HTTPPoller × List (List Effect)
  | [] => (p, [])
  | (r, now) :: ticks =>
    let (p', effs) := p.poll r now
    let (p'', rest) := p'.run ticks
    (p'', effs :: rest)

end HTTPPoller

/-- Whether a tick's effects call the callback. -/
def Effect.isCallback : Effect → Bool
  | .callback _ => true
  | .log _ => false

/-- The ticks at which the callback must fire: those whose `Ping` succeeds
    with a count other than the last known one, starting from `known`. -/
def changedTicks (known : Int) : List PingResult → List Bool
  | [] => []
  | .error _ :: rs => false :: changedTicks known rs
  | .ok n :: rs => decide ((n : Int) ≠ known) :: changedTicks n rs

namespace HTTPPoller

/-! ## One tick -/

/-- A failed `Ping` leaves the poller, `lastCount` and `source` included, unchanged. -/
@[simp] theorem poll_error (p : HTTPPoller) (e : String) (now : Time) :
    (p.poll (.error e) now).1 = p := rfl

@[simp] theorem poll_ok_lastCount (p : HTTPPoller) (n : Nat) (now : Time) :
    (p.poll (.ok n) now).1.lastCount = n := by
  simp only [poll]; split <;> rfl

@[simp] theorem poll_hasCallback (p : HTTPPoller) (r : PingResult) (now : Time) :
    (p.poll r now).1.hasCallback = p.hasCallback := by
  unfold poll; split
  · rfl
  · split <;> rfl

theorem logIf_not_callback (p : HTTPPoller) (msg : String) :
    (p.logIf msg).any Effect.isCallback = false := by
  unfold logIf; split <;> rfl

/-- A tick calls the callback iff its `Ping` succeeds with a count other than `lastCount`. -/
theorem poll_callback (p : HTTPPoller) (h : p.hasCallback) (r : PingResult) (now : Time) :
    (p.poll r now).2.any Effect.isCallback =
      match r with
      | .ok n => decide ((n : Int) ≠ p.lastCount)
      | .error _ => false := by
  unfold poll
  rcases r with e | n
  · exact logIf_not_callback p _
  · by_cases hn : (n : Int) = p.lastCount
    · simp [hn]
    · simp [hn, h, List.any_append, logIf_not_callback, Effect.isCallback]

/-- The count the poller remembers is its source's `IssueCount`. -/
def InStep (p : HTTPPoller) : Prop := p.source.issueCount = p.lastCount

/-- A tick keeps `InStep`: a changed count is written to both. -/
theorem poll_inStep {p : HTTPPoller} (h : p.InStep) (r : PingResult) (now : Time) :
    (p.poll r now).1.InStep := by
  unfold poll InStep
  rcases r with e | n
  · exact h
  · dsimp only
    split
    · rfl
    · next hn => exact h.trans (not_not.1 hn).symm

/-! ## Runs -/

@[simp] theorem run_cons_fst (p : HTTPPoller) (r : PingResult) (now : Time)
    (ticks : List (PingResult × Time)) :
    (p.run ((r, now) :: ticks)).1 = ((p.poll r now).1.run ticks).1 := by
  rcases h : p.poll r now with ⟨p', effs⟩
  simp only [run, h]

/-- **Every run keeps `InStep`**, from a poller where it holds. -/
theorem run_inStep :
    ∀ (p : HTTPPoller) (ticks : List (PingResult × Time)), p.InStep → (p.run ticks).1.InStep
  | _, [], h => h
  | p, (r, now) :: ticks, h => by
    rw [run_cons_fst]; exact run_inStep _ ticks (poll_inStep h r now)

/-- A poller in step with a source of 5 issues, over an unchanged, a failed
    and a changed tick. -/
theorem run_inStep_three_ticks :
    ∃ p : HTTPPoller,
      p = { newHTTPPoller ⟨"http://localhost:8443", "", 5, Time.zero⟩ true ⟨0, false, false⟩ with
        lastCount := 5 } ∧ p.InStep ∧
      (p.run [(.ok 5, ⟨1⟩), (.error "timeout", ⟨2⟩), (.ok 7, ⟨3⟩)]).1.InStep :=
  ⟨_, rfl, rfl, run_inStep _ _ rfl⟩

/-- **Callbacks over a run.**  Over every sequence of ticks, the callback fires
    at exactly the ticks whose `Ping` succeeds with a count other than the last
    known one; the known count starts at `lastCount`, and only successful ticks
    replace it. -/
theorem run_callbacks (p : HTTPPoller) (h : p.hasCallback) :
    ∀ ticks, (p.run ticks).2.map (·.any Effect.isCallback) =
      changedTicks p.lastCount (ticks.map Prod.fst)
  | [] => rfl
  | (r, now) :: ticks => by
    have ih := run_callbacks (p.poll r now).1 (by simpa using h) ticks
    rcases r with e | n
    · simp only [poll_error] at ih
      simp only [run, List.map_cons, poll_callback p h, changedTicks, ih, poll_error]
    · simp only [run, List.map_cons, poll_callback p h, changedTicks, ih, poll_ok_lastCount]

/-- A poller that knows 5 issues, over a failed tick, an unchanged one and a
    changed one. -/
theorem run_callbacks_three_ticks :
    ∃ p : HTTPPoller,
      p = { newHTTPPoller ⟨"http://localhost:8443", "", 5, Time.zero⟩ true ⟨0, false, false⟩ with
        lastCount := 5 } ∧ p.hasCallback = true ∧
      (p.run [(.error "timeout", ⟨1⟩), (.ok 5, ⟨2⟩), (.ok 6, ⟨3⟩)]).2.map (·.any Effect.isCallback) =
        changedTicks p.lastCount [.error "timeout", .ok 5, .ok 6] :=
  ⟨_, rfl, rfl, run_callbacks _ rfl _⟩

end HTTPPoller

/-- `NewHTTPPoller` starts from `lastCount = 0`, whatever the validated count. -/
theorem newHTTPPoller_lastCount (source : DataSource) (cb : Bool) (opts : HTTPPollerOptions) :
    (newHTTPPoller source cb opts).lastCount = 0 := rfl

/-- A source validated with 5 issues whose first tick still counts 5: the
    poller calls back, though the count did not change. -/
theorem newHTTPPoller_first_tick_unchanged :
    let source : DataSource := ⟨"http://localhost:8443", "", 5, Time.zero⟩
    ((newHTTPPoller source true ⟨0, false, false⟩).run [(.ok 5, ⟨1⟩)]).2.map
        (·.any Effect.isCallback) = [true] ∧
      changedTicks source.issueCount [.ok 5] = [false] := by
  decide

end BeadsViewer.Datasource
