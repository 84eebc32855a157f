import AzcRepair.Proofs.Run.Costs
import AzcRepair.Proofs.Run.Outcomes

/-!
# Bounded runs

Whatever the world answers, a run ends, and there are bounds on what it does before it ends. The
bounds on the whole run are read off its cost. Two bounds are about the moments of a run: how often
a job has been polled, and how many repairs have been asked for in a pass. They are followed by a
gauge along the history.

* `gauge` — the repairs of the pass and the polls of the job so far.
* `start_gauged` — the gauge stays within its marks, by a walk through the run.
* `Bounded`, `bounded_run` — what holds of every run.
-/

namespace AzcRepair

open Monitor (Only)
open Procedure (Event History Yields)

namespace Run

open Worker (Session Job)

/-! ## The gauge

Two bounds cannot be read off a count of all calls, as they start anew within the run: the polls
of one job and the repairs of one pass. The gauge shows both at every moment, and the monitor
permits a poll or a request for a repair only below its mark. -/

/-- What the bounds within a pass are about. -/
structure Gauge where
  /-- What the latest compilation of the pass complained about, if it did. -/
  broken : Option String
  /-- The repairs that were asked for in the pass. -/
  repairs : Nat
  /-- The job that was started last. -/
  job : Option String
  /-- How often that job was polled. -/
  polls : Nat
  deriving DecidableEq

namespace Gauge

/-- Nothing was compiled, asked for or started. -/
def start : Gauge :=
  ⟨none, 0, none, 0⟩

/-- A message is a request for a repair when the latest compilation of the pass complained. -/
def note (gauge : Gauge) : (call : Call) → Answer call → Gauge
  | .cancelled, _ => { gauge with broken := none, repairs := 0 }
  | .compile, .ok diagnostics =>
    { gauge with broken := if Text.isBlankText diagnostics then none else some diagnostics }
  | .worker (.sendMessage ..), _ =>
    if gauge.broken.isSome then { gauge with repairs := gauge.repairs + 1 } else gauge
  | .worker (.startJob _), started => { gauge with job := started.toOption, polls := 0 }
  | .worker (.pollJob ..), _ => { gauge with polls := gauge.polls + 1 }
  | _, _ => gauge

/-- The text may be sent: while the sources do not compile only a request for their repair, and only
when one is left. -/
def Allows (gauge : Gauge) (run : Run) (text : String) : Prop :=
  ∀ diagnostics, gauge.broken = some diagnostics →
    text = (Request.recovery diagnostics).body ∧ gauge.repairs < run.maxRecoveryAttempts.toNat

/-- A call that the marks permit: a request for a repair that is left, a poll that is left. -/
def Permits (gauge : Gauge) (run : Run) : Call → Prop
  | .worker (.sendMessage _ text) => gauge.Allows run text
  | .worker (.pollJob _ job) =>
    gauge.job = some job ∧ gauge.polls < run.conversation.maxPolls.toNat
  | _ => True

end Gauge

/-- The gauge after a history. -/
def gauge (history : History Call Answer) : Gauge :=
  history.foldl (fun gauge event => gauge.note event.1 event.2) .start

/-- The monitor that permits what the marks of the gauge permit. -/
def gauging (run : Run) : Monitor Call Answer Gauge where
  note := Gauge.note
  permits gauge call := gauge.Permits run call

variable {run : Run} {s : Gauge} {α : Type}

/-- The call moves nothing on the gauge. -/
def Unmoving (call : Call) : Prop :=
  ∀ (run : Run) (s : Gauge), (gauging run).Idle s call

theorem unmoving_setsUp (call : Call) (h : SetsUp call) : Unmoving call := by
  intro run s
  cases call with
  | compile | prepareArtifacts | build | disk | cancelled => exact h.elim
  | clock | freshSuffix | pause => exact ⟨trivial, fun _ => rfl⟩
  | worker request =>
    cases request <;> first | exact h.elim | exact ⟨trivial, fun _ => rfl⟩

theorem unmoving_disk (call : Call) (h : IsDisk call) : Unmoving call := by
  intro run s
  obtain ⟨request, rfl⟩ := h
  exact ⟨trivial, fun _ => rfl⟩

/-- A part of such calls ends with the gauge as it was. -/
theorem ensures_unmoving {kind : Call → Prop} {p : Act α} {post : α → Gauge → Prop}
    (calls : Only kind p) (still : ∀ call, kind call → Unmoving call)
    (ends : ∀ value, post value s) : (gauging run).Ensures p s post :=
  Monitor.ensures_of_only calls (fun call h => still call h run s) ends

/-! ## Requests and repairs

The loops count down, the gauge counts up. Each induction carries the sum of the two, which the
settings bound; so below the bound there is room for the next poll or the next repair. -/

/-- Waiting for a job moves nothing but the polls. -/
def Polled (before after : Gauge) : Prop :=
  after.broken = before.broken ∧ after.repairs = before.repairs

theorem waitForJob_gauged (session : Session) (job : Job) (left : Nat)
    (current : s.job = some job.id)
    (room : s.polls + left ≤ run.conversation.maxPolls.toNat) :
    (gauging run).Ensures (run.conversation.waitForJob session job left) s fun _ => Polled s := by
  -- the induction is on the polls that are left; every round makes one of them
  induction left generalizing s job with
  | zero => exact ⟨rfl, rfl⟩
  | succ left ih =>
    refine Monitor.ensures_ask_bind.mpr ⟨trivial, fun _ => ?_⟩
    refine Monitor.ensures_ask_bind.mpr ⟨⟨current, by change s.polls < _; omega⟩, fun answer => ?_⟩
    cases answer with
    | error failure => exact ⟨rfl, rfl⟩
    | ok snapshot =>
      dsimp only
      cases observed : job.observe snapshot with
      | error failure => exact ⟨rfl, rfl⟩
      | ok seen =>
        -- an observation keeps the identity, so the next poll is of the same job
        have same : seen.id = job.id := by rw [Job.eq_of_observe observed]
        dsimp only
        cases seen.status with
        | queued | running | timedOut =>
          refine ih seen (by rw [same]; exact current) ?_
          change s.polls + 1 + left ≤ _
          omega
        | completed | failed => exact ⟨rfl, rfl⟩

/-- A request counts as a repair when the sources do not compile. -/
def Requested (before after : Gauge) : Prop :=
  after.broken = before.broken ∧
    after.repairs = if before.broken.isSome then before.repairs + 1 else before.repairs

/-- A message is a repair if the sources are known not to compile. -/
theorem requested_note (session : Session) (text : String) (posted : Except Worker.Failure String) :
    Requested s (s.note (.worker (.sendMessage session text)) posted) := by
  simp only [Gauge.note, Requested]
  split <;> exact ⟨rfl, rfl⟩

/-- A dispatch of a text that may be sent counts as one request. -/
theorem dispatch_gauged (session : Session) {request : Request}
    (allowed : s.Allows run request.body) :
    (gauging run).Ensures (run.conversation.dispatch session request) s fun _ => Requested s := by
  refine Monitor.ensures_ask_bind.mpr ⟨allowed, fun posted => ?_⟩
  have sent : Requested s _ := requested_note session request.body posted
  cases posted with
  | error failure => exact sent
  | ok message =>
    refine Monitor.ensures_ask_bind.mpr ⟨trivial, fun started => ?_⟩
    cases started with
    | error failure => exact sent
    | ok job =>
      -- the job is the current one, and all polls are left for it
      refine Monitor.ensures_bind.mpr ((waitForJob_gauged session (.start job session.id) _ rfl
        (Nat.zero_add _).le).mono fun finished after polled => ?_)
      have requested : Requested s after := ⟨polled.1.trans sent.1, polled.2.trans sent.2⟩
      cases finished with
      | error failure => exact requested
      | ok job =>
        refine Monitor.ensures_ask_bind.mpr ⟨trivial, fun read => ?_⟩
        cases read <;> exact requested

/-- A dispatch whose answer is applied is one such request as well, since the write moves nothing. -/
theorem exchange_gauged (session : Session) (phase : Phase) {request : Request}
    (allowed : s.Allows run request.body) :
    (gauging run).Ensures (run.exchange session phase request).run s fun _ => Requested s := by
  refine ensures_run_bind.mpr (ensures_run_orFail.mpr ?_)
  refine (dispatch_gauged session allowed).mono ?_
  rintro (failure | reply) after requested
  · exact requested
  change (gauging run).Ensures (run.apply phase reply).run _ _
  unfold Run.apply
  cases Contract.ofReply reply with
  | error refusal => exact requested
  | ok contract =>
    exact ensures_unmoving (only_onDisk _) unmoving_disk fun _ => requested

theorem recover_gauged (session : Session) (iteration : UInt32) (left : Nat)
    (room : s.repairs + left ≤ run.maxRecoveryAttempts.toNat) :
    (gauging run).Ensures (run.recover session iteration left).run s fun _ _ => True := by
  -- the induction is on the repairs that are left; the next one is asked for with the complaint
  induction left generalizing s with
  | zero =>
    refine ensures_run_bind.mpr (ensures_run_orFail.mpr ⟨trivial, fun compiled => ?_⟩)
    cases compiled with
    | error failure => trivial
    | ok diagnostics =>
      change (gauging run).Ensures (ite _ _ _ : Attempt _).run _ _
      split <;> trivial
  | succ left ih =>
    refine ensures_run_bind.mpr (ensures_run_orFail.mpr ⟨trivial, fun compiled => ?_⟩)
    cases compiled with
    | error failure => trivial
    | ok diagnostics =>
      change (gauging run).Ensures (ite _ _ _ : Attempt _).run _ _
      split
      · trivial
      next complains =>
        -- the compilation complained, so what is sent next has to be the request for a repair
        have broken : s.note .compile (.ok diagnostics) = { s with broken := some diagnostics } := by
          simp only [Gauge.note, if_neg complains]
        have allowed : (s.note .compile (.ok diagnostics)).Allows run
            (Request.recovery diagnostics).body := by
          rw [broken]
          rintro _ ⟨⟩
          exact ⟨rfl, by change s.repairs < _; omega⟩
        refine ensures_run_bind.mpr ((exchange_gauged session .compileRecovery allowed).mono ?_)
        rintro (failure | _) after ⟨-, repairs⟩
        · trivial
        refine ih ?_
        rw [repairs, broken]
        change s.repairs + 1 + left ≤ _
        omega

/-- The sources compile, and no repair was asked for in the pass. -/
def Whole (s : Gauge) : Prop :=
  s.broken = none ∧ s.repairs = 0

/-- While the sources compile every text may be sent. -/
theorem Whole.allows (whole : Whole s) (text : String) : s.Allows run text := by
  intro diagnostics broken
  cases whole.1.symm.trans broken

/-- A request that is sent while the sources compile is not a repair. -/
theorem Whole.requested {after : Gauge} (whole : Whole s) (requested : Requested s after) :
    Whole after := by
  refine ⟨requested.1.trans whole.1, ?_⟩
  rw [requested.2, whole.1]
  exact whole.2

/-- Up to the first recompilation the requests of an iteration are no repairs. -/
theorem remediate_gauged (session : Session) (iteration : UInt32) (violations : List Violation)
    (whole : Whole s) :
    (gauging run).Ensures (run.remediate session iteration violations).run s fun _ _ => True := by
  have reads (path : Path) : (gauging run).Ensures (onDisk (Workspace.readText path)).run s
      fun _ => Whole :=
    ensures_unmoving (only_onDisk _) unmoving_disk fun _ => whole
  have context : (gauging run).Ensures (run.contextRequest violations).run s fun _ => Whole := by
    refine ensures_run_bind.mpr ((reads run.workspace.mainFile).mono ?_)
    rintro (failure | main) after whole
    · exact whole
    refine ensures_run_bind.mpr (ensures_unmoving (only_onDisk _) unmoving_disk ?_)
    rintro (failure | target) <;> exact whole
  refine ensures_run_bind.mpr (context.mono ?_)
  rintro (failure | request) after whole
  · trivial
  refine ensures_run_bind.mpr (ensures_run_discard.mpr (ensures_run_orFail.mpr
    ⟨whole.allows _, fun posted => ?_⟩))
  -- the context was sent while the sources compiled, so all repairs are still left
  have stays := whole.requested (requested_note session request.body posted)
  cases posted with
  | error failure => trivial
  | ok message =>
    refine ensures_run_bind.mpr ((exchange_gauged session .remediation (stays.allows _)).mono ?_)
    rintro (failure | _) after requested
    · trivial
    · refine recover_gauged session iteration _ ?_
      rw [(stays.requested requested).2, Nat.zero_add]

/-! ## Passes

A pass begins with an empty gauge and comes to an iteration only with sources that compile. -/

theorem iterate_gauged (iteration : UInt32) (violations : List Violation) (whole : Whole s) :
    (gauging run).Ensures (run.iterate iteration violations).run s fun _ _ => True := by
  refine ensures_iterate trivial fun now => ?_
  refine ensures_unmoving (only_onDisk _) unmoving_disk ?_
  rintro (failure | backup)
  · trivial
  refine ⟨fun _ => trivial, ?_⟩
  refine ensures_unmoving (only_openWithin run.conversation _ _ _) unmoving_setsUp ?_
  rintro (failure | session)
  · trivial
  refine (remediate_gauged session iteration violations whole).mono fun _ after _ => ?_
  exact ensures_unmoving (only_closeSession session) unmoving_setsUp fun _ => trivial

/-- With violations left, the sources compile and no repair was asked for. -/
def Found : Except Failure Finding → Gauge → Prop
  | .ok (.built (_ :: _)), s => Whole s
  | _, _ => True

theorem inspect_gauged (fresh : s.repairs = 0) :
    (gauging run).Ensures run.inspect.run s Found := by
  refine ensures_inspect Whole Whole trivial (fun _ => trivial) (fun _ _ => trivial) ?_ ?_ ?_
  · intro diagnostics blank
    have compiled : s.note .compile (.ok diagnostics) = { s with broken := none } := by
      simp only [Gauge.note, if_pos blank]
    change Whole (s.note .compile (.ok diagnostics))
    rw [compiled]
    exact ⟨rfl, fresh⟩
  · exact fun s whole => ⟨trivial, fun _ => trivial, whole⟩
  · refine fun s whole => ⟨trivial, fun _ => trivial, fun output => ?_⟩
    refine ensures_unmoving (only_onDisk _) unmoving_disk ?_
    rintro (failure | logged)
    · trivial
    refine ⟨trivial, fun now => ensures_unmoving (only_onDisk _) unmoving_disk ?_⟩
    rintro (failure | logged)
    · trivial
    · simp only [onward_ok]
      cases Violation.extract run.repeats output.rawLog with
      | nil => trivial
      | cons violation more => exact whole

theorem passes_gauged (progress : Progress) (left : Nat) :
    (gauging run).Ensures (run.passes progress left).run s fun _ _ => True := by
  -- the induction is on the iterations that are left; every pass begins with an empty gauge
  induction left generalizing s progress with
  | zero =>
    refine ensures_passes trivial trivial (fun _ => trivial) ((inspect_gauged rfl).mono ?_)
    rintro (failure | _ | _ | _) after found <;> trivial
  | succ left ih =>
    refine ensures_passes trivial trivial (fun _ => trivial) ((inspect_gauged rfl).mono ?_)
    rintro (failure | _ | _ | _) after found
    · trivial
    · trivial
    · trivial
    · refine (iterate_gauged progress.number _ found).mono ?_
      rintro (failure | _ | outcome) after -
      · trivial
      · exact ih progress.advance
      · trivial

/-- A run stays within the marks, since what comes before its passes moves nothing. -/
theorem start_gauged (run : Run) :
    (gauging run).Ensures run.start.run .start fun _ _ => True := by
  refine ensures_start (fun _ => True) (fun _ => True) ?_ (fun _ _ => trivial)
    (fun _ _ _ => trivial) (fun _ _ => trivial) (fun _ _ => ⟨trivial, fun _ => trivial⟩)
    fun _ _ => passes_gauged _ _
  refine ensures_unmoving (only_onDisk _) unmoving_disk ?_
  rintro (failure | _) <;> trivial

/-! ## Whole runs

The bounds on a whole run are instances of its cost, one for each kind of calls. The sum over all
kinds bounds the length of the history. -/

/-- How many calls of this kind the history has. -/
def tally (kind : Kind) (history : History Call Answer) : Nat :=
  history.countP (Chosen kind.is)

/-- The most calls of a run, of whatever kind. -/
def longest (run : Run) : Nat :=
  let polls := run.conversation.maxPolls.toNat
  let setups := run.conversation.sessionRetries.toNat + 1
  let opening := setups * (7 + run.workspace.artifacts.length + 2 * polls)
  let exchange := 4 + 2 * polls
  let recovery := run.maxRecoveryAttempts.toNat * (1 + exchange) + 1
  4 + (run.maxIterations.toNat + 1) * 10 +
    run.maxIterations.toNat * (8 + opening + exchange + recovery)

/-- The cost of a run in calls of any kind. -/
theorem runCost_all (run : Run) : runCost (fun _ => true) run = longest run := by
  simp only [runCost, inspectionCost, iterationCost, openingCost, setupCost, remediationCost,
    recoveryCost, exchangeCost, price, Bool.toNat_true, longest]
  ring

/-- What a run costs in calls of the kinds that its settings bound. -/
theorem runCost_is (run : Run) :
    runCost Kind.pass.is run = run.maxIterations.toNat + 1 ∧
    runCost Kind.build.is run = run.maxIterations.toNat + 1 ∧
    runCost Kind.compile.is run = run.maxIterations.toNat + 1 +
      run.maxIterations.toNat * (run.maxRecoveryAttempts.toNat + 1) ∧
    runCost Kind.backup.is run = run.maxIterations.toNat ∧
    runCost Kind.job.is run = run.maxIterations.toNat * (run.maxRecoveryAttempts.toNat + 1) := by
  simp [runCost, iterationCost, inspectionCost, openingCost, setupCost, remediationCost,
    recoveryCost, exchangeCost, price, Kind.is, Nat.add_comm]

/-- No run makes more calls of a kind than its cost. -/
theorem tally_le (run : Run) (kind : Kind) {history : History Call Answer}
    {result : Except Failure Outcome} (yields : Yields run.start.run history result) :
    tally kind history ≤ runCost kind.is run :=
  (costs_start run).sound yields

/-- The progress of a run after so many iterations. -/
theorem progress_after (maxIterations : UInt32) (done : Nat) :
    Progress.advance^[done] (.start maxIterations) = ⟨.ofNat done, maxIterations, false⟩ := by
  induction done with
  | zero => rfl
  | succ done ih =>
    rw [Function.iterate_succ_apply', ih]
    simp [Progress.advance]

/-- What bounds a run, whatever the toolchain, the worker and the file system answer. -/
structure Bounded (run : Run) (history : History Call Answer) : Prop where
  builds : tally .build history ≤ run.maxIterations.toNat + 1
  compiles : tally .compile history ≤
    run.maxIterations.toNat + 1 + run.maxIterations.toNat * (run.maxRecoveryAttempts.toNat + 1)
  backups : tally .backup history ≤ run.maxIterations.toNat
  sessions : history.countP handsOut ≤ run.maxIterations.toNat
  jobs : tally .job history ≤ run.maxIterations.toNat * (run.maxRecoveryAttempts.toNat + 1)
  /-- A poll is for the job that was started last, and of that job there are no more than this. -/
  polls : ∀ before session job answer rest,
    history = before ++ ⟨.worker (.pollJob session job), answer⟩ :: rest →
      (gauge before).job = some job ∧ (gauge before).polls < run.conversation.maxPolls.toNat
  /-- A message is a request for a repair when the fix of the pass does not compile, and of these
  there are no more than this. -/
  repairs : ∀ before session text answer rest,
    history = before ++ ⟨.worker (.sendMessage session text), answer⟩ :: rest →
      ∀ diagnostics, (gauge before).broken = some diagnostics →
        text = (Request.recovery diagnostics).body ∧
          (gauge before).repairs < run.maxRecoveryAttempts.toNat
  passes : tally .pass history ≤ run.maxIterations.toNat + 1
  /-- A pass follows on another only when that one had an iteration left. -/
  budget : ∀ before stop rest, history = before ++ ⟨.cancelled, stop⟩ :: rest →
    ∀ done, tally .pass before = done + 1 →
      (Progress.advance^[done] (.start run.maxIterations)).hasBudget = true
  /-- In all there are no more calls than this. -/
  calls : history.length ≤ longest run

/-- A pass behind so many others is within the budget. -/
theorem hasBudget_of_passes (run : Run) {history before rest : History Call Answer} {stop : Bool}
    (parts : history = before ++ ⟨.cancelled, stop⟩ :: rest)
    (passes : tally .pass history ≤ run.maxIterations.toNat + 1) {done : Nat}
    (earlier : tally .pass before = done + 1) :
    (Progress.advance^[done] (.start run.maxIterations)).hasBudget = true := by
  have counted : done + 1 + 1 ≤ tally .pass history := by
    rw [parts, tally, List.countP_append, List.countP_cons_of_pos rfl, ← earlier]
    exact Nat.add_le_add_left (Nat.le_add_left 1 _) _
  have left : done < run.maxIterations.toNat := by omega
  -- so the count fits 32 bits and is compared as a number
  have small : done < 2 ^ 32 := Nat.lt_trans left run.maxIterations.toNat_lt
  rw [progress_after]
  simp only [Progress.hasBudget, Bool.not_false, Bool.true_and, decide_eq_true_eq]
  rw [UInt32.lt_iff_toNat_lt, UInt32.toNat_ofNat', Nat.mod_eq_of_lt small]
  exact left

/-- The bounds hold of every history that the run can have. -/
theorem bounded_of_yields (run : Run) {history : History Call Answer}
    {result : Except Failure Outcome} (yields : Yields run.start.run history result) :
    Bounded run history := by
  have accepted := ((start_gauged run).sound yields).1
  obtain ⟨pass, build, compile, backup, job⟩ := runCost_is run
  have passes : tally .pass history ≤ run.maxIterations.toNat + 1 :=
    pass ▸ tally_le run .pass yields
  refine ⟨build ▸ tally_le run .build yields, compile ▸ tally_le run .compile yields,
    backup ▸ tally_le run .backup yields, (handouts_start run).sound yields,
    job ▸ tally_le run .job yields, ?_, ?_, passes, ?_, ?_⟩
  · rintro before session job answer rest rfl
    exact accepted.permits
  · rintro before session text answer rest rfl
    exact accepted.permits
  · exact fun before stop rest parts done => hasBudget_of_passes run parts passes
  · rw [← runCost_all, ← List.countP_true]
    have all : Costs (fun _ => true) run.start.run _ := costs_start run
    exact all.sound yields

/-- **Bounded runs.** However the toolchain, the worker and the file system answer, each answer
possibly dependent on all that happened before, the run ends, and what it did is bounded by its
settings: also when the diagnostics, the violations and the replies never get better. -/
theorem bounded_run (run : Run) (answers : History Call Answer → (call : Call) → Answer call) :
    ∃ history result, run.start.run.replay answers [] = (history, result) ∧
      Yields run.start.run history result ∧ Bounded run history :=
  have yields := Procedure.yields_replay answers run.start.run
  ⟨_, _, rfl, yields, bounded_of_yields run yields⟩

/-! ## A run that does all it may

The bounds on builds, compilations, archives, sessions, jobs and polls are reached by one run, so
none of them could be lower. -/

/-- A run that asks for one repair and polls a job twice. -/
def briefRun : Run :=
  { plainRun with conversation := { maxPolls := 2 }, maxRecoveryAttempts := 1 }

/-- A world in which nothing gets better: a fix compiles only after its last repair, a job takes all
its polls, and the violation stays. -/
def stubborn (past : History Call Answer) : (call : Call) → Answer call
  | .compile =>
    let begins := past.getLast?.any (·.1 = .cancelled)
    .ok (if begins || (gauge past).repairs = 1 then "" else "error")
  | .worker (.pollJob ..) => .ok ⟨if (gauge past).polls = 1 then .completed else .running, none⟩
  | call => unmoved call

/-- In that world the run makes all the builds, compilations, archives, sessions, jobs and polls that
it may. -/
theorem bounded_run_stubborn :
    ∃ history result, briefRun.start.run.replay stubborn [] = (history, result) ∧
      Bounded briefRun history ∧ tally .build history = 2 ∧ tally .compile history = 4 ∧
      tally .backup history = 1 ∧ history.countP handsOut = 1 ∧ tally .job history = 2 ∧
      tally .poll history = 4 := by
  obtain ⟨history, result, ends, -, bounded⟩ := bounded_run briefRun stubborn
  refine ⟨history, result, ends, bounded, ?_⟩
  have here : history = (briefRun.start.run.replay stubborn []).1 := by rw [ends]
  rw [here]
  decide +kernel

end Run

end AzcRepair
