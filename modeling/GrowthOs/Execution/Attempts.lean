import GrowthOs.Execution.CreateJob
import GrowthOs.Library.Sequential
import Mathlib.Data.List.Perm.Basic

/-!
# Jobs and their attempts

What holds of the runs of every job in every state that any order of requests reaches.
-/

namespace GrowthOs.Execution

open Library Db

/-- A database before the first job: tenants and workspaces are there. -/
structure Initial (d : Database schema) : Prop where
  consistent : Consistent d
  jobs : d .jobs = []
  runs : d .runs = []
  proposals : d .proposals = []
  decisions : d .decisions = []
  events : ∀ event ∈ d .auditEvents, event.resourceType ≠ jobResource

/-- A new database satisfies the invariant. -/
theorem invariant_of_initial {d : Database schema} (h : Initial d) : Invariant d := by
  refine ⟨?_, fun event hevent htype => absurd htype (h.events event hevent), ?_, ?_, ?_⟩
  · simp [h.runs]
  · simp [h.jobs]
  · simp [h.decisions]
  · simp [h.proposals]

/-- A system that serves requests on a database without jobs. -/
abbrev Served (sys : System schema ServiceError Response Request) : Prop :=
  Reachable serve Initial sys

/-- A served system is sound. -/
theorem sound_of_served {sys : System schema ServiceError Response Request} (h : Served sys) :
    Sound executionRules Answered sys :=
  sound_of_reachable serves_answered (fun _ hd => ⟨invariant_of_initial hd, hd.consistent⟩) h

/-- The runs of a job in the order of their insertion. -/
def runList (d : Database schema) (jobId : Uuid) : List ExecutionRun :=
  (d .runs).filter fun run => run.jobId = jobId

/-- The runs of a job as a list. -/
theorem mem_run_list {d : Database schema} {jobId : Uuid} {run : ExecutionRun} :
    run ∈ runList d jobId ↔ run ∈ runsOf d jobId := by
  simp [runList, runsOf]

/-- The runs agree with their job. The attempt numbers are 1 to `n`, each once, within the limit of
attempts. The last attempt has the status of the job, and the others have failed. -/
structure RunsAgree (runs : List ExecutionRun) (job : ExecutionJob) (n : Nat) : Prop where
  some : 1 ≤ n
  numbers : (runs.map (·.attemptNumber)).Perm ((List.range n).map fun i : Nat => (i : Int) + 1)
  limit : ∀ run ∈ runs, (n : Int) ≤ run.maxAttempts
  latest : ∀ run ∈ runs, run.attemptNumber = n → run.status = job.status
  earlier : ∀ run ∈ runs, run.attemptNumber ≠ n → run.status = .failed
  tenant : ∀ run ∈ runs, run.tenantId = job.tenantId
  limits : ∀ run ∈ runs, ∀ run' ∈ runs, run.maxAttempts = run'.maxAttempts ∧
    run.retryDelaySeconds = run'.retryDelaySeconds

/-- Attempts with different numbers are as many as their numbers. -/
theorem runs_agree_of_attempts {d : Database schema} (hd : Consistent d) {job : ExecutionJob}
    {k : Int} (h : Attempts (runsOf d job.id) job k) :
    RunsAgree (runList d job.id) job k.toNat := by
  obtain ⟨hpos, hnumbers, hunique, hlatest, hearlier, htenant, hlimits⟩ := h
  have hk : (k.toNat : Int) = k := Int.toNat_of_nonneg (by omega)
  have hmem : ∀ {run}, run ∈ runList d job.id → run ∈ runsOf d job.id := mem_run_list.mp
  refine ⟨by omega, ?_, ?_, ?_, ?_, fun run hrun => htenant run (hmem hrun),
    fun run hrun run' hrun' => hlimits run (hmem hrun) run' (hmem hrun')⟩
  · have hrows : (runList d job.id).Nodup := (hd .runs).nodup.of_map.filter _
    have hdistinct : ((runList d job.id).map (·.attemptNumber)).Nodup :=
      hrows.map_on fun run hrun run' hrun' => hunique run (hmem hrun) run' (hmem hrun')
    have hrange : ((List.range k.toNat).map fun i : Nat => (i : Int) + 1).Nodup :=
      List.nodup_range.map fun i j heq => by
        omega
    refine (List.perm_ext_iff_of_nodup hdistinct hrange).mpr fun number => ?_
    have hnumber : number ∈ (runList d job.id).map (·.attemptNumber) ↔
        1 ≤ number ∧ number ≤ k := by
      simp only [List.mem_map, mem_run_list]
      exact hnumbers number
    rw [hnumber]
    simp only [List.mem_map, List.mem_range]
    constructor
    · intro hbounds
      exact ⟨(number - 1).toNat, by omega, by omega⟩
    · rintro ⟨i, hi, rfl⟩
      omega
  · intro run hrun
    -- The last attempt passes the check of its row, and every attempt has the same limit.
    obtain ⟨last, hlast, hnumber⟩ := (hnumbers k).mpr ⟨hpos, le_refl k⟩
    have hcheck : @rowCheck .runs last = true := (hd .runs).check last hlast.1
    have hlimit := (hlimits run (hmem hrun) last hlast).1
    simp only [rowCheck, Bool.and_eq_true, decide_eq_true_eq] at hcheck
    omega
  · rw [hk]
    exact fun run hrun => hlatest run (hmem hrun)
  · rw [hk]
    exact fun run hrun => hearlier run (hmem hrun)

/-- In every reachable state, every job agrees with its runs. -/
theorem job_agrees_with_runs {sys : System schema ServiceError Response Request} (h : Served sys)
    {job : ExecutionJob} (hjob : job ∈ sys.committed .jobs) :
    ∃ n, RunsAgree (runList sys.committed job.id) job n := by
  have hsound := sound_of_served h
  obtain ⟨k, hattempts, -⟩ := hsound.invariant.jobs job hjob
  exact ⟨k.toNat, runs_agree_of_attempts hsound.consistent hattempts⟩

/-! ## A run of the service -/

/-- A database with one tenant and one workspace. -/
def newDatabase : Database schema
  | .tenants => [⟨1, 0, 0, "Tenant"⟩]
  | .workspaces => [⟨2, 0, 0, 1, "Workspace"⟩]
  | _ => []

/-- The sample database is new. -/
theorem new_database_initial : Initial newDatabase := by
  refine ⟨fun t => ?_, rfl, rfl, rfl, rfl, by simp [newDatabase]⟩
  cases t <;> exact ⟨by decide, by simp [newDatabase], by decide⟩

/-- Identifiers and clock readings in increasing order. -/
def countingSupply : Supply := ⟨fun n => 100 + n, id, fun _ => false⟩

/-- The tenant of the example. -/
def newContext : TenantContext := ⟨1⟩

/-- The creation of the job 102. -/
def newRequest : JobRequest := ⟨2, "crawl", "key", 3, 60⟩

/-- A job that fails, is retried, and succeeds at its second attempt. -/
def retriedRequests : List Request :=
  [.createJob newContext newRequest, .transitionJob newContext 102 .queued .running none,
    .transitionJob newContext 102 .running .failed none, .reserveRetry newContext 102 1 none,
    .transitionJob newContext 102 .queued .running none,
    .transitionJob newContext 102 .running .succeeded none]

/-- The system after these requests, and the number of its statements. -/
@[irreducible] def retriedState : System schema ServiceError Response Request × Nat :=
  serveAll serve countingSupply newDatabase retriedRequests

/-- The system after these requests. -/
abbrev retriedSystem : System schema ServiceError Response Request := retriedState.1

/-- The sample system is served. -/
theorem retried_system_served : Served retriedSystem := by
  unfold retriedSystem retriedState
  exact serve_all_reachable serve countingSupply new_database_initial retriedRequests

/-- The job of this system. -/
def retriedJob : ExecutionJob := ⟨102, 6, 50, 1, 2, "crawl", "key", .succeeded⟩

/-- Its job is stored. -/
theorem retried_job_mem : retriedJob ∈ retriedSystem.committed .jobs := by
  decide +kernel

/-- The job agrees with its two runs. -/
theorem retried_job_agrees_with_runs :
    (∃ n, RunsAgree (runList retriedSystem.committed retriedJob.id) retriedJob n) ∧
      (runList retriedSystem.committed retriedJob.id).map (·.status) = [.failed, .succeeded] :=
  ⟨job_agrees_with_runs retried_system_served retried_job_mem, by decide +kernel⟩

end GrowthOs.Execution
