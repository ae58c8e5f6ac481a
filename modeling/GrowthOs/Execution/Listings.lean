import GrowthOs.Db.Pages
import GrowthOs.Execution.Attempts
import GrowthOs.Execution.Queries
import GrowthOs.Foundation.Service

/-!
# Listings

The list operations return pages of the matching rows in their order, and `list_jobs` pairs every
job with its latest run. `listings_refine` says so for every reachable state.
-/

namespace GrowthOs.Execution

open Library Db Foundation

variable {d : Database schema} {context : TenantContext}

/-- The runs of a job that the tenant can see. -/
def visibleRuns (runs : List ExecutionRun) (tenantId jobId : Uuid) : List ExecutionRun :=
  runs.filter fun run => run.tenantId = tenantId && run.jobId = jobId

/-- The runs of a job that the tenant sees. -/
theorem mem_visible_runs {runs : List ExecutionRun} {tenantId jobId : Uuid} {run : ExecutionRun} :
    run ∈ visibleRuns runs tenantId jobId ↔
      run ∈ runs ∧ run.tenantId = tenantId ∧ run.jobId = jobId := by
  simp [visibleRuns]

/-- The latest run is the one with the highest attempt number. -/
theorem latest_run_eq_some {runs : List ExecutionRun} {tenantId jobId : Uuid} {run : ExecutionRun}
    (hunique : ∀ r ∈ visibleRuns runs tenantId jobId, ∀ r' ∈ visibleRuns runs tenantId jobId,
      r.attemptNumber = r'.attemptNumber → r = r')
    (hrun : run ∈ visibleRuns runs tenantId jobId)
    (hmax : ∀ r ∈ visibleRuns runs tenantId jobId, r.attemptNumber ≤ run.attemptNumber) :
    latestRunOf runs tenantId jobId = some run := by
  show List.argmax (·.attemptNumber) (visibleRuns runs tenantId jobId) = some run
  cases hlatest : List.argmax (·.attemptNumber) (visibleRuns runs tenantId jobId) with
  | none =>
      rw [List.argmax_eq_none.mp hlatest] at hrun
      cases hrun
  | some latest =>
      have hmem := List.argmax_mem hlatest
      have hle : run.attemptNumber ≤ latest.attemptNumber := List.le_of_mem_argmax hrun hlatest
      have hge := hmax latest hmem
      rw [hunique latest hmem run hrun (by omega)]

/-- The first run of a job in the scan of a page is its latest one. -/
theorem find_runs_of_page {runs : List ExecutionRun} {tenantId : Uuid} {jobs : List ExecutionJob}
    {job : ExecutionJob} (hjob : job ∈ jobs)
    (hunique : ∀ r ∈ visibleRuns runs tenantId job.id, ∀ r' ∈ visibleRuns runs tenantId job.id,
      r.attemptNumber = r'.attemptNumber → r = r') :
    (runsOfPage runs tenantId jobs).find? (fun run => run.jobId = job.id) =
      latestRunOf runs tenantId job.id := by
  have hmem : ∀ run, run ∈ runsOfPage runs tenantId jobs ∧ run.jobId = job.id ↔
      run ∈ visibleRuns runs tenantId job.id := by
    intro run
    have hjobs : run.jobId = job.id → ∃ j ∈ jobs, j.id = run.jobId := fun h => ⟨job, hjob, h.symm⟩
    rw [mem_visible_runs]
    unfold runsOfPage
    rw [List.mem_mergeSort, List.mem_filter]
    simp only [Bool.and_eq_true, decide_eq_true_eq, List.mem_map]
    constructor
    · rintro ⟨⟨hrun, htenant, _⟩, hid⟩
      exact ⟨hrun, htenant, hid⟩
    · rintro ⟨hrun, htenant, hid⟩
      exact ⟨⟨hrun, htenant, hjobs hid⟩, hid⟩
  cases hfind : (runsOfPage runs tenantId jobs).find? (fun run => run.jobId = job.id) with
  | none =>
      have hnone : visibleRuns runs tenantId job.id = [] := by
        refine List.eq_nil_iff_forall_not_mem.mpr fun run hrun => ?_
        obtain ⟨hpage, hid⟩ := (hmem run).mpr hrun
        simpa [hid] using List.find?_eq_none.mp hfind run hpage
      show none = List.argmax _ (visibleRuns runs tenantId job.id)
      rw [hnone]
      rfl
  | some run =>
      obtain ⟨hid, before, after, hsplit, hbefore⟩ := List.find?_eq_some_iff_append.mp hfind
      have hid : run.jobId = job.id := by simpa using hid
      have hpage : run ∈ runsOfPage runs tenantId jobs := List.mem_of_find?_eq_some hfind
      refine (latest_run_eq_some hunique ((hmem run).mp ⟨hpage, hid⟩) fun r hr => ?_).symm
      obtain ⟨hrpage, hrid⟩ := (hmem r).mpr hr
      have hsorted : (runsOfPage runs tenantId jobs).Pairwise fun run run' =>
          run.jobId < run'.jobId ∨
            run.jobId = run'.jobId ∧ run'.attemptNumber ≤ run.attemptNumber := by
        refine (List.pairwise_mergeSort ?_ ?_ _).imp fun h => by simpa using h
        · intro a b c hab hbc
          simp only [Bool.or_eq_true, Bool.and_eq_true, decide_eq_true_eq] at hab hbc ⊢
          grind
        · intro a b
          simp only [Bool.or_eq_true, Bool.and_eq_true, decide_eq_true_eq]
          grind
      rw [hsplit] at hrpage hsorted
      -- no run of the job comes before the first one, and those after it are earlier attempts
      rcases List.mem_append.mp hrpage with hin | hin
      · have hother := hbefore r hin
        simp [hrid] at hother
      · rcases List.mem_cons.mp hin with rfl | hlater
        · exact Int.le_refl _
        · have hpair := (List.pairwise_cons.mp (List.pairwise_append.mp hsorted).2.1).1 r hlater
          rcases hpair with hlt | ⟨_, hle⟩
          · rw [hid, hrid] at hlt
            exact absurd hlt (Nat.lt_irrefl _)
          · exact hle

/-! ## The list operations -/

/-- A filter by a row that the tenant does not own. -/
def Refused (d : Database schema) (t : Table) (context : TenantContext) (filter : Option Uuid) :
    Prop :=
  ∃ id, filter = some id ∧ ¬ Owns d t context id

/-- A filter by an unknown identifier is refused. -/
theorem reads_require_filter (t : Table) (context : TenantContext) (filter : Option Uuid) :
    Reads d (requireFilter t context filter) fun result =>
      (Refused d t context filter ∧ result = .error .notFound) ∨
        ¬ Refused d t context filter ∧ result = .ok () := by
  cases filter with
  | none =>
      refine reads_post (reads_pure ()) fun result h => .inr ⟨?_, h⟩
      rintro ⟨id, hid, _⟩
      cases hid
  | some id =>
      refine reads_bind (reads_require_owned t context id) (fun row hrow => ?_) (fun e he => ?_)
      · rcases hrow with ⟨howns, _⟩ | ⟨_, hrefused⟩
        · refine reads_post (reads_pure ()) fun result h => .inr ⟨?_, h⟩
          rintro ⟨id', hid, hnot⟩
          cases hid
          exact hnot howns
        · cases hrefused
      · rcases he with ⟨_, row, hrow⟩ | ⟨hnot, hrefused⟩
        · cases hrow
        · cases hrefused
          exact .inl ⟨⟨id, rfl, hnot⟩, rfl⟩

/-- A list operation behind a check. -/
theorem page_law_filtered {t u : Table} {condition : t.Row → Bool} {key : t.Row → Int}
    {filter : Option Uuid} (hd : Consistent d) :
    PageLaw d condition key id (Refused d u context filter) (fun page => do
      requireFilter u context filter
      listPage t condition key page) := by
  refine page_law_of_reads hd fun request => ?_
  refine reads_bind (reads_require_filter u context filter) (fun _ hpassed => ?_) (fun e he => ?_)
  · rcases hpassed with ⟨_, hrefused⟩ | ⟨hpassed, _⟩
    · cases hrefused
    · refine reads_post (reads_list_page t condition key request) fun result hresult => ?_
      exact .inr ⟨hpassed, _, hresult, List.map_id _⟩
  · rcases he with ⟨hrefused, he⟩ | ⟨_, he⟩
    · cases he
      exact .inl ⟨hrefused, rfl⟩
    · cases he

/-- A list operation of one row that the tenant has to own. -/
theorem page_law_owned {t u : Table} {condition : t.Row → Bool} {key : t.Row → Int} {id' : Uuid}
    (hd : Consistent d) :
    PageLaw d condition key id (¬ Owns d u context id') (fun page => do
      let _ ← requireOwned u context id'
      listPage t condition key page) := by
  refine page_law_of_reads hd fun request => ?_
  refine reads_bind (reads_require_owned u context id') (fun _ hpassed => ?_) (fun e he => ?_)
  · rcases hpassed with ⟨howns, _⟩ | ⟨_, hrefused⟩
    · refine reads_post (reads_list_page t condition key request) fun result hresult => ?_
      exact .inr ⟨fun hnot => hnot howns, _, hresult, List.map_id _⟩
    · cases hrefused
  · rcases he with ⟨_, row, he⟩ | ⟨hnot, he⟩
    · cases he
    · cases he
      exact .inl ⟨hnot, rfl⟩

/-- Every job of the tenant has a run that the tenant can see, and no two with the same number. -/
def JobsHaveRuns (d : Database schema) : Prop :=
  ∀ job ∈ d .jobs, visibleRuns (d .runs) job.tenantId job.id ≠ [] ∧
    ∀ r ∈ visibleRuns (d .runs) job.tenantId job.id,
      ∀ r' ∈ visibleRuns (d .runs) job.tenantId job.id, r.attemptNumber = r'.attemptNumber → r = r'

/-- Every job has a run. -/
theorem jobs_have_runs_of_invariant (h : Invariant d) : JobsHaveRuns d := by
  intro job hjob
  obtain ⟨n, hattempts, -⟩ := h.jobs job hjob
  have hruns : ∀ {run}, run ∈ visibleRuns (d .runs) job.tenantId job.id →
      run ∈ runsOf d job.id := fun hrun =>
    ⟨(mem_visible_runs.mp hrun).1, (mem_visible_runs.mp hrun).2.2⟩
  refine ⟨?_, fun r hr r' hr' heq => hattempts.unique r (hruns hr) r' (hruns hr') heq⟩
  obtain ⟨run, hrun, -⟩ := (hattempts.numbers 1).mpr ⟨Int.le_refl 1, hattempts.pos⟩
  refine List.ne_nil_of_mem (mem_visible_runs.mpr ⟨hrun.1, hattempts.tenant run hrun, hrun.2⟩)

/-- A job is paired with its latest run. -/
def IsPaired (d : Database schema) (context : TenantContext) (result : JobResult) : Prop :=
  result.created = false ∧
    latestRunOf (d .runs) context.tenantId result.job.id = some result.latestRun

/-- The jobs of a page are paired with their latest runs. -/
theorem reads_job_results {jobs : List ExecutionJob}
    (h : ∀ job ∈ jobs, ∃ run, latestRunOf (d .runs) context.tenantId job.id = some run) :
    Reads d (jobResults (jobs.map fun job =>
      (job, latestRunOf (d .runs) context.tenantId job.id))) fun result =>
        ∃ items, result = .ok items ∧ items.map (·.job) = jobs ∧
          ∀ item ∈ items, IsPaired d context item := by
  induction jobs with
  | nil => exact reads_post (reads_pure []) fun result hresult =>
      ⟨[], hresult, rfl, fun _ hitem => nomatch hitem⟩
  | cons job jobs ih =>
      obtain ⟨run, hrun⟩ := h job List.mem_cons_self
      rw [List.map_cons, hrun]
      refine reads_bind (ih fun other hother => h other (List.mem_cons_of_mem _ hother))
        (fun items hitems => ?_) (fun e he => ?_)
      · obtain ⟨items', hsame, hjobs, hpaired⟩ := hitems
        cases hsame
        refine reads_post (reads_pure _) fun result hresult =>
          ⟨_, hresult, ?_, fun item hitem => ?_⟩
        · rw [List.map_cons, hjobs]
        · rcases List.mem_cons.mp hitem with rfl | hrest
          · exact ⟨rfl, hrun⟩
          · exact hpaired item hrest
      · obtain ⟨items, he, -⟩ := he
        cases he

/-- The page of `list_jobs`. -/
def jobPage (d : Database schema) (context : TenantContext) (filter : JobFilter)
    (page : PageRequest) : List ExecutionJob :=
  pageOf (orderBy (t := .jobs) byCreation (matching d (filter.condition context))) page.limit
    page.offset

/-- A job of a page is a job of the tenant. -/
theorem mem_job_page {filter : JobFilter} {page : PageRequest} {job : ExecutionJob}
    (h : job ∈ jobPage d context filter page) :
    job ∈ d .jobs ∧ job.tenantId = context.tenantId := by
  have hmem := List.mem_of_mem_drop (List.mem_of_mem_take h)
  rw [orderBy, List.mem_mergeSort] at hmem
  obtain ⟨hstored, hcondition⟩ := List.mem_filter.mp hmem
  simp only [JobFilter.condition, Bool.and_eq_true, decide_eq_true_eq] at hcondition
  exact ⟨hstored, hcondition.1.1.1⟩

/-- The number of jobs of `list_jobs`. -/
def jobCount (d : Database schema) (context : TenantContext) (filter : JobFilter) : Nat :=
  (matching (t := .jobs) d (filter.condition context)).length

/-- The batched query pairs every job of the page with the run that `latest_run` returns for it. -/
theorem reads_jobs_with_latest_runs (hruns : JobsHaveRuns d) (filter : JobFilter)
    (page : PageRequest) :
    Reads d (listJobsWithLatestRuns context filter page) fun result => result =
      .ok ((jobPage d context filter page).map fun job =>
        (job, latestRunOf (d .runs) context.tenantId job.id), jobCount d context filter) := by
  refine reads_bind (reads_list_page .jobs (filter.condition context) byCreation page)
    (fun found hfound => ?_) (fun e he => nomatch he)
  cases hfound
  show Reads d (if jobPage d context filter page = [] then _ else _) _
  split
  · rename_i hempty
    refine reads_post (reads_pure _) fun result hresult => ?_
    rw [hresult, hempty]
    rfl
  · refine reads_bind (reads_select _) (fun runs hscan => ?_) (fun e he => nomatch he)
    cases hscan
    refine reads_post (reads_pure _) fun result hresult => ?_
    rw [hresult]
    refine congrArg (fun jobs => Except.ok (jobs, jobCount d context filter))
      (List.map_congr_left fun job hjob => ?_)
    obtain ⟨hstored, htenant⟩ := mem_job_page hjob
    have hunique := (hruns job hstored).2
    rw [htenant] at hunique
    exact congrArg (Prod.mk job) (find_runs_of_page hjob hunique)

/-- `list_jobs` reads its page. -/
theorem reads_list_jobs (hruns : JobsHaveRuns d) (filter : JobFilter) (page : PageRequest) :
    Reads d (listJobs context filter page) fun result =>
      (Refused d .workspaces context filter.workspaceId ∧ result = .error .notFound) ∨
        ¬ Refused d .workspaces context filter.workspaceId ∧ ∃ items,
          result = .ok (items, jobCount d context filter) ∧
          items.map (·.job) = jobPage d context filter page ∧
          ∀ item ∈ items, IsPaired d context item := by
  refine reads_bind (reads_require_filter .workspaces context filter.workspaceId)
    (fun _ hpassed => ?_) (fun e he => ?_)
  · rcases hpassed with ⟨_, hrefused⟩ | ⟨hpassed, _⟩
    · cases hrefused
    · refine reads_bind (reads_jobs_with_latest_runs hruns filter page) (fun found hfound => ?_)
        (fun e he => nomatch he)
      cases hfound
      have hlatest : ∀ job ∈ jobPage d context filter page,
          ∃ run, latestRunOf (d .runs) context.tenantId job.id = some run := by
        intro job hjob
        obtain ⟨hstored, htenant⟩ := mem_job_page hjob
        have hsome := (hruns job hstored).1
        rw [htenant] at hsome
        exact Option.ne_none_iff_exists'.mp fun hnone => hsome (List.argmax_eq_none.mp hnone)
      refine reads_bind (reads_job_results hlatest) (fun items hitems => ?_) (fun e he => ?_)
      · obtain ⟨items', hsame, hjobs, hpaired⟩ := hitems
        cases hsame
        exact reads_post (reads_pure _) fun result hresult =>
          .inr ⟨hpassed, items, hresult, hjobs, hpaired⟩
      · obtain ⟨items, he, -⟩ := he
        cases he
  · rcases he with ⟨hrefused, he⟩ | ⟨_, he⟩
    · cases he
      exact .inl ⟨hrefused, rfl⟩
    · cases he

/-- Its pages obey the law. -/
theorem page_law_list_jobs (hd : Consistent d) (hruns : JobsHaveRuns d) (filter : JobFilter) :
    PageLaw (t := .jobs) d (filter.condition context) byCreation JobResult.job
      (Refused d .workspaces context filter.workspaceId) (listJobs context filter) := by
  refine page_law_of_reads hd fun request =>
    reads_post (reads_list_jobs hruns filter request) fun result hresult => ?_
  exact hresult.imp id fun hpage => by
    obtain ⟨hpassed, items, hresult, hjobs, _⟩ := hpage
    exact ⟨hpassed, items, hresult, hjobs⟩

/-- The jobs of a page are paired with the runs that `latest_run` returns for them. -/
def AllPaired (d : Database schema) (context : TenantContext) (refused : Prop)
    (result : Except ServiceError (List JobResult × Nat)) : Prop :=
  refused ∨ ∃ items total, result = .ok (items, total) ∧ ∀ item ∈ items, item.created = false ∧
    Reads d (latestRun context item.job.id) (· = .ok (some item.latestRun))

/-- Every job that `list_jobs` returns is paired with the run that `latest_run` returns for it. -/
theorem list_jobs_paired (hruns : JobsHaveRuns d) (filter : JobFilter) (request : PageRequest)
    (supply : Supply) (n : Nat) :
    Within (AllPaired d context (Refused d .workspaces context filter.workspaceId))
      ((listJobs context filter request).run supply n (.start d)).1
      ((listJobs context filter request).run supply n (.start d)).2.1 := by
  refine within_mono (run_of_reads (reads_list_jobs hruns filter request) supply n)
    fun hresult => ?_
  rcases hresult with ⟨hrefused, _⟩ | ⟨_, items, hresult, _, hpaired⟩
  · exact .inl hrefused
  · refine .inr ⟨items, _, hresult, fun item hitem => ?_⟩
    obtain ⟨hcreated, hlatest⟩ := hpaired item hitem
    refine ⟨hcreated, reads_post (reads_select _) fun result h => ?_⟩
    rw [h, hlatest]

/-- In every reachable state, for every tenant and all filters: `list_jobs` returns the part of the
matching jobs in the order of their creation that the limit and the offset say, each paired with the
run that `latest_run` returns for it, with the number of all matching jobs, and it is refused for a
workspace that the tenant does not own only. It raises a failure of the database only where its
connection has failed at a statement. Consecutive pages go through the matching jobs once. The other
list operations have the same law of pages. -/
theorem listings_refine {sys : System schema ServiceError Response Request} (h : Served sys)
    (context : TenantContext) :
    (∀ filter : JobFilter, PageLaw (t := .jobs) sys.committed (filter.condition context) byCreation
      JobResult.job (Refused sys.committed .workspaces context filter.workspaceId)
      (listJobs context filter)) ∧
    (∀ filter request supply n, Within (AllPaired sys.committed context
        (Refused sys.committed .workspaces context filter.workspaceId))
      ((listJobs context filter request).run supply n (.start sys.committed)).1
      ((listJobs context filter request).run supply n (.start sys.committed)).2.1) ∧
    (∀ jobId, PageLaw (t := .runs) sys.committed
      (fun run => run.tenantId = context.tenantId && run.jobId = jobId) (·.attemptNumber) id
      (¬ Owns sys.committed .jobs context jobId) (listRuns context jobId)) ∧
    (∀ filter : ProposalFilter, PageLaw (t := .proposals) sys.committed (filter.condition context)
      byCreation id (Refused sys.committed .jobs context filter.jobId)
      (listProposals context filter)) ∧
    (∀ filter : AuditFilter, PageLaw (t := .auditEvents) sys.committed (filter.condition context)
      byCreation id False (listAuditEvents context filter)) ∧
    ∀ workspaceId, PageLaw (t := .competitors) sys.committed
      (fun competitor => competitor.tenantId = context.tenantId &&
        competitor.workspaceId = workspaceId) byCreation id
      (¬ Owns sys.committed .workspaces context workspaceId)
      (listCompetitors context workspaceId) := by
  have hsound := sound_of_served h
  have hd := hsound.consistent
  have hruns := jobs_have_runs_of_invariant hsound.invariant
  refine ⟨page_law_list_jobs hd hruns, list_jobs_paired hruns, fun _ => page_law_owned hd,
    fun _ => page_law_filtered hd, fun filter => ?_, fun _ => page_law_owned hd⟩
  refine page_law_of_reads hd fun request => ?_
  refine reads_post (reads_list_page _ _ _ _) fun result hresult => ?_
  exact .inr ⟨id, _, hresult, List.map_id _⟩

/-- The theorem on a job with two runs. -/
theorem listings_refine_retried :
    PageLaw (t := .jobs) retriedSystem.committed
      (JobFilter.condition ⟨none, some .failed, none⟩ newContext) byCreation
      JobResult.job (Refused retriedSystem.committed .workspaces newContext none)
      (listJobs newContext ⟨none, some .failed, none⟩) :=
  (listings_refine retried_system_served newContext).1 ⟨none, some .failed, none⟩

end GrowthOs.Execution
