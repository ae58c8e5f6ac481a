import GrowthOs.Db.Session
import Mathlib.Data.List.MinMax

/-!
# The execution repository

`execution_repository.py`: the queries and compare-and-set updates of jobs and runs.
-/

namespace GrowthOs.Execution

open Library Db

/-- `get_job_by_idempotency_key`. -/
def getJobByIdempotencyKey (context : TenantContext) (idempotencyKey : String) :
    Service (Option ExecutionJob) :=
  scalar .jobs fun job =>
    job.tenantId = context.tenantId && job.idempotencyKey = idempotencyKey

/-- The run of a job with the highest attempt number. -/
def latestRunOf (runs : List ExecutionRun) (tenantId jobId : Uuid) : Option ExecutionRun :=
  let order : LinearOrder Int := Int.instLinearOrder
  @List.argmax _ _ order.toPreorder order.toDecidableLT (·.attemptNumber)
    (runs.filter fun run => run.tenantId = tenantId && run.jobId = jobId)

/-- `latest_run`. -/
def latestRun (context : TenantContext) (jobId : Uuid) : Service (Option ExecutionRun) :=
  statement (.select fun d => latestRunOf (d .runs) context.tenantId jobId)

/-- `compare_and_set_job_status`. -/
def compareAndSetJobStatus (context : TenantContext) (jobId : Uuid)
    (expectedStatus targetStatus : ExecutionStatus) : Service Bool :=
  statement (.update .jobs jobId
    (fun job => job.tenantId = context.tenantId && job.status = expectedStatus)
    fun time job => { job with status := targetStatus, updatedAt := time })

/-- `compare_and_set_run_status`. -/
def compareAndSetRunStatus (context : TenantContext) (runId : Uuid)
    (expectedStatus targetStatus : ExecutionStatus) : Service Bool :=
  statement (.update .runs runId
    (fun run => run.tenantId = context.tenantId && run.status = expectedStatus)
    fun time run => { run with status := targetStatus, updatedAt := time })

/-- `insert_run`. -/
def insertRun (run : Nat → ExecutionRun) : Service Unit := insert .runs run

end GrowthOs.Execution
