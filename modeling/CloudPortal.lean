import CloudPortal.Jobs.FenceLift
import CloudPortal.Jobs.Leaks
import CloudPortal.Jobs.Addresses
import CloudPortal.Jobs.ParallelLimit
import CloudPortal.Jobs.Executable
import CloudPortal.Jobs.Day2Coupling
import CloudPortal.Policy.Day2Capacity
import CloudPortal.Execution.DirectClone
import CloudPortal.Iam.Separation
import CloudPortal.Iam.TokenBound
import CloudPortal.Events.Consumers
import CloudPortal.Events.Materialization
import CloudPortal.Events.Retention
import CloudPortal.Iam.Isolation
import CloudPortal.Quota.Accounted
import CloudPortal.Policy.Definitions
import CloudPortal.Ipam.Integrity
import CloudPortal.Iam.JitDecisions
import CloudPortal.Iam.Visibility
import CloudPortal.Jobs.CloneCheckpoint
import CloudPortal.Updater.HostChanges
import CloudPortal.Iam.TokenFamilies
import CloudPortal.Workflow.Hostname
import CloudPortal.Policy.Regex
import CloudPortal.Execution.TaskReconcile
