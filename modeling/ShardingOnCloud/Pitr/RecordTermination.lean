import ShardingOnCloud.Pitr.DeleteSpec
import ShardingOnCloud.Pitr.Progress
import ShardingOnCloud.Pitr.Rendering
import ShardingOnCloud.Pitr.RestoreRuns
import ShardingOnCloud.Pitr.BackupIds

namespace ShardingOnCloud.Pitr.RecordTermination

open ShardingOnCloud.Lib.Program ShardingOnCloud.Lib.Pool ShardingOnCloud.Lib.Termination
open ShardingOnCloud.Pitr.Model ShardingOnCloud.Pitr.Calls ShardingOnCloud.Pitr.Backup
open ShardingOnCloud.Pitr.LocalStorage ShardingOnCloud.Pitr.StorageSpec
open ShardingOnCloud.Pitr.Restore ShardingOnCloud.Pitr.RestoreSpec ShardingOnCloud.Pitr.Delete
open ShardingOnCloud.Pitr.BackupIds (restoreTasks_at)
open ShardingOnCloud.Pitr.BackupRuns (nodeA nodeB reported recordName recordName_json)
open ShardingOnCloud.Pitr.RestoreRuns
open ShardingOnCloud.Pitr.DeleteSpec ShardingOnCloud.Pitr.Progress ShardingOnCloud.Pitr.Rendering

section Tasks

variable {κ : Chan} {updateF : Unit → Go (Unit × Bool × Option Err)}

end Tasks

section Waiting

variable {pk : Packages} {κ : Chan} {expected : ℕ} {ws : List (Go Unit)}

end Waiting

def Covered (r : LsBackup) : Prop :=
  ∃ ss, r.ssBackup = some ss ∧ ∀ sn ∈ ss.storageNodes, ∃ dn ∈ r.dnList, dn.ip = sn.ip

section Records

variable {pk : Packages} {f : Flags} {r : LsBackup}

theorem restoreTasks_length {dns : String → Option DataNode} {sns : List StorageNode}
    {tasks : List (Go Unit)} (h : restoreTasks f dns sns = (tasks, true)) :
    tasks.length = sns.length := by
  induction sns generalizing tasks with
  | nil =>
    cases h
    rfl
  | cons sn sns ih =>
    rw [restoreTasks] at h
    cases hdn : dns sn.ip with
    | none => simp [hdn] at h
    | some dn =>
      rw [hdn] at h
      obtain ⟨rfl, hall⟩ := Prod.mk.injEq .. ▸ h
      rw [List.length_cons, List.length_cons, ih (Prod.ext rfl hall)]

end Records

section Unanswered

variable {pk : Packages}

end Unanswered

end ShardingOnCloud.Pitr.RecordTermination
