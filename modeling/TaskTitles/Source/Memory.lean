import TaskTitles.Source.Basic

/-!
# Tasks in memory

A task source without a file behind it, whose troubles are part of its state.
-/

namespace TaskTitles

structure Memory where
  snapshot : Snapshot
  isReachable : Bool := true
  fetchTrouble : Option Text := none
  pushTrouble : Option Text := none
  /-- The number that a push answers, where it is not that of the pushed tasks. -/
  accepted : Option Int := none
  /-- The tasks of the last push that went well. -/
  pushed : List Task := []

namespace Memory

def fetch (memory : Memory) : Except Trouble Snapshot × Memory :=
  match memory.fetchTrouble with
  | some reason => (.error (.reported reason), memory)
  | none => (.ok memory.snapshot, memory)

/-- Replaces the stored tasks that have the numbers of the pushed ones. -/
def push (changed : List Task) (memory : Memory) : Except Trouble Int × Memory :=
  match memory.pushTrouble with
  | some reason => (.error (.reported reason), memory)
  | none =>
    (.ok (memory.accepted.getD changed.length),
      { memory with snapshot := memory.snapshot.replaceTasks changed, pushed := changed })

def source : Source Memory where
  name := "memory"
  isReachable memory := .ok memory.isReachable
  fetch := fetch
  push := push

end Memory

end TaskTitles
