import SceneDescription.Session

/-!
# Readers

A reader holds a session at its start and runs it once, whether it ends in a scene or in a fault.
-/

namespace SceneDescription

structure Reader where
  session : Session
  used : Bool := false

namespace Reader

/-- Why a reader gives no scene. -/
inductive Failure
  | fault (r : Report Fault)
  | usedBefore

/-- Reads the scene. -/
def read [LinearAlgebra] (reader : Reader) : Except Failure Scene × Reader :=
  if reader.used then (.error .usedBefore, reader)
  else (reader.session.finish.result.mapError .fault, { reader with used := true })

/-- A reader that has been used gives nothing more. -/
theorem read_read [LinearAlgebra] (reader : Reader) : reader.read.2.read = (.error .usedBefore, reader.read.2) := by
  have hused : reader.read.2.used = true := by
    unfold read
    split
    · assumption
    · rfl
  rw [read, if_pos hused]

end Reader

end SceneDescription
