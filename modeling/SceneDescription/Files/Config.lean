import SceneDescription.Files.Path
import SceneDescription.Text.Integer

/-!
# Settings for reading a scene
-/

namespace SceneDescription

/-- How scene files are found and read. -/
structure Config where
  /-- The directory of relative paths in a scene that is not itself a file. -/
  baseDirectory : Path := {}
  encoding : String := "utf-8"
  /-- The largest number of files that may be open at once. -/
  maxIncludeDepth : Nat := 64
  /-- Whether files whose name ends in `.gz` are decompressed. -/
  allowGzip : Bool := true
  one_le_maxIncludeDepth : 1 ≤ maxIncludeDepth := by decide

/-- Sets the depth limit; `none` if it leaves no room for the root. -/
def Config.withDepth? (config : Config) (depth : Int) : Option Config :=
  if h : 1 ≤ depth.toNat then some { config with maxIncludeDepth := depth.toNat, one_le_maxIncludeDepth := h }
  else none

/-- What is said of a depth limit that leaves no room for the root. -/
def Config.depthMessage (depth : Int) : String :=
  "max_include_depth must be at least 1, got " ++ Int.repr depth

end SceneDescription
