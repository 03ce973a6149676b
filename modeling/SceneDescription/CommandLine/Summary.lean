import SceneDescription.Scene.Scene

/-!
# Summary of a scene
-/

namespace SceneDescription.CommandLine

/-- The number of shapes when instances are counted with the shapes of their objects. -/
def primitives (scene : Scene) : Nat :=
  scene.primitiveCount.toOption.getD 0

/-- A line for every part of a scene that is not empty, and one for every warning. -/
def summary (scene : Scene) : String :=
  let camera := scene.camera.toList.map fun c => "Camera: " ++ c.type
  let kinds : List SettingKind := [.film, .sampler, .integrator, .accelerator, .colorSpace, .pixelFilter]
  let settings := kinds.filterMap fun kind =>
    (scene.settings.get? kind).map fun s => kind.directive ++ ": " ++ s.type
  let counts := [("shapes", scene.shapes.length), ("lights", scene.lights.length),
    ("area lights", scene.areaLights.length), ("materials", scene.materials.length),
    ("textures", scene.textures.length), ("media", scene.media.length), ("objects", scene.objects.length),
    ("instances", scene.instances.length)].filterMap fun (label, count) =>
      if count = 0 then none else some (label ++ ": " ++ Nat.repr count)
  let total := "primitives (instances expanded): " ++ Nat.repr (primitives scene)
  let warnings := scene.warnings.map fun w => "warning: " ++ w.toText
  "\n".intercalate (camera ++ settings ++ counts ++ [total] ++ warnings)

end SceneDescription.CommandLine
