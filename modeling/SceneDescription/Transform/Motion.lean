import SceneDescription.Transform.Matrix

/-!
# Motions

The ways in which a scene describes a transformation, and their matrices.
-/

namespace SceneDescription

inductive Motion
  | identity
  | translate (delta : Vec3)
  | scale (factors : Vec3)
  /-- A right-handed rotation by an angle in degrees. -/
  | rotate (degrees : Float) (axis : Vec3)
  /-- The view from a point to another one; gives the world as seen by the camera. -/
  | lookAt (eye target up : Vec3)
  /-- A matrix, column by column. -/
  | columns (a b c d : Vec4)

variable [LinearAlgebra]

namespace Motion

def displacement (d : Vec3) : Matrix :=
  ⟨⟨1.0, 0.0, 0.0, d.x⟩, ⟨0.0, 1.0, 0.0, d.y⟩, ⟨0.0, 0.0, 1.0, d.z⟩, ⟨0.0, 0.0, 0.0, 1.0⟩⟩

def scaling (s : Vec3) : Matrix :=
  ⟨⟨s.x, 0.0, 0.0, 0.0⟩, ⟨0.0, s.y, 0.0, 0.0⟩, ⟨0.0, 0.0, s.z, 0.0⟩, ⟨0.0, 0.0, 0.0, 1.0⟩⟩

/-- The number of radians in a degree. -/
def radian : Float := 3.141592653589793 / 180.0

/-- The rotation about an axis of length one, by an angle given by its sine and cosine. -/
def turning (a : Vec3) (sin cos : Float) : Matrix :=
  let rest := 1.0 - cos
  ⟨⟨a.x * a.x + (1.0 - a.x * a.x) * cos, a.x * a.y * rest - a.z * sin, a.x * a.z * rest + a.y * sin, 0.0⟩,
   ⟨a.x * a.y * rest + a.z * sin, a.y * a.y + (1.0 - a.y * a.y) * cos, a.y * a.z * rest - a.x * sin, 0.0⟩,
   ⟨a.x * a.z * rest - a.y * sin, a.y * a.z * rest + a.x * sin, a.z * a.z + (1.0 - a.z * a.z) * cos, 0.0⟩,
   ⟨0.0, 0.0, 0.0, 1.0⟩⟩

/-- A rotation; its axis must have a length, and its angle a sine. -/
def rotation (degrees : Float) (axis : Vec3) : Except Fault Matrix :=
  let length := LinearAlgebra.length axis
  if length == 0.0 then .error .zeroRotationAxis
  else if degrees.isInf then .error .infiniteAngle
  else
    let angle := degrees * radian
    .ok (turning (axis.div length) angle.sin angle.cos)

/-- The inverse of the placement of a camera that looks from `eye` to `target`. -/
def viewing (eye target up : Vec3) : Except Fault Matrix :=
  let view := target.sub eye
  let viewLength := LinearAlgebra.length view
  let upLength := LinearAlgebra.length up
  if viewLength == 0.0 || upLength == 0.0 then .error .coincidentViewPoints
  else
    let direction := view.div viewLength
    let side := LinearAlgebra.cross (up.div upLength) direction
    let sideLength := LinearAlgebra.length side
    if sideLength == 0.0 then .error .parallelUpVector
    else
      let right := side.div sideLength
      let newUp := LinearAlgebra.cross direction right
      let placement := Matrix.ofColumns ⟨right.x, right.y, right.z, 0.0⟩ ⟨newUp.x, newUp.y, newUp.z, 0.0⟩
        ⟨direction.x, direction.y, direction.z, 0.0⟩ ⟨eye.x, eye.y, eye.z, 1.0⟩
      match LinearAlgebra.inverse? placement with
      | some m => .ok m
      | none => .error .singularMatrix

/-- The matrix of a motion. -/
def toMatrix : Motion → Except Fault Matrix
  | identity => .ok .identity
  | translate delta => .ok (displacement delta)
  | scale factors => .ok (scaling factors)
  | rotate degrees axis => rotation degrees axis
  | lookAt eye target up => viewing eye target up
  | columns a b c d => .ok (.ofColumns a b c d)

end Motion

end SceneDescription
