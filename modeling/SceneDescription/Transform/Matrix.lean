import SceneDescription.Fault

/-!
# Matrices

Matrices of four rows and columns over doubles, acting on column vectors, so that a displacement stands in the
last column.  Products and inverses are left to a library of linear algebra.
-/

namespace SceneDescription

structure Vec3 where
  x : Float
  y : Float
  z : Float

namespace Vec3

def sub (a b : Vec3) : Vec3 := ⟨a.x - b.x, a.y - b.y, a.z - b.z⟩

def div (a : Vec3) (k : Float) : Vec3 := ⟨a.x / k, a.y / k, a.z / k⟩

end Vec3

structure Vec4 where
  x : Float
  y : Float
  z : Float
  w : Float

namespace Vec4

def ofFn (f : Fin 4 → Float) : Vec4 := ⟨f 0, f 1, f 2, f 3⟩

def get (v : Vec4) : Fin 4 → Float
  | 0 => v.x
  | 1 => v.y
  | 2 => v.z
  | 3 => v.w

def toList (v : Vec4) : List Float := [v.x, v.y, v.z, v.w]

end Vec4

structure Matrix where
  row0 : Vec4
  row1 : Vec4
  row2 : Vec4
  row3 : Vec4

namespace Matrix

def ofFn (f : Fin 4 → Fin 4 → Float) : Matrix := ⟨.ofFn (f 0), .ofFn (f 1), .ofFn (f 2), .ofFn (f 3)⟩

def row (m : Matrix) : Fin 4 → Vec4
  | 0 => m.row0
  | 1 => m.row1
  | 2 => m.row2
  | 3 => m.row3

def get (m : Matrix) (i j : Fin 4) : Float := (m.row i).get j

def rows (m : Matrix) : List (List Float) := [m.row0, m.row1, m.row2, m.row3].map Vec4.toList

/-- The entries, row by row. -/
def entries (m : Matrix) : List Float := m.rows.flatten

def identity : Matrix := ofFn fun i j => if i = j then 1.0 else 0.0

/-- The matrix with the given columns. -/
def ofColumns (a b c d : Vec4) : Matrix :=
  let columns : Matrix := ⟨a, b, c, d⟩
  ofFn fun i j => columns.get j i

/-- Equality entry by entry; a matrix with an entry that is not a number differs even from itself. -/
protected def beq (a b : Matrix) : Bool := a.entries == b.entries

instance : BEq Matrix := ⟨Matrix.beq⟩

end Matrix

/-- What is left to a library of linear algebra.  The results are rounded, and how is up to the library. -/
class LinearAlgebra where
  /-- The length of a vector. -/
  length : Vec3 → Float
  cross : Vec3 → Vec3 → Vec3
  mul : Matrix → Matrix → Matrix
  /-- The inverse of a matrix; `none` if it is found to be singular. -/
  inverse? : Matrix → Option Matrix

end SceneDescription
