import SceneDescription.Transform.Matrix

/-!
# Linear algebra step by step

A library of linear algebra that does all computations in a fixed order, because they round.  Inverses are found by
elimination with partial pivoting.
-/

namespace SceneDescription

namespace Vec3

def cross (a b : Vec3) : Vec3 :=
  ⟨a.y * b.z - a.z * b.y, a.z * b.x - a.x * b.z, a.x * b.y - a.y * b.x⟩

/-- The length of a vector.  The squares may overflow or vanish even if the length itself would not. -/
def length (a : Vec3) : Float := (a.x * a.x + a.y * a.y + a.z * a.z).sqrt

end Vec3

/-- The sum of the products of the components, which are added up from the first to the last. -/
def Vec4.dot (a b : Vec4) : Float := 0.0 + a.x * b.x + a.y * b.y + a.z * b.z + a.w * b.w

namespace Matrix

def column (m : Matrix) (j : Fin 4) : Vec4 := .ofFn fun i => m.get i j

/-- The product of two matrices. -/
def mul (a b : Matrix) : Matrix := ofFn fun i j => (a.row i).dot (b.column j)

/-- Moves the row with the largest entry in a column to the front. -/
def pivotFirst (column : Nat) : List (List Float) → List (List Float)
  | [] => []
  | row :: rows =>
    match pivotFirst column rows with
    | [] => [row]
    | best :: others =>
      if (row.getD column 0).abs < (best.getD column 0).abs then best :: row :: others else row :: best :: others

/-- Brings the rows into echelon form, from a column on; `none` if a pivot is zero. -/
def echelon : (count column : Nat) → List (List Float) → Option (List (List Float))
  | 0, _, _ => some []
  | count + 1, column, rows =>
    match pivotFirst column rows with
    | [] => some []
    | pivot :: others =>
      let p := pivot.getD column 0
      if p == 0.0 then none
      else
        let reduced := others.map fun row =>
          let factor := row.getD column 0 / p
          row.zipWith (fun a b => a - factor * b) pivot
        (echelon count (column + 1) reduced).map (pivot :: ·)

/-- Solves the rows of an echelon form from the last one up.  The unknowns are rows themselves, and stand in
each row behind its four coefficients. -/
def backSubstitute : (column : Nat) → List (List Float) → List (List Float)
  | _, [] => []
  | column, row :: rows =>
    let solved := backSubstitute (column + 1) rows
    let coefficients := (row.take 4).drop (column + 1)
    let right := (coefficients.zip solved).foldl
      (fun right (factor, x) => right.zipWith (fun a b => a - factor * b) x) (row.drop 4)
    right.map (· / row.getD column 0) :: solved

/-- The inverse, by elimination with partial pivoting; `none` if a pivot is zero. -/
def inverse? (m : Matrix) : Option Matrix :=
  let augmented := m.rows.zipWith (· ++ ·) identity.rows
  (echelon 4 0 augmented).map fun rows =>
    let solved := backSubstitute 0 rows
    ofFn fun i j => (solved.getD i []).getD j 0

end Matrix

/-- Linear algebra with the computations given here. -/
@[reducible]
def LinearAlgebra.stepwise : LinearAlgebra where
  length := Vec3.length
  cross := Vec3.cross
  mul := Matrix.mul
  inverse? := Matrix.inverse?

end SceneDescription
