import SceneDescription.Fault

/-!
# Reports

A report is a cause with its place: the line, the file, and the files that include it, outermost first.  What the
place of discovery does not know is filled in later by `Report.locate`.
-/

namespace SceneDescription

structure Report (α : Type) where
  cause : α
  line : Option Nat := none
  source : Option String := none
  chain : List String := []
  deriving DecidableEq

namespace Report

variable {α : Type}

/-- Fills in the file if it is not known, and the including files if they are not known and the file is this
one. -/
def locate (r : Report α) (source : String) (chain : List String) : Report α :=
  let file := r.source.getD source
  { r with
    source := some file
    chain := if r.chain.isEmpty && file = source then chain else r.chain }

/-- The files that a rendered report names as including ones, innermost first.  The file of the report itself is
not among them. -/
def including (r : Report α) : List String :=
  (if r.chain.getLast? = r.source then r.chain.dropLast else r.chain).reverse

/-- File, line and message on one line, and a line for every including file. -/
def render (wording : α → String) (r : Report α) : String :=
  let file := match r.source with
    | none | some "" => "<unknown>"
    | some file => file
  let place := match r.line with
    | none => file
    | some line => file ++ ":" ++ Nat.repr line
  place ++ ": " ++ wording r.cause ++ String.join (r.including.map ("\n  included from " ++ ·))

end Report

/-- A fault at a line of a file still to be named. -/
def Fault.at (f : Fault) (line : Option Nat) : Report Fault :=
  { cause := f, line }

end SceneDescription
