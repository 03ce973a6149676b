/-!
# Shutter times

A camera's shutter opens and closes, and a scene can say something different about the two moments.  `Shutter α`
is a pair of values, one for each moment.
-/

namespace SceneDescription

structure Shutter (α : Type) where
  opening : α
  closing : α
  deriving DecidableEq

namespace Shutter

variable {α β : Type}

/-- The same value at both moments. -/
def both (a : α) : Shutter α := ⟨a, a⟩

def map (f : α → β) (s : Shutter α) : Shutter β := ⟨f s.opening, f s.closing⟩

/-- Takes the new value at the chosen moments and keeps the old one at the others. -/
def update (chosen : Shutter Bool) (new old : Shutter α) : Shutter α :=
  ⟨if chosen.opening then new.opening else old.opening, if chosen.closing then new.closing else old.closing⟩

end Shutter

end SceneDescription
