/-!
# Named entries

Lists of named values in the order in which the names first came up; a new value for a name takes the place of
the old one.
-/

namespace SceneDescription

variable {α : Type}

/-- Replaces the entry of a name, or adds one at the end. -/
def setEntry (name : String) (value : α) : List (String × α) → List (String × α)
  | [] => [(name, value)]
  | (other, old) :: rest =>
    if other = name then (name, value) :: rest else (other, old) :: setEntry name value rest

@[simp] theorem lookup_setEntry_self (name : String) (value : α) (entries : List (String × α)) :
    (setEntry name value entries).lookup name = some value := by
  induction entries with
  | nil => simp [setEntry]
  | cons entry rest ih =>
    obtain ⟨other, old⟩ := entry
    unfold setEntry
    split
    · simp
    · rename_i h
      rw [List.lookup_cons, beq_false_of_ne (Ne.symm h)]
      exact ih

theorem lookup_setEntry_of_ne {name other : String} (h : other ≠ name) (value : α) (entries : List (String × α)) :
    (setEntry name value entries).lookup other = entries.lookup other := by
  induction entries with
  | nil => simp [setEntry, List.lookup_cons, beq_false_of_ne h]
  | cons entry rest ih =>
    obtain ⟨first, old⟩ := entry
    unfold setEntry
    split
    · subst_vars
      simp [List.lookup_cons, beq_false_of_ne h]
    · simp [List.lookup_cons, ih]

theorem lookup_setEntry (new name : String) (value : α) (entries : List (String × α)) :
    (setEntry new value entries).lookup name = if name = new then some value else entries.lookup name := by
  split
  · rename_i hname
    rw [hname, lookup_setEntry_self]
  · rename_i hname
    exact lookup_setEntry_of_ne hname value entries

end SceneDescription
