import SceneDescription.Token.Scanner

/-!
# Reading tokens

A cursor stands in the tokens of one text.  Readers are actions on a cursor that may fail with a report; they
can look at the next token and take it.  Every reader built from these two leaves a suffix of the tokens it
found (`Read.Forward`).
-/

namespace SceneDescription

/-- A position in the tokens of a text. -/
structure Cursor where
  /-- What is still to come. -/
  items : List Item
  /-- The fault behind the last item, if the text could not be scanned to its end. -/
  stuck : Option (Report Fault)
  /-- The line of the token taken last. -/
  lastLine : Nat := 1

/-- A cursor at the start of a text; `source` names the text in reports. -/
def Cursor.ofText (source : String) (text : List Char) : Cursor :=
  let (items, stuck) := (Scanner.ofText source text).scan
  { items, stuck }

/-- A reader: an action on a cursor that gives a result or a report.  When it fails, what it has taken is gone. -/
abbrev Read (α : Type) := EStateM (Report Fault) Cursor α

namespace Read

variable {α β : Type}

/-- The cursor that a reader leaves behind, whether it fails or not. -/
def after (m : Read α) (c : Cursor) : Cursor :=
  match m c with
  | .ok _ c' | .error _ c' => c'

/-- Fails with a fault at a line. -/
def fail (f : Fault) (line : Option Nat) : Read α :=
  throw (f.at line)

/-- A result computed without the cursor. -/
def ofExcept : Except (Report Fault) α → Read α
  | .ok a => pure a
  | .error r => throw r

/-- The next token, if there is one, which stays where it is.  A malformed number is reported and passed over. -/
def peek : Read (Option Token) := fun c =>
  match c.items with
  | .token t :: _ => .ok (some t) c
  | .malformed r :: rest => .error r { c with items := rest }
  | [] => match c.stuck with
    | some r => .error r c
    | none => .ok none c

/-- Takes the next token, if there is one.  A malformed number is reported and passed over. -/
def take : Read (Option Token) := fun c =>
  match c.items with
  | .token t :: rest => .ok (some t) { c with items := rest, lastLine := t.line }
  | .malformed r :: rest => .error r { c with items := rest }
  | [] => match c.stuck with
    | some r => .error r c
    | none => .ok none c

/-- A reader that leaves a suffix of the items it found, and the end of the text as it was. -/
def Forward (m : Read α) : Prop :=
  ∀ c, (m.after c).items <:+ c.items ∧ (m.after c).stuck = c.stuck

theorem forward_pure (a : α) : Forward (pure a : Read α) :=
  fun _ => ⟨List.suffix_refl _, rfl⟩

theorem forward_throw (r : Report Fault) : Forward (throw r : Read α) :=
  fun _ => ⟨List.suffix_refl _, rfl⟩

theorem forward_fail (f : Fault) (line : Option Nat) : Forward (fail f line : Read α) :=
  forward_throw _

theorem forward_ofExcept (e : Except (Report Fault) α) : Forward (ofExcept e) := by
  cases e with
  | ok a => exact forward_pure a
  | error r => exact forward_throw r

theorem forward_peek : Forward peek := by
  rintro ⟨_ | ⟨_ | _, rest⟩, stuck, line⟩
  · cases stuck <;> exact ⟨List.suffix_refl _, rfl⟩
  · exact ⟨List.suffix_refl _, rfl⟩
  · exact ⟨List.suffix_cons _ _, rfl⟩

theorem forward_take : Forward take := by
  rintro ⟨_ | ⟨_ | _, rest⟩, stuck, line⟩
  · cases stuck <;> exact ⟨List.suffix_refl _, rfl⟩
  · exact ⟨List.suffix_cons _ _, rfl⟩
  · exact ⟨List.suffix_cons _ _, rfl⟩

theorem after_bind (m : Read α) (f : α → Read β) (c : Cursor) :
    (m >>= f).after c = match m c with
      | .ok a c' => (f a).after c'
      | .error _ c' => c' := by
  show after (EStateM.bind m f) c = _
  unfold after EStateM.bind
  cases m c <;> rfl

theorem Forward.bind {m : Read α} {f : α → Read β} (hm : m.Forward) (hf : ∀ a, (f a).Forward) :
    (m >>= f).Forward := by
  intro c
  have h := hm c
  rw [after_bind]
  unfold after at h
  cases hc : m c with
  | ok a c' =>
    rw [hc] at h
    exact ⟨(hf a c').1.trans h.1, (hf a c').2.trans h.2⟩
  | error r c' =>
    rw [hc] at h
    exact h

private theorem after_map (m : Read α) (f : α → β) (c : Cursor) : (f <$> m).after c = m.after c := by
  show after (EStateM.map f m) c = _
  unfold after EStateM.map
  cases m c <;> rfl

theorem Forward.map {m : Read α} (hm : m.Forward) (f : α → β) : (f <$> m).Forward := by
  intro c
  rw [after_map]
  exact hm c

/-- The cursor after a reader that goes forward has no more items than before. -/
theorem Forward.length_le {m : Read α} (hm : m.Forward) (c : Cursor) :
    (m.after c).items.length ≤ c.items.length :=
  (hm c).1.length_le

theorem peek_unmoved {c c' : Cursor} {t : Option Token} (h : peek c = .ok t c') : c' = c := by
  obtain ⟨_ | ⟨_ | _, rest⟩, stuck, line⟩ := c
  · cases stuck <;> simp_all [peek]
  · simp_all [peek]
  · simp [peek] at h

theorem take_shrinks {c c' : Cursor} {t : Token} (h : take c = .ok (some t) c') :
    c'.items.length < c.items.length := by
  obtain ⟨_ | ⟨_ | _, rest⟩, stuck, line⟩ := c
  · cases stuck <;> simp [take] at h
  · simp only [take, EStateM.Result.ok.injEq] at h
    simp [← h.2]
  · simp [take] at h

end Read

end SceneDescription
