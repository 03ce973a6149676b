import SceneDescription.Proofs.Readers.Keywords
import SceneDescription.Proofs.Stages.WellFormed

/-!
# What directives emit

What a draft holds, an entity, a setting, an object or a warning, has been emitted by a directive.  It has the place of
this directive (`Stage.execute_emitted`), and the keyword of the directive is known from what it is
(`emittedBy_readDirective`).
-/

namespace SceneDescription

/-! ### Keywords and locations -/

/-- The keyword of the directive that declares an entity. -/
def Entity.keyword : Entity → Keyword
  | camera _ => .camera
  | shape _ => .shape
  | light _ => .lightSource
  | areaLight _ => .areaLightSource
  | material m => if m.name.isSome then .makeNamedMaterial else .material
  | texture _ => .texture
  | medium _ => .makeNamedMedium
  | placement _ => .objectInstance

def Entity.location : Entity → Option Location
  | camera x => x.location
  | shape x => x.location
  | light x => x.location
  | areaLight x => x.location
  | material x => x.location
  | texture x => x.location
  | medium x => x.location
  | placement x => x.location

/-- The keyword of the directive that draws a warning. -/
def Remark.keyword? : Remark → Option Keyword
  | redefined directive _ => Keyword.ofName? directive
  | areaLightInObject _ => some .areaLightSource
  | other _ => none

/-- The keyword of a directive that emits something: an entity, a setting, an object or a warning. -/
def Directive.emitter? : Directive → Option Keyword
  | .camera _ _ => some .camera
  | .setting kind _ _ => some (.setting kind)
  | .shape _ _ => some .shape
  | .lightSource _ _ => some .lightSource
  | .areaLightSource _ _ => some .areaLightSource
  | .material _ _ => some .material
  | .makeNamedMaterial _ _ => some .makeNamedMaterial
  | .texture _ _ _ _ => some .texture
  | .makeNamedMedium _ _ => some .makeNamedMedium
  | .objectEnd => some .objectEnd
  | .objectInstance _ => some .objectInstance
  | _ => none

theorem Directive.entity?_emitted {location : Location} {state : GraphicsState} {d : Directive} {e : Entity}
    (h : d.entity? location state = some e) : e.location = some location ∧ d.emitter? = some e.keyword := by
  cases d with
  | makeNamedMaterial name params | makeNamedMedium name params =>
    obtain ⟨type, _, rfl⟩ := Option.map_eq_some_iff.1 h
    exact ⟨rfl, rfl⟩
  | camera _ _ | shape _ _ | lightSource _ _ | areaLightSource _ _ | material _ _ | texture _ _ _ _
  | objectInstance _ =>
    cases h
    exact ⟨rfl, rfl⟩
  | _ => cases h

/-- What a draft holds and what has a place: entities, settings, objects and warnings. -/
inductive Emission
  | entity (e : Entity)
  | setting (kind : SettingKind) (setting : Setting)
  | object (object : ObjectDefinition)
  | warning (warning : Warning)

/-- The keyword of the directive that emits such a thing. -/
def Emission.keyword? : Emission → Option Keyword
  | entity e => some e.keyword
  | setting kind _ => some (.setting kind)
  | object _ => some .objectEnd
  | warning w => w.remark.keyword?

def Emission.location : Emission → Option Location
  | entity e => e.location
  | setting _ x => x.location
  | object x => x.location
  | warning x => x.location

def Draft.Emitted (d : Draft) : Emission → Prop
  | .entity e => d.Holds e
  | .setting kind setting => d.settings.get? kind = some setting
  | .object object => object ∈ d.objects
  | .warning warning => warning ∈ d.warnings

theorem Draft.not_emitted_initial (x : Emission) : ¬ ({} : Draft).Emitted x := by
  intro hx
  cases x with
  | entity e => cases e <;> simp [Emitted, Holds, Declarations.Holds] at hx
  | setting kind setting => cases kind <;> cases hx
  | object _ | warning _ => cases hx

namespace Stage

variable {s s' : Stage} {location : Location} {d : Directive}

/-- The warnings of a directive are for its place, and tell its keyword. -/
private theorem mem_warningsOf {warning : Warning} (h : warning ∈ s.warningsOf location d) :
    warning.location = some location ∧ d.emitter? = warning.remark.keyword? := by
  cases d with
  | camera _ _ | areaLightSource _ _ =>
    obtain ⟨_, _, rfl⟩ := Option.map_eq_some_iff.1 (Option.mem_toList.1 h)
    exact ⟨rfl, rfl⟩
  | setting kind _ _ =>
    obtain ⟨_, _, rfl⟩ := Option.map_eq_some_iff.1 (Option.mem_toList.1 h)
    exact ⟨rfl, (Keyword.ofName?_name (.setting kind)).symm⟩
  | _ => cases h

/-- What the draft holds after a directive, it held before, or the directive has emitted it at its place. -/
theorem execute_emitted [LinearAlgebra] (h : s.execute location d = .ok s') (hs : s.InStep) {x : Emission}
    (hx : s'.draft.Emitted x) :
    s.draft.Emitted x ∨ (x.location = some location ∧ x.keyword? = d.emitter? ∧ d.emitter?.isSome) := by
  cases x with
  | entity e =>
    rcases (execute_holds h hs).1 hx with ⟨hold, _⟩ | hnew
    · exact .inl hold
    · obtain ⟨hplace, hkeyword⟩ := Directive.entity?_emitted hnew
      rw [hkeyword]
      exact .inr ⟨hplace, rfl, rfl⟩
  | setting kind setting =>
    unfold Draft.Emitted at hx
    rw [execute_settings h] at hx
    cases d with
    | setting kind' type params =>
      dsimp only [Directive.setting?] at hx
      rw [Settings.get?_put] at hx
      split at hx
      · rename_i hkind
        cases hx
        cases hkind
        exact .inr ⟨rfl, rfl, rfl⟩
      · exact .inl hx
    | _ => exact .inl hx
  | object object =>
    rcases execute_objects h hx with hold | ⟨rfl, _, _, rfl⟩
    · exact .inl hold
    · exact .inr ⟨rfl, rfl, rfl⟩
  | warning warning =>
    unfold Draft.Emitted at hx
    rw [execute_warnings h] at hx
    rcases List.mem_append.1 hx with hold | hnew
    · exact .inl hold
    · obtain ⟨hplace, hkeyword⟩ := mem_warningsOf hnew
      refine .inr ⟨hplace, hkeyword.symm, ?_⟩
      cases d with
      | camera _ _ | setting _ _ _ | areaLightSource _ _ => rfl
      | _ => cases hnew

end Stage

/-! ### Reading -/

/-- If the directive emits something, then under this keyword. -/
def Directive.EmittedBy (keyword : Keyword) (d : Directive) : Prop :=
  ∀ emitter, d.emitter? = some emitter → emitter = keyword

private theorem Directive.keyword?_of_emitter? {d : Directive} {emitter : Keyword} (h : d.emitter? = some emitter) :
    d.keyword? = some emitter := by
  cases d <;> cases h <;> rfl

/-- A directive that emits something has been read behind the keyword for it. -/
theorem emittedBy_readDirective (h : Heading) : (readDirective h).Yields (Directive.EmittedBy h.keyword) := by
  intro c d c' hread emitter hemitter
  have hkeyword := hasKeyword_readDirective h c d c' hread
  exact (hkeyword.eq_of_keyword? (Directive.keyword?_of_emitter? hemitter)).symm

end SceneDescription
