import SceneDescription.Proofs.Readers.WellFormed
import SceneDescription.Proofs.Stages.Drafts

/-!
# Well-formed parameters on a stage

Parameters are kept in three places: in the entities of the draft, in its settings, and in the graphics states, which
hold the defaults for later declarations as well as a material and an area light.  A directive with well-formed
parameters keeps all of them well-formed (`Stage.execute_wellFormed`), because what it makes of them is only put in
front of others or passed on.
-/

namespace SceneDescription

/-! ### Where parameters are kept -/

/-- The parameter lists of an entity, with those of the material and the area light that it carries. -/
def Entity.parameterLists : Entity → List ParameterList
  | .camera c => [c.params]
  | .shape x => x.params :: x.material.params :: (x.areaLight.map (·.params)).toList
  | .light l => [l.params]
  | .areaLight l => [l.params]
  | .material m => [m.params]
  | .texture t => [t.params]
  | .medium m => [m.params]
  | .placement _ => []

def Entity.WellFormed (e : Entity) : Prop :=
  ∀ params ∈ e.parameterLists, params.WellFormed

def Settings.WellFormed (settings : Settings) : Prop :=
  ∀ kind setting, settings.get? kind = some setting → setting.params.WellFormed

structure GraphicsState.WellFormed (state : GraphicsState) : Prop where
  material : state.material.params.WellFormed
  areaLight : ∀ light, state.areaLight = some light → light.params.WellFormed
  attributes : ∀ entry ∈ state.attributes, entry.2.WellFormed

structure Stage.WellFormed (s : Stage) : Prop where
  states : ∀ state ∈ s.scopes.states, state.WellFormed
  entities : ∀ e, s.draft.Holds e → e.WellFormed
  settings : s.draft.settings.WellFormed

/-! ### Settings -/

/-- The setting that a directive declares. -/
def Directive.setting? (location : Location) : Directive → Option Setting
  | .setting kind type params => some { kind, type, params, location }
  | _ => none

private theorem Draft.settings_insert (d : Draft) (e : Entity) : (d.insert e).settings = d.settings := by
  cases e with
  | shape shape =>
    unfold insert addShape
    cases d.recording <;> rfl
  | _ => rfl

theorem Settings.get?_put (settings : Settings) (setting : Setting) (kind : SettingKind) :
    (settings.put setting).get? kind = if kind = setting.kind then some setting else settings.get? kind := by
  unfold put
  cases hkind : setting.kind <;> cases kind <;> rfl

namespace Stage

variable {s s' : Stage} {location : Location} {d : Directive}

/-- A directive changes at most the setting that it declares. -/
theorem execute_settings [LinearAlgebra] (h : s.execute location d = .ok s') :
    s'.draft.settings = match d.setting? location with
      | some setting => s.draft.settings.put setting
      | none => s.draft.settings := by
  rw [execute_draft h]
  cases d with
  | makeNamedMaterial _ _ | makeNamedMedium _ _ =>
    dsimp only [draftAfter]
    split
    · exact Draft.settings_insert _ _
    · rfl
  | shape _ _ => exact Draft.settings_insert _ _
  | _ => rfl

private theorem execute_settings_wellFormed [LinearAlgebra] (h : s.execute location d = .ok s') (hd : d.WellFormed)
    (hs : s.draft.settings.WellFormed) : s'.draft.settings.WellFormed := by
  intro kind setting hsetting
  rw [execute_settings h] at hsetting
  cases hnew : d.setting? location with
  | none =>
    rw [hnew] at hsetting
    exact hs kind setting hsetting
  | some new =>
    rw [hnew, Settings.get?_put] at hsetting
    split at hsetting
    · cases hsetting
      cases d with
      | setting kind type params =>
        cases hnew
        exact hd params rfl
      | _ => cases hnew
    · exact hs kind setting hsetting

end Stage

/-! ### Named entries -/

theorem mem_of_lookup {α : Type} {name : String} {value : α} {entries : List (String × α)}
    (h : entries.lookup name = some value) : (name, value) ∈ entries := by
  obtain ⟨before, behind, hsplit, _⟩ := List.lookup_eq_some_iff.1 h
  rw [hsplit]
  exact List.mem_append_right _ (List.mem_cons_self ..)

theorem mem_setEntry {α : Type} {name : String} {value : α} {entries : List (String × α)} {entry : String × α}
    (h : entry ∈ setEntry name value entries) : entry = (name, value) ∨ entry ∈ entries := by
  induction entries with
  | nil => exact .inl (List.mem_singleton.1 h)
  | cons first rest ih =>
    unfold setEntry at h
    split at h
    · rcases List.mem_cons.1 h with hnew | hrest
      · exact .inl hnew
      · exact .inr (List.mem_cons_of_mem _ hrest)
    · rcases List.mem_cons.1 h with hfirst | hrest
      · exact .inr (hfirst ▸ List.mem_cons_self ..)
      · exact (ih hrest).imp_right (List.mem_cons_of_mem _)

theorem map_setEntry {α β : Type} (f : α → β) (name : String) (value : α) (entries : List (String × α)) :
    (setEntry name value entries).map (fun (name, a) => (name, f a)) =
      setEntry name (f value) (entries.map fun (name, a) => (name, f a)) := by
  induction entries with
  | nil => rfl
  | cons entry rest ih =>
    obtain ⟨other, old⟩ := entry
    rw [List.map_cons, setEntry, setEntry]
    split
    · rfl
    · rw [List.map_cons, ih]

theorem lookup_map {α β : Type} (f : α → β) (name : String) (entries : List (String × α)) :
    (entries.map fun (name, a) => (name, f a)).lookup name = (entries.lookup name).map f := by
  induction entries with
  | nil => rfl
  | cons entry rest ih =>
    rw [List.map_cons, List.lookup_cons, List.lookup_cons]
    cases name == entry.1 with
    | true => rfl
    | false => exact ih

/-! ### Graphics states -/

namespace GraphicsState

variable {state : GraphicsState}

private theorem wellFormed_initial : ({} : GraphicsState).WellFormed where
  material := ParameterList.wellFormed_empty
  areaLight := by simp
  attributes := by simp

private theorem WellFormed.defaults (h : state.WellFormed) (target : String) : (state.defaults target).WellFormed := by
  unfold GraphicsState.defaults
  cases hentry : state.attributes.lookup target with
  | none => exact ParameterList.wellFormed_empty
  | some params => exact h.attributes (target, params) (mem_of_lookup hentry)

/-- Parameters behind well-formed defaults. -/
theorem WellFormed.merged (h : state.WellFormed) {params : ParameterList} (hparams : params.WellFormed)
    (target : String) : (params.mergedOver (state.defaults target)).WellFormed :=
  hparams.mergedOver (h.defaults target)

end GraphicsState

namespace Directive

variable {location : Location} {state : GraphicsState} {d : Directive}

private theorem effect_wellFormed [LinearAlgebra] {draft : Draft} (hd : d.WellFormed)
    (hdraft : ∀ e, draft.Holds e → e.WellFormed) (hstate : state.WellFormed) :
    (d.effect draft location state).WellFormed := by
  cases d with
  | attributeDefaults target params =>
    refine { hstate with attributes := fun entry hentry => ?_ }
    rcases mem_setEntry hentry with rfl | hold
    · exact hstate.merged (hd params rfl) target
    · exact hstate.attributes entry hold
  | areaLightSource type params =>
    refine { hstate with areaLight := ?_ }
    rintro _ ⟨⟩
    exact hstate.merged (hd params rfl) "light"
  | material type params => exact { hstate with material := hstate.merged (hd params rfl) "material" }
  | namedMaterial name =>
    simp only [effect, edit?]
    cases hfound : draft.material? name with
    | none => exact hstate
    | some material =>
      have hheld : draft.Holds (.material material) := .inl (List.mem_of_find?_eq_some hfound)
      exact { hstate with material := hdraft _ hheld material.params (List.mem_singleton_self _) }
  | replaceTransform motion | composeTransform motion | coordSysTransform name =>
    unfold effect
    split
    · rename_i e he
      obtain ⟨_, _, rfl⟩ := Option.map_eq_some_iff.1 he
      exact { hstate with }
    · exact hstate
  | _ => exact { hstate with }

/-- What a directive declares has its own parameters behind the defaults, and a shape also those of its material and
area light. -/
private theorem entity?_wellFormed {e : Entity} (h : d.entity? location state = some e) (hd : d.WellFormed)
    (hstate : state.WellFormed) : e.WellFormed := by
  have hone : ∀ {params : ParameterList}, params.WellFormed → ∀ params' ∈ [params], params'.WellFormed := by
    intro params hparams params' hmem
    rwa [List.mem_singleton.1 hmem]
  cases d with
  | camera type params =>
    cases h
    exact hone (hd params rfl)
  | shape type params =>
    cases h
    intro params' hmem
    simp only [Entity.parameterLists, List.mem_cons, Option.mem_toList, Option.map_eq_some_iff] at hmem
    rcases hmem with rfl | rfl | ⟨light, hlight, rfl⟩
    · exact hstate.merged (hd params rfl) "shape"
    · exact hstate.material
    · exact hstate.areaLight light hlight
  | lightSource type params | areaLightSource type params =>
    cases h
    exact hone (hstate.merged (hd params rfl) "light")
  | material type params =>
    cases h
    exact hone (hstate.merged (hd params rfl) "material")
  | texture name valueType textureClass params =>
    cases h
    exact hone (hstate.merged (hd params rfl) "texture")
  | makeNamedMaterial name params =>
    obtain ⟨_, _, rfl⟩ := Option.map_eq_some_iff.1 h
    exact hone (hstate.merged (hd params rfl) "material")
  | makeNamedMedium name params =>
    obtain ⟨_, _, rfl⟩ := Option.map_eq_some_iff.1 h
    exact hone (hstate.merged (hd params rfl) "medium")
  | objectInstance name =>
    cases h
    rintro _ ⟨⟩
  | _ => cases h

end Directive

/-! ### Stages -/

namespace Stage

variable {s s' : Stage} {location : Location} {d : Directive}

theorem wellFormed_initial : ({} : Stage).WellFormed where
  states := by
    intro state hstate
    rw [List.mem_singleton.1 hstate]
    exact GraphicsState.wellFormed_initial
  entities := by
    intro e he
    cases e <;> simp [Draft.Holds, Declarations.Holds] at he
  settings := by
    intro kind setting hsetting
    cases kind <;> cases hsetting

theorem execute_wellFormed [LinearAlgebra] (h : s.execute location d = .ok s') (hd : d.WellFormed) (hstep : s.InStep)
    (hs : s.WellFormed) : s'.WellFormed where
  states := by
    intro state hstate
    rcases ScopeMachine.step_states (execute_scopes h []) hstate with hold | heffect
    · exact hs.states state hold
    · rw [heffect, Directive.effect_op]
      exact Directive.effect_wellFormed hd hs.entities (hs.states _ (List.mem_cons_self ..))
  entities := by
    intro e he
    rcases (execute_holds h hstep).1 he with ⟨hheld, _⟩ | hnew
    · exact hs.entities e hheld
    · exact Directive.entity?_wellFormed hnew hd (hs.states _ (List.mem_cons_self ..))
  settings := execute_settings_wellFormed h hd hs.settings

/-- The end of an import brings back a state that was there already. -/
theorem leaveImport_wellFormed {mark : Mark} (h : s.leaveImport mark = .ok s') (hs : s.WellFormed) :
    s'.WellFormed := by
  obtain ⟨scopes, hrestore, rfl⟩ := bind_pure_eq_ok.1 h
  obtain ⟨_, _, _, _, hsaved, _, rfl⟩ := ScopeStack.restore_eq_ok.1 hrestore
  refine { hs with states := fun state hstate => hs.states state ?_ }
  rw [ScopeStack.states, hsaved]
  exact List.mem_cons_of_mem _ hstate

end Stage

end SceneDescription
