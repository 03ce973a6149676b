import SceneDescription.Proofs.Stages.Drafts

/-!
# References between declarations

A graphics state refers to a material, an area light and media, and hands them on to what is declared under it.
`GraphicsState.Resolves` says that the declarations have all of them.  Declarations are never taken back
(`Stage.execute_grows`), so a state that has been saved by a scope is still good when the scope brings it back:
all states of a stage resolve, the active one and the saved ones (`Stage.execute_resolved`).
-/

namespace SceneDescription

/-- What a graphics state refers to is declared. -/
structure GraphicsState.Resolves (state : GraphicsState) (d : Declarations) : Prop where
  material : state.material = .default ∨ state.material ∈ d.materials
  named : ∀ name, state.material.name = some name → d.material? name = some state.material
  areaLight : ∀ light, state.areaLight = some light → light ∈ d.areaLights
  media : ∀ name, state.mediumInterface.inside = some name ∨ state.mediumInterface.outside = some name →
    (d.medium? name).isSome

/-- Everything that can be referred to stays. -/
structure Declarations.Grows (d d' : Declarations) : Prop where
  materials : d.materials <+: d'.materials
  areaLights : d.areaLights <+: d'.areaLights
  media : d.media <+: d'.media
  objects : d.objects <+: d'.objects

namespace Declarations

variable {d d' d'' : Declarations}

theorem Grows.refl (d : Declarations) : d.Grows d :=
  ⟨List.prefix_refl _, List.prefix_refl _, List.prefix_refl _, List.prefix_refl _⟩

theorem Grows.trans (h : d.Grows d') (h' : d'.Grows d'') : d.Grows d'' where
  materials := h.materials.trans h'.materials
  areaLights := h.areaLights.trans h'.areaLights
  media := h.media.trans h'.media
  objects := h.objects.trans h'.objects

private theorem Grows.medium?_isSome (h : d.Grows d') {name : String} (hname : (d.medium? name).isSome) :
    (d'.medium? name).isSome := by
  obtain ⟨medium, hmedium⟩ := Option.isSome_iff_exists.1 hname
  exact Option.isSome_iff_exists.2 ⟨medium, h.media.find?_eq_some hmedium⟩

end Declarations

namespace GraphicsState

variable {state : GraphicsState} {d d' : Declarations}

theorem resolves_initial (d : Declarations) : ({} : GraphicsState).Resolves d where
  material := .inl rfl
  named := by rintro _ ⟨⟩
  areaLight := by simp
  media := by simp

theorem Resolves.grows (h : state.Resolves d) (hgrows : d.Grows d') : state.Resolves d' where
  material := h.material.imp_right fun hmem => hgrows.materials.subset hmem
  named := fun name hname => hgrows.materials.find?_eq_some (h.named name hname)
  areaLight := fun light hlight => hgrows.areaLights.subset (h.areaLight light hlight)
  media := fun name hname => hgrows.medium?_isSome (h.media name hname)

end GraphicsState

namespace Stage

variable {s s' : Stage} {location : Location} {d : Directive}

private theorem grows_insert (d : Draft) (e : Entity) : d.toDeclarations.Grows (d.insert e).toDeclarations := by
  have hrefl := Declarations.Grows.refl d.toDeclarations
  cases e with
  | shape shape =>
    unfold Draft.insert Draft.addShape
    cases d.recording <;> exact ⟨hrefl.materials, hrefl.areaLights, hrefl.media, hrefl.objects⟩
  | areaLight light => exact { hrefl with areaLights := List.prefix_append _ _ }
  | material material => exact { hrefl with materials := List.prefix_append _ _ }
  | medium medium => exact { hrefl with media := List.prefix_append _ _ }
  | _ => exact { hrefl with }

private theorem grows_of_alike {d d' : Draft} (h : d.Alike d') : d.toDeclarations.Grows d'.toDeclarations := by
  obtain ⟨_, _, _, _, _, rfl⟩ := h
  have hrefl := Declarations.Grows.refl d.toDeclarations
  exact { hrefl with }

theorem execute_grows [LinearAlgebra] (h : s.execute location d = .ok s') :
    s.draft.toDeclarations.Grows s'.draft.toDeclarations := by
  have hrefl := Declarations.Grows.refl s.draft.toDeclarations
  cases execute_drafts h with
  | @declares new base _ _ hbase hdraft =>
    rw [hdraft]
    exact (grows_of_alike hbase).trans (grows_insert base new)
  | records _ _ _ hdraft =>
    rw [hdraft]
    exact hrefl
  | completes _ _ hdraft =>
    rw [hdraft]
    exact { hrefl with objects := List.prefix_append _ _ }
  | keeps _ _ _ hbase => exact grows_of_alike hbase

/-- What a directive makes of the active state refers to what is declared behind the directive. -/
theorem execute_effect_resolves [LinearAlgebra] (h : s.execute location d = .ok s')
    (hs : s.active.Resolves s.draft.toDeclarations) :
    (d.effect s.draft location s.active).Resolves s'.draft.toDeclarations := by
  have hold := hs.grows (execute_grows h)
  cases d with
  | areaLightSource type params =>
    refine { hold with areaLight := ?_ }
    rintro _ ⟨⟩
    cases h
    unfold areaLight
    exact List.mem_append_right _ (List.mem_singleton_self _)
  | material type params =>
    obtain ⟨draft, hdraft, rfl⟩ := bind_pure_eq_ok.1 h
    obtain ⟨_, rfl⟩ := Draft.addMaterial_eq_ok.1 hdraft
    exact { hold with
      material := .inr (List.mem_append_right _ (List.mem_singleton_self _))
      named := by rintro _ ⟨⟩ }
  | namedMaterial name =>
    obtain ⟨material, hmaterial, rfl⟩ := bind_pure_eq_ok.1 h
    have hfound := Draft.defined_eq_ok hmaterial
    have hname : material.name = some name := by simpa using List.find?_some hfound
    have heffect : (Directive.namedMaterial name).effect s.draft location s.active =
        { s.active with material } := by
      simp only [Directive.effect, Directive.edit?, hfound]
      rfl
    rw [heffect]
    refine { hold with material := .inr (List.mem_of_find?_eq_some hfound), named := ?_ }
    intro other hother
    obtain rfl : name = other := Option.some.inj (hname.symm.trans hother)
    exact hfound
  | mediumInterface inside outside =>
    obtain ⟨inner, hinner, h⟩ := bind_eq_ok.1 h
    obtain ⟨outer, houter, rfl⟩ := bind_pure_eq_ok.1 h
    refine { hold with media := ?_ }
    have hmedium : ∀ written name, (if written = "" then none else some written) = some name →
        (written ≠ "" → (s.draft.medium? written).isSome) → (s.draft.medium? name).isSome := by
      intro written name heq hwritten
      split at heq
      · cases heq
      · rename_i hne
        cases heq
        exact hwritten hne
    rintro name (hname | hname)
    · exact hmedium inside name hname (mediumNamed_eq_ok hinner).2
    · exact hmedium outside name hname (mediumNamed_eq_ok houter).2
  | replaceTransform motion | composeTransform motion | coordSysTransform name =>
    unfold Directive.effect
    split
    · rename_i e he
      obtain ⟨_, _, rfl⟩ := Option.map_eq_some_iff.1 he
      exact { hold with }
    · exact hold
  | _ => exact { hold with }

/-- All states of a stage refer to what is declared. -/
def Resolved (s : Stage) : Prop :=
  ∀ state ∈ s.scopes.states, state.Resolves s.draft.toDeclarations

theorem Resolved.active (h : s.Resolved) : s.active.Resolves s.draft.toDeclarations :=
  h s.active (List.mem_cons_self ..)

theorem execute_resolved [LinearAlgebra] (h : s.execute location d = .ok s') (hs : s.Resolved) : s'.Resolved := by
  intro state hstate
  rcases ScopeMachine.step_states (execute_scopes h []) hstate with hold | heffect
  · exact (hs state hold).grows (execute_grows h)
  · rw [Directive.effect_op] at heffect
    rw [heffect]
    exact execute_effect_resolves h hs.active

end Stage

end SceneDescription
