import SceneDescription.Directive.Stage
import SceneDescription.Proofs.Results

/-!
# What a stage refuses

A directive that cannot be carried out is a finding about the scene.  Only a motion may have no matrix for another
reason: an infinite angle has no sine, and a view may have no inverse (`Motion.toMatrix_eq_error`).
-/

namespace SceneDescription

/-- A computation that fails with findings only. -/
def FindsOnly {α : Type} (result : Except Fault α) : Prop :=
  ∀ f, result = .error f → f.isFinding

section

variable {α β : Type}

private theorem findsOnly_ok (a : α) : FindsOnly (.ok a) := by
  rintro f ⟨⟩

private theorem findsOnly_error {f : Fault} (hf : f.isFinding) : FindsOnly (.error f : Except Fault α) := by
  rintro f ⟨⟩
  exact hf

private theorem FindsOnly.bind {first : Except Fault α} {next : α → Except Fault β} (hfirst : FindsOnly first)
    (hnext : ∀ a, FindsOnly (next a)) : FindsOnly (first >>= next) := by
  intro f h
  cases first with
  | error g =>
    cases h
    exact hfirst _ rfl
  | ok a => exact hnext a f h

end

/-! ### Scopes and names -/

namespace ScopeStack

variable (s : ScopeStack)

private theorem findsOnly_pop (kind : ScopeKind) : FindsOnly (s.pop kind) := by
  unfold pop
  split
  · exact findsOnly_error rfl
  split
  · exact findsOnly_error rfl
  split
  · exact findsOnly_ok _
  · exact findsOnly_error rfl

private theorem findsOnly_beginObject (name : String) : FindsOnly (s.beginObject name) := by
  unfold beginObject
  split
  · exact findsOnly_error rfl
  · exact findsOnly_ok _

private theorem findsOnly_endObject : FindsOnly s.endObject := by
  unfold endObject
  split
  · exact findsOnly_error rfl
  · exact (s.findsOnly_pop _).bind fun _ => findsOnly_ok _

theorem findsOnly_checkBalanced : FindsOnly s.checkBalanced := by
  unfold checkBalanced
  split
  · exact findsOnly_error rfl
  · exact findsOnly_error rfl
  · exact findsOnly_ok _

end ScopeStack

namespace Draft

variable (d : Draft)

private theorem findsOnly_defined {α : Type} (thing : Named) (name : String) (found : Option α) :
    FindsOnly (defined thing name found) := by
  cases found with
  | some a => exact findsOnly_ok a
  | none => exact findsOnly_error rfl

private theorem findsOnly_addMaterial (material : Material) : FindsOnly (d.addMaterial material) := by
  unfold addMaterial
  split
  · split
    · exact findsOnly_error rfl
    · exact findsOnly_ok _
  · exact findsOnly_ok _

private theorem findsOnly_addTexture (texture : Texture) : FindsOnly (d.addTexture texture) := by
  unfold addTexture
  split
  · exact findsOnly_error rfl
  · exact findsOnly_ok _

private theorem findsOnly_addMedium (medium : Medium) : FindsOnly (d.addMedium medium) := by
  unfold addMedium
  split
  · exact findsOnly_error rfl
  · exact findsOnly_ok _

private theorem findsOnly_beginObject (name : String) : FindsOnly (d.beginObject name) := by
  unfold beginObject
  split
  · exact findsOnly_error rfl
  · exact findsOnly_ok _

end Draft

/-! ### Motions -/

/-- Why a motion has no matrix. -/
theorem Motion.toMatrix_eq_error [LinearAlgebra] {motion : Motion} {f : Fault} (h : motion.toMatrix = .error f) :
    f.isFinding ∨
    (f = .infiniteAngle ∧ ∃ degrees axis, motion = .rotate degrees axis ∧ degrees.isInf ∧
      (LinearAlgebra.length axis == 0.0) = false) ∨
    (f = .singularMatrix ∧ ∃ eye target up, motion = .lookAt eye target up ∧
      viewing eye target up = .error .singularMatrix) := by
  cases motion with
  | rotate degrees axis =>
    dsimp only [toMatrix, rotation] at h
    split at h
    · cases h
      exact .inl rfl
    rename_i hlength
    split at h
    · rename_i hinf
      cases h
      exact .inr (.inl ⟨rfl, degrees, axis, rfl, hinf, Bool.eq_false_iff.2 hlength⟩)
    · cases h
  | lookAt eye target up =>
    have hview := h
    dsimp only [toMatrix, viewing] at h
    split at h
    · cases h
      exact .inl rfl
    split at h
    · cases h
      exact .inl rfl
    split at h
    · cases h
    · cases h
      exact .inr (.inr ⟨rfl, eye, target, up, rfl, hview⟩)
  | identity | translate _ | scale _ | columns _ _ _ _ => cases h

/-- A rotation by an infinite angle has no matrix. -/
theorem Motion.toMatrix_rotate_of_isInf [LinearAlgebra] {degrees : Float} {axis : Vec3} (hinf : degrees.isInf)
    (hlength : (LinearAlgebra.length axis == 0.0) = false) :
    (rotate degrees axis).toMatrix = .error .infiniteAngle := by
  simp [toMatrix, rotation, hinf, hlength]

/-- The motion of a directive that changes the current transformation. -/
def Directive.motion? : Directive → Option Motion
  | .replaceTransform motion | .composeTransform motion => some motion
  | _ => none

namespace Stage

variable (s : Stage)

private theorem findsOnly_declaredType (directive name : String) (params : ParameterList) :
    FindsOnly (declaredType directive name params) := by
  unfold declaredType
  split
  · exact findsOnly_ok _
  · exact findsOnly_error rfl

private theorem findsOnly_placeObject (name : String) (location : Location) :
    FindsOnly (s.placeObject name location) := by
  unfold placeObject
  split
  · exact findsOnly_error rfl
  · exact (Draft.findsOnly_defined _ _ _).bind fun _ => findsOnly_ok _

private theorem findsOnly_mediumNamed (name : String) : FindsOnly (s.mediumNamed name) := by
  unfold mediumNamed
  split
  · exact findsOnly_ok _
  · exact (Draft.findsOnly_defined _ _ _).bind fun _ => findsOnly_ok _

/-- What a stage has against a directive is a finding, or that its motion has no matrix. -/
theorem execute_eq_error [LinearAlgebra] {location : Location} {d : Directive} {f : Fault}
    (h : s.execute location d = .error f) :
    f.isFinding ∨ ∃ motion, d.motion? = some motion ∧ motion.toMatrix = .error f := by
  cases d with
  | replaceTransform motion | composeTransform motion =>
    refine .inr ⟨motion, rfl, ?_⟩
    cases hmatrix : motion.toMatrix with
    | ok matrix =>
      simp only [execute, hmatrix] at h
      cases h
    | error g =>
      simp only [execute, hmatrix] at h
      cases h
      rfl
  | coordSysTransform name | namedMaterial name =>
    exact .inl ((Draft.findsOnly_defined _ _ _).bind (fun _ => findsOnly_ok _) f h)
  | attributeEnd | transformEnd => exact .inl ((s.scopes.findsOnly_pop _).bind (fun _ => findsOnly_ok _) f h)
  | objectBegin name =>
    refine .inl ((s.scopes.findsOnly_beginObject name).bind (fun _ => ?_) f h)
    exact (s.draft.findsOnly_beginObject name).bind fun _ => findsOnly_ok _
  | objectEnd => exact .inl (s.scopes.findsOnly_endObject.bind (fun _ => findsOnly_ok _) f h)
  | objectInstance name => exact .inl (s.findsOnly_placeObject name location f h)
  | material type params => exact .inl ((s.draft.findsOnly_addMaterial _).bind (fun _ => findsOnly_ok _) f h)
  | makeNamedMaterial name params =>
    refine .inl ((findsOnly_declaredType _ name _).bind (fun _ => ?_) f h)
    exact (s.draft.findsOnly_addMaterial _).bind fun _ => findsOnly_ok _
  | texture name valueType textureClass params =>
    exact .inl ((s.draft.findsOnly_addTexture _).bind (fun _ => findsOnly_ok _) f h)
  | makeNamedMedium name params =>
    refine .inl ((findsOnly_declaredType _ name _).bind (fun _ => ?_) f h)
    exact (s.draft.findsOnly_addMedium _).bind fun _ => findsOnly_ok _
  | mediumInterface inside outside =>
    refine .inl ((s.findsOnly_mediumNamed inside).bind (fun _ => ?_) f h)
    exact (s.findsOnly_mediumNamed outside).bind fun _ => findsOnly_ok _
  | _ => cases h

end Stage

end SceneDescription
