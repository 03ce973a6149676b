import SceneDescription.Proofs.Readers.Yields

/-!
# The keywords of directives

A directive tells the keyword that it has been read behind, unless it is a motion: these have seven keywords between
them.
-/

namespace SceneDescription

/-- The keyword of a directive that is not a motion. -/
def Directive.keyword? : Directive → Option Keyword
  | .includeFile _ => some .includeFile
  | .importFile _ => some .importFile
  | .option _ => some .option
  | .camera _ _ => some .camera
  | .setting kind _ _ => some (.setting kind)
  | .worldBegin => some .worldBegin
  | .worldEnd => some .worldEnd
  | .replaceTransform _ | .composeTransform _ => none
  | .coordinateSystem _ => some .coordinateSystem
  | .coordSysTransform _ => some .coordSysTransform
  | .transformTimes _ => some .transformTimes
  | .activeTransform _ => some .activeTransform
  | .reverseOrientation => some .reverseOrientation
  | .attributeBegin => some .attributeBegin
  | .attributeEnd => some .attributeEnd
  | .transformBegin => some .transformBegin
  | .transformEnd => some .transformEnd
  | .attributeDefaults _ _ => some .attributeDefaults
  | .objectBegin _ => some .objectBegin
  | .objectEnd => some .objectEnd
  | .objectInstance _ => some .objectInstance
  | .shape _ _ => some .shape
  | .lightSource _ _ => some .lightSource
  | .areaLightSource _ _ => some .areaLightSource
  | .material _ _ => some .material
  | .makeNamedMaterial _ _ => some .makeNamedMaterial
  | .namedMaterial _ => some .namedMaterial
  | .texture _ _ _ _ => some .texture
  | .makeNamedMedium _ _ => some .makeNamedMedium
  | .mediumInterface _ _ => some .mediumInterface

/-- The keywords of motions. -/
def Keyword.IsMotion : Keyword → Prop
  | identity | translate | scale | rotate | lookAt | transform | concatTransform => True
  | _ => False

instance : DecidablePred Keyword.IsMotion := fun keyword => by
  cases keyword <;> first | exact .isTrue trivial | exact .isFalse id

/-- The keyword is that of the directive. -/
def Directive.HasKeyword (keyword : Keyword) (d : Directive) : Prop :=
  d.keyword? = some keyword ∨ (d.keyword? = none ∧ keyword.IsMotion)

theorem hasKeyword_readDirective (h : Heading) : (readDirective h).Yields (Directive.HasKeyword h.keyword) := by
  obtain ⟨keyword, line⟩ := h
  cases keyword with
  | worldBegin | worldEnd | reverseOrientation | attributeBegin | attributeEnd | transformBegin | transformEnd
  | objectEnd => exact Read.yields_pure (.inl rfl)
  | camera | setting kind | shape | lightSource | areaLightSource | material | makeNamedMaterial | makeNamedMedium =>
    exact Heading.yields_withParameters _ fun _ _ => .inl rfl
  | transformTimes | mediumInterface | attributeDefaults =>
    exact Read.yields_bind fun _ => Read.yields_bind fun _ => Read.yields_pure (.inl rfl)
  | texture =>
    refine Read.yields_bind fun _ => Read.yields_bind fun _ => Read.yields_bind fun _ => Read.yields_bind fun _ => ?_
    split
    · exact Read.yields_pure (.inl rfl)
    · exact Read.yields_fail _ _
  | identity => exact Read.yields_pure (.inr ⟨rfl, trivial⟩)
  | translate | scale | rotate | lookAt | transform | concatTransform =>
    exact Read.yields_map fun _ => .inr ⟨rfl, trivial⟩
  | includeFile | importFile | option | coordinateSystem | coordSysTransform | activeTransform | objectBegin
  | objectInstance | namedMaterial => exact Read.yields_map fun _ => .inl rfl

namespace Directive

variable {keyword : Keyword} {d : Directive}

/-- A keyword that is not of a motion is the keyword of its directive, and of no other. -/
theorem HasKeyword.keyword?_eq (h : d.HasKeyword keyword) (hkeyword : ¬ keyword.IsMotion) :
    d.keyword? = some keyword := by
  rcases h with h | ⟨_, hmoves⟩
  · exact h
  · exact absurd hmoves hkeyword

theorem HasKeyword.keyword?_of_isMotion (h : d.HasKeyword keyword) (hkeyword : keyword.IsMotion) :
    d.keyword? = none := by
  rcases h with h | ⟨h, _⟩
  · cases d <;> cases h <;> cases hkeyword
  · exact h

theorem HasKeyword.eq_of_keyword? (h : d.HasKeyword keyword) {other : Keyword} (hother : d.keyword? = some other) :
    keyword = other := by
  rcases h with h | ⟨h, _⟩
  · exact Option.some.inj (h.symm.trans hother)
  · cases h.symm.trans hother

end Directive

end SceneDescription
