import SceneDescription.Proofs.Stages.Growth

/-!
# What directives put into slots

The camera, the settings, the options and the transform times of a draft after a directive, each in terms of what the
directive gives for it.  An option is given by a parameter: its name tells which one, and its first component is the
value (`RenderSetting.of_ofParameter`).
-/

namespace SceneDescription

/-! ### Options as parameters -/

/-- The name of the parameter that sets an option. -/
def RenderOption.name : RenderOption → String
  | disablePixelJitter => "disablepixeljitter"
  | disableTextureFiltering => "disabletexturefiltering"
  | disableWavelengthJitter => "disablewavelengthjitter"
  | displacementEdgeScale => "displacementedgescale"
  | mseReferenceImage => "msereferenceimage"
  | mseReferenceOut => "msereferenceout"
  | renderSpace => "rendercoordsys"
  | seed => "seed"
  | forceDiffuse => "forcediffuse"
  | pixelStats => "pixelstats"
  | wavefront => "wavefront"

/-- The value of an option as a component of a parameter; a coordinate system is written as its name. -/
def RenderSetting.component : RenderSetting → Component
  | disablePixelJitter value | disableTextureFiltering value | disableWavelengthJitter value | forceDiffuse value
  | pixelStats value | wavefront value => .flag value
  | displacementEdgeScale value => .real value
  | mseReferenceImage value | mseReferenceOut value => .text value
  | renderSpace value => .text value.name
  | seed value => .integer value

theorem RenderOption.name_inj {a b : RenderOption} (h : a.name = b.name) : a = b := by
  cases a <;> cases b <;> first | rfl | simp [name] at h

private theorem RenderSpace.name_of_ofName? {text : String} {value : RenderSpace} (h : ofName? text = some value) :
    value.name = text := by
  unfold ofName? at h
  split at h <;> cases h <;> rfl

/-- A parameter sets the option that it names to its first component. -/
theorem RenderSetting.of_ofParameter {p : Parameter} {setting : RenderSetting} (h : ofParameter p = .ok setting) :
    p.name = setting.option.name ∧ p.value.components.head? = some setting.component := by
  unfold ofParameter at h
  split at h
  · cases h
  rename_i field hfield
  split at h
  case h_6 => cases h
  case h_5 =>
    rename_i heq
    split at h
    · rename_i hname
      cases h
      unfold RenderField.ofName? at hfield
      split at hfield <;> cases hfield
      rename_i hp
      rw [hp, heq]
      refine ⟨rfl, ?_⟩
      rw [component, RenderSpace.name_of_ofName? hname]
      rfl
    · cases h
  all_goals
    rename_i heq
    cases h
    unfold RenderField.ofName? at hfield
    split at hfield <;> cases hfield
    all_goals
      rename_i hp
      rw [hp, heq]
      exact ⟨rfl, rfl⟩

/-! ### One directive -/

def Entity.camera? : Entity → Option Camera
  | camera x => some x
  | _ => none

/-- The value that a directive gives to an option. -/
def Directive.option? : Directive → Option RenderSetting
  | .option new => some new
  | _ => none

def Directive.transformTimes? : Directive → Option (Shutter Float)
  | .transformTimes times => some times
  | _ => none

namespace Stage

variable [LinearAlgebra] {s s' : Stage} {location : Location} {d : Directive}

theorem execute_camera (h : s.execute location d = .ok s') :
    s'.draft.camera = ((d.entity? location s.active).bind Entity.camera?).or s.draft.camera := by
  by_cases hslot : d.sets? = some .camera
  · rw [execute_draft h]
    cases d with
    | camera type params => rfl
    | _ => cases hslot
  · have hsame := execute_sameAt h hslot
    change s.draft.camera = s'.draft.camera at hsame
    have hnone : (d.entity? location s.active).bind Entity.camera? = none := by
      rw [Option.bind_eq_none_iff]
      intro e he
      cases e with
      | camera camera => exact absurd (Directive.sets?_of_camera he) hslot
      | _ => rfl
    rw [hnone, Option.none_or, hsame]

theorem execute_setting (h : s.execute location d = .ok s') (kind : SettingKind) :
    s'.draft.settings.get? kind =
      ((d.setting? location).filter (·.kind = kind)).or (s.draft.settings.get? kind) := by
  rw [execute_settings h]
  cases d.setting? location with
  | none => rfl
  | some setting =>
    rw [Option.filter_some]
    dsimp only
    rw [Settings.get?_put]
    by_cases hkind : kind = setting.kind
    · simp [hkind]
    · simp [hkind, Ne.symm hkind]

theorem execute_option (h : s.execute location d = .ok s') (option : RenderOption) :
    s'.draft.options.get? option =
      (d.option?.filter (·.option = option)).or (s.draft.options.get? option) := by
  by_cases hslot : d.sets? = some (.option option)
  · rw [execute_draft h]
    cases d with
    | option setting =>
      cases hslot
      rw [Directive.option?, Option.filter_some]
      simp [draftAfter, Draft.setOption, RenderOptions.get?_set]
    | _ => cases hslot
  · have hsame := execute_sameAt h hslot
    change s.draft.options.get? option = s'.draft.options.get? option at hsame
    have hnone : d.option?.filter (·.option = option) = none := by
      rw [Option.filter_eq_none_iff]
      intro setting hsetting
      cases d with
      | option new =>
        cases hsetting
        intro heq
        exact hslot (congrArg (some <| Slot.option ·) (by simpa using heq))
      | _ => cases hsetting
    rw [hnone, Option.none_or, hsame]

theorem execute_transformTimes (h : s.execute location d = .ok s') :
    s'.draft.transformTimes = d.transformTimes?.getD s.draft.transformTimes := by
  by_cases hslot : d.sets? = some .transformTimes
  · rw [execute_draft h]
    cases d with
    | transformTimes times => rfl
    | _ => cases hslot
  · have hsame := execute_sameAt h hslot
    change s.draft.transformTimes = s'.draft.transformTimes at hsame
    cases d with
    | transformTimes times => exact absurd rfl hslot
    | _ => exact hsame.symm

end Stage

/-! ### Declarations that may be repeated -/

/-- The keywords of the camera and the settings. -/
def Keyword.isSingle : Keyword → Bool
  | camera | setting _ => true
  | _ => false

theorem Keyword.not_isMotion_of_isSingle {keyword : Keyword} (h : keyword.isSingle) : ¬ keyword.IsMotion := by
  intro hmotion
  cases keyword <;> first | exact hmotion | cases h

/-- Where the camera or the setting of a keyword has been declared. -/
def Declarations.previous? (d : Declarations) : Keyword → Option (Option Location)
  | .camera => d.camera.map (·.location)
  | .setting kind => (d.settings.get? kind).map (·.location)
  | _ => none

namespace Stage

variable {s s' : Stage} {location : Location} {d : Directive} {keyword : Keyword}

theorem execute_previous_self [LinearAlgebra] (h : s.execute location d = .ok s') (hd : d.keyword? = some keyword)
    (hsingle : keyword.isSingle) : s'.draft.previous? keyword = some (some location) := by
  cases keyword with
  | camera =>
    cases d with
    | camera type params => rw [Declarations.previous?, execute_camera h]; rfl
    | _ => cases hd
  | setting kind =>
    cases d with
    | setting kind' type params =>
      cases hd
      rw [Declarations.previous?, execute_setting h, Directive.setting?, Option.filter_some]
      simp
    | _ => cases hd
  | _ => cases hsingle

theorem execute_previous_of_ne [LinearAlgebra] (h : s.execute location d = .ok s') (hd : d.keyword? ≠ some keyword) :
    s'.draft.previous? keyword = s.draft.previous? keyword := by
  cases keyword with
  | camera =>
    have hslot : d.sets? ≠ some .camera := by
      intro hslot
      cases d with
      | camera type params => exact hd rfl
      | _ => cases hslot
    have hsame := execute_sameAt h hslot
    change s.draft.camera = s'.draft.camera at hsame
    rw [Declarations.previous?, Declarations.previous?, hsame]
  | setting kind =>
    have hslot : d.sets? ≠ some (.setting kind) := by
      intro hslot
      cases d with
      | setting kind' type params =>
        cases hslot
        exact hd rfl
      | _ => cases hslot
    have hsame := execute_sameAt h hslot
    change s.draft.settings.get? kind = s'.draft.settings.get? kind at hsame
    rw [Declarations.previous?, Declarations.previous?, hsame]
  | _ => rfl

/-- The warnings of a directive by its keyword. -/
theorem warningsOf_eq (hd : d.HasKeyword keyword) : s.warningsOf location d =
    if keyword.isSingle then
      ((s.draft.previous? keyword).map fun old => ⟨.redefined keyword.name old, some location⟩).toList
    else if keyword = .areaLightSource then
      (s.scopes.recording.map fun object => ⟨.areaLightInObject object, some location⟩).toList
    else [] := by
  cases d with
  | camera type params =>
    rw [hd.eq_of_keyword? rfl]
    simp [warningsOf, Keyword.isSingle, Declarations.previous?, Option.map_map, Function.comp_def, Keyword.name]
  | setting kind type params =>
    rw [hd.eq_of_keyword? rfl]
    simp [warningsOf, Keyword.isSingle, Declarations.previous?, Option.map_map, Function.comp_def, Keyword.name]
  | areaLightSource type params =>
    rw [hd.eq_of_keyword? rfl]
    rfl
  | replaceTransform motion | composeTransform motion =>
    rcases hd with hd | ⟨_, hmotion⟩
    · cases hd
    · cases keyword <;> first | rfl | cases hmotion
  | _ =>
    rw [hd.eq_of_keyword? rfl]
    rfl

end Stage

end SceneDescription
