import SceneDescription.Proofs.Parameters.Groups
import SceneDescription.Proofs.Parameters.WellFormed
import SceneDescription.Proofs.Readers.Yields

/-!
# Readers give well-formed parameters

Every value that can be decoded is well-formed, whichever way it takes through the decoder: a spectrum may come out as
a name, as a colour or as pairs, and each of them is checked in its own way (`decodeValue_wellFormed`).  So all
parameters of a directive that has been read are well-formed (`wellFormed_readDirective`).
-/

namespace SceneDescription

/-! ### Values -/

/-- The components that lexemes are read as make a well-formed value, if their number is right. -/
private theorem wellFormed_of_reads {type target : ParameterType} {lexemes : List Lexeme} {v : Value}
    (hreads : List.Forall₂ type.Reads lexemes v.components) (htype : v.type = target)
    (hfits : target.Fits lexemes.length) (hnamed : target ≠ .text .namedSpectrum) : v.WellFormed := by
  have hsize : v.size = lexemes.length := hreads.length_eq.symm
  rw [← hsize] at hfits
  refine ⟨hfits.1, ?_, fun hspectrum => absurd (htype.symm.trans hspectrum) hnamed⟩
  rw [Value.arity, htype]
  exact Nat.mod_eq_zero_of_dvd hfits.2

theorem decodeValue_wellFormed {keyword : String} {tokens : List Token} {heading : Token} {v : Value}
    (h : decodeValue keyword tokens heading = .ok v) : v.WellFormed := by
  obtain ⟨type, hkeyword, hspells⟩ := decodeValue_eq_ok.1 h
  generalize tokens.map (·.lexeme) = lexemes at hspells
  cases hspells with
  | plain _ hfits htype hreads =>
    refine wellFormed_of_reads hreads htype hfits ?_
    -- no keyword stands for a named spectrum
    rintro rfl
    unfold ParameterType.ofKeyword? at hkeyword
    split at hkeyword <;> cases hkeyword
  | name content => exact ⟨Nat.one_pos, Nat.mod_one 1, fun _ => rfl⟩
  | colour hthree htype hreads =>
    refine wellFormed_of_reads hreads htype ?_ (by simp)
    rw [hthree]
    exact ⟨by decide, by decide⟩
  | pairs hpos heven htype hreads =>
    exact wellFormed_of_reads hreads htype ⟨hpos, heven.two_dvd⟩ (by simp)

/-! ### Parameters -/

namespace Read

variable {α β : Type} {P : α → Prop} {Q : β → Prop}

theorem Yields.bind {m : Read α} {f : α → Read β} (hm : Yields P m) (hf : ∀ a, P a → Yields Q (f a)) :
    Yields Q (m >>= f) := by
  intro c b c' hok
  obtain ⟨a, c₁, hfirst, hlast⟩ := bind_ok.1 hok
  exact hf a (hm c a c₁ hfirst) c₁ b c' hlast

end Read

private theorem IsGroup.wellFormed {group : List Token} {p : Parameter} (h : IsGroup group p) : p.value.WellFormed := by
  cases h with
  | single _ _ hvalue | bracketed _ _ _ _ hvalue => exact decodeValue_wellFormed hvalue

private theorem Groups.wellFormed {taken : List Token} {params : List Parameter} (h : Groups taken params) :
    ∀ p ∈ params, p.value.WellFormed := by
  induction h with
  | nil => simp
  | cons hgroup _ ih => exact List.forall_mem_cons.2 ⟨hgroup.wellFormed, ih⟩

theorem wellFormed_readParameter : readParameter.Yields fun p => p.value.WellFormed := by
  intro c p c' hok
  obtain ⟨group, hgroup, _⟩ := readParameter_eq_ok.1 hok
  exact hgroup.wellFormed

private theorem wellFormed_readParameters : readParameters.Yields ParameterList.WellFormed := by
  intro c params c' hok
  obtain ⟨taken, hgroups, _⟩ := readParameters_eq_ok.1 hok
  exact hgroups.wellFormed

/-! ### Directives -/

/-- The parameters of a directive. -/
def Directive.params? : Directive → Option ParameterList
  | .camera _ params | .setting _ _ params | .attributeDefaults _ params | .shape _ params | .lightSource _ params
  | .areaLightSource _ params | .material _ params | .makeNamedMaterial _ params | .texture _ _ _ params
  | .makeNamedMedium _ params => some params
  | _ => none

def Directive.WellFormed (d : Directive) : Prop :=
  ∀ params, d.params? = some params → params.WellFormed

private theorem Directive.wellFormed_of_none {d : Directive} (h : d.params? = none) : d.WellFormed := by
  intro params hparams
  cases h.symm.trans hparams

private theorem Directive.wellFormed_of_some {d : Directive} {params : ParameterList} (h : d.params? = some params)
    (hparams : params.WellFormed) : d.WellFormed := by
  intro params' hparams'
  cases h.symm.trans hparams'
  exact hparams

namespace Heading

variable (h : Heading)

private theorem wellFormed_withParameters {make : String → ParameterList → Directive}
    (hmake : ∀ operand params, (make operand params).params? = some params) :
    (h.withParameters make).Yields Directive.WellFormed :=
  Read.yields_bind fun operand => wellFormed_readParameters.bind fun params hparams =>
    Read.yields_pure (Directive.wellFormed_of_some (hmake operand params) hparams)

private theorem wellFormed_texture : h.texture.Yields Directive.WellFormed := by
  refine Read.yields_bind fun _ => Read.yields_bind fun _ => Read.yields_bind fun _ =>
    wellFormed_readParameters.bind fun params hparams => ?_
  split
  · exact Read.yields_pure (Directive.wellFormed_of_some rfl hparams)
  · exact Read.yields_fail _ _

end Heading

/-- The parameters of a directive that has been read are well-formed. -/
theorem wellFormed_readDirective (h : Heading) : (readDirective h).Yields Directive.WellFormed := by
  unfold readDirective
  split
  case h_34 => exact h.wellFormed_texture
  case h_4 | h_5 | h_28 | h_29 | h_30 | h_31 | h_32 | h_35 => exact h.wellFormed_withParameters fun _ _ => rfl
  case h_24 =>
    exact Read.yields_bind fun _ => wellFormed_readParameters.bind fun _ hparams =>
      Read.yields_pure (Directive.wellFormed_of_some rfl hparams)
  case h_17 | h_36 =>
    exact Read.yields_bind fun _ => Read.yields_bind fun _ => Read.yields_pure (Directive.wellFormed_of_none rfl)
  case h_6 | h_7 | h_8 | h_19 | h_20 | h_21 | h_22 | h_23 | h_26 =>
    exact Read.yields_pure (Directive.wellFormed_of_none rfl)
  all_goals exact Read.yields_map fun _ => Directive.wellFormed_of_none rfl

end SceneDescription
