import SceneDescription.Directive.Reading
import SceneDescription.Proofs.Splicing.Locality

/-!
# What readers give

`Read.Yields` says that a property holds of everything a reader gives, whatever the cursor.  It passes through the
ways in which readers are put together, so what a directive can look like is read off its reader.
-/

namespace SceneDescription

namespace Read

variable {α β : Type} {P : α → Prop} {Q : β → Prop}

/-- Every result of a reader has a property. -/
def Yields (P : α → Prop) (m : Read α) : Prop :=
  ∀ c a c', m c = .ok a c' → P a

theorem yields_pure {a : α} (h : P a) : Yields P (pure a) := by
  intro c b c' hok
  obtain ⟨rfl, rfl⟩ := EStateM.Result.ok.inj hok
  exact h

theorem yields_fail (f : Fault) (line : Option Nat) : Yields P (fail f line) := by
  intro c a c' hok
  exact absurd hok (fail_ne_ok f line)

/-- The last reader of a chain decides what the chain gives. -/
theorem yields_bind {m : Read α} {f : α → Read β} (h : ∀ a, Yields Q (f a)) : Yields Q (m >>= f) := by
  intro c b c' hok
  obtain ⟨a, c₁, _, hlast⟩ := bind_ok.1 hok
  exact h a c₁ b c' hlast

theorem yields_map {m : Read α} {f : α → β} (h : ∀ a, Q (f a)) : Yields Q (f <$> m) := by
  intro c b c' hok
  obtain ⟨a, _, rfl⟩ := map_ok.1 hok
  exact h a

end Read

/-- A texture, if the directive declares one, is of one of the two types. -/
def Directive.TextureTyped : Directive → Prop
  | .texture _ valueType _ _ => valueType = "float" ∨ valueType = "spectrum"
  | _ => True

namespace Heading

variable (h : Heading)

private theorem textureType?_eq_some {word valueType : String} (h : textureType? word = some valueType) :
    valueType = "float" ∨ valueType = "spectrum" := by
  unfold textureType? at h
  split at h
  · exact .inl (Option.some.inj h).symm
  · exact .inr (Option.some.inj h).symm
  · exact .inr (Option.some.inj h).symm
  · cases h

private theorem textureTyped_texture : h.texture.Yields Directive.TextureTyped := by
  refine Read.yields_bind fun _ => Read.yields_bind fun word => Read.yields_bind fun _ => Read.yields_bind fun _ => ?_
  split
  · rename_i htype
    exact Read.yields_pure (textureType?_eq_some htype)
  · exact Read.yields_fail _ _

theorem yields_withParameters {make : String → ParameterList → Directive} {P : Directive → Prop}
    (hmake : ∀ operand params, P (make operand params)) : (h.withParameters make).Yields P :=
  Read.yields_bind fun operand => Read.yields_bind fun params => Read.yields_pure (hmake operand params)

end Heading

/-- The word for the type of a texture is read as one of the two types; `color` is another word for `spectrum`. -/
theorem textureTyped_readDirective (h : Heading) : (readDirective h).Yields Directive.TextureTyped := by
  unfold readDirective
  split
  case h_34 => exact h.textureTyped_texture
  case h_4 | h_5 | h_28 | h_29 | h_30 | h_31 | h_32 | h_35 => exact h.yields_withParameters fun _ _ => trivial
  case h_17 | h_24 | h_36 => exact Read.yields_bind fun _ => Read.yields_bind fun _ => Read.yields_pure trivial
  case h_6 | h_7 | h_8 | h_19 | h_20 | h_21 | h_22 | h_23 | h_26 => exact Read.yields_pure trivial
  all_goals exact Read.yields_map fun _ => trivial

end SceneDescription
