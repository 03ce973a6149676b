import SceneDescription.Proofs.Splicing.Parameters
import SceneDescription.Session

/-!
# Reading the same directives elsewhere

A directive that has been read can be read again from the same lexemes in front of another text, if the text starts
with a keyword or is empty (`local_readDirective`).  The directives that open files take one quoted string.
-/

namespace SceneDescription

variable {α : Type}

namespace Heading

variable (h h' : Heading)

/-! ### Operands -/

private theorem local_operand {accept : Lexeme → Option α} (hplain : ∀ l a, accept l = some a → l.IsPlain)
    (expected : Expected) : Local (fun _ => True) (h.operand expected accept) (h'.operand expected accept) := by
  refine Local.take ?_ ?_ ?_
  · intro c a c'
    exact Read.fail_ne_ok _ _
  · intro t c a c' hok
    dsimp only at hok
    cases haccept : accept t.lexeme with
    | some b => exact hplain t.lexeme b haccept
    | none =>
      rw [haccept] at hok
      exact absurd hok (Read.fail_ne_ok _ _)
  · intro t t' hlexeme
    dsimp only
    rw [hlexeme]
    cases accept t.lexeme with
    | some a => exact .pure trivial
    | none => exact .fail _ _

theorem local_quoted : Local (fun _ => True) h.quoted h'.quoted := by
  refine h.local_operand h' ?_ _
  intro l a hl
  cases l with
  | quoted content => exact Lexeme.isPlain_quoted content
  | _ => cases hl

private theorem local_number : Local (fun _ => True) h.number h'.number := by
  refine h.local_operand h' ?_ _
  intro l a hl
  cases l with
  | number numeral => exact Lexeme.isPlain_number numeral
  | _ => cases hl

private theorem local_closingBracket : Local (fun _ => True) h.closingBracket h'.closingBracket := by
  refine h.local_operand h' ?_ _
  intro l a hl
  cases l with
  | rightBracket => exact Lexeme.isPlain_rightBracket
  | _ => cases hl

private theorem local_vec3 : Local (fun _ => True) h.vec3 h'.vec3 :=
  (h.local_number h').bind fun _ _ => (h.local_number h').bind fun _ _ => (h.local_number h').bind fun _ _ =>
    .pure trivial

private theorem local_vec4 : Local (fun _ => True) h.vec4 h'.vec4 :=
  (h.local_number h').bind fun _ _ => (h.local_number h').bind fun _ _ => (h.local_number h').bind fun _ _ =>
    (h.local_number h').bind fun _ _ => .pure trivial

private theorem local_columns : Local (fun _ => True) h.columns h'.columns :=
  (h.local_vec4 h').bind fun _ _ => (h.local_vec4 h').bind fun _ _ => (h.local_vec4 h').bind fun _ _ =>
    (h.local_vec4 h').bind fun _ _ => .pure trivial

private theorem local_rotation : Local (fun _ => True) h.rotation h'.rotation :=
  (h.local_number h').bind fun _ _ => (h.local_vec3 h').bind fun _ _ => .pure trivial

private theorem local_view : Local (fun _ => True) h.view h'.view :=
  (h.local_vec3 h').bind fun _ _ => (h.local_vec3 h').bind fun _ _ => (h.local_vec3 h').bind fun _ _ =>
    .pure trivial

def openingBracket : Read Unit :=
  h.operand .number fun
    | .leftBracket => some ()
    | _ => none

/-- The bracket that a matrix takes is the one that it has looked at. -/
private theorem matrix_eq : h.matrix = (Read.peek >>= fun t => if t.any (·.lexeme.opensBracket) then
    h.openingBracket >>= fun _ => h.columns >>= fun motion => h.closingBracket >>= fun _ => pure motion
      else h.columns) := by
  funext ⟨items, stuck, line⟩
  match items, stuck with
  | [], none => rfl
  | [], some _ => rfl
  | .malformed _ :: _, _ => rfl
  | .token ⟨.leftBracket, _⟩ :: _, _ => rfl
  | .token ⟨.rightBracket, _⟩ :: _, _ => rfl
  | .token ⟨.identifier _, _⟩ :: _, _ => rfl
  | .token ⟨.quoted _, _⟩ :: _, _ => rfl
  | .token ⟨.number _, _⟩ :: _, _ => rfl

private theorem outerMedium_eq (inside : String) : h.outerMedium inside =
    (Read.peek >>= fun t => if t.any (·.lexeme.isQuoted) then h.quoted else pure inside) := by
  unfold outerMedium
  congr 1
  funext t
  match t with
  | none => rfl
  | some ⟨.leftBracket, _⟩ => rfl
  | some ⟨.rightBracket, _⟩ => rfl
  | some ⟨.identifier _, _⟩ => rfl
  | some ⟨.quoted _, _⟩ => rfl
  | some ⟨.number _, _⟩ => rfl

private theorem operand_takes {expected : Expected} {accept : Lexeme → Option α} {c c' : Cursor} {a : α}
    (hok : h.operand expected accept c = .ok a c') :
    ∃ t, c.items = .token t :: c'.items ∧ accept t.lexeme = some a := by
  obtain ⟨t, c₁, htake, hrest⟩ := Read.bind_ok.1 hok
  cases t with
  | none => exact absurd hrest (Read.fail_ne_ok _ _)
  | some t =>
    dsimp only at hrest
    cases haccept : accept t.lexeme with
    | none =>
      rw [haccept] at hrest
      exact absurd hrest (Read.fail_ne_ok _ _)
    | some b =>
      rw [haccept] at hrest
      cases hrest
      exact ⟨t, (Read.take_some htake).1, haccept⟩

private theorem local_openingBracket : Local (fun _ => True) h.openingBracket h'.openingBracket := by
  refine h.local_operand h' ?_ _
  intro l a hl
  cases l with
  | leftBracket => exact Lexeme.isPlain_leftBracket
  | _ => cases hl

private theorem local_matrix : Local (fun _ => True) h.matrix h'.matrix := by
  rw [matrix_eq, matrix_eq]
  refine Local.peek (fun _ => rfl) ?_ ?_ (h.local_columns h')
  · intro c motion c' hok
    obtain ⟨_, c₁, hopen, hrest⟩ := Read.bind_ok.1 hok
    obtain ⟨t, hitems, _⟩ := h.operand_takes hopen
    obtain ⟨_, taken, hitems', _⟩ := ((h.local_columns h).bind fun _ _ => (h.local_closingBracket h).bind fun _ _ =>
      Local.pure (P := fun _ => True) trivial) c₁ motion c' hrest
    rw [hitems, hitems']
    simp only [List.length_cons, List.length_append]
    omega
  · exact (h.local_openingBracket h').bind fun _ _ => (h.local_columns h').bind fun _ _ =>
      (h.local_closingBracket h').bind fun _ _ => .pure trivial

private theorem local_outerMedium (inside : String) :
    Local (fun _ => True) (h.outerMedium inside) (h'.outerMedium inside) := by
  rw [outerMedium_eq, outerMedium_eq]
  refine Local.peek (fun _ => rfl) ?_ (h.local_quoted h') (.pure trivial)
  intro c content c' hok
  obtain ⟨t, hitems, _⟩ := h.operand_takes hok
  rw [hitems]
  exact Nat.lt_succ_self _

private theorem local_shutterTimes : Local (fun _ => True) h.shutterTimes h'.shutterTimes := by
  refine Local.take ?_ ?_ ?_
  · intro c times c'
    exact Read.fail_ne_ok _ _
  · rintro ⟨l, line⟩ c times c' hok
    cases l with
    | identifier name =>
      by_cases hname : name = "Include" ∨ name = "Import"
      · rcases hname with rfl | rfl <;> exact absurd hok (Read.fail_ne_ok _ _)
      · simp only [not_or] at hname
        exact ⟨by simpa using hname.1, by simpa using hname.2⟩
    | quoted content => exact Lexeme.isPlain_quoted content
    | number numeral => exact Lexeme.isPlain_number numeral
    | leftBracket => exact Lexeme.isPlain_leftBracket
    | rightBracket => exact Lexeme.isPlain_rightBracket
  · rintro ⟨l, line⟩ ⟨l', line'⟩ hlexeme
    obtain rfl : l' = l := hlexeme
    cases l' with
    | identifier name | quoted name =>
      dsimp only
      cases shutterTimes? name with
      | some times => exact .pure trivial
      | none => exact .fail _ _
    | _ => exact .fail _ _

private theorem local_renderSetting : Local (fun _ => True) h.renderSetting h'.renderSetting := by
  refine local_readParameter.bind fun p _ => ?_
  cases RenderSetting.ofParameter p with
  | ok setting => exact .pure trivial
  | error f => exact .fail _ _

private theorem local_attributeTarget : Local (fun _ => True) h.attributeTarget h'.attributeTarget := by
  refine (h.local_quoted h').bind fun target _ => ?_
  split
  · exact .pure trivial
  · exact .fail _ _

private theorem local_texture : Local (fun d => d.opens? = none) h.texture h'.texture := by
  refine (h.local_quoted h').bind fun name _ => (h.local_quoted h').bind fun valueType _ =>
    (h.local_quoted h').bind fun textureClass _ => local_readParameters.bind fun params _ => ?_
  cases textureType? valueType with
  | some valueType => exact .pure rfl
  | none => exact .fail _ _

private theorem local_withParameters {make : String → ParameterList → Directive}
    (hmake : ∀ operand params, (make operand params).opens? = none) :
    Local (fun d => d.opens? = none) (h.withParameters make) (h'.withParameters make) :=
  (h.local_quoted h').bind fun operand _ => local_readParameters.bind fun params _ => .pure (hmake operand params)

end Heading

/-- A keyword that opens no file reads the same directive elsewhere, which opens no file. -/
theorem local_readDirective {keyword : Keyword} (hinclude : keyword ≠ .includeFile) (himport : keyword ≠ .importFile)
    (line line' : Nat) :
    Local (fun d => d.opens? = none) (readDirective ⟨keyword, line⟩) (readDirective ⟨keyword, line'⟩) := by
  unfold readDirective
  cases keyword with
  | includeFile => exact absurd rfl hinclude
  | importFile => exact absurd rfl himport
  | option => exact (Heading.local_renderSetting _ _).map fun _ _ => rfl
  | camera | setting | shape | lightSource | areaLightSource | material | makeNamedMaterial | makeNamedMedium =>
    exact Heading.local_withParameters _ _ fun _ _ => rfl
  | worldBegin | worldEnd | identity | reverseOrientation | attributeBegin | attributeEnd | transformBegin
  | transformEnd | objectEnd => exact .pure rfl
  | translate | scale => exact (Heading.local_vec3 _ _).map fun _ _ => rfl
  | rotate => exact (Heading.local_rotation _ _).map fun _ _ => rfl
  | lookAt => exact (Heading.local_view _ _).map fun _ _ => rfl
  | transform | concatTransform => exact (Heading.local_matrix _ _).map fun _ _ => rfl
  | coordinateSystem | coordSysTransform | objectBegin | objectInstance | namedMaterial =>
    exact (Heading.local_quoted _ _).map fun _ _ => rfl
  | transformTimes =>
    exact (Heading.local_number _ _).bind fun _ _ => (Heading.local_number _ _).bind fun _ _ => .pure rfl
  | activeTransform => exact (Heading.local_shutterTimes _ _).map fun _ _ => rfl
  | attributeDefaults =>
    exact (Heading.local_attributeTarget _ _).bind fun _ _ => local_readParameters.bind fun _ _ => .pure rfl
  | texture => exact Heading.local_texture _ _
  | mediumInterface =>
    exact (Heading.local_quoted _ _).bind fun _ _ => (Heading.local_outerMedium _ _ _).bind fun _ _ => .pure rfl

private theorem quoted_takes {h : Heading} {c c' : Cursor} {content : String} (hok : h.quoted c = .ok content c') :
    ∃ line, c.items = .token ⟨.quoted content, line⟩ :: c'.items := by
  obtain ⟨⟨l, line⟩, hitems, haccept⟩ := h.operand_takes hok
  cases l with
  | quoted written =>
    cases haccept
    exact ⟨line, hitems⟩
  | _ => cases haccept

theorem readDirective_includeFile {line : Nat} {c c' : Cursor} {d : Directive}
    (hok : readDirective ⟨.includeFile, line⟩ c = .ok d c') :
    ∃ path line', d = .includeFile path ∧ c.items = .token ⟨.quoted path, line'⟩ :: c'.items := by
  obtain ⟨path, hquoted, rfl⟩ := Read.map_ok.1 hok
  obtain ⟨line', hitems⟩ := quoted_takes hquoted
  exact ⟨path, line', rfl, hitems⟩

theorem readDirective_importFile {line : Nat} {c c' : Cursor} {d : Directive}
    (hok : readDirective ⟨.importFile, line⟩ c = .ok d c') :
    ∃ path line', d = .importFile path ∧ c.items = .token ⟨.quoted path, line'⟩ :: c'.items := by
  obtain ⟨path, hquoted, rfl⟩ := Read.map_ok.1 hok
  obtain ⟨line', hitems⟩ := quoted_takes hquoted
  exact ⟨path, line', rfl, hitems⟩

end SceneDescription
