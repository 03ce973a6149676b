import SceneDescription.Proofs.Sessions.ReportedLines
import SceneDescription.Proofs.Sessions.WellFormedParameters
import SceneDescription.Proofs.Stages.Breakdowns
import SceneDescription.Transform.Elimination

/-!
# Sessions that break off

A text that opens no files is read to a scene or to a finding about it.  It breaks off only at a rotation by an
infinite angle, whose axis has a length (`parseText_breaks_off_iff`).  Nothing else is missing on the way: the text of
a number can be read as a number, and a value that is looked into has a first component.
-/

namespace SceneDescription

/-! ### Rotations -/

private theorem Read.Yields.map {α β : Type} {P : α → Prop} {Q : β → Prop} {m : Read α} {f : α → β} (hm : m.Yields P)
    (hf : ∀ a, P a → Q (f a)) : (f <$> m).Yields Q :=
  hm.bind fun a ha => yields_pure (hf a ha)

namespace Heading

variable (h : Heading)

private theorem number_eq_ok {c c' : Cursor} {x : Float} (hread : h.number c = .ok x c') :
    ∃ numeral line, c.items = .token ⟨.number numeral, line⟩ :: c'.items ∧ x = numeral.toFloat := by
  obtain ⟨t, c₁, htake, hread⟩ := Read.bind_ok.1 hread
  cases t with
  | none => exact absurd hread (Read.fail_ne_ok _ _)
  | some t =>
    obtain ⟨lexeme, line⟩ := t
    cases lexeme with
    | number numeral =>
      cases hread
      exact ⟨numeral, line, (Read.take_some htake).1, rfl⟩
    | _ => exact absurd hread (Read.fail_ne_ok _ _)

/-- The operands of a rotation are four numbers. -/
private theorem rotation_eq_ok {c c' : Cursor} {motion : Motion} (hread : h.rotation c = .ok motion c') :
    ∃ (operands : List Token) (degrees x y z : Numeral), c.items = operands.map .token ++ c'.items ∧
      operands.map (·.lexeme) = [.number degrees, .number x, .number y, .number z] ∧
      motion = .rotate degrees.toFloat ⟨x.toFloat, y.toFloat, z.toFloat⟩ := by
  obtain ⟨_, c₁, hdegrees, hread⟩ := Read.bind_ok.1 hread
  obtain ⟨_, c₂, haxis, hread⟩ := Read.bind_ok.1 hread
  obtain ⟨_, c₃, hx, haxis⟩ := Read.bind_ok.1 haxis
  obtain ⟨_, c₄, hy, haxis⟩ := Read.bind_ok.1 haxis
  obtain ⟨_, c₅, hz, haxis⟩ := Read.bind_ok.1 haxis
  cases haxis
  cases hread
  obtain ⟨degrees, l, hitems, rfl⟩ := h.number_eq_ok hdegrees
  obtain ⟨x, lx, hitemsx, rfl⟩ := h.number_eq_ok hx
  obtain ⟨y, ly, hitemsy, rfl⟩ := h.number_eq_ok hy
  obtain ⟨z, lz, hitemsz, rfl⟩ := h.number_eq_ok hz
  refine ⟨[⟨.number degrees, l⟩, ⟨.number x, lx⟩, ⟨.number y, ly⟩, ⟨.number z, lz⟩],
    degrees, x, y, z, ?_, rfl, rfl⟩
  rw [hitems, hitemsx, hitemsy, hitemsz]
  rfl

private theorem rotation_of_items {c : Cursor} {operands : List Token} {degrees x y z : Numeral} {rest : List Item}
    (hitems : c.items = operands.map .token ++ rest)
    (hlexemes : operands.map (·.lexeme) = [.number degrees, .number x, .number y, .number z]) :
    ∃ c', h.rotation c = .ok (.rotate degrees.toFloat ⟨x.toFloat, y.toFloat, z.toFloat⟩) c' := by
  obtain ⟨⟨_, _⟩, _, rfl, rfl, haxis⟩ := List.map_eq_cons_iff.1 hlexemes
  obtain ⟨⟨_, _⟩, _, rfl, rfl, hyz⟩ := List.map_eq_cons_iff.1 haxis
  obtain ⟨⟨_, _⟩, _, rfl, rfl, hz⟩ := List.map_eq_cons_iff.1 hyz
  obtain ⟨⟨_, _⟩, _, rfl, rfl, _⟩ := List.map_eq_cons_iff.1 hz
  obtain ⟨c₁, hdegrees, hitems⟩ := h.number_of_items hitems
  obtain ⟨c₂, hx, hitems⟩ := h.number_of_items hitems
  obtain ⟨c₃, hy, hitems⟩ := h.number_of_items hitems
  obtain ⟨c₄, hz, _⟩ := h.number_of_items hitems
  have haxis : h.vec3 c₁ = .ok ⟨x.toFloat, y.toFloat, z.toFloat⟩ c₄ :=
    Read.bind_ok.2 ⟨_, _, hx, Read.bind_ok.2 ⟨_, _, hy, Read.bind_ok.2 ⟨_, _, hz, rfl⟩⟩⟩
  exact ⟨c₄, Read.bind_ok.2 ⟨_, _, hdegrees, Read.bind_ok.2 ⟨_, _, haxis, rfl⟩⟩⟩

/-- A matrix that is written down is no rotation. -/
private theorem matrix_yields_columns : h.matrix.Yields fun motion => ∃ a b c d, motion = .columns a b c d := by
  have hcolumns : h.columns.Yields fun motion => ∃ a b c d, motion = .columns a b c d :=
    Read.yields_bind fun a => Read.yields_bind fun b => Read.yields_bind fun c => Read.yields_bind fun d =>
      Read.yields_pure ⟨a, b, c, d, rfl⟩
  refine Read.yields_bind fun t => ?_
  split
  · exact Read.yields_bind fun _ => hcolumns.bind fun motion hmotion =>
      Read.yields_bind fun _ => Read.yields_pure hmotion
  · exact hcolumns

end Heading

/-- Whether a directive rotates. -/
def Directive.isRotation : Directive → Bool
  | .replaceTransform (.rotate _ _) | .composeTransform (.rotate _ _) => true
  | _ => false

/-- Rotations have a keyword of their own. -/
private theorem isRotation_readDirective {h : Heading} (hkeyword : h.keyword ≠ .rotate) :
    (readDirective h).Yields fun d => d.isRotation = false := by
  unfold readDirective
  split
  case h_11 hrotate => exact absurd hrotate hkeyword
  case h_12 =>
    refine Read.Yields.map (P := fun motion => ∃ eye target up, motion = .lookAt eye target up) ?_ ?_
    · exact Read.yields_bind fun eye => Read.yields_bind fun target => Read.yields_bind fun up =>
        Read.yields_pure ⟨eye, target, up, rfl⟩
    · rintro _ ⟨eye, target, up, rfl⟩
      rfl
  case h_13 | h_14 =>
    refine h.matrix_yields_columns.map ?_
    rintro _ ⟨a, b, c, d, rfl⟩
    rfl
  case h_34 =>
    refine Read.yields_bind fun _ => Read.yields_bind fun _ => Read.yields_bind fun _ => Read.yields_bind fun _ => ?_
    split
    · exact Read.yields_pure rfl
    · exact Read.yields_fail _ _
  case h_4 | h_5 | h_28 | h_29 | h_30 | h_31 | h_32 | h_35 => exact h.yields_withParameters fun _ _ => rfl
  case h_17 | h_24 | h_36 => exact Read.yields_bind fun _ => Read.yields_bind fun _ => Read.yields_pure rfl
  case h_6 | h_7 | h_8 | h_19 | h_20 | h_21 | h_22 | h_23 | h_26 => exact Read.yields_pure rfl
  all_goals exact Read.yields_map fun _ => rfl

/-! ### Sessions without files -/

namespace Session

variable {s s' : Session} {e : Event} {moments : List Moment} {d : Directive}

/-- A directive comes to be carried out. -/
def ComesTo [LinearAlgebra] (s : Session) (d : Directive) : Prop :=
  ∃ moments last token keyword c c', Run s moments last ∧ last.Begins token keyword c ∧
    readDirective ⟨keyword, token.line⟩ c = .ok d c'

private theorem Run.comesTo [LinearAlgebra] (h : Run s moments s') (hd : s'.ComesTo d) : s.ComesTo d := by
  obtain ⟨moments', last, token, keyword, c, c', hrun, hbegins, hread⟩ := hd
  exact ⟨moments ++ moments', last, token, keyword, c, c', append_iff.2 ⟨s', h, hrun⟩, hbegins, hread⟩

private theorem Begins.comesTo [LinearAlgebra] {token : Token} {keyword : Keyword} {c c' : Cursor}
    (h : s.Begins token keyword c) (hread : readDirective ⟨keyword, token.line⟩ c = .ok d c') : s.ComesTo d :=
  ⟨[], s, token, keyword, c, c', .nil s, h, hread⟩

/-- A session that opens no files stays in its text. -/
theorem Run.below_eq_nil [LinearAlgebra] (h : Run s moments s') (hfiles : ∀ d, s.ComesTo d → d.opens? = none)
    (hs : s.stream.below = []) : s'.stream.below = [] := by
  induction h with
  | nil s => exact hs
  | @cons s s₁ s' e moments hstep _ ih =>
    have hfirst : Run s [⟨s, e⟩] s₁ := .cons hstep (.nil s₁)
    refine ih (fun d hd => hfiles d (hfirst.comesTo hd)) ?_
    cases moves_of_step hstep with
    | performs h =>
      rcases h.stream with ⟨_, hstream⟩ | ⟨relative, path, hopens, _⟩
      · rw [hstream]
        exact hs
      · have hbegins : s.Begins _ _ _ := ⟨h.take, h.named, h.phase⟩
        cases (hfiles _ (hbegins.comesTo h.read)).symm.trans hopens
    | leaves h => cases hs.symm.trans h.around

/-- The next directive is a rotation by an angle that is not finite, about an axis that has a length. -/
def RotatesInfinitely [LinearAlgebra] (s : Session) : Prop :=
  ∃ (tokens : List Token) (degrees x y z : Numeral) (rest : List Item),
    s.stream.top.cursor.items = tokens.map .token ++ rest ∧
    tokens.map (·.lexeme) =
      [.identifier "Rotate", .number degrees, .number x, .number y, .number z] ∧
    degrees.toFloat.isInf ∧ (LinearAlgebra.length ⟨x.toFloat, y.toFloat, z.toFloat⟩ == 0.0) = false

private theorem step_of_rotatesInfinitely [LinearAlgebra] (h : s.RotatesInfinitely) :
    ∃ line t, s.step = .failed (Fault.infiniteAngle.at line) t := by
  obtain ⟨tokens, degrees, x, y, z, rest, hitems, hlexemes, hinf, hlength⟩ := h
  obtain ⟨⟨_, line⟩, operands, rfl, rfl, hoperands⟩ := List.map_eq_cons_iff.1 hlexemes
  obtain ⟨c₁, htake, hitems⟩ := Read.take_of_items hitems
  obtain ⟨c₂, hrotation⟩ := Heading.rotation_of_items ⟨.rotate, line⟩ hitems hoperands
  have hread : readDirective ⟨.rotate, line⟩ c₁ =
      .ok (.composeTransform (.rotate degrees.toFloat ⟨x.toFloat, y.toFloat, z.toFloat⟩)) c₂ :=
    Read.map_ok.2 ⟨_, hrotation, rfl⟩
  have hmatrix := Motion.toMatrix_rotate_of_isInf hinf hlength
  refine ⟨line, { s with stream := s.stream.withCursor c₂ }, ?_⟩
  unfold step Stream.advance
  rw [htake]
  show perform _ _ = _
  unfold perform
  have hname : Keyword.ofName? "Rotate" = some .rotate := rfl
  simp only [hname, Keyword.allowedIn, Keyword.phase?, if_true, Stream.withCursor, hread]
  unfold carryOut
  simp only [Stage.execute, hmatrix]
  rfl

private theorem Begins.rotatesInfinitely [LinearAlgebra] {token : Token} {keyword : Keyword} {c c' : Cursor}
    {degrees : Float}
    {axis : Vec3} (h : s.Begins token keyword c) (hread : readDirective ⟨keyword, token.line⟩ c = .ok d c')
    (hmotion : d.motion? = some (.rotate degrees axis)) (hinf : degrees.isInf)
    (hlength : (LinearAlgebra.length axis == 0.0) = false) : s.RotatesInfinitely := by
  have hkeyword : keyword = .rotate := by
    by_contra hother
    have hfalse := isRotation_readDirective (h := ⟨keyword, token.line⟩) hother c d c' hread
    cases d with
    | replaceTransform motion | composeTransform motion =>
      cases hmotion
      cases hfalse
    | _ => cases hmotion
  subst hkeyword
  obtain ⟨motion, hrotation, rfl⟩ := Read.map_ok.1 hread
  cases hmotion
  obtain ⟨operands, degrees, x, y, z, hitems, hlexemes, hmotion⟩ := Heading.rotation_eq_ok _ hrotation
  cases hmotion
  obtain ⟨name, hlexeme, hname⟩ := h.named
  refine ⟨token :: operands, degrees, x, y, z, c'.items, ?_, ?_, hinf, hlength⟩
  · rw [(Read.take_some h.take).1, hitems]
    rfl
  · rw [List.map_cons, hlexemes, hlexeme, ← Keyword.name_of_ofName? hname]
    rfl

/-- What is wrong with a token that should begin a directive is a finding. -/
theorem isFinding_of_objection {phase : Phase} {token : Token} {f : Fault} (h : phase.objection? token = some f) :
    f.isFinding := by
  unfold Phase.objection? at h
  split at h
  · split at h
    · cases h
      rfl
    · split at h
      · cases h
      · cases h
        cases phase <;> rfl
  · cases h
    rfl

/-- In a text that opens no files, a step fails with a finding or at a rotation by an infinite angle. -/
private theorem Fails.cause_of_below_eq_nil [LinearAlgebra] {t : Session} {r : Report Fault} (h : s.Fails t r)
    (hs : s.Sound) (hbelow : s.stream.below = []) (hfiles : ∀ d, s.ComesTo d → d.opens? = none)
    (hviews : ∀ d eye target up, s.ComesTo d → d.motion? = some (.lookAt eye target up) →
      Motion.viewing eye target up ≠ .error .singularMatrix) :
    r.cause.isFinding ∨ (r.cause = .infiniteAngle ∧ s.RotatesInfinitely) := by
  cases h with
  | scan htake _ => exact .inl ((Read.definite_take _ hs.top.cursor).definite htake).2
  | heading _ hf _ => exact .inl (isFinding_of_objection hf)
  | @operands token c₁ c₂ keyword r hbegins hread _ =>
    refine .inl ?_
    have hc₁ := hs.top.cursor.of_ok Read.forward_take hbegins.take
    by_cases hended : keyword = .option ∧ ∃ c', Read.take c₁ = .ok none c'
    · obtain ⟨rfl, c', htake⟩ := hended
      cases hread.symm.trans (readDirective_option_of_ended htake)
      rfl
    · refine ((definiteAt_readDirective ⟨keyword, token.line⟩ hc₁ ?_).definite hread).2
      intro hoption c' htake
      exact hended ⟨hoption, c', htake⟩
  | @execution token c₁ c₂ keyword d f hbegins hread hexecute _ =>
    rcases s.stage.execute_eq_error hexecute with hfinding | ⟨motion, hmotion, hmatrix⟩
    · exact .inl hfinding
    rcases Motion.toMatrix_eq_error hmatrix with hfinding | ⟨rfl, degrees, axis, rfl, hinf, hlength⟩ |
      ⟨rfl, eye, target, up, rfl, hview⟩
    · exact .inl hfinding
    · exact .inr ⟨rfl, hbegins.rotatesInfinitely hread hmotion hinf hlength⟩
    · exact absurd hview (hviews d eye target up (hbegins.comesTo hread) hmotion)
  | opening hbegins hread hopens _ _ => cases (hfiles _ (hbegins.comesTo hread)).symm.trans hopens
  | importEnd _ haround _ _ _ => cases hbelow.symm.trans haround
  | inputEnd _ _ hbalanced _ => exact .inl (s.stage.scopes.findsOnly_checkBalanced _ hbalanced)

/-- The end of a session that opens no files, if it fails. -/
theorem cause_of_failed [LinearAlgebra] {t : Session} {r : Report Fault} (hs : s.Start)
    (hfiles : ∀ d, s.ComesTo d → d.opens? = none)
    (hviews : ∀ d eye target up, s.ComesTo d → d.motion? = some (.lookAt eye target up) →
      Motion.viewing eye target up ≠ .error .singularMatrix) (h : s.finish = .failed r t) :
    r.cause.isFinding ∨
      (r.cause = .infiniteAngle ∧ ∃ moments last, Run s moments last ∧ last.RotatesInfinitely) := by
  obtain ⟨moments, last, hrun, ⟨_, hfinish⟩ | ⟨r', t', hstep, hfinish⟩⟩ := s.exists_run_to_end
  · cases h.symm.trans hfinish
  cases h.symm.trans hfinish
  have hcause := (fails_of_step hstep).cause_of_below_eq_nil (hrun.sound hs.sound)
    (hrun.below_eq_nil hfiles hs.frames.1) (fun d hd => hfiles d (hrun.comesTo hd))
    (fun d eye target up hd => hviews d eye target up (hrun.comesTo hd))
  exact hcause.imp_right fun ⟨hinfinite, hrotates⟩ => ⟨hinfinite, moments, last, hrun, hrotates⟩

end Session

/-- A text that opens no files gives a scene, or a finding about it, or it breaks off.  It breaks off if and only if
the reading comes to a rotation by an infinite angle, about an axis that has a length; that the views have inverses is
assumed.  The numbers of the text can be read as numbers, and the values of the parameters, also of those merged with
defaults, have a first component. -/
theorem parseText_breaks_off_iff [LinearAlgebra] {library : Library} {text : List Char}
    (hfiles : ∀ d, (Session.ofText library text).ComesTo d → d.opens? = none)
    (hviews : ∀ d eye target up, (Session.ofText library text).ComesTo d →
      d.motion? = some (.lookAt eye target up) → Motion.viewing eye target up ≠ .error .singularMatrix) :
    ((∃ scene, parseText library text = .ok scene) ∨
      ∃ r, parseText library text = .error r ∧
        (r.cause.isFinding ∨ (r.cause = .infiniteAngle ∧ r.cause.message = "math domain error"))) ∧
    ((∃ r, parseText library text = .error r ∧ r.cause = .infiniteAngle) ↔
      ∃ moments last, Session.Run (.ofText library text) moments last ∧ last.RotatesInfinitely) ∧
    (∀ t numeral, Item.token t ∈ (Cursor.ofText "<string>" text).items → t.lexeme = .number numeral →
      Numeral.parse? t.text.toList = some numeral) ∧
    ∀ moments last token keyword c, Session.Run (.ofText library text) moments last → last.Begins token keyword c →
      (∀ p c', readParameter c = .ok p c' → ∃ first, p.value.components.head? = some first) ∧
      ∀ d c' params target, readDirective ⟨keyword, token.line⟩ c = .ok d c' → d.params? = some params →
        ∀ p ∈ (last.stage.withDefaults target params).entries, ∃ first, p.value.components.head? = some first := by
  have hstart : (Session.ofText library text).Start := .text library text
  have hparse : parseText library text = (Session.ofText library text).finish.result := rfl
  have hcause : ∀ report, parseText library text = .error report → report.cause.isFinding ∨
      (report.cause = .infiniteAngle ∧
        ∃ moments last, Session.Run (.ofText library text) moments last ∧ last.RotatesInfinitely) := by
    intro report h
    obtain ⟨r, t, hfinish, rfl⟩ := Outcome.result_eq_error h
    exact Session.cause_of_failed (r := r) hstart hfiles hviews hfinish
  refine ⟨?_, ⟨?_, ?_⟩, ?_, ?_⟩
  · cases h : parseText library text with
    | ok scene => exact .inl ⟨scene, rfl⟩
    | error report =>
      refine .inr ⟨report, rfl, (hcause report h).imp_right ?_⟩
      rintro ⟨hinfinite, _⟩
      exact ⟨hinfinite, by rw [hinfinite]; rfl⟩
  · rintro ⟨report, h, hinfinite⟩
    rcases hcause report h with hfinding | ⟨_, hrotates⟩
    · rw [hinfinite] at hfinding
      cases hfinding
    · exact hrotates
  · rintro ⟨moments, last, hrun, hrotates⟩
    obtain ⟨line, t, hstep⟩ := Session.step_of_rotatesInfinitely hrotates
    rw [hparse, hrun.finish_eq, Session.finish_of_failed hstep]
    exact ⟨_, rfl, rfl⟩
  · intro t numeral hmem
    exact (Cursor.sound_ofText "<string>" text).items _ hmem numeral
  · intro moments last token keyword c hrun _
    obtain ⟨_, hwf⟩ := hrun.wellFormed ⟨hstart.inStep, hstart.wellFormed⟩
    refine ⟨fun p c' hread => (wellFormed_readParameter c p c' hread).exists_first, ?_⟩
    intro d c' params target hread hparams p hp
    have hown : params.WellFormed := wellFormed_readDirective _ c d c' hread params hparams
    exact ((hwf.states _ (List.mem_cons_self ..)).merged hown target p hp).exists_first

namespace InfiniteTurn

attribute [local instance] LinearAlgebra.stepwise

/-- A rotation about the last axis, by an angle that is too large for a double. -/
def text : List Char :=
  "Rotate 1e999 0 0 1".toList

def degrees : Numeral :=
  { sign := none, whole := ['1'], fraction := none, exponent := some ⟨'e', none, ['9', '9', '9']⟩ }

/-- The numeral of one digit. -/
def digit (c : Char) : Numeral :=
  { sign := none, whole := [c], fraction := none, exponent := none }

def tokens : List Token :=
  [⟨.identifier "Rotate", 1⟩, ⟨.number degrees, 1⟩, ⟨.number (digit '0'), 1⟩, ⟨.number (digit '0'), 1⟩,
    ⟨.number (digit '1'), 1⟩]

private theorem items_text : (Session.ofText .withoutFiles text).stream.top.cursor.items = tokens.map .token := by
  have htokens : (Scanner.ofText "<string>" text).tokens.toOption = some tokens := by decide +kernel
  exact (Cursor.over_ofText htokens).1

private theorem rotatesInfinitely_text : (Session.ofText .withoutFiles text).RotatesInfinitely := by
  refine ⟨tokens, degrees, digit '0', digit '0', digit '1', [], ?_, rfl, by decide +kernel, by decide +kernel⟩
  rw [items_text, List.append_nil]

/-- The rotation is all that the reading comes to. -/
private theorem exists_rotation_of_comesTo {d : Directive} (h : (Session.ofText .withoutFiles text).ComesTo d) :
    ∃ degrees axis, d = .composeTransform (.rotate degrees axis) := by
  obtain ⟨moments, last, token, keyword, c, c', hrun, hbegins, hread⟩ := h
  obtain ⟨_, _, hstep⟩ := Session.step_of_rotatesInfinitely rotatesInfinitely_text
  cases hrun with
  | cons hmoved _ => cases hstep.symm.trans hmoved
  | nil =>
    obtain ⟨hitems, _⟩ := Read.take_some hbegins.take
    rw [items_text] at hitems
    obtain ⟨⟨⟩, _⟩ := List.cons.inj hitems
    obtain ⟨name, hlexeme, hname⟩ := hbegins.named
    cases hlexeme
    have hrotate : Keyword.ofName? "Rotate" = some .rotate := rfl
    cases hname.symm.trans hrotate
    obtain ⟨motion, hrotation, rfl⟩ := Read.map_ok.1 hread
    obtain ⟨_, _, _, _, _, _, _, rfl⟩ := Heading.rotation_eq_ok _ hrotation
    exact ⟨_, _, rfl⟩

/-- A rotation by an infinite angle breaks off the reading. -/
theorem infinite_turn_breaks_off :
    (∀ d, (Session.ofText .withoutFiles text).ComesTo d → d.opens? = none) ∧
    (∀ d eye target up, (Session.ofText .withoutFiles text).ComesTo d → d.motion? = some (.lookAt eye target up) →
      Motion.viewing eye target up ≠ .error .singularMatrix) ∧
    ∃ r, parseText .withoutFiles text = .error r ∧ r.cause = .infiniteAngle := by
  have hfiles : ∀ d, (Session.ofText .withoutFiles text).ComesTo d → d.opens? = none := by
    intro d hd
    obtain ⟨degrees, axis, rfl⟩ := exists_rotation_of_comesTo hd
    rfl
  have hviews : ∀ d eye target up, (Session.ofText .withoutFiles text).ComesTo d →
      d.motion? = some (.lookAt eye target up) → Motion.viewing eye target up ≠ .error .singularMatrix := by
    intro d eye target up hd hmotion
    obtain ⟨degrees, axis, rfl⟩ := exists_rotation_of_comesTo hd
    cases hmotion
  refine ⟨hfiles, hviews, ?_⟩
  obtain ⟨_, hbreaks, _⟩ := parseText_breaks_off_iff hfiles hviews
  exact hbreaks.2 ⟨[], _, .nil _, rotatesInfinitely_text⟩

end InfiniteTurn

end SceneDescription
