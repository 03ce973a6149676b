import SceneDescription.Proofs.Readers.Definite
import SceneDescription.Proofs.Sessions.Failures
import SceneDescription.Proofs.Sessions.Termination
import SceneDescription.Transform.Elimination

/-!
# The line of a report

What is in front of the cursors of a session has come of scans, and an imported file knows the line of its directive
(`Session.Sound`).  So the report of a session that fails has a line, with one exception: where the text ends behind
the keyword of an option, nothing is left that the missing parameter could be reported on
(`Root.line_missing_iff_option_ends`).
-/

namespace SceneDescription

/-! ### Sound sessions -/

/-- Readers that go forward leave a sound cursor behind. -/
private theorem Cursor.Sound.after {α : Type} {m : Read α} {c : Cursor} (h : c.Sound) (hm : m.Forward) :
    (m.after c).Sound := by
  obtain ⟨hitems, hstuck⟩ := hm c
  refine ⟨fun item hitem => h.items item (hitems.subset hitem), ?_⟩
  rw [hstuck]
  exact h.stuck

theorem Cursor.Sound.of_ok {α : Type} {m : Read α} {c c' : Cursor} {a : α} (h : c.Sound) (hm : m.Forward)
    (hread : m c = .ok a c') : c'.Sound := by
  have hafter := h.after hm
  rwa [Read.after, hread] at hafter

/-- An open text in front of what a scan has found; the line that opened it is known if something is to be handed out
at its end. -/
structure Frame.Sound {κ : Type} (f : Frame κ) : Prop where
  cursor : f.cursor.Sound
  opened : f.onClose.isSome → f.includeLine.isSome

namespace Session

variable {s s' : Session} {moments : List Moment}

/-- All open texts are sound. -/
def Sound (s : Session) : Prop :=
  ∀ f ∈ s.stream.frames, f.Sound

theorem Sound.top (h : s.Sound) : s.stream.top.Sound :=
  h _ (List.mem_cons_self ..)

/-- What matters of the innermost text is its cursor. -/
private theorem Sound.withCursor (h : s.Sound) {c : Cursor} (hc : c.Sound) :
    ∀ f ∈ (s.stream.withCursor c).frames, f.Sound := by
  obtain ⟨htop, hbelow⟩ := List.forall_mem_cons.1 h
  exact List.forall_mem_cons.2 ⟨⟨hc, htop.opened⟩, hbelow⟩

theorem Start.sound (h : s.Start) : s.Sound := by
  have htop : s.stream.top.cursor.Sound := by
    cases h with
    | text library text => exact Cursor.sound_ofText _ _
    | file h =>
      obtain ⟨stream, hstream, rfl⟩ := bind_pure_eq_ok.1 h
      obtain ⟨text, _, rfl⟩ := Stream.ofFile_eq_ok hstream
      exact Cursor.sound_ofText _ _
  obtain ⟨hbelow, hclose⟩ := h.frames
  intro f hf
  rw [Stream.frames, hbelow, List.mem_singleton] at hf
  subst hf
  exact ⟨htop, by simp [hclose]⟩

private theorem Performs.sound [LinearAlgebra] {t : Token} {c₁ c₂ : Cursor} {keyword : Keyword} {d : Directive}
    (h : s.Performs t c₁ c₂ keyword d s') (hs : s.Sound) : s'.Sound := by
  have hc₂ : c₂.Sound :=
    (hs.top.cursor.of_ok Read.forward_take h.take).of_ok (forward_readDirective _) h.read
  have hframes := hs.withCursor hc₂
  rcases h.stream with ⟨_, hstream⟩ | ⟨relative, path, _, hopen⟩
  · rw [Sound, hstream]
    exact hframes
  · obtain ⟨_, text, _, hstream⟩ := Stream.openFile_eq_ok hopen
    rw [Sound, hstream]
    obtain ⟨hitems, hstuck⟩ := Cursor.sound_ofText path.toText text
    exact List.forall_mem_cons.2 ⟨⟨⟨hitems, hstuck⟩, fun _ => rfl⟩, hframes⟩

private theorem Leaves.sound {outer : Frame Mark} {below : List (Frame Mark)} (h : s.Leaves outer below s')
    (hs : s.Sound) : s'.Sound := by
  have houter : ∀ f ∈ outer :: below, f.Sound := by
    intro f hf
    refine hs f ?_
    rw [Stream.frames, h.around]
    exact List.mem_cons_of_mem _ hf
  obtain ⟨⟨⟨hitems, hstuck⟩, hopened⟩, hbelow⟩ := List.forall_mem_cons.1 houter
  rw [Sound, h.stream]
  exact List.forall_mem_cons.2 ⟨⟨⟨hitems, hstuck⟩, hopened⟩, hbelow⟩

theorem Run.sound [LinearAlgebra] (h : Run s moments s') (hs : s.Sound) : s'.Sound := by
  refine h.invariant (fun s e s' hs hmoves => ?_) hs
  cases hmoves with
  | performs h => exact h.sound hs
  | leaves h => exact h.sound hs

/-! ### Steps that fail -/

/-- The innermost text ends behind the keyword of an option. -/
def EndsInOption (s : Session) : Prop :=
  ∃ t, s.stream.top.cursor.Over [t] ∧ t.lexeme = .identifier "Option"

/-- The one report without a line. -/
theorem step_of_endsInOption [LinearAlgebra] (h : s.EndsInOption) :
    ∃ t, s.step = .failed (Fault.expectedDeclaration.at none) t := by
  obtain ⟨⟨lexeme, line⟩, hover, rfl⟩ := h
  obtain ⟨c₁, htake, hc₁⟩ := Read.take_over hover
  obtain ⟨c₂, hended⟩ : ∃ c₂, Read.take c₁ = .ok none c₂ := by
    obtain ⟨items, stuck, lastLine⟩ := c₁
    obtain ⟨rfl, rfl⟩ := hc₁
    exact ⟨_, rfl⟩
  refine ⟨{ s with stream := s.stream.withCursor c₂ }, ?_⟩
  unfold step Stream.advance
  rw [htake]
  show perform _ _ = _
  unfold perform
  have hread : readDirective ⟨.option, line⟩ c₁ = .error (Fault.expectedDeclaration.at none) c₂ :=
    readDirective_option_of_ended hended
  have hname : Keyword.ofName? "Option" = some .option := rfl
  simp only [hname, Keyword.allowedIn, Keyword.phase?, if_true, Stream.withCursor, hread]

/-- A step fails on a known line, or because of an option behind which the text ends. -/
private theorem Fails.line_isSome [LinearAlgebra] {t : Session} {r : Report Fault} (h : s.Fails t r) (hs : s.Sound)
    (hoption : ¬ s.EndsInOption) : r.line.isSome := by
  cases h with
  | scan htake _ => exact ((Read.definite_take _ hs.top.cursor).definite htake).1
  | heading _ _ _ => rfl
  | @operands token c₁ c₂ keyword r hbegins hread _ =>
    have hc₁ := hs.top.cursor.of_ok Read.forward_take hbegins.take
    refine ((definiteAt_readDirective ⟨keyword, token.line⟩ hc₁ ?_).definite hread).1
    rintro rfl c' hended
    refine hoption ⟨token, ?_, ?_⟩
    · obtain ⟨hitems, hstuck⟩ := Read.take_some hbegins.take
      obtain ⟨hnil, hnone⟩ := Read.over_of_take_none hended
      exact ⟨by rw [hitems, hnil]; rfl, hstuck.symm.trans hnone⟩
    · obtain ⟨name, hlexeme, hname⟩ := hbegins.named
      rw [hlexeme, ← Keyword.name_of_ofName? hname]
      rfl
  | execution _ _ _ _ => rfl
  | opening _ _ _ hopen _ =>
    obtain ⟨f, rfl⟩ := Stream.openFile_eq_error hopen
    rfl
  | importEnd _ _ hclose _ _ =>
    refine hs.top.opened ?_
    rw [hclose]
    rfl
  | inputEnd _ _ _ _ => rfl

/-- What comes of a session comes of every session on its way. -/
theorem Run.finish_eq [LinearAlgebra] (h : Run s moments s') : s.finish = s'.finish := by
  induction h with
  | nil s => rfl
  | cons hstep _ ih => exact (finish_of_moved hstep).trans ih

end Session

/-! ### The line of an error -/

/-- An error is the report of a session that has failed, with its place filled in. -/
theorem Outcome.result_eq_error {o : Outcome} {report : Report Fault} (h : o.result = .error report) :
    ∃ r t, o = .failed r t ∧ r.locate t.stream.source t.stream.chain = report := by
  cases o with
  | finished s => cases h
  | failed r t => exact ⟨r, t, rfl, Except.error.inj h⟩

namespace Root

/-- An error of a root names a text.  It has no line if and only if the reading has come to an option behind which its
text ends; the error is then the missing parameter. -/
theorem line_missing_iff_option_ends [LinearAlgebra] {library : Library} {root : Root} {s : Session}
    {report : Report Fault} (hs : root.session library = .ok s) (h : root.parse library = .error report) :
    report.source.isSome ∧
    (report.line = none ↔ ∃ moments last, Session.Run s moments last ∧ last.EndsInOption) ∧
    (report.line = none → report.cause = .expectedDeclaration) := by
  obtain ⟨hstart, _⟩ := start_of_session hs
  have hresult : s.finish.result = .error report := by
    rw [parse_eq, hs] at h
    exact h
  obtain ⟨r, t, hfailed, hreport⟩ := Outcome.result_eq_error hresult
  obtain ⟨moments, last, hrun, ⟨_, hfinish⟩ | ⟨r', t', hstep, hfinish⟩⟩ := s.exists_run_to_end
  · cases hfailed.symm.trans hfinish
  cases hfailed.symm.trans hfinish
  -- the line and the cause of a report are those of the step that failed
  have hline : report.line = r.line := by rw [← hreport]; rfl
  have hcause : report.cause = r.cause := by rw [← hreport]; rfl
  have hmissing : r.line = none → last.EndsInOption := by
    intro hnone
    by_contra hoption
    have hsome := (Session.fails_of_step hstep).line_isSome (hrun.sound hstart.sound) hoption
    rw [hnone] at hsome
    cases hsome
  refine ⟨by rw [← hreport]; rfl, ⟨?_, ?_⟩, ?_⟩
  · intro hnone
    exact ⟨moments, last, hrun, hmissing (hline.symm.trans hnone)⟩
  · rintro ⟨moments', last', hrun', hoption⟩
    obtain ⟨t', hstep'⟩ := Session.step_of_endsInOption hoption
    rw [hrun'.finish_eq, Session.finish_of_failed hstep'] at hfailed
    cases hfailed
    exact hline
  · intro hnone
    obtain ⟨t', hstep'⟩ := Session.step_of_endsInOption (hmissing (hline.symm.trans hnone))
    cases hstep.symm.trans hstep'
    exact hcause

end Root

/-- A library without files. -/
def Library.withoutFiles : Library :=
  ⟨{ one_le_maxIncludeDepth := Config.one_le_defaultDepth }, (FileTree.directory []).fileSystem []⟩

namespace MissingOperands

attribute [local instance] LinearAlgebra.stepwise

/-- The error of a text whose first step fails. -/
private theorem parse_of_step {library : Library} {text : List Char} {cursor : Cursor} {f : Fault} {line : Option Nat}
    (hcursor : Cursor.ofText "<string>" text = cursor)
    (hstep : ∃ t, ({ library, stream.top := { source := "<string>", path := none, cursor } } : Session).step =
      .failed (f.at line) t ∧ t.stream.source = "<string>" ∧ t.stream.chain = []) :
    Root.parse library (.text text) = .error { cause := f, line, source := some "<string>" } := by
  obtain ⟨t, hfailed, hsource, hchain⟩ := hstep
  show (Session.ofText library text).finish.result = _
  unfold Session.ofText Stream.ofText
  rw [hcursor, Session.finish_of_failed hfailed, Outcome.result, hsource, hchain]
  rfl

/-- The report of a rotation without an angle. -/
def report : Report Fault :=
  { cause := .unexpectedOperand "Rotate" .number none, line := some 1, source := some "<string>" }

private theorem parse_rotate : Root.parse .withoutFiles (.text "Rotate".toList) = .error report := by
  have hcursor : Cursor.ofText "<string>" "Rotate".toList =
      { items := [.token ⟨.identifier "Rotate", 1⟩], stuck := none } := by cbv
  exact parse_of_step hcursor ⟨_, rfl, rfl, rfl⟩

/-- A rotation at the end of a text is reported on its line, so the reading has come to no option at an end. -/
theorem missing_angle_reported :
    Root.session .withoutFiles (.text "Rotate".toList) = .ok (.ofText .withoutFiles "Rotate".toList) ∧
    Root.parse .withoutFiles (.text "Rotate".toList) = .error report ∧ report.line = some 1 ∧ report.source.isSome ∧
    ¬ ∃ moments last, Session.Run (.ofText .withoutFiles "Rotate".toList) moments last ∧ last.EndsInOption := by
  obtain ⟨hsource, hline, _⟩ := Root.line_missing_iff_option_ends rfl parse_rotate
  refine ⟨rfl, parse_rotate, rfl, hsource, fun hoption => ?_⟩
  cases hline.2 hoption

/-- An option at the end of a text is a finding about the scene, but it is reported without a line. -/
theorem option_reported_without_line :
    ∃ r : Report Fault, Root.parse .withoutFiles (.text "Option".toList) = .error r ∧
      r.cause.isFinding ∧ r.line = none := by
  have hcursor : Cursor.ofText "<string>" "Option".toList =
      { items := [.token ⟨.identifier "Option", 1⟩], stuck := none } := by cbv
  have hparse : Root.parse .withoutFiles (.text "Option".toList) =
      .error { cause := .expectedDeclaration, line := none, source := some "<string>" } :=
    parse_of_step hcursor ⟨_, rfl, rfl, rfl⟩
  exact ⟨_, hparse, rfl, rfl⟩

end MissingOperands

end SceneDescription
