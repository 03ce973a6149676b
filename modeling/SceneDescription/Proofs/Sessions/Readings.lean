import SceneDescription.Proofs.Readers.Layout
import SceneDescription.Proofs.Sessions.Failures

/-!
# What a step reads

All that a step of a session reads is one directive in the innermost text, or the end of that text.  `Phase.readNext`
reads it, and `Session.step_eq` says what the step does then, without reading any further.
-/

namespace SceneDescription

/-! ### Reading directives -/

/-- A directive that has been read, with its keyword and the line that this stands on. -/
structure Reading where
  keyword : Keyword
  line : Nat
  directive : Directive

/-- Reads the directive that begins with a token, which has been taken. -/
def Phase.readFrom (phase : Phase) (t : Token) : Read Reading :=
  match t.lexeme with
  | .identifier name =>
    match Keyword.ofName? name with
    | none => Read.fail (.unknownDirective name) t.line
    | some keyword =>
      if keyword.allowedIn phase then do
        let directive ← readDirective ⟨keyword, t.line⟩
        return { keyword, line := t.line, directive }
      else Read.fail (phase.fault name) t.line
  | _ => Read.fail (.expectedDirective t.describe) t.line

/-- Reads the next directive of a text; there is none at the end. -/
def Phase.readNext (phase : Phase) : Read (Option Reading) := do
  match ← Read.take with
  | none => return none
  | some t => some <$> phase.readFrom t

theorem Phase.readFrom_eq_ok {phase : Phase} {t : Token} {c c' : Cursor} {reading : Reading}
    (h : phase.readFrom t c = .ok reading c') :
    ∃ name keyword d, t.lexeme = .identifier name ∧ Keyword.ofName? name = some keyword ∧
      keyword.allowedIn phase ∧ readDirective ⟨keyword, t.line⟩ c = .ok d c' ∧ reading = ⟨keyword, t.line, d⟩ := by
  obtain ⟨lexeme, line⟩ := t
  cases lexeme with
  | identifier name =>
    dsimp only [readFrom] at h
    cases hname : Keyword.ofName? name with
    | none =>
      rw [hname] at h
      exact absurd h (Read.fail_ne_ok _ _)
    | some keyword =>
      rw [hname] at h
      dsimp only at h
      by_cases hphase : keyword.allowedIn phase
      · rw [if_pos hphase] at h
        obtain ⟨d, c₁, hread, hreading⟩ := Read.bind_ok.1 h
        cases hreading
        exact ⟨name, keyword, d, rfl, hname, hphase, hread, rfl⟩
      · rw [if_neg hphase] at h
        exact absurd h (Read.fail_ne_ok _ _)
  | quoted _ | number _ | leftBracket | rightBracket => exact absurd h (Read.fail_ne_ok _ _)

/-- What has been read: the end of the text, or a directive. -/
theorem Phase.readNext_eq_ok {phase : Phase} {c c' : Cursor} {reading : Option Reading}
    (h : phase.readNext c = .ok reading c') :
    (reading = none ∧ Read.take c = .ok none c') ∨
      ∃ t c₁ r, Read.take c = .ok (some t) c₁ ∧ phase.readFrom t c₁ = .ok r c' ∧ reading = some r := by
  obtain ⟨t, c₁, htake, h⟩ := Read.bind_ok.1 h
  cases t with
  | none =>
    cases h
    exact .inl ⟨rfl, htake⟩
  | some t =>
    obtain ⟨r, hread, hr⟩ := Read.map_ok.1 h
    exact .inr ⟨t, c₁, r, htake, hread, hr.symm⟩

/-- What begins with a keyword of the phase, and can be read on, is the next directive. -/
theorem Phase.readNext_of_readDirective {phase : Phase} {c c₁ c₂ : Cursor} {t : Token} {name : String}
    {keyword : Keyword} {d : Directive} (htake : Read.take c = .ok (some t) c₁)
    (hlexeme : t.lexeme = .identifier name) (hname : Keyword.ofName? name = some keyword)
    (hphase : keyword.allowedIn phase) (hread : readDirective ⟨keyword, t.line⟩ c₁ = .ok d c₂) :
    phase.readNext c = .ok (some ⟨keyword, t.line, d⟩) c₂ := by
  have hfrom : phase.readFrom t c₁ = .ok ⟨keyword, t.line, d⟩ c₂ := by
    unfold readFrom
    simp only [hlexeme, hname, hphase, if_true]
    rw [Read.bind_apply, hread]
    rfl
  exact Read.bind_ok.2 ⟨some t, c₁, htake, Read.map_ok.2 ⟨_, hfrom, rfl⟩⟩

/-- The same directive, on whatever line. -/
def Reading.Same (r r' : Reading) : Prop :=
  r.keyword = r'.keyword ∧ r.directive = r'.directive

private theorem Phase.uniform_readFrom (phase : Phase) (l : Lexeme) (n n' : Nat) :
    Read.Uniform Reading.Same (phase.readFrom ⟨l, n⟩) (phase.readFrom ⟨l, n'⟩) := by
  unfold readFrom
  cases l with
  | identifier name =>
    dsimp only
    split
    · exact Read.uniform_fail _ _ _
    split
    · exact (uniform_readDirective _ n n').bind_eq fun _ => Read.uniform_pure ⟨rfl, rfl⟩
    · exact Read.uniform_fail _ _ _
  | quoted _ | number _ | leftBracket | rightBracket => exact Read.uniform_fail _ _ _

/-- The next directive is the same, or wrong in the same way, on whatever lines it stands. -/
theorem Phase.uniform_readNext (phase : Phase) :
    Read.Uniform (Option.Rel Reading.Same) phase.readNext phase.readNext :=
  Read.uniform_take.bind_answer (Read.uniform_pure .none) fun l n n' =>
    (phase.uniform_readFrom l n n').bind fun _ _ hsame => Read.uniform_pure (.some hsame)

/-- The reading of a directive can be evaluated, and begins with its token. -/
theorem Phase.exists_dialogue (phase : Phase) {c c₁ : Cursor} {t : Token} (h : Read.take c = .ok (some t) c₁) :
    ∃ told, phase.readNext.Dialogue c (some t :: told) (phase.readNext c) := by
  have huniform := phase.uniform_readFrom t.lexeme t.line t.line
  have hpure (r r' : Reading) : Read.Uniform (fun _ _ => True) (pure (some r)) (pure (some r')) :=
    Read.uniform_pure trivial
  obtain ⟨told, ending, _, _, hdialogue, _, _⟩ := (huniform.bind fun r r' _ => hpure r r') c₁ c₁ ⟨rfl, rfl⟩
  have hall : phase.readNext.Dialogue c (some t :: told) ending := .bind (.take h) hdialogue
  exact ⟨told, hall.eq ▸ hall⟩

namespace Session

/-- The end of the outermost text. -/
def atEnd (s : Session) : Step :=
  match s.stage.scopes.checkBalanced with
  | .error f => .failed (f.at s.stream.lastLine) s
  | .ok () => .finished

/-- The end of the innermost text. -/
def closeText (s : Session) : Step :=
  match s.stream.below with
  | [] => s.atEnd
  | outer :: below => { s with stream := Stream.backTo s.stream.top outer below }.leave s.stream.top

/-- A step reads one directive in the innermost text, and carries it out. -/
theorem step_eq [LinearAlgebra] (s : Session) :
    s.step = match s.stage.phase.readNext s.stream.top.cursor with
      | .error r c => .failed r { s with stream := s.stream.withCursor c }
      | .ok none _ => s.closeText
      | .ok (some reading) c =>
        { s with stream := s.stream.withCursor c }.carryOut reading.keyword reading.line reading.directive := by
  unfold step Stream.advance Phase.readNext
  rw [Read.bind_apply]
  cases htake : Read.take s.stream.top.cursor with
  | error r c => rfl
  | ok t c =>
    cases t with
    | none =>
      dsimp only [closeText, pure, EStateM.pure]
      cases s.stream.below with
      | nil => rfl
      | cons outer below => rfl
    | some t =>
      obtain ⟨lexeme, line⟩ := t
      unfold perform Phase.readFrom
      cases lexeme with
      | identifier name =>
        dsimp only [Stream.withCursor]
        cases Keyword.ofName? name with
        | none => rfl
        | some keyword =>
          dsimp only
          by_cases hphase : keyword.allowedIn s.stage.phase
          · rw [if_pos hphase, if_pos hphase]
            dsimp only [Functor.map, EStateM.map]
            rw [Read.bind_apply]
            cases readDirective ⟨keyword, line⟩ c with
            | error r c' => rfl
            | ok d c' => rfl
          · rw [if_neg hphase, if_neg hphase]
            rfl
      | quoted _ | number _ | leftBracket | rightBracket => rfl

end Session

end SceneDescription
