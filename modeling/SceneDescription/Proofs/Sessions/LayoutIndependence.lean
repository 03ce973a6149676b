import SceneDescription.Proofs.Sessions.Readings
import SceneDescription.Proofs.Sessions.ReportedLines
import SceneDescription.Proofs.Stages.Relocated
import SceneDescription.Transform.Elimination

/-!
# Independence of layout

Two texts with the same lexemes describe the same scene, or fail in the same way.  Lines are carried along in tokens,
in the open texts and in the locations of a draft, and end up in scenes and reports, but nothing else depends on them:
sessions that differ only in lines go on in step (`Session.Matches.step`), each of them to an end that is the same up
to lines (`Session.Matches.finish`).
-/

namespace SceneDescription

/-- The location without its line. -/
def Location.unlined (l : Location) : Location :=
  { l with line := 0 }

/-- The scene without the lines in the locations of its entities and warnings. -/
def Scene.unlined (scene : Scene) : Scene :=
  scene.relocated (Option.map Location.unlined)

def Stage.unlined (stage : Stage) : Stage :=
  stage.relocated (Option.map Location.unlined)

/-- The texts stand in front of the same items, and have the same name and path and the same to hand out. -/
structure Frame.Matches {κ : Type} (f f' : Frame κ) : Prop where
  source : f.source = f'.source
  path : f.path = f'.path
  cursor : f.cursor.Matches f'.cursor
  onClose : f.onClose = f'.onClose

namespace Stream

variable {κ : Type} {s s' : Stream κ}

/-- Text by text, the streams match. -/
def Matches (s s' : Stream κ) : Prop :=
  List.Forall₂ Frame.Matches s.frames s'.frames

private theorem Matches.top (h : s.Matches s') : s.top.Matches s'.top :=
  (List.forall₂_cons.1 h).1

private theorem Matches.below (h : s.Matches s') : List.Forall₂ Frame.Matches s.below s'.below :=
  (List.forall₂_cons.1 h).2

private theorem Matches.withCursor {c c' : Cursor} (h : s.Matches s') (hc : c.Matches c') :
    (s.withCursor c).Matches (s'.withCursor c') :=
  .cons ⟨h.top.source, h.top.path, hc, h.top.onClose⟩ h.below

private theorem map_source {frames frames' : List (Frame κ)} (h : List.Forall₂ Frame.Matches frames frames') :
    frames.map (·.source) = frames'.map (·.source) := by
  rw [← List.forall₂_eq_eq_eq, List.forall₂_map_left_iff, List.forall₂_map_right_iff]
  exact h.imp fun _ _ hframe => hframe.source

private theorem map_path {frames frames' : List (Frame κ)} (h : List.Forall₂ Frame.Matches frames frames') :
    frames.map (·.path) = frames'.map (·.path) := by
  rw [← List.forall₂_eq_eq_eq, List.forall₂_map_left_iff, List.forall₂_map_right_iff]
  exact h.imp fun _ _ hframe => hframe.path

private theorem Matches.source (h : s.Matches s') : s.source = s'.source :=
  h.top.source

private theorem Matches.chain (h : s.Matches s') : s.chain = s'.chain := by
  rw [Stream.chain, Stream.chain, map_source h.below]

/-- Going back to the text around changes only the line that the stream stands on. -/
private theorem matches_backTo {inner inner' outer outer' : Frame κ} {below below' : List (Frame κ)}
    (houter : outer.Matches outer') (hbelow : List.Forall₂ Frame.Matches below below') :
    (backTo inner outer below).Matches (backTo inner' outer' below') :=
  .cons ⟨houter.source, houter.path, ⟨houter.cursor.items, houter.cursor.stuck⟩, houter.onClose⟩ hbelow

/-- Both streams open the same file, or refuse it for the same reason. -/
private theorem Matches.openFile (h : s.Matches s') (lib : Library) (relative : String) (line line' : Option Nat)
    (onClose : Option κ) :
    (∃ path t t', s.openFile lib relative line onClose = .ok (path, t) ∧
        s'.openFile lib relative line' onClose = .ok (path, t') ∧ t.Matches t') ∨
      ∃ r r', s.openFile lib relative line onClose = .error r ∧ s'.openFile lib relative line' onClose = .error r' ∧
        r.unlined = r'.unlined := by
  have hfile : s.fileFor lib relative = s'.fileFor lib relative :=
    congrArg (OpenPaths.fileFor · lib relative) (map_path h)
  rw [Stream.openFile, Stream.openFile, hfile]
  cases s'.fileFor lib relative with
  | error f =>
    refine .inr ⟨_, _, rfl, rfl, ?_⟩
    simp only [openFault, Report.unlined, h.source, h.chain]
  | ok file =>
    obtain ⟨path, text⟩ := file
    exact .inl ⟨path, _, _, rfl, rfl, .cons ⟨rfl, rfl, ⟨rfl, rfl⟩, rfl⟩ h⟩

end Stream

/-! ### Sessions -/

namespace Session

variable {s s' : Session}

/-- The sessions have the same files, open texts that match, and the same stage up to the lines in locations. -/
structure Matches (s s' : Session) : Prop where
  library : s.library = s'.library
  stream : s.stream.Matches s'.stream
  stage : s.stage.unlined = s'.stage.unlined

/-- The steps go on in sessions that match, or fail with the same report up to its line, or both finish. -/
inductive StepMatches : Step → Step → Prop
  | moved {e e' : Event} {s s' : Session} (h : s.Matches s') : StepMatches (.moved e s) (.moved e' s')
  | finished : StepMatches .finished .finished
  | failed {r r' : Report Fault} {s s' : Session} (hr : r.unlined = r'.unlined) (h : s.Matches s') :
      StepMatches (.failed r s) (.failed r' s')

private theorem Matches.phase (h : s.Matches s') : s.stage.phase = s'.stage.phase :=
  Stage.phase_congr h.stage

private theorem Matches.markFor (h : s.Matches s') (d : Directive) : s.markFor d = s'.markFor d := by
  cases d with
  | importFile path => exact congrArg some (Stage.mark_congr h.stage)
  | _ => rfl

/-- The same change of both stages, or the same fault. -/
private theorem cases_of_map {e e' : Except Fault Stage} (h : e.map Stage.unlined = e'.map Stage.unlined) :
    (∃ f, e = .error f ∧ e' = .error f) ∨ ∃ t t', e = .ok t ∧ e' = .ok t' ∧ t.unlined = t'.unlined := by
  cases e with
  | error f =>
    cases e' with
    | error f' =>
      cases h
      exact .inl ⟨f, rfl, rfl⟩
    | ok t' => cases h
  | ok t =>
    cases e' with
    | error f' => cases h
    | ok t' => exact .inr ⟨t, t', rfl, rfl, Except.ok.inj h⟩

private theorem Matches.carryOut [LinearAlgebra] (h : s.Matches s') (keyword : Keyword) (n n' : Nat) (d : Directive) :
    StepMatches (s.carryOut keyword n d) (s'.carryOut keyword n' d) := by
  have hlocation : Option.map Location.unlined (some ⟨s.stream.source, n⟩) =
      Option.map Location.unlined (some ⟨s'.stream.source, n'⟩) := by
    simp only [Option.map_some, Location.unlined, h.stream.source]
  have hstage := Stage.execute_relocated h.stage hlocation d
  unfold Session.carryOut
  dsimp only
  obtain ⟨f, hexecute, hexecute'⟩ | ⟨t, t', hexecute, hexecute', ht⟩ := cases_of_map hstage
  · rw [hexecute, hexecute']
    exact .failed rfl h
  rw [hexecute, hexecute']
  dsimp only
  cases d.opens? with
  | none => exact .moved ⟨h.library, h.stream, ht⟩
  | some relative =>
    dsimp only
    rw [h.library, h.markFor d]
    obtain ⟨path, u, u', hopen, hopen', hu⟩ | ⟨r, r', hopen, hopen', hr⟩ :=
      h.stream.openFile s'.library relative n n' (s'.markFor d)
    · rw [hopen, hopen']
      exact .moved ⟨rfl, hu, ht⟩
    · rw [hopen, hopen']
      exact .failed hr ⟨rfl, h.stream, ht⟩

private theorem Matches.leave (h : s.Matches s') {frame frame' : Frame Mark} (hframe : frame.Matches frame') :
    StepMatches (s.leave frame) (s'.leave frame') := by
  unfold Session.leave
  dsimp only
  rw [← hframe.onClose]
  cases frame.onClose with
  | none => exact .moved ⟨h.library, h.stream, h.stage⟩
  | some mark =>
    dsimp only
    have hstage := Stage.leaveImport_congr h.stage mark
    obtain ⟨f, hleave, hleave'⟩ | ⟨t, t', hleave, hleave', ht⟩ := cases_of_map hstage
    · rw [log, log, hleave, hleave']
      exact .failed rfl ⟨h.library, h.stream, h.stage⟩
    · rw [log, log, hleave, hleave']
      exact .moved ⟨h.library, h.stream, ht⟩

private theorem Matches.closeText (h : s.Matches s') : StepMatches s.closeText s'.closeText := by
  unfold Session.closeText
  have hbelow := h.stream.below
  cases houter : s.stream.below with
  | nil =>
    rw [houter, List.forall₂_nil_left_iff] at hbelow
    rw [hbelow]
    dsimp only [atEnd]
    have hbalanced : s.stage.scopes.checkBalanced = s'.stage.scopes.checkBalanced := by
      rw [← s.stage.scopes.relocated_checkBalanced, ← s'.stage.scopes.relocated_checkBalanced,
        Stage.scopes_congr h.stage]
    rw [hbalanced]
    cases s'.stage.scopes.checkBalanced with
    | error f => exact .failed rfl h
    | ok _ => exact .finished
  | cons outer below =>
    rw [houter] at hbelow
    obtain ⟨outer', below', hfirst, hrest, houter'⟩ := List.forall₂_cons_left_iff.1 hbelow
    rw [houter']
    have hback : ({ s with stream := Stream.backTo s.stream.top outer below } : Session).Matches
        { s' with stream := Stream.backTo s'.stream.top outer' below' } :=
      ⟨h.library, Stream.matches_backTo hfirst hrest, h.stage⟩
    exact hback.leave h.stream.top

/-- Sessions that match take steps that match. -/
theorem Matches.step [LinearAlgebra] (h : s.Matches s') : StepMatches s.step s'.step := by
  rw [step_eq, step_eq, ← h.phase]
  have hread := (s.stage.phase.uniform_readNext _ _ h.stream.top.cursor).matches
  generalize s.stage.phase.readNext s.stream.top.cursor = ending at hread ⊢
  generalize s.stage.phase.readNext s'.stream.top.cursor = ending' at hread ⊢
  cases hread with
  | error hr hc => exact .failed hr ⟨h.library, h.stream.withCursor hc, h.stage⟩
  | @ok reading reading' c c' hreading hc =>
    cases hreading with
    | none => exact h.closeText
    | @some r r' hsame =>
      obtain ⟨keyword, n, d⟩ := r
      obtain ⟨_, n', _⟩ := r'
      obtain ⟨rfl, rfl⟩ := hsame
      have hs : ({ s with stream := s.stream.withCursor c } : Session).Matches
          { s' with stream := s'.stream.withCursor c' } := ⟨h.library, h.stream.withCursor hc, h.stage⟩
      exact hs.carryOut keyword n n' d

/-- Sessions that match come to the same end: the same scene up to lines, or the same report up to its line. -/
theorem Matches.finish [LinearAlgebra] (h : s.Matches s') :
    (∃ scene scene', s.finish.result = .ok scene ∧ s'.finish.result = .ok scene' ∧
        scene.unlined = scene'.unlined) ∨
      ∃ r r', s.finish.result = .error r ∧ s'.finish.result = .error r' ∧ r.unlined = r'.unlined := by
  fun_induction Session.finish s generalizing s' with
  | case1 s hstep =>
    have hsteps := h.step
    rw [hstep] at hsteps
    generalize hstep' : s'.step = step' at hsteps
    cases hsteps
    rw [finish_of_finished hstep']
    refine .inl ⟨_, _, rfl, rfl, ?_⟩
    rw [Scene.unlined, Scene.unlined, Session.scene, Session.scene, Draft.scene_relocated, Draft.scene_relocated,
      Stage.draft_congr h.stage]
  | case2 s r t hstep =>
    have hsteps := h.step
    rw [hstep] at hsteps
    generalize hstep' : s'.step = step' at hsteps
    cases hsteps with
    | @failed _ r' _ t' hr ht =>
      rw [finish_of_failed hstep']
      refine .inr ⟨_, _, rfl, rfl, ?_⟩
      obtain ⟨hcause, hsource, hchain⟩ := Report.unlined_eq_iff.1 hr
      simp only [Report.unlined, Report.locate, hsource, hchain, hcause, ht.stream.source, ht.stream.chain]
  | case3 s e t hstep ih =>
    have hsteps := h.step
    rw [hstep] at hsteps
    generalize hstep' : s'.step = step' at hsteps
    cases hsteps with
    | moved ht =>
      rw [finish_of_moved hstep']
      exact ih ht

end Session

/-! ### Texts -/

/-- The kind and the text of a token that has been scanned tell its lexeme: a number is what its text is read as. -/
private theorem Item.Sound.lexeme_eq {t t' : Token} (h : (Item.token t).Sound) (h' : (Item.token t').Sound)
    (hkind : t.lexeme.kind = t'.lexeme.kind) (htext : t.text = t'.text) : t.lexeme = t'.lexeme := by
  obtain ⟨lexeme, line⟩ := t
  obtain ⟨lexeme', line'⟩ := t'
  cases lexeme with
  | number numeral =>
    cases lexeme' with
    | number numeral' =>
      have hread := h numeral rfl
      rw [htext, h' numeral' rfl] at hread
      cases hread
      rfl
    | _ => cases hkind
  | identifier name =>
    cases lexeme' with
    | identifier name' => exact congrArg Lexeme.identifier htext
    | _ => cases hkind
  | quoted content =>
    cases lexeme' with
    | quoted content' => exact congrArg Lexeme.quoted htext
    | _ => cases hkind
  | leftBracket =>
    cases lexeme' with
    | leftBracket => rfl
    | _ => cases hkind
  | rightBracket =>
    cases lexeme' with
    | rightBracket => rfl
    | _ => cases hkind

/-- Tokens with the same kinds and texts. -/
def AlikeTokens (tokens tokens' : List Token) : Prop :=
  tokens.map (fun t => (t.lexeme.kind, t.text)) = tokens'.map (fun t => (t.lexeme.kind, t.text))

private theorem AlikeTokens.map_lexeme {tokens tokens' : List Token} (h : AlikeTokens tokens tokens')
    (hsound : ∀ t ∈ tokens, (Item.token t).Sound) (hsound' : ∀ t ∈ tokens', (Item.token t).Sound) :
    tokens.map (·.lexeme) = tokens'.map (·.lexeme) := by
  induction tokens generalizing tokens' with
  | nil =>
    obtain rfl : tokens' = [] := List.map_eq_nil_iff.1 h.symm
    rfl
  | cons t tokens ih =>
    obtain ⟨t', more, rfl, hfirst, hmore⟩ := List.map_eq_cons_iff.1 h.symm
    obtain ⟨hkind, htext⟩ := Prod.mk.inj hfirst
    rw [List.forall_mem_cons] at hsound hsound'
    rw [List.map_cons, List.map_cons, hsound.1.lexeme_eq hsound'.1 hkind.symm htext.symm,
      ih hmore.symm hsound.2 hsound'.2]

/-- The tokens of a text have come of a scan. -/
private theorem sound_of_tokens {text : List Char} {tokens : List Token}
    (h : (Scanner.ofText "<string>" text).tokens = .ok tokens) : ∀ t ∈ tokens, (Item.token t).Sound := by
  intro t ht
  have hover := Cursor.over_ofText_iff.2 h
  refine (Cursor.sound_ofText "<string>" text).items _ ?_
  rw [hover.1]
  exact List.mem_map_of_mem ht

private theorem Session.matches_ofTokens (library : Library) {tokens tokens' : List Token}
    (h : tokens.map (·.lexeme) = tokens'.map (·.lexeme)) :
    (Session.ofTokens library tokens).Matches (Session.ofTokens library tokens') := by
  have hitems : (tokens.map Item.token).map Item.unlined = (tokens'.map Item.token).map Item.unlined := by
    have hlines := congrArg (List.map fun l => Item.token ⟨l, 0⟩) h
    rw [List.map_map, List.map_map] at hlines ⊢
    exact hlines
  exact ⟨rfl, .cons ⟨rfl, rfl, ⟨hitems, rfl⟩, rfl⟩ .nil, rfl⟩

/-- Texts that differ only in blanks, comments and lines give scenes that differ only in the lines of locations, those
in warnings among them, or errors that differ only in the line: the cause, which tells the class and the message of
an error and all that it mentions, is the same, and so are the file and the files around it. -/
theorem parseText_independent_of_layout [LinearAlgebra] (library : Library) {text text' : List Char}
    {tokens tokens' : List Token} (h : (Scanner.ofText "<string>" text).tokens = .ok tokens)
    (h' : (Scanner.ofText "<string>" text').tokens = .ok tokens') (halike : AlikeTokens tokens tokens') :
    (∃ scene scene', parseText library text = .ok scene ∧ parseText library text' = .ok scene' ∧
        scene.unlined = scene'.unlined) ∨
      ∃ r r', parseText library text = .error r ∧ parseText library text' = .error r' ∧
        r.cause = r'.cause ∧ r.source = r'.source ∧ r.chain = r'.chain := by
  have hlexemes := halike.map_lexeme (sound_of_tokens h) (sound_of_tokens h')
  rw [parseText_eq_parseTokens library h, parseText_eq_parseTokens library h']
  rcases (Session.matches_ofTokens library hlexemes).finish with hscenes | ⟨r, r', hr, hr', hsame⟩
  · exact .inl hscenes
  · exact .inr ⟨r, r', hr, hr', Report.unlined_eq_iff.1 hsame⟩

namespace TwoFilms

attribute [local instance] LinearAlgebra.stepwise

/-- Two films on two lines. -/
def onTwoLines : List Char :=
  "Film \"rgb\"\nFilm \"gbuffer\"".toList

/-- The same films, spread over more lines. -/
def spread : List Char :=
  "# two films\nFilm\n\"rgb\"\n\nFilm \"gbuffer\" # the last one wins\n".toList

/-- The films on the given lines. -/
def tokens (n₁ n₂ n₃ n₄ : Nat) : List Token :=
  [⟨.identifier "Film", n₁⟩, ⟨.quoted "rgb", n₂⟩, ⟨.identifier "Film", n₃⟩, ⟨.quoted "gbuffer", n₄⟩]

/-- The warning of the second film. -/
def warning (previous line : Nat) : Warning :=
  ⟨.redefined "Film" (some ⟨"<string>", previous⟩), some ⟨"<string>", line⟩⟩

private theorem parse_of_tokens {text : List Char} {n₁ n₂ n₃ n₄ : Nat} (warnings : List Warning)
    (h : (Scanner.ofText "<string>" text).tokens = .ok (tokens n₁ n₂ n₃ n₄))
    (hend : ((Session.ofTokens .withoutFiles (tokens n₁ n₂ n₃ n₄)).endWithin 3).map (·.scene.warnings) =
      some warnings) : ∃ scene, parseText .withoutFiles text = .ok scene ∧ scene.warnings = warnings := by
  obtain ⟨last, hlast, hwarnings⟩ := Option.map_eq_some_iff.1 hend
  refine ⟨last.scene, ?_, hwarnings⟩
  rw [parseText_eq_parseTokens _ h, parseTokens, Session.finish_of_endWithin hlast]
  rfl

/-- The second film draws a warning in both texts, which tells the lines of the two films in each of them. -/
theorem warned_on_other_lines : ∃ scene scene',
    parseText .withoutFiles onTwoLines = .ok scene ∧ parseText .withoutFiles spread = .ok scene' ∧
      scene.warnings = [warning 1 2] ∧ scene'.warnings = [warning 2 5] ∧
      scene.unlined = scene'.unlined := by
  have h : (Scanner.ofText "<string>" onTwoLines).tokens = .ok (tokens 1 1 2 2) := by cbv
  have h' : (Scanner.ofText "<string>" spread).tokens = .ok (tokens 2 3 5 5) := by cbv
  obtain ⟨scene, hscene, hwarnings⟩ := parse_of_tokens [warning 1 2] h (by decide +kernel)
  obtain ⟨scene', hscene', hwarnings'⟩ := parse_of_tokens [warning 2 5] h' (by decide +kernel)
  refine ⟨scene, scene', hscene, hscene', hwarnings, hwarnings', ?_⟩
  rcases parseText_independent_of_layout .withoutFiles h h' rfl with ⟨_, _, hok, hok', hsame⟩ | ⟨_, _, herror, _⟩
  · cases hscene.symm.trans hok
    cases hscene'.symm.trans hok'
    exact hsame
  · cases hscene.symm.trans herror

end TwoFilms

end SceneDescription
