import SceneDescription.Proofs.Sessions.OpenFiles
import SceneDescription.Proofs.Splicing.Replay

/-!
# Sessions that go in step

Two sessions go in step if they carry out the same directives one by one.  This is so when their outermost texts have
the same lexemes, the files on top of these are the same, and the stages correspond in a way that directives keep
(`StageRelation`).  A `Pairing` fixes all that stays the same on the way.  When the first session finishes, the second
one gets to a session that still corresponds to the end of the first (`Pairing.Twins.exists_twin_of_finish`), and
finishes there if it has nothing else to read (`Pairing.Twins.exists_finish`).
-/

namespace SceneDescription

/-! ### Steps from what they do -/

/-- Any keyword reads the same directive elsewhere. -/
theorem local_readDirective_of_any (keyword : Keyword) (line line' : Nat) :
    Local (fun _ => True) (readDirective ⟨keyword, line⟩) (readDirective ⟨keyword, line'⟩) := by
  by_cases hinclude : keyword = .includeFile
  · subst hinclude
    exact (Heading.local_quoted _ _).map fun _ _ => trivial
  by_cases himport : keyword = .importFile
  · subst himport
    exact (Heading.local_quoted _ _).map fun _ _ => trivial
  intro c d c' h
  obtain ⟨_, hrest⟩ := local_readDirective hinclude himport line line' c d c' h
  exact ⟨trivial, hrest⟩

/-- The operands of a directive among the tokens of a text. -/
theorem Cursor.Over.split_of_read {keyword : Keyword} {line : Nat} {c c' : Cursor} {d : Directive}
    {tokens : List Token} (hover : c.Over tokens) (h : readDirective ⟨keyword, line⟩ c = .ok d c') :
    ∃ taken rest, tokens = taken ++ rest ∧ c.items = taken.map .token ++ c'.items ∧ c'.Over rest := by
  obtain ⟨_, taken, hitems, _⟩ := local_readDirective_of_any keyword line line c d c' h
  have hforward := (forward_readDirective ⟨keyword, line⟩ c).2
  simp only [Read.after, h] at hforward
  obtain ⟨rest, rfl, hrest⟩ := exists_rest_of_taken (hover.1.symm.trans hitems)
  exact ⟨taken, rest, rfl, hitems, hrest, hforward.trans hover.2⟩

/-- Where nothing else comes, no other token comes first. -/
theorem keyword_nil (t : Token) (h : ([] : List Token).head? = some t) : ∃ name, t.lexeme = .identifier name := by
  cases h

variable [LinearAlgebra]

namespace Session

variable {s s' last : Session} {e : Event} {t : Token} {c₁ c₂ : Cursor} {keyword : Keyword} {d : Directive}

/-- What a step is known to do, it does. -/
theorem Performs.exists_step (h : s.Performs t c₁ c₂ keyword d s') :
    ∃ e s'', s.step = .moved e s'' ∧ s''.library = s'.library ∧ s''.stream = s'.stream ∧ s''.stage = s'.stage := by
  obtain ⟨name, hlexeme, hname⟩ := h.named
  have hstep : s.step = ({ s with stream := s.stream.withCursor c₂ } : Session).carryOut keyword t.line d := by
    simp [step, Stream.advance, h.take, perform, hlexeme, hname, h.phase, Stream.withCursor, h.read]
  rcases h.stream with ⟨hnone, hstream⟩ | ⟨relative, path, hsome, hopen⟩
  · obtain ⟨e, s'', hmoved, hstage, hstream'⟩ :=
      step_of_directive h.take hlexeme hname h.phase h.read hnone h.execute
    refine ⟨e, s'', hmoved, ?_, hstream'.trans hstream.symm, hstage⟩
    rw [h.library, (moves_of_step hmoved).library]
  · have hcarry := carryOut_of_opening (t := { s with stream := s.stream.withCursor c₂ }) keyword t.line d
      h.execute hsome hopen
    exact ⟨_, _, hstep.trans hcarry, h.library.symm, rfl, rfl⟩

private theorem Leaves.exists_step {outer : Frame Mark} {below : List (Frame Mark)} (h : s.Leaves outer below s') :
    ∃ e s'', s.step = .moved e s'' ∧ s''.library = s'.library ∧ s''.stream = s'.stream ∧ s''.stage = s'.stage := by
  obtain ⟨c, htake⟩ := h.take
  have hstep : s.step =
      ({ s with stream := Stream.backTo s.stream.top outer below } : Session).leave s.stream.top := by
    simp [step, Stream.advance, htake, h.around]
  rcases h.stage with ⟨hclose, hstage⟩ | ⟨mark, hclose, hleave⟩
  · have hleft : ({ s with stream := Stream.backTo s.stream.top outer below } : Session).leave s.stream.top =
        .moved (.left s.stream.top.source none)
          (Session.log { s with stream := Stream.backTo s.stream.top outer below } [.left s.stream.top.source]) := by
      unfold leave
      rw [hclose]
    exact ⟨_, _, hstep.trans hleft, h.library.symm, h.stream.symm, hstage.symm⟩
  · have hleft : ({ s with stream := Stream.backTo s.stream.top outer below } : Session).leave s.stream.top =
        .moved (.left s.stream.top.source (some mark))
          { Session.log { s with stream := Stream.backTo s.stream.top outer below } [.left s.stream.top.source] with
            stage := s'.stage } := by
      unfold leave
      rw [hclose]
      dsimp only [log]
      rw [hleave]
    exact ⟨_, _, hstep.trans hleft, h.library.symm, h.stream.symm, rfl⟩

/-- The tokens of a text that a directive begins with. -/
theorem Performs.exists_tail {tokens : List Token} (h : s.Performs t c₁ c₂ keyword d s')
    (hover : s.stream.top.cursor.Over tokens) : ∃ more, tokens = t :: more ∧ c₁.Over more := by
  obtain ⟨hitems, hstuck⟩ := Read.take_some h.take
  rw [hover.1] at hitems
  obtain ⟨_, more, rfl, ⟨⟩, hmore⟩ := List.map_eq_cons_iff.1 hitems
  exact ⟨more, rfl, hmore.symm, hstuck.trans hover.2⟩

/-- The paths of the open texts but the outermost, innermost first. -/
def innerPaths (s : Session) : List (Option Path) :=
  (s.stream.frames.map (·.path)).dropLast

/-- What a step does to the texts above the outermost one: the same, one less, or one more. -/
theorem Moves.innerPaths (h : s.Moves e s') :
    s'.innerPaths = s.innerPaths ∨ (∃ path, s.innerPaths = path :: s'.innerPaths) ∨
      ∃ t c₁ c₂ keyword d relative path, s.Performs t c₁ c₂ keyword d s' ∧
        (s.stream.withCursor c₂).openFile s.library relative (some t.line) (s.markFor d) = .ok (path, s'.stream) ∧
        s'.innerPaths = some path :: s.innerPaths := by
  cases h with
  | leaves h =>
    refine .inr (.inl ⟨s.stream.top.path, ?_⟩)
    simp [Session.innerPaths, h.stream, Stream.backTo, Stream.frames, h.around]
  | @performs t c₁ c₂ keyword d _ h =>
    rcases h.stream with ⟨_, hstream⟩ | ⟨relative, path, _, hopen⟩
    · refine .inl ?_
      rw [Session.innerPaths, hstream]
      rfl
    · obtain ⟨_, text, _, hstream⟩ := Stream.openFile_eq_ok hopen
      refine .inr (.inr ⟨t, c₁, c₂, keyword, d, relative, path, h, hopen, ?_⟩)
      rw [Session.innerPaths, hstream]
      rfl

/-- What every step preserves while the session can finish, every run preserves then. -/
theorem Run.invariant_of_finish {P : Session → Prop} {moments : List Moment}
    (hstep : ∀ s e s', P s → s.Moves e s' → s'.finish = .finished last → P s') (h : Run s moments s')
    (hfinish : s.finish = .finished last) (hs : P s) : P s' := by
  induction h with
  | nil s => exact hs
  | cons hmoved _ ih =>
    have hfinish' := (finish_of_moved hmoved).symm.trans hfinish
    exact ih hfinish' (hstep _ _ _ hs (moves_of_step hmoved) hfinish')

/-! ### Sessions that finish -/

/-- All that is still to come in the open texts is tokens. -/
def Scanned (s : Session) : Prop :=
  ∀ frame ∈ s.stream.frames, ∃ tokens, frame.cursor.Over tokens

/-- The texts around a directive are still open behind it. -/
theorem Performs.mem_frames (h : s.Performs t c₁ c₂ keyword d s') {frame : Frame Mark}
    (hframe : frame ∈ (s.stream.withCursor c₂).frames) : frame ∈ s'.stream.frames := by
  rcases h.stream with ⟨_, hstream⟩ | ⟨relative, path, _, hopen⟩
  · rwa [hstream]
  · obtain ⟨_, text, _, hstream⟩ := Stream.openFile_eq_ok hopen
    rw [hstream]
    exact List.mem_cons_of_mem _ hframe

/-- What holds at the end of a text, and in front of a directive if it holds behind it, holds in all open texts of a
session that finishes. -/
theorem cursors_of_finish {P : Cursor → Prop} (hend : ∀ c c', Read.take c = .ok none c' → P c)
    (hline : ∀ c line, P { c with lastLine := line } → P c)
    (hdirective : ∀ {s s' : Session} {t : Token} {c₁ c₂ : Cursor} {keyword : Keyword} {d : Directive},
      s.Performs t c₁ c₂ keyword d s' → P c₂ → P s.stream.top.cursor)
    (h : s.finish = .finished last) : ∀ frame ∈ s.stream.frames, P frame.cursor := by
  refine finish_induction (motive := fun s => ∀ frame ∈ s.stream.frames, P frame.cursor) ?_ ?_ h
  · intro hstep
    obtain ⟨hbelow, ⟨c, htake⟩, _⟩ := of_step_finished hstep
    intro frame hframe
    rw [Stream.frames, hbelow, List.mem_singleton] at hframe
    subst hframe
    exact hend _ _ htake
  · intro s e s' hstep _ hnext frame hframe
    cases moves_of_step hstep with
    | @performs t c₁ c₂ _ _ _ h =>
      rcases List.mem_cons.1 hframe with rfl | hbelow
      · exact hdirective h (hnext _ (h.mem_frames (List.mem_cons_self ..)))
      · exact hnext frame (h.mem_frames (List.mem_cons_of_mem _ hbelow))
    | leaves h =>
      obtain ⟨c, htake⟩ := h.take
      rw [Stream.frames, h.around] at hframe
      rw [h.stream] at hnext
      rcases List.mem_cons.1 hframe with rfl | hbelow
      · exact hend _ _ htake
      rcases List.mem_cons.1 hbelow with rfl | hbelow
      · exact hline _ _ (hnext (Stream.backTo s.stream.top frame _).top (List.mem_cons_self ..))
      · exact hnext frame (List.mem_cons_of_mem _ hbelow)

/-- A session that finishes meets no fault in the texts that are open. -/
theorem scanned_of_finish (h : s.finish = .finished last) : s.Scanned := by
  refine cursors_of_finish (P := fun c => ∃ tokens, c.Over tokens) ?_ ?_ ?_ h
  · intro c c' htake
    exact ⟨[], Read.over_of_take_none htake⟩
  · intro c line hover
    exact hover
  · intro s s' t c₁ c₂ keyword d h hover
    obtain ⟨_, taken, hitems, _⟩ := local_readDirective_of_any keyword t.line t.line c₁ d c₂ h.read
    obtain ⟨tokens, hover⟩ := hover
    exact ⟨_, h.cursor_over hitems hover⟩

end Session

/-! ### Pairs of texts -/

/-- A way for stages to correspond that directives keep, if their locations correspond. -/
structure StageRelation where
  stages : Stage → Stage → Prop
  locations : Location → Location → Prop
  phase : ∀ {s t}, stages s t → s.phase = t.phase
  mark : ∀ {s t}, stages s t → s.scopes.checkpoint.1 = t.scopes.checkpoint.1
  balanced : ∀ {s t}, stages s t → s.scopes.checkBalanced = t.scopes.checkBalanced
  execute : ∀ {s t s' l l' d}, stages s t → locations l l' → s.execute l d = .ok s' →
    ∃ t', t.execute l' d = .ok t' ∧ stages s' t'
  leaveImport : ∀ {s t s' mark}, stages s t → s.leaveImport mark = .ok s' →
    ∃ t', t.leaveImport mark = .ok t' ∧ stages s' t'

/-- What two sessions in step have in common at all times. -/
structure Pairing extends StageRelation where
  library : Library
  /-- The configured directory of the second session. -/
  directory : Path
  /-- The path of the first session's outermost text, if that is a file. -/
  path : Option Path
  /-- The path of the second session's outermost text. -/
  path' : Option Path
  /-- Relative paths in the outermost texts denote the same files. -/
  base : (path.map Path.parent).getD library.config.baseDirectory = (path'.map Path.parent).getD directory
  /-- What the second session's outermost text has at its end besides. -/
  extra : List Token
  keyword : ∀ t, extra.head? = some t → ∃ name, t.lexeme = .identifier name
  /-- The files that may be opened. -/
  inner : Path → Prop
  locations_inner : ∀ {p}, inner p → ∀ line, locations ⟨p.toText, line⟩ ⟨p.toText, line⟩
  apart : ∀ {p q}, inner p → path' = some q → library.files.LeadApart q p

namespace Pairing

variable (R : Pairing)

/-- The second session's library. -/
def library' : Library :=
  ⟨{ R.library.config with baseDirectory := R.directory }, R.library.files⟩

/-- The same lexeme at corresponding places of two texts. -/
def Tokens (source source' : String) (t t' : Token) : Prop :=
  t.lexeme = t'.lexeme ∧ R.locations ⟨source, t.line⟩ ⟨source', t'.line⟩

/-- Two open texts with the same lexemes to come, up to what the second one has besides. -/
def Beside (extra : List Token) (frame frame' : Frame Mark) : Prop :=
  ∃ tokens tokens', frame.cursor.Over tokens ∧ frame'.cursor.Over (tokens' ++ extra) ∧
    List.Forall₂ (R.Tokens frame.source frame'.source) tokens tokens'

/-- Two stacks of open texts, innermost first. -/
inductive Frames : List (Frame Mark) → List (Frame Mark) → Prop
  | root {frame frame' : Frame Mark} (hbeside : R.Beside R.extra frame frame') (hpath : frame.path = R.path)
      (hpath' : frame'.path = R.path') : Frames [frame] [frame']
  | inner {frame frame' : Frame Mark} {below below' : List (Frame Mark)} {p : Path}
      (hbeside : R.Beside [] frame frame') (hclose : frame.onClose = frame'.onClose) (hpath : frame.path = some p)
      (hpath' : frame'.path = some p) (hinner : R.inner p) (hbelow : Frames below below') :
      Frames (frame :: below) (frame' :: below')

/-- Two sessions in step. -/
structure Twins (s t : Session) : Prop where
  library : s.library = R.library
  library' : t.library = R.library'
  frames : R.Frames s.stream.frames t.stream.frames
  stages : R.stages s.stage t.stage

variable {R}

/-- The innermost texts of two stacks, and how to put other cursors into them. -/
private theorem Frames.top {frame frame' : Frame Mark} {below below' : List (Frame Mark)}
    (h : R.Frames (frame :: below) (frame' :: below')) :
    ∃ extra, (∀ t, extra.head? = some t → ∃ name, t.lexeme = Lexeme.identifier name) ∧
      R.Beside extra frame frame' ∧
      ∀ c c', R.Beside extra { frame with cursor := c } { frame' with cursor := c' } →
        R.Frames ({ frame with cursor := c } :: below) ({ frame' with cursor := c' } :: below') := by
  cases h with
  | root hbeside hpath hpath' =>
    exact ⟨R.extra, R.keyword, hbeside, fun c c' hbeside' => .root hbeside' hpath hpath'⟩
  | inner hbeside hclose hpath hpath' hinner hbelow =>
    exact ⟨[], keyword_nil, hbeside, fun c c' hbeside' => .inner hbeside' hclose hpath hpath' hinner hbelow⟩

private theorem Frames.length_eq {frames frames' : List (Frame Mark)} (h : R.Frames frames frames') :
    frames.length = frames'.length := by
  induction h with
  | root => rfl
  | inner _ _ _ _ _ _ ih => rw [List.length_cons, List.length_cons, ih]

/-- Relative paths denote the same files in both. -/
private theorem Frames.baseDirectory {s t : Stream Mark} (h : R.Frames s.frames t.frames) :
    s.baseDirectory R.library.config = t.baseDirectory R.library'.config := by
  rw [Stream.baseDirectory_eq, Stream.baseDirectory_eq]
  generalize s.frames = frames at h
  generalize t.frames = frames' at h
  cases h with
  | root _ hpath hpath' =>
    rw [List.findSome?_singleton, List.findSome?_singleton, hpath, hpath']
    exact R.base
  | inner _ _ hpath hpath' _ _ => simp [hpath, hpath']

/-- A file that is not open in the first session is not open in the second. -/
private theorem Frames.isOpen_eq_false {s t : Stream Mark} {p : Path} (h : R.Frames s.frames t.frames) (hp : R.inner p)
    (hclosed : s.isOpen R.library.files p = .ok false) : t.isOpen R.library.files p = .ok false := by
  have hapart := OpenPaths.isOpen_eq_false.1 hclosed
  refine OpenPaths.isOpen_eq_false.2 ?_
  unfold Stream.paths at hapart ⊢
  generalize s.frames = frames at h hapart
  generalize t.frames = frames' at h
  induction h with
  | root _ _ hpath' =>
    intro other hother
    exact R.apart hp (hpath'.symm.trans (List.mem_singleton.1 hother).symm)
  | inner _ _ hpath hpath' _ _ ih =>
    intro other hother
    rw [List.map_cons] at hapart hother
    rcases List.mem_cons.1 hother with hfirst | hrest
    · refine hapart other (List.mem_cons.2 (.inl ?_))
      rw [hfirst, hpath, hpath']
    · exact ih (fun q hq => hapart q (List.mem_cons_of_mem _ hq)) other hrest

/-! ### One step -/

private theorem map_lexeme_eq {source source' : String} {tokens tokens' : List Token}
    (h : List.Forall₂ (R.Tokens source source') tokens tokens') :
    tokens'.map (·.lexeme) = tokens.map (·.lexeme) := by
  induction h with
  | nil => rfl
  | cons hhead _ ih => rw [List.map_cons, List.map_cons, hhead.1, ih]

/-- A directive is read in the second text as in the first. -/
private theorem exists_read {source source' : String} {tokens tokens' extra : List Token} {c₁ c₂ e₁ : Cursor}
    {keyword : Keyword} {line : Nat} {d : Directive} (line' : Nat) (hc : c₁.Over tokens)
    (he : e₁.Over (tokens' ++ extra)) (htokens : List.Forall₂ (R.Tokens source source') tokens tokens')
    (hextra : ∀ t, extra.head? = some t → ∃ name, t.lexeme = .identifier name)
    (hread : readDirective ⟨keyword, line⟩ c₁ = .ok d c₂) :
    ∃ e₂ rest rest', readDirective ⟨keyword, line'⟩ e₁ = .ok d e₂ ∧ c₂.Over rest ∧ e₂.Over (rest' ++ extra) ∧
      List.Forall₂ (R.Tokens source source') rest rest' := by
  obtain ⟨taken, rest, rfl, hitems, hrest⟩ := hc.split_of_read hread
  obtain ⟨taken', rest', rfl, htaken, hrests⟩ : ∃ taken' rest', tokens' = taken' ++ rest' ∧
      List.Forall₂ (R.Tokens source source') taken taken' ∧ List.Forall₂ (R.Tokens source source') rest rest' := by
    refine ⟨tokens'.take taken.length, tokens'.drop taken.length, (List.take_append_drop ..).symm, ?_, ?_⟩
    · exact (List.forall₂_take_append _ _ _ htokens.flip).flip
    · exact (List.forall₂_drop_append _ _ _ htokens.flip).flip
  obtain ⟨_, taken'', hitems', _, hagain⟩ := local_readDirective_of_any keyword line line' c₁ d c₂ hread
  obtain rfl : taken'' = taken := taken_unique (hitems'.symm.trans hitems)
  have hfollows : Follows c₂.items (rest' ++ extra) := by
    cases hrests with
    | nil => exact .inl hextra
    | cons hhead _ =>
      rw [hrest.1]
      exact .inr ⟨_, _, rfl, rfl, hhead.1.symm⟩
  rw [List.append_assoc] at he
  obtain ⟨e₂, hread', he₂⟩ := hagain e₁ taken' (rest' ++ extra) he (map_lexeme_eq htaken) hfollows
  exact ⟨e₂, rest, rest', hread', hrest, he₂, hrests⟩

variable {s t s' : Session}

private theorem markFor_congr (h : R.stages s.stage t.stage) (d : Directive) : s.markFor d = t.markFor d := by
  unfold Session.markFor
  split
  · rw [R.mark h]
  · rfl

/-- A file that the first session opens is opened by the second. -/
private theorem Frames.exists_openFile {a b a' : Stream Mark} {relative : String} {line : Option Nat}
    {mark : Option Mark} {p : Path} (line' : Option Nat) (h : R.Frames a.frames b.frames)
    (hopen : a.openFile R.library relative line mark = .ok (p, a')) (hp : R.inner p)
    (hscanned : ∃ tokens, a'.top.cursor.Over tokens) :
    ∃ b', b.openFile R.library' relative line' mark = .ok (p, b') ∧ R.Frames a'.frames b'.frames := by
  obtain ⟨hpath, text, htext, rfl⟩ := Stream.openFile_eq_ok hopen
  obtain ⟨hdepth, hclosed⟩ := Stream.checks_of_openFile hopen
  have hpath' : b.resolve R.library'.config relative = p := by
    rw [hpath, Stream.resolve, Stream.resolve, OpenPaths.resolve, OpenPaths.resolve]
    exact congrArg (Path.join · (.ofString relative)) h.baseDirectory.symm
  have hdepth' : b.depth < R.library'.config.maxIncludeDepth := by
    rw [Stream.depth, ← h.length_eq]
    exact hdepth
  refine ⟨_, Stream.openFile_of_checks line' mark hpath' hdepth' (h.isOpen_eq_false hp hclosed) htext, ?_⟩
  refine .inner ?_ rfl rfl rfl hp h
  obtain ⟨tokens, hover⟩ := hscanned
  refine ⟨tokens, tokens, hover, ?_, ?_⟩
  · rw [List.append_nil]
    exact hover
  · exact List.forall₂_same.2 fun t _ => ⟨rfl, R.locations_inner hp t.line⟩

/-- A directive is carried out by the second session as by the first. -/
private theorem Twins.exists_twin_of_performs {token : Token} {c₁ c₂ : Cursor} {keyword : Keyword} {d : Directive}
    (h : R.Twins s t) (hmoves : s.Performs token c₁ c₂ keyword d s') (hscanned : s'.Scanned)
    (hinner : ∀ p, some p ∈ s'.innerPaths → R.inner p) : ∃ t', t.finish = t'.finish ∧ R.Twins s' t' := by
  obtain ⟨extra, hextra, ⟨tokens, tokens', hover, hover', htokens⟩, hframes⟩ := h.frames.top
  obtain ⟨more, rfl, hmore⟩ := hmoves.exists_tail hover
  obtain ⟨token', more', htoken, hmores, rfl⟩ := List.forall₂_cons_left_iff.1 htokens
  obtain ⟨e₁, htake, he₁⟩ := Read.take_over hover'
  obtain ⟨e₂, rest, rest', hread, hrest, hrest', hrests⟩ :=
    exists_read token'.line hmore he₁ hmores hextra hmoves.read
  obtain ⟨stage, hexecute, hstages⟩ := R.execute h.stages htoken.2 hmoves.execute
  have hbehind : R.Frames (s.stream.withCursor c₂).frames (t.stream.withCursor e₂).frames :=
    hframes c₂ e₂ ⟨rest, rest', hrest, hrest', hrests⟩
  have hnamed : ∃ name, token'.lexeme = .identifier name ∧ Keyword.ofName? name = some keyword := by
    rw [← htoken.1]
    exact hmoves.named
  have hphase : keyword.allowedIn t.stage.phase := by
    rw [← R.phase h.stages]
    exact hmoves.phase
  rcases hmoves.stream with ⟨hnone, hstream⟩ | ⟨relative, p, hsome, hopen⟩
  · let t' : Session := { t with stage, stream := t.stream.withCursor e₂ }
    have hperforms : t.Performs token' e₁ e₂ keyword d t' :=
      ⟨htake, hnamed, hphase, hread, hexecute, rfl, .inl ⟨hnone, rfl⟩⟩
    obtain ⟨e, t'', hstep, hlibrary, hstream', hstage⟩ := hperforms.exists_step
    refine ⟨t'', Session.finish_of_moved hstep, hmoves.library.trans h.library, hlibrary.trans h.library', ?_, ?_⟩
    · rw [hstream, hstream']
      exact hbehind
    · rw [hstage]
      exact hstages
  · rw [h.library] at hopen
    have htop : ∃ tokens, s'.stream.top.cursor.Over tokens := hscanned _ (List.mem_cons_self ..)
    have hp : R.inner p := by
      refine hinner p ?_
      obtain ⟨_, text, _, hstream⟩ := Stream.openFile_eq_ok hopen
      rw [Session.innerPaths, hstream]
      exact List.mem_cons_self ..
    obtain ⟨stream, hopen', hframes'⟩ := hbehind.exists_openFile (some token'.line) hopen hp htop
    let t' : Session := { t with stage, stream }
    have hperforms : t.Performs token' e₁ e₂ keyword d t' := by
      refine ⟨htake, hnamed, hphase, hread, hexecute, rfl, .inr ⟨relative, p, hsome, ?_⟩⟩
      rw [h.library', ← markFor_congr h.stages]
      exact hopen'
    obtain ⟨e, t'', hstep, hlibrary, hstream', hstage⟩ := hperforms.exists_step
    refine ⟨t'', Session.finish_of_moved hstep, hmoves.library.trans h.library, hlibrary.trans h.library', ?_, ?_⟩
    · rw [hstream']
      exact hframes'
    · rw [hstage]
      exact hstages

/-- A file is left by the second session as by the first. -/
private theorem Twins.exists_twin_of_leaves {outer : Frame Mark} {below : List (Frame Mark)} (h : R.Twins s t)
    (hmoves : s.Leaves outer below s') : ∃ t', t.finish = t'.finish ∧ R.Twins s' t' := by
  have hframes := h.frames
  rw [Stream.frames, hmoves.around, Stream.frames] at hframes
  generalize hbelow' : t.stream.below = around at hframes
  cases hframes with
  | inner hbeside hclose _ _ _ hbelow =>
    obtain ⟨tokens, tokens', hover, hover', htokens⟩ := hbeside
    obtain ⟨c, htake⟩ := hmoves.take
    obtain rfl : tokens = [] := List.map_eq_nil_iff.1 (hover.1.symm.trans (Read.over_of_take_none htake).1)
    obtain rfl : tokens' = [] := List.forall₂_nil_left_iff.1 htokens
    have htake' : Read.take t.stream.top.cursor = .ok none t.stream.top.cursor := by
      have hitems : t.stream.top.cursor.items = [] := hover'.1
      simp [Read.take, hitems, hover'.2]
    cases around with
    | nil => cases hbelow
    | cons outer' below' =>
      obtain ⟨extra, _, hbeside, hreplace⟩ := hbelow.top
      -- going back changes the line of the last token only
      have hback : R.Frames (Stream.backTo s.stream.top outer below).frames
          (Stream.backTo t.stream.top outer' below').frames := hreplace _ _ hbeside
      obtain ⟨stage, hleave, hstages⟩ : ∃ stage, ((t.stream.top.onClose = none ∧ stage = t.stage) ∨
          ∃ mark, t.stream.top.onClose = some mark ∧ t.stage.leaveImport mark = .ok stage) ∧
          R.stages s'.stage stage := by
        rcases hmoves.stage with ⟨hnone, hstage⟩ | ⟨mark, hsome, hleave⟩
        · refine ⟨t.stage, .inl ⟨hclose ▸ hnone, rfl⟩, ?_⟩
          rw [hstage]
          exact h.stages
        · obtain ⟨stage, hleave', hstages⟩ := R.leaveImport h.stages hleave
          exact ⟨stage, .inr ⟨mark, hclose ▸ hsome, hleave'⟩, hstages⟩
      let t' : Session := { t with stage, stream := Stream.backTo t.stream.top outer' below' }
      have hleaves : t.Leaves outer' below' t' := ⟨⟨_, htake'⟩, hbelow', rfl, rfl, hleave⟩
      obtain ⟨e, t'', hstep, hlibrary, hstream', hstage⟩ := hleaves.exists_step
      refine ⟨t'', Session.finish_of_moved hstep, hmoves.library.trans h.library, hlibrary.trans h.library', ?_, ?_⟩
      · rw [hstream', hmoves.stream]
        exact hback
      · rw [hstage]
        exact hstages

/-- When the first session finishes, the second one gets to a session that corresponds to its end. -/
theorem Twins.exists_twin_of_finish {last : Session} (h : R.Twins s t) (hfinish : s.finish = .finished last)
    (hinner : ∀ moments s', Session.Run s moments s' → ∀ p, some p ∈ s'.innerPaths → R.inner p) :
    ∃ t', t.finish = t'.finish ∧ R.Twins last t' := by
  refine Session.finish_induction (motive := fun s => ∀ t, R.Twins s t →
    (∀ moments s', Session.Run s moments s' → ∀ p, some p ∈ s'.innerPaths → R.inner p) →
      ∃ t', t.finish = t'.finish ∧ R.Twins last t') ?_ ?_ hfinish t h hinner
  · intro _ t ht _
    exact ⟨t, rfl, ht⟩
  · intro s e s' hstep hrest ih t ht hinner
    have hinner' : ∀ moments s'', Session.Run s' moments s'' → ∀ p, some p ∈ s''.innerPaths → R.inner p :=
      fun moments s'' hrun => hinner _ s'' (.cons hstep hrun)
    obtain ⟨t', hfinish', ht'⟩ : ∃ t', t.finish = t'.finish ∧ R.Twins s' t' := by
      cases Session.moves_of_step hstep with
      | performs hmoves =>
        exact ht.exists_twin_of_performs hmoves (Session.scanned_of_finish hrest) (hinner' [] s' (.nil s'))
      | leaves hmoves => exact ht.exists_twin_of_leaves hmoves
    obtain ⟨t'', hfinish'', ht''⟩ := ih t' ht' hinner'
    exact ⟨t'', hfinish'.trans hfinish'', ht''⟩

/-- At the end of the first session, the second one is in its outermost text and has only its own tokens left. -/
theorem Twins.of_step_finished (h : R.Twins s t) (hstep : s.step = .finished) :
    t.stream.below = [] ∧ t.stream.top.path = R.path' ∧ t.stream.top.cursor.Over R.extra := by
  obtain ⟨hbelow, ⟨c, htake⟩, _⟩ := Session.of_step_finished hstep
  have hframes := h.frames
  rw [Stream.frames, hbelow, Stream.frames] at hframes
  generalize t.stream.below = around at hframes ⊢
  cases hframes with
  | inner _ _ _ _ _ hbelow => cases hbelow
  | root hbeside _ hpath' =>
    obtain ⟨tokens, tokens', hover, hover', htokens⟩ := hbeside
    obtain rfl : tokens = [] := List.map_eq_nil_iff.1 (hover.1.symm.trans (Read.over_of_take_none htake).1)
    obtain rfl : tokens' = [] := List.forall₂_nil_left_iff.1 htokens
    exact ⟨rfl, hpath', hover'⟩

/-- A session in step with one that finishes finishes too, if it has nothing else to read. -/
theorem Twins.exists_finish {last : Session} (h : R.Twins s t) (hextra : R.extra = [])
    (hfinish : s.finish = .finished last)
    (hinner : ∀ moments s', Session.Run s moments s' → ∀ p, some p ∈ s'.innerPaths → R.inner p) :
    ∃ last', t.finish = .finished last' ∧ R.stages last.stage last'.stage := by
  obtain ⟨t', hsame, ht'⟩ := h.exists_twin_of_finish hfinish hinner
  have hstep := (Session.run_moments hfinish).2
  obtain ⟨hbelow, _, hover⟩ := ht'.of_step_finished hstep
  have hbalanced : t'.stage.scopes.checkBalanced = .ok () := by
    rw [← R.balanced ht'.stages]
    exact (Session.of_step_finished hstep).2.2
  rw [hextra] at hover
  refine ⟨t', ?_, ht'.stages⟩
  rw [hsame]
  exact Session.finish_of_finished (Session.step_of_ended hbelow hover hbalanced)

end Pairing

end SceneDescription
