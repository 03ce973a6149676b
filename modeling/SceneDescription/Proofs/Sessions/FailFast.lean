import SceneDescription.Proofs.Sessions.Continuations
import SceneDescription.Proofs.Sessions.ReportedLines
import SceneDescription.Proofs.Tokens.Scanning
import SceneDescription.Transform.Elimination

/-!
# The first error counts

A text that cannot be read fails with the same error in front of any other text, as long as the error is not that a
string has no closing quote, and the session has not been told that the outermost text has ended
(`parseText_fails_fast`).  What is scanned in a text is scanned in front of another one as well, and a session that
has not met the end reads the same directives there.
-/

namespace SceneDescription

/-- In front of a line end and another text, a text goes on behind its items, or cannot be passed at the same place.
What cannot be passed in the text alone is a string without its closing quote, if the text goes on. -/
private theorem Cursor.ofText_append_cases (source : String) (text later : List Char) :
    (∃ more stuck, ofText source (text ++ '\n' :: later) = (ofText source text).continued more stuck ∧
      ∀ r, (ofText source text).stuck = some r → r.cause = .unterminatedString) ∨
    ofText source (text ++ '\n' :: later) = ofText source text := by
  unfold ofText
  rw [Scanner.ofText_append]
  rcases (Scanner.ofText source text).scanOnto_before_cases later [] with ⟨more, stuck, hscan, hquote⟩ | hscan
  · refine .inl ⟨more, stuck, ?_, hquote⟩
    rw [Scanner.scan, hscan]
    rfl
  · refine .inr ?_
    rw [Scanner.scan, hscan]
    rfl

/-- There is nothing more to read only at the end of the items. -/
private theorem Phase.items_eq_nil_of_readNext {phase : Phase} {c c' : Cursor} (h : phase.readNext c = .ok none c') :
    c.items = [] := by
  obtain ⟨_, htake⟩ | ⟨_, _, _, _, _, hsome⟩ := Phase.readNext_eq_ok h
  · obtain ⟨_ | ⟨_ | _, rest⟩, stuck, line⟩ := c
    · rfl
    · cases htake
    · cases htake
  · cases hsome

namespace Session

variable {s s' : Session} {event : Event} {moments : List Moment}

/-- How the scans of the open texts end, innermost first. -/
def scanEnds (s : Session) : List (Option (Report Fault)) :=
  s.stream.frames.map (·.cursor.stuck)

private theorem Moves.getLast?_scanEnds [LinearAlgebra] (h : s.Moves event s') :
    s'.scanEnds.getLast? = s.scanEnds.getLast? := by
  cases h with
  | leaves h =>
    have hall : s.scanEnds = s.stream.top.cursor.stuck :: s'.scanEnds := by
      simp [scanEnds, h.stream, Stream.backTo, Stream.frames, h.around]
    rw [hall]
    simp [scanEnds, Stream.frames]
  | @performs t c₁ c₂ keyword d _ h =>
    obtain ⟨_, _, hstuck, _⟩ :=
      (Read.advances_take h.take).trans ((traced_readDirective ⟨keyword, t.line⟩).advances h.read)
    have hcursor : (s.stream.withCursor c₂).frames.map (·.cursor.stuck) = s.scanEnds := by
      simp [scanEnds, Stream.frames, Stream.withCursor, hstuck]
    rcases h.stream with ⟨_, hstream⟩ | ⟨relative, path, _, hopen⟩
    · rw [scanEnds, hstream, hcursor]
    · obtain ⟨_, text, _, hstream⟩ := Stream.openFile_eq_ok hopen
      have hall : s'.scanEnds = s'.stream.top.cursor.stuck :: s.scanEnds := by
        rw [← hcursor, scanEnds, hstream]
        rfl
      rw [hall]
      simp [scanEnds, Stream.frames]

/-- The scan of the outermost text ends as it did at the start. -/
theorem Run.getLast?_scanEnds [LinearAlgebra] (h : Run s moments s') : s'.scanEnds.getLast? = s.scanEnds.getLast? :=
  h.invariant (P := fun t => t.scanEnds.getLast? = s.scanEnds.getLast?)
    (fun _ _ _ hsame hmoves => hmoves.getLast?_scanEnds.trans hsame) rfl

/-- The session reads on in the innermost text without being told that this has ended. -/
def StaysBeforeEnd (s : Session) : Prop :=
  ∃ told ending, s.stage.phase.readNext.Dialogue s.stream.top.cursor told ending ∧ none ∉ told

/-- A session that is not told of an end reads the same in a text that goes on, unless it fails where the scan of the
text cannot go on. -/
private theorem StaysBeforeEnd.readsAlike [LinearAlgebra] (h : s.StaysBeforeEnd)
    (hstuck : ∀ r t, s.step = .failed r t → s.stream.top.cursor.stuck ≠ some r) (more : List Item)
    (stuck : Option (Report Fault)) : s.ReadsAlike more stuck := by
  obtain ⟨told, ending, hdialogue, htold⟩ := h
  have hends : ∀ r c, ending = .error r c → s.stream.top.cursor.stuck ≠ some r := by
    rintro r c rfl
    refine hstuck r { s with stream := s.stream.withCursor c } ?_
    rw [step_eq, hdialogue.eq]
  intro _
  refine ⟨?_, ?_⟩
  · -- at the end of the text, one more token would make a difference
    intro c hnone
    have hitems := Phase.items_eq_nil_of_readNext hnone
    have hmore := (hdialogue.continued htold hends [.token ⟨.leftBracket, 1⟩] none).eq
    rw [← hdialogue.eq, hnone] at hmore
    rw [Cursor.continued, hitems] at hmore
    cases hmore
  · rw [(hdialogue.continued htold hends more stuck).eq, ← hdialogue.eq]

end Session

/-- The first error counts: if a text fails, and the reading has neither been told of the end of the text nor found a
string without its closing quote, then the text fails with the same error, place and including files in front of any
other text. -/
theorem parseText_fails_fast [LinearAlgebra] {library : Library} {text : List Char} {report : Report Fault}
    (h : parseText library text = .error report) (hquote : report.cause ≠ .unterminatedString)
    (hends : ∀ moments s, Session.Run (.ofText library text) moments s → s.stream.below = [] → s.StaysBeforeEnd)
    (later : List Char) : parseText library (text ++ '\n' :: later) = .error report := by
  obtain ⟨r, t, hfailed, hreport⟩ := Outcome.result_eq_error h
  obtain ⟨moments, last, hrun, ⟨_, hfinish⟩ | ⟨r', t', hstep, hfinish⟩⟩ :=
    (Session.ofText library text).exists_run_to_end
  · cases hfailed.symm.trans hfinish
  cases hfailed.symm.trans hfinish
  rcases Cursor.ofText_append_cases "<string>" text later with ⟨more, stuck, hcursor, hstuck⟩ | hsame
  · have hstart : Session.ofText library (text ++ '\n' :: later) =
        (Session.ofText library text).continued more stuck := by
      unfold Session.ofText Stream.ofText
      rw [hcursor]
      rfl
    have halike : ∀ moments s, Session.Run (.ofText library text) moments s → s.ReadsAlike more stuck := by
      intro moments s hs hbelow
      refine (hends moments s hs hbelow).readsAlike (fun r' t' hstep' hr' => hquote ?_) more stuck hbelow
      have hends := hs.getLast?_scanEnds
      rw [Session.scanEnds, Stream.frames, hbelow] at hends
      have hsame : s.stream.top.cursor.stuck = (Cursor.ofText "<string>" text).stuck := Option.some.inj hends
      rw [hs.finish_eq, Session.finish_of_failed hstep'] at hfailed
      cases hfailed
      rw [← hreport]
      exact hstuck r (hsame ▸ hr')
    have hlast : (last.continued more stuck).step = .failed r (t.continued more stuck) := by
      rw [Session.step_continued (halike moments last hrun), hstep]
      rfl
    have hrun' : Session.Run ((Session.ofText library text).continued more stuck)
        (moments.map (Session.continuedMoment more stuck)) (last.continued more stuck) := by
      refine hrun.continued fun m hm => ?_
      obtain ⟨earlier, rest, rfl⟩ := List.append_of_mem hm
      exact halike earlier m.before hrun.split.1
    rw [parseText, hstart, hrun'.finish_eq, Session.finish_of_failed hlast, Outcome.result, ← hreport]
    dsimp only [Session.continued]
    rw [Stream.source_continued, Stream.chain_continued]
  · rw [← h, parseText, parseText, Session.ofText, Session.ofText, Stream.ofText, Stream.ofText, hsame]

namespace UnknownWord

attribute [local instance] LinearAlgebra.stepwise

/-- A text whose second word is no directive. -/
def text : List Char :=
  "WorldBegin\nFoo".toList

def report : Report Fault :=
  { cause := .unknownDirective "Foo", line := some 2, source := some "<string>" }

/-- The session in front of both words. -/
def start : Session where
  library := .withoutFiles
  stream.top := { source := "<string>", path := none, cursor := { stuck := none, items :=
    [.token ⟨.identifier "WorldBegin", 1⟩, .token ⟨.identifier "Foo", 2⟩] } }

/-- The session behind the first word. -/
def inWorld : Session where
  library := .withoutFiles
  stream.top := { source := "<string>", path := none, cursor := { stuck := none, lastLine := 1, items :=
    [.token ⟨.identifier "Foo", 2⟩] } }
  stage := { phase := .world, draft := { coordinateSystems := [("world", .both .identity)] } }

private theorem ofText_eq : Session.ofText .withoutFiles text = start := by
  have hcursor : Cursor.ofText "<string>" text =
      { items := [.token ⟨.identifier "WorldBegin", 1⟩, .token ⟨.identifier "Foo", 2⟩], stuck := none } := by cbv
  rw [Session.ofText, Stream.ofText, hcursor]
  rfl

private theorem step_start : start.step = .moved (.performed .worldBegin .worldBegin ⟨"<string>", 1⟩) inWorld := by
  rfl

private theorem step_inWorld : ∃ t, inWorld.step = .failed (Fault.at (.unknownDirective "Foo") (some 2)) t ∧
    t.stream.source = "<string>" ∧ t.stream.chain = [] :=
  ⟨_, rfl, rfl, rfl⟩

private theorem staysBeforeEnd {moments : List Moment} {s : Session} (h : start.Run moments s) :
    s.StaysBeforeEnd := by
  cases h with
  | nil => exact ⟨_, _, .bind (.take rfl) (.bind (.bind (.pure _ _) (.pure _ _)) (.pure _ _)), by simp⟩
  | cons hstep hrun =>
    cases step_start.symm.trans hstep
    cases hrun with
    | nil =>
      exact ⟨_, _, .bind (.take rfl) (.bind_error (f := fun r => pure (some r)) (.throw (α := Reading) _ _)), by simp⟩
    | cons hstep' _ =>
      obtain ⟨t, hfailed, _⟩ := step_inWorld
      cases hfailed.symm.trans hstep'

/-- The unknown word is reported although the text behind it cannot even be scanned. -/
theorem unknown_word_counts : parseText .withoutFiles text = .error report ∧
    parseText .withoutFiles (text ++ '\n' :: "\"".toList) = .error report := by
  have hparse : parseText .withoutFiles text = .error report := by
    obtain ⟨t, hfailed, hsource, hchain⟩ := step_inWorld
    rw [parseText, ofText_eq, Session.finish_of_moved step_start, Session.finish_of_failed hfailed, Outcome.result,
      hsource, hchain]
    rfl
  have hquote : report.cause ≠ .unterminatedString := by
    intro hsame
    cases hsame
  refine ⟨hparse, parseText_fails_fast hparse hquote (fun moments s hrun _ => ?_) _⟩
  rw [ofText_eq] at hrun
  exact staysBeforeEnd hrun

end UnknownWord

end SceneDescription
