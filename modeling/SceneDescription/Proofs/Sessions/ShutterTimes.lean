import SceneDescription.Proofs.Readers.Variants
import SceneDescription.Proofs.Sessions.Appending
import SceneDescription.Proofs.Stages.ShutterTimes
import SceneDescription.Transform.Elimination

/-!
# Independence of the two shutter times

Two scenes may be read from files that differ only in numbers.  If these are operands of motions that are carried out
while only one of the two shutter times is active, the scenes are the same as far as they are seen at the other time
(`Root.shutter_times_independent`).  The sessions go on in step: they read their texts to the same places, and carry
out the same directive where these have the same tokens (`Session.MovesBoth.event_eq`).  So the stages are seen alike
in the active state, in every saved one and in every named coordinate system (`Session.SeenAlike.next`).
-/

namespace SceneDescription

/-! ### Files with other numbers -/

/-- The files that can be read in both libraries have the same lexemes on the same lines, up to numbers. -/
structure Library.Varies (lib lib' : Library) : Prop where
  config : lib.config = lib'.config
  texts : ∀ path text text', lib.files.readText lib.config path = .ok text →
    lib'.files.readText lib'.config path = .ok text' →
      (Cursor.ofText path.toText text).Varies (Cursor.ofText path.toText text')

theorem Library.Varies.refl (lib : Library) : lib.Varies lib where
  config := rfl
  texts _ _ _ htext htext' := by
    cases htext.symm.trans htext'
    exact .refl _

/-- Scenes are read from texts that are the same up to numbers, or from the same file. -/
inductive Root.Varies : Root → Root → Prop
  | texts {text text' : List Char}
      (h : (Cursor.ofText "<string>" text).Varies (Cursor.ofText "<string>" text')) :
      Varies (.text text) (.text text')
  | file (path : Path) : Varies (.file path) (.file path)

/-- The open texts are the same, up to numbers that are still to come. -/
structure Frame.Varies {κ : Type} (f f' : Frame κ) : Prop where
  source : f.source = f'.source
  path : f.path = f'.path
  cursor : f.cursor.Varies f'.cursor
  includeLine : f.includeLine = f'.includeLine
  onClose : f.onClose = f'.onClose

theorem Frame.Varies.symm {κ : Type} {f f' : Frame κ} (h : f.Varies f') : f'.Varies f :=
  ⟨h.source.symm, h.path.symm, h.cursor.symm, h.includeLine.symm, h.onClose.symm⟩

namespace Stream

variable {κ : Type} {s t s' t' : Stream κ} {c c' : Cursor}

/-- Text by text, the streams are the same up to numbers. -/
structure Varies (s t : Stream κ) : Prop where
  top : s.top.Varies t.top
  below : List.Forall₂ Frame.Varies s.below t.below

theorem Varies.symm (h : s.Varies t) : t.Varies s :=
  ⟨h.top.symm, (h.below.imp fun _ _ hframe => hframe.symm).flip⟩

private theorem Varies.paths (h : s.Varies t) : s.frames.map (·.path) = t.frames.map (·.path) := by
  have hframes : List.Forall₂ Frame.Varies s.frames t.frames := .cons h.top h.below
  rw [← List.forall₂_eq_eq_eq, List.forall₂_map_left_iff, List.forall₂_map_right_iff]
  exact hframes.imp fun _ _ hframe => hframe.path

private theorem Varies.withCursor (h : s.Varies t) (hc : c.Varies c') : (s.withCursor c).Varies (t.withCursor c') :=
  ⟨⟨h.top.source, h.top.path, hc, h.top.includeLine, h.top.onClose⟩, h.below⟩

/-- Going back to the text around leaves both streams on the same line. -/
private theorem varies_backTo {inner inner' outer outer' : Frame κ} {below below' : List (Frame κ)}
    (hinner : inner.Varies inner') (houter : outer.Varies outer') (hbelow : List.Forall₂ Frame.Varies below below') :
    (backTo inner outer below).Varies (backTo inner' outer' below') := by
  refine ⟨⟨houter.source, houter.path, ⟨houter.cursor.items, houter.cursor.stuck, ?_⟩, houter.includeLine,
    houter.onClose⟩, hbelow⟩
  dsimp only [backTo]
  rw [hinner.includeLine, hinner.cursor.lastLine]

/-- Both streams open the same file, up to numbers. -/
private theorem Varies.openFile {lib lib' : Library} {relative : String} {line : Option Nat} {onClose : Option κ}
    {path path' : Path} (h : s.Varies t) (hlib : lib.Varies lib')
    (hs : s.openFile lib relative line onClose = .ok (path, s'))
    (ht : t.openFile lib' relative line onClose = .ok (path', t')) : s'.Varies t' := by
  obtain ⟨rfl, text, htext, rfl⟩ := openFile_eq_ok hs
  obtain ⟨rfl, text', htext', rfl⟩ := openFile_eq_ok ht
  have hpath : t.resolve lib'.config relative = s.resolve lib.config relative := by
    rw [← hlib.config]
    exact congrArg (OpenPaths.resolve · lib.config relative) h.paths.symm
  rw [hpath] at htext' ⊢
  have htexts := hlib.texts _ _ _ htext htext'
  exact ⟨⟨rfl, rfl, ⟨htexts.items, htexts.stuck, h.top.cursor.lastLine⟩, rfl, rfl⟩, .cons h.top h.below⟩

end Stream

/-! ### One step -/

/-- The tokens that a moment takes from the innermost text: those of a directive, or none at the end of the text. -/
def Moment.tokens (m : Moment) : List Token :=
  let cursor := m.before.stream.top.cursor
  let left := (m.before.stage.phase.readNext.after cursor).items.length
  (cursor.items.take (cursor.items.length - left)).filterMap Item.token?

/-- Where the tokens differ, they are those of a motion, and only the other time is active. -/
def Moment.SeenAlike (time : ShutterTime) (m m' : Moment) : Prop :=
  m.tokens ≠ m'.tokens →
    (∃ keyword ∈ m.event.keyword?, keyword.IsMotion) ∧ m.before.stage.active.activeTimes = time.other.only

instance (time : ShutterTime) (m m' : Moment) : Decidable (m.SeenAlike time m') :=
  inferInstanceAs (Decidable (_ → _))

namespace Session

variable {time : ShutterTime} {s t s' t' last last' : Session} {e e' : Event}

/-- The sessions read texts that are the same up to numbers, and their stages are seen alike. -/
structure SeenAlike (time : ShutterTime) (s t : Session) : Prop where
  library : s.library.Varies t.library
  stream : s.stream.Varies t.stream
  stage : s.stage.seenAt time = t.stage.seenAt time

private theorem SeenAlike.markFor (h : s.SeenAlike time t) (d : Directive) : s.markFor d = t.markFor d := by
  cases d with
  | importFile path => exact congrArg some (Stage.mark_of_seenAt h.stage)
  | _ => rfl

private theorem SeenAlike.leaves {outer outer' : Frame Mark} {below below' : List (Frame Mark)} (h : s.SeenAlike time t)
    (hs : s.Leaves outer below s') (ht : t.Leaves outer' below' t') : s'.SeenAlike time t' := by
  have haround := h.stream.below
  rw [hs.around, ht.around] at haround
  obtain ⟨houter, hbelow⟩ := List.forall₂_cons.1 haround
  refine ⟨?_, ?_, ?_⟩
  · rw [hs.library, ht.library]
    exact h.library
  · rw [hs.stream, ht.stream]
    exact Stream.varies_backTo h.stream.top houter hbelow
  · have hclose := h.stream.top.onClose
    rcases hs.stage with ⟨hnone, hstage⟩ | ⟨mark, hmark, hleave⟩
    · rcases ht.stage with ⟨_, hstage'⟩ | ⟨_, hmark', _⟩
      · rw [hstage, hstage']
        exact h.stage
      · rw [hnone, hmark'] at hclose
        cases hclose
    · rcases ht.stage with ⟨hnone', _⟩ | ⟨mark', hmark', hleave'⟩
      · rw [hmark, hnone'] at hclose
        cases hclose
      · rw [hmark, hmark'] at hclose
        cases hclose
        exact Stage.leaveImport_seenAt h.stage hleave hleave'

variable [LinearAlgebra]

/-- Two steps over the same part of texts that are the same up to numbers. -/
inductive MovesBoth (s t : Session) : Event → Event → Session → Session → Prop
  | performs {token token' : Token} {c₁ c₁' c₂ c₂' : Cursor} {keyword : Keyword} {d d' : Directive} {s' t' : Session}
      (h : s.Performs token c₁ c₂ keyword d s') (h' : t.Performs token' c₁' c₂' keyword d' t')
      (hline : token.line = token'.line) (hcursor : c₂.Varies c₂') :
      MovesBoth s t (.performed keyword d ⟨s.stream.source, token.line⟩)
        (.performed keyword d' ⟨t.stream.source, token'.line⟩) s' t'
  | leaves {outer outer' : Frame Mark} {below below' : List (Frame Mark)} {s' t' : Session}
      (h : s.Leaves outer below s') (h' : t.Leaves outer' below' t') :
      MovesBoth s t (.left s.stream.top.source s.stream.top.onClose) (.left t.stream.top.source t.stream.top.onClose)
        s' t'

private theorem movesBoth_of_moves (hstream : s.stream.Varies t.stream) (h : s.Moves e s') (h' : t.Moves e' t') :
    s.MovesBoth t e e' s' t' := by
  cases h with
  | @performs token c₁ c₂ keyword d _ h =>
    cases h' with
    | @performs token' c₁' c₂' keyword' d' _ h' =>
      obtain ⟨htoken, hc₁⟩ := Read.parallel_take _ _ _ _ _ _ hstream.top.cursor h.take h'.take
      cases htoken with
      | some htoken =>
        obtain ⟨name, hname, hkeyword⟩ := h.named
        obtain ⟨name', hname', hkeyword'⟩ := h'.named
        have hlexeme := htoken.lexeme
        rw [hname, hname'] at hlexeme
        cases hlexeme with
        | same =>
          obtain rfl : keyword = keyword' := Option.some.inj (hkeyword.symm.trans hkeyword')
          have hread := h'.read
          rw [← htoken.line] at hread
          exact .performs h h' htoken.line (parallel_readDirective _ _ _ _ _ _ _ hc₁ h.read hread).2
    | leaves h' =>
      obtain ⟨c, htake⟩ := h'.take
      cases (Read.parallel_take _ _ _ _ _ _ hstream.top.cursor h.take htake).1
  | leaves h =>
    obtain ⟨c, htake⟩ := h.take
    cases h' with
    | performs h' => cases (Read.parallel_take _ _ _ _ _ _ hstream.top.cursor htake h'.take).1
    | leaves h' => exact .leaves h h'

private theorem Performs.tokens_eq {token : Token} {c₁ c₂ : Cursor} {keyword : Keyword} {d : Directive}
    {taken : List Token}
    (h : s.Performs token c₁ c₂ keyword d s') (hitems : c₁.items = taken.map .token ++ c₂.items) (e : Event) :
    (Moment.mk s e).tokens = token :: taken := by
  obtain ⟨name, hlexeme, hname⟩ := h.named
  have hread := Phase.readNext_of_readDirective h.take hlexeme hname h.phase h.read
  have hall : s.stream.top.cursor.items = (token :: taken).map .token ++ c₂.items := by
    rw [(Read.take_some h.take).1, hitems]
    rfl
  have hlength : s.stream.top.cursor.items.length - c₂.items.length = ((token :: taken).map Item.token).length := by
    rw [hall, List.length_append, Nat.add_sub_cancel]
  simp only [Moment.tokens, Read.after, hread, hlength]
  rw [hall, List.take_left, List.filterMap_map]
  exact List.filterMap_some

/-- In a session that finishes, every open text goes on with a directive or ends. -/
theorem beginsDirective_of_finish (h : s.finish = .finished last) :
    ∀ frame ∈ s.stream.frames, ∀ tokens, frame.cursor.Over tokens → BeginsDirective tokens := by
  refine cursors_of_finish (P := fun c => ∀ tokens, c.Over tokens → BeginsDirective tokens) ?_ ?_ ?_ h
  · intro c c' htake tokens hover t ht
    have hnone := (Read.over_of_take_none htake).1.symm.trans hover.1
    rw [List.map_nil, eq_comm, List.map_eq_nil_iff] at hnone
    rw [hnone] at ht
    cases ht
  · intro c line hbegins
    exact hbegins
  · intro s s' t c₁ c₂ keyword d h _ tokens hover first hfirst
    obtain ⟨more, rfl, _⟩ := h.exists_tail hover
    cases hfirst
    obtain ⟨name, hname, _⟩ := h.named
    exact ⟨name, hname⟩

/-- From the same tokens comes the same event, if the second session goes on to its end. -/
theorem MovesBoth.event_eq (h : s.MovesBoth t e e' s' t') (hstream : s.stream.Varies t.stream)
    (hfinish : t.finish = .finished last) (hfinish' : t'.finish = .finished last)
    (htokens : (Moment.mk s e).tokens = (Moment.mk t e').tokens) : e = e' := by
  cases h with
  | leaves h h' => rw [hstream.top.source, hstream.top.onClose]
  | @performs token token' c₁ c₁' c₂ c₂' keyword d d' _ _ h h' hline hcursor =>
    obtain ⟨_, taken, hitems, _, hagain⟩ := local_readDirective_of_any keyword token.line token'.line c₁ d c₂ h.read
    obtain ⟨tokens, hover⟩ := scanned_of_finish hfinish t.stream.top (List.mem_cons_self ..)
    obtain ⟨more, rfl, hmore⟩ := h'.exists_tail hover
    obtain ⟨taken', rest, rfl, hitems', hrest⟩ := hmore.split_of_read h'.read
    rw [h.tokens_eq hitems, h'.tokens_eq hitems'] at htokens
    obtain ⟨rfl, rfl⟩ := List.cons.inj htokens
    -- a keyword or the end comes next, so the reader has not looked at anything behind the tokens that it has taken
    have hbegins : BeginsDirective rest :=
      beginsDirective_of_finish hfinish' _ (h'.mem_frames (List.mem_cons_self ..)) rest hrest
    obtain ⟨c, hread, _⟩ := hagain c₁' taken rest hmore rfl (.inl hbegins)
    obtain ⟨rfl, _⟩ := EStateM.Result.ok.inj (hread.symm.trans h'.read)
    rw [Stream.source, Stream.source, hstream.top.source]

private theorem MovesBoth.keyword?_eq (h : s.MovesBoth t e e' s' t') : e.keyword? = e'.keyword? := by
  cases h with
  | performs h h' hline hcursor => rfl
  | leaves h h' => rfl

namespace SeenAlike

variable {token token' : Token} {c₁ c₁' c₂ c₂' : Cursor} {keyword : Keyword} {d d' : Directive}

/-- After the same directive. -/
private theorem performs (h : s.SeenAlike time t) (hs : s.Performs token c₁ c₂ keyword d s')
    (ht : t.Performs token' c₁' c₂' keyword d t') (hline : token.line = token'.line) (hcursor : c₂.Varies c₂') :
    s'.SeenAlike time t' := by
  have hexecute := ht.execute
  rw [← hline, show t.stream.source = s.stream.source from h.stream.top.source.symm] at hexecute
  refine ⟨?_, ?_, Stage.execute_seenAt h.stage hs.execute hexecute⟩
  · rw [hs.library, ht.library]
    exact h.library
  have hmoved := h.stream.withCursor hcursor
  rcases hs.stream with ⟨hopens, hstream⟩ | ⟨relative, path, hopens, hopen⟩
  · rcases ht.stream with ⟨_, hstream'⟩ | ⟨_, _, hopens', _⟩
    · rw [hstream, hstream']
      exact hmoved
    · cases hopens.symm.trans hopens'
  · rcases ht.stream with ⟨hopens', _⟩ | ⟨relative', path', hopens', hopen'⟩
    · cases hopens.symm.trans hopens'
    · cases hopens.symm.trans hopens'
      rw [← hline, ← h.markFor d] at hopen'
      exact hmoved.openFile h.library hopen hopen'

/-- After motions while only the other time is active. -/
private theorem motions (h : s.SeenAlike time t) (hs : s.Performs token c₁ c₂ keyword d s')
    (ht : t.Performs token' c₁' c₂' keyword d' t') (hcursor : c₂.Varies c₂') (hkeyword : keyword.IsMotion)
    (htimes : s.stage.active.activeTimes = time.other.only) : s'.SeenAlike time t' := by
  have htimes' : t.stage.active.activeTimes = time.other.only := by
    rw [← htimes]
    exact congrArg (·.activeTimes) (Stage.active_of_seenAt h.stage).symm
  have hd := hs.hasKeyword.keyword?_of_isMotion hkeyword
  have hd' := ht.hasKeyword.keyword?_of_isMotion hkeyword
  have hstage := Stage.execute_of_other_time hd htimes hs.execute
  have hstage' := Stage.execute_of_other_time hd' htimes' ht.execute
  refine ⟨?_, ?_, hstage.trans (h.stage.trans hstage'.symm)⟩
  · rw [hs.library, ht.library]
    exact h.library
  · rw [hs.stream_of_motion hkeyword, ht.stream_of_motion hkeyword]
    exact h.stream.withCursor hcursor

/-- Sessions that are seen alike stay so by steps with the same event, or by motions while only the other time is
active. -/
theorem next (h : s.SeenAlike time t) (hmoves : s.MovesBoth t e e' s' t')
    (hevents : e ≠ e' → (∃ keyword ∈ e.keyword?, keyword.IsMotion) ∧
      s.stage.active.activeTimes = time.other.only) : s'.SeenAlike time t' := by
  cases hmoves with
  | leaves hs ht => exact h.leaves hs ht
  | @performs token token' c₁ c₁' c₂ c₂' keyword d d' s' t' hs ht hline hcursor =>
    by_cases hd : d = d'
    · subst hd
      exact h.performs hs ht hline hcursor
    · have hdiffer : Event.performed keyword d ⟨s.stream.source, token.line⟩ ≠
          .performed keyword d' ⟨t.stream.source, token'.line⟩ := by
        intro heq
        exact hd (Event.performed.inj heq).2.1
      obtain ⟨⟨_, hkeyword, hmotion⟩, htimes⟩ := hevents hdiffer
      cases hkeyword
      exact h.motions hs ht hcursor hmotion htimes

end SeenAlike

/-! ### Whole runs -/

/-- Of two sessions over texts that are the same up to numbers, one does not finish where the other goes on. -/
theorem Moves.step_ne_finished (h : s.Moves e s') (hstream : s.stream.Varies t.stream) : t.step ≠ .finished := by
  intro hfinished
  obtain ⟨hbelow, ⟨c, htake⟩, _⟩ := of_step_finished hfinished
  cases h with
  | performs h => cases (Read.parallel_take _ _ _ _ _ _ hstream.top.cursor h.take htake).1
  | leaves h =>
    have haround := hstream.below
    rw [h.around, hbelow] at haround
    cases haround

private theorem Run.seenAlike {moments moments' : List Moment} (h : Run s moments last) (h' : Run t moments' last')
    (hlast : last.step = .finished) (hlast' : last'.step = .finished) (hstart : s.SeenAlike time t)
    (hmoments : ∀ both ∈ moments.zip moments', both.1.SeenAlike time both.2) :
    last.SeenAlike time last' ∧ moments.map (·.event.keyword?) = moments'.map (·.event.keyword?) := by
  induction h generalizing t moments' with
  | nil s =>
    cases h' with
    | nil => exact ⟨hstart, rfl⟩
    | cons hstep' _ => exact absurd hlast ((moves_of_step hstep').step_ne_finished hstart.stream.symm)
  | cons hstep _ ih =>
    cases h' with
    | nil => exact absurd hlast' ((moves_of_step hstep).step_ne_finished hstart.stream)
    | cons hstep' hrun' =>
      have hboth := movesBoth_of_moves hstart.stream (moves_of_step hstep) (moves_of_step hstep')
      obtain ⟨hfirst, hlater⟩ := List.forall_mem_cons.1 hmoments
      have hfinish := hrun'.finish_eq.trans (finish_of_finished hlast')
      have hnext := hstart.next hboth fun hdiffer => hfirst fun htokens => hdiffer
        (hboth.event_eq hstart.stream ((finish_of_moved hstep').trans hfinish) hfinish htokens)
      obtain ⟨hend, hkeywords⟩ := ih hrun' hlast hnext hlater
      refine ⟨hend, ?_⟩
      rw [List.map_cons, List.map_cons, hboth.keyword?_eq, hkeywords]

end Session

/-! ### Scenes -/

namespace Root

variable {library library' : Library} {root root' : Root} {s s' : Session} {scene scene' : Scene}

private theorem exists_end [LinearAlgebra] (hsession : root.session library = .ok s)
    (h : root.parse library = .ok scene) : ∃ last, s.finish = .finished last ∧ last.scene = scene := by
  rw [parse_eq, hsession] at h
  exact Outcome.result_eq_ok h

private theorem seenAlike_of_session (time : ShutterTime) (hlibrary : library.Varies library')
    (hroot : root.Varies root')
    (h : root.session library = .ok s) (h' : root'.session library' = .ok s') : s.SeenAlike time s' := by
  obtain ⟨hstart, hlib⟩ := start_of_session h
  obtain ⟨hstart', hlib'⟩ := start_of_session h'
  refine ⟨by rwa [hlib, hlib'], ?_, by rw [hstart.stage, hstart'.stage]⟩
  cases hroot with
  | texts htexts =>
    cases h
    cases h'
    exact ⟨⟨rfl, rfl, htexts, rfl, rfl⟩, .nil⟩
  | file path =>
    obtain ⟨stream, hstream, rfl⟩ := bind_pure_eq_ok.1 h
    obtain ⟨stream', hstream', rfl⟩ := bind_pure_eq_ok.1 h'
    obtain ⟨text, htext, rfl⟩ := Stream.ofFile_eq_ok hstream
    obtain ⟨text', htext', rfl⟩ := Stream.ofFile_eq_ok hstream'
    exact ⟨⟨rfl, rfl, hlibrary.texts _ _ _ htext htext', rfl, rfl⟩, .nil⟩

/-- Two scenes are read from files that are the same up to numbers, and wherever the numbers of a directive differ, it
is a motion that is carried out while only the other time is active.  Then the scenes are the same as far as they are
seen at the time, and the same directives have been carried out. -/
theorem shutter_times_independent [LinearAlgebra] (time : ShutterTime) (hlibrary : library.Varies library')
    (hroot : root.Varies root') (hsession : root.session library = .ok s) (hsession' : root'.session library' = .ok s')
    (hscene : root.parse library = .ok scene) (hscene' : root'.parse library' = .ok scene')
    (hmoments : ∀ both ∈ s.moments.zip s'.moments, both.1.SeenAlike time both.2) :
    scene.seenAt time = scene'.seenAt time ∧
      s.moments.map (·.event.keyword?) = s'.moments.map (·.event.keyword?) := by
  obtain ⟨last, hfinish, rfl⟩ := exists_end hsession hscene
  obtain ⟨last', hfinish', rfl⟩ := exists_end hsession' hscene'
  obtain ⟨hrun, hlast⟩ := Session.run_moments hfinish
  obtain ⟨hrun', hlast'⟩ := Session.run_moments hfinish'
  have hstart := seenAlike_of_session time hlibrary hroot hsession hsession'
  obtain ⟨hend, hkeywords⟩ := hrun.seenAlike hrun' hlast hlast' hstart hmoments
  refine ⟨?_, hkeywords⟩
  rw [Session.scene, Session.scene, Draft.scene_seenAt, Draft.scene_seenAt, Stage.draft_of_seenAt hend.stage]

end Root

namespace Root

attribute [local instance] LinearAlgebra.stepwise

/-- A shape that is moved when the shutter closes, through a coordinate system that is named in an inner scope. -/
def movedLate (distance : String) : List Char :=
  ("WorldBegin AttributeBegin ActiveTransform EndTime Translate " ++ distance ++
    " 0 0 CoordinateSystem \"c\" AttributeEnd CoordSysTransform \"c\" Shape \"sphere\"").toList

/-- How far it moves is not seen when the shutter opens. -/
theorem late_motion_unseen :
    ∃ scene scene', parse .withoutFiles (.text (movedLate "1")) = .ok scene ∧
      parse .withoutFiles (.text (movedLate "2")) = .ok scene' ∧
      scene.shapes.map (·.transform.closing.row0.w) = [1.0] ∧
      scene'.shapes.map (·.transform.closing.row0.w) = [2.0] ∧
      scene.seenAt .opening = scene'.seenAt .opening := by
  let s (distance : String) : Session := .ofText .withoutFiles (movedLate distance)
  have htexts : (Cursor.ofText "<string>" (movedLate "1")).Varies (Cursor.ofText "<string>" (movedLate "2")) := by
    decide +kernel
  have hmoments : ∀ both ∈ (s "1").moments.zip (s "2").moments, both.1.SeenAlike .opening both.2 := by
    have hboth : (((s "1").momentsWithin 9).bind fun moments => ((s "2").momentsWithin 9).map fun moments' =>
        decide (∀ both ∈ moments.zip moments', both.1.SeenAlike .opening both.2)) = some true := by decide +kernel
    obtain ⟨moments, h, hboth⟩ := Option.bind_eq_some_iff.1 hboth
    obtain ⟨moments', h', hboth⟩ := Option.map_eq_some_iff.1 hboth
    rw [Session.moments_of_momentsWithin h, Session.moments_of_momentsWithin h']
    exact of_decide_eq_true hboth
  have hend : ((s "1").endWithin 9).map (·.scene.shapes.map (·.transform.closing.row0.w)) = some [1.0] := by
    decide +kernel
  have hend' : ((s "2").endWithin 9).map (·.scene.shapes.map (·.transform.closing.row0.w)) = some [2.0] := by
    decide +kernel
  obtain ⟨last, hlast, hmoved⟩ := Option.map_eq_some_iff.1 hend
  obtain ⟨last', hlast', hmoved'⟩ := Option.map_eq_some_iff.1 hend'
  have hscene : parse .withoutFiles (.text (movedLate "1")) = .ok last.scene :=
    congrArg Outcome.result (Session.finish_of_endWithin hlast)
  have hscene' : parse .withoutFiles (.text (movedLate "2")) = .ok last'.scene :=
    congrArg Outcome.result (Session.finish_of_endWithin hlast')
  exact ⟨last.scene, last'.scene, hscene, hscene', hmoved, hmoved',
    (shutter_times_independent .opening (.refl _) (.texts htexts) rfl rfl hscene hscene' hmoments).1⟩

end Root

end SceneDescription
