import SceneDescription.Proofs.Scopes.Imports
import SceneDescription.Proofs.Sessions.OpenFiles
import SceneDescription.Proofs.Sessions.ScopeWords
import SceneDescription.Transform.Elimination

/-!
# Open imports

A file that is being imported carries the mark of its import, and the scopes hold an entry for it.  The files are
kept by the stream and the entries by the stage, and nothing but the order of events ties the two together.
`ImportedBy` says how a mark, the event that left it and the scopes at a later moment hang together, and every run
keeps to it (`Session.Run.traced`).  So when an imported file ends, its mark fits the scopes: either everything that
has begun in the file has been closed, and the scopes from before the import come back, or the file has left
something open, and this is reported.
-/

namespace SceneDescription

/-- How an open import looks from a later moment.  The event `m` has left the mark on a file with `around` files
around it, and `later` are the events since. -/
structure ImportedBy [LinearAlgebra] (s : Session) (mark : Mark) (around : Nat) (m : Moment) (later : List Moment) :
    Prop where
  directive : ∃ keyword path location, m.event = .performed keyword (.importFile path) location
  /-- The mark has the number of open scopes, the floor and the recorded object as they were before the import. -/
  mark_eq : mark = ⟨m.before.stage.scopes.depth, m.before.stage.scopes.floor, m.before.stage.scopes.recording⟩
  around_eq : m.before.stream.depth = around
  /-- All that has happened since belongs to the imported file or to files that it has opened. -/
  within : ∀ n ∈ later, around < n.before.stream.depth
  /-- The scopes from before the import lie untouched beneath its entry, and those above it have been opened since. -/
  scopes : ∃ upper, s.stage.scopes.saved =
      upper ++ (.imported, m.before.stage.active) :: m.before.stage.scopes.saved ∧
    Unclosed Moment.side (upper.map (·.1)) later

namespace Session

variable {s s' : Session} {event : Event} {moments : List Moment}

/-- What the open files carry, innermost first. -/
def closings (s : Session) : List (Option Mark) :=
  s.stream.frames.map (·.onClose)

private theorem length_closings (s : Session) : s.closings.length = s.stream.depth :=
  List.length_map _

private theorem closings_eq (s : Session) : s.closings = s.files.map (·.2) := by
  rw [closings, Session.files, List.map_map]
  rfl

private theorem mem_openMarks_of_closings {above below : List (Option Mark)} {mark : Mark}
    (h : s.closings = above ++ some mark :: below) : mark ∈ s.machine.marks := by
  have hmem : some mark ∈ s.closings := by simp [h]
  obtain ⟨frame, hframe, hclose⟩ := List.mem_map.1 hmem
  exact List.mem_filterMap.2 ⟨frame, hframe, hclose⟩

variable [LinearAlgebra]

/-- What a step does to the open files: the same, one less, or one more. -/
theorem Moves.closings (h : s.Moves event s') :
    s'.closings = s.closings ∨ (∃ closing, s.closings = closing :: s'.closings) ∨
      ∃ keyword d location, event = .performed keyword d location ∧ s'.closings = s.markFor d :: s.closings := by
  rw [closings_eq, closings_eq]
  rcases h.files with hsame | ⟨file, hleft⟩ | ⟨keyword, d, location, path, hevent, hopened, _⟩
  · rw [hsame]
    exact .inl rfl
  · rw [hleft]
    exact .inr (.inl ⟨file.2, rfl⟩)
  · rw [hopened]
    exact .inr (.inr ⟨keyword, d, location, hevent, rfl⟩)

/-- An import that is still open after a step looks the same, and the step belongs to its file. -/
theorem Moves.still_imported {mark : Mark} {m : Moment} {later : List Moment}
    {above above' below : List (Option Mark)} (hmoves : s.Moves event s') (hs : s.Consistent)
    (h : ImportedBy s mark below.length m later) (hopen : s.closings = above ++ some mark :: below)
    (hopen' : s'.closings = above' ++ some mark :: below) :
    ImportedBy s' mark below.length m (later ++ [⟨s, event⟩]) := by
  obtain ⟨upper, hsaved, hunclosed⟩ := h.scopes
  have hlength : ((ScopeKind.imported, m.before.stage.active) :: m.before.stage.scopes.saved).length =
      mark.depth + 1 := by
    rw [h.mark_eq]
    rfl
  have hbase : (.imported, m.before.stage.active) :: m.before.stage.scopes.saved <:+ s'.stage.scopes.saved :=
    ScopeMachine.step_keeps hs hmoves.machine (mem_openMarks_of_closings hopen)
      (mem_openMarks_of_closings hopen') ⟨upper, hsaved.symm⟩ hlength
  obtain ⟨upper', hsaved'⟩ := hbase
  have hnext : (Moment.mk s event).side.next s.stage.scopes.kinds = some s'.stage.scopes.kinds :=
    (ScopeMachine.step_consistent hs hmoves.machine).2
  rw [ScopeStack.kinds_eq_of_saved_eq hsaved, ScopeStack.kinds_eq_of_saved_eq hsaved'.symm] at hnext
  refine { h with within := ?_, scopes := ⟨upper', hsaved'.symm, hunclosed.next (Side.next_of_append hnext)⟩ }
  intro n hn
  rcases List.mem_append.1 hn with hold | hnew
  · exact h.within n hold
  · rw [List.mem_singleton.1 hnew]
    have hdepth := s.length_closings
    rw [hopen, List.length_append, List.length_cons] at hdepth
    show below.length < s.stream.depth
    omega

/-- Every mark on an open file goes back to an import among the events so far. -/
def Traced (moments : List Moment) (s : Session) : Prop :=
  ∀ above mark below, s.closings = above ++ some mark :: below →
    ∃ earlier m later, moments = earlier ++ m :: later ∧ ImportedBy s mark below.length m later

private theorem Start.traced (h : s.Start) : Traced [] s := by
  intro above mark below hopen
  obtain ⟨hbelow, hclose⟩ := h.frames
  have hclosings : s.closings = [none] := by simp [closings, Stream.frames, hbelow, hclose]
  have hmem : some mark ∈ [none] := by
    rw [← hclosings, hopen]
    simp
  simp at hmem

/-- The event of an import leaves its mark. -/
private theorem Moves.importedBy {keyword : Keyword} {d : Directive} {location : Location} {mark : Mark}
    (h : s.Moves (.performed keyword d location) s') (hmark : s.markFor d = some mark) :
    ImportedBy s' mark s.stream.depth ⟨s, .performed keyword d location⟩ [] := by
  have himport : ∃ path, d = .importFile path := by
    cases d with
    | importFile path => exact ⟨path, rfl⟩
    | _ => cases hmark
  obtain ⟨path, rfl⟩ := himport
  have hscopes : s'.stage.scopes = s.stage.scopes.checkpoint.2 := by
    cases h with
    | performs h =>
      have hstage : Except.ok { s.stage with scopes := s.stage.scopes.checkpoint.2 } = Except.ok s'.stage := h.execute
      injection hstage with hstage
      rw [← hstage]
  have hsaved : s'.stage.scopes.saved = [] ++ (.imported, s.stage.active) :: s.stage.scopes.saved := by
    rw [hscopes]
    rfl
  exact
    { directive := ⟨keyword, path, location, rfl⟩
      mark_eq := (Option.some.inj hmark).symm
      around_eq := rfl
      within := by simp
      scopes := ⟨[], hsaved, .nil⟩ }

private theorem Moves.traced (hs : s.Consistent) (htraced : Traced moments s) (h : s.Moves event s') :
    Traced (moments ++ [⟨s, event⟩]) s' := by
  intro above' mark below hopen'
  -- an import that was open before the step has its history already
  have hold : ∀ above, s.closings = above ++ some mark :: below → ∃ earlier m later,
      moments ++ [⟨s, event⟩] = earlier ++ m :: later ∧ ImportedBy s' mark below.length m later := by
    intro above hopen
    obtain ⟨earlier, m, later, hsplit, himported⟩ := htraced above mark below hopen
    exact ⟨earlier, m, later ++ [⟨s, event⟩], by simp [hsplit], h.still_imported hs himported hopen hopen'⟩
  rcases h.closings with hsame | ⟨closing, hleft⟩ | ⟨keyword, d, location, rfl, hopened⟩
  · exact hold above' (hsame ▸ hopen')
  · refine hold (closing :: above') ?_
    rw [hleft, hopen']
    rfl
  · cases above' with
    | nil =>
      rw [hopen', List.nil_append, List.cons.injEq] at hopened
      obtain ⟨hmark, hbelow⟩ := hopened
      refine ⟨moments, _, [], rfl, ?_⟩
      rw [hbelow, length_closings]
      exact h.importedBy hmark.symm
    | cons first above =>
      rw [hopen', List.cons_append, List.cons.injEq] at hopened
      exact hold above hopened.2.symm

theorem Run.traced (h : Run s moments s') (hs : s.Start) : s'.Consistent ∧ Traced moments s' := by
  have hstep : ∀ earlier s e s', (s.Consistent ∧ Traced earlier s) → s.Moves e s' →
      s'.Consistent ∧ Traced (earlier ++ [⟨s, e⟩]) s' :=
    fun _ _ _ _ hs hmoves => ⟨hmoves.consistent hs.1, hmoves.traced hs.1 hs.2⟩
  simpa using h.invariant_along hstep ⟨hs.consistent, hs.traced⟩

end Session

/-! ### The end of an imported file -/

namespace ImportedBy

variable {s : Session} {mark : Mark} {around : Nat} {m : Moment} {later : List Moment}

private theorem depth_lt [LinearAlgebra] (h : ImportedBy s mark around m later) :
    mark.depth + 1 ≤ s.stage.scopes.depth := by
  obtain ⟨upper, hsaved, _⟩ := h.scopes
  have hdepth : mark.depth = m.before.stage.scopes.saved.length := congrArg Mark.depth h.mark_eq
  rw [ScopeStack.depth, hsaved, List.length_append, List.length_cons]
  omega

/-- The mark of the innermost import brings back the scopes from before the import, unless something has been left
open since. -/
private theorem restore_eq [LinearAlgebra] {marks : List Mark} (h : ImportedBy s mark around m later)
    (hs : s.Consistent) (hinnermost : s.machine.marks = mark :: marks) :
    (¬ LeftOpen Moment.side later ∧ s.stage.scopes.restore mark = .ok m.before.stage.scopes) ∨
      (LeftOpen Moment.side later ∧
        ∃ fault, s.stage.scopes.restore mark = .error fault ∧ fault.kind = .unbalancedScope) := by
  obtain ⟨upper, hsaved, hunclosed⟩ := h.scopes
  have hdepth : mark.depth = m.before.stage.scopes.saved.length := congrArg Mark.depth h.mark_eq
  have hopen : OpenScopes (upper.map (·.1) ++ (.imported :: m.before.stage.scopes.kinds)) s.stage.scopes.floor
      s.stage.scopes.recording (mark :: marks) := by
    have hall : OpenScopes s.stage.scopes.kinds s.stage.scopes.floor s.stage.scopes.recording s.machine.marks := hs
    rwa [hinnermost, ScopeStack.kinds_eq_of_saved_eq hsaved] at hall
  have hupper : ScopeKind.imported ∉ upper.map (·.1) := by
    refine hopen.imported_not_mem ?_
    rw [List.length_cons, ScopeStack.length_kinds, hdepth]
    rfl
  rw [hunclosed.leftOpen_iff hupper]
  cases upper with
  | nil =>
    -- the scope of the import is the innermost one
    refine .inl ⟨by simp, ?_⟩
    have hlength : m.before.stage.scopes.kinds.length = mark.depth := by
      rw [ScopeStack.length_kinds, hdepth]
      rfl
    obtain ⟨_, hrecording, _⟩ := hopen.of_depth_eq hlength
    refine ScopeStack.restore_eq_ok.2 ⟨hrecording.symm, .imported, _, _, hsaved, hdepth.symm, ?_⟩
    have hfloor : mark.floor = m.before.stage.scopes.floor := congrArg Mark.floor h.mark_eq
    have hrecording' : mark.recording = m.before.stage.scopes.recording := congrArg Mark.recording h.mark_eq
    rw [← hrecording, hrecording', hfloor]
    rfl
  | cons entry upper =>
    refine .inr ⟨by simp, ?_⟩
    cases hrestore : s.stage.scopes.restore mark with
    | error fault =>
      refine ⟨fault, rfl, ScopeStack.kind_of_restore_eq_error hrestore ?_⟩
      rw [hsaved]
      simp
    | ok scopes =>
      obtain ⟨_, kind, state, rest, hsaved', hrest, _⟩ := ScopeStack.restore_eq_ok.1 hrestore
      rw [hsaved, List.cons_append, List.cons.injEq] at hsaved'
      have hlength := congrArg List.length hsaved'.2
      simp only [List.length_append, List.length_cons] at hlength
      omega

end ImportedBy

namespace Session

variable {s s' : Session} {moments : List Moment}

/-- At the end of an imported file its mark is handed out, and the step is the restoration. -/
theorem step_of_closed [LinearAlgebra] {frame : Frame Mark} {stream : Stream Mark} {mark : Mark}
    (h : s.stream.advance = .closed frame stream) (hmark : frame.onClose = some mark) :
    (∀ scopes, s.stage.scopes.restore mark = .ok scopes →
      ∃ t, s.step = .moved (.left frame.source (some mark)) t ∧ t.stage.scopes = scopes) ∧
    ∀ fault, s.stage.scopes.restore mark = .error fault →
      ∃ t, s.step = .failed (fault.at frame.includeLine) t := by
  have hstep : s.step = ({ s with stream } : Session).leave frame := by
    rw [step, h]
  constructor
  · intro scopes hrestore
    have hleave : s.stage.leaveImport mark = .ok { s.stage with scopes } := bind_pure_eq_ok.2 ⟨scopes, hrestore, rfl⟩
    refine ⟨{ s.log [.left frame.source] with stream, stage := { s.stage with scopes } }, ?_, rfl⟩
    rw [hstep, leave, hmark]
    dsimp only [log]
    rw [hleave]
  · intro fault hrestore
    have hleave : s.stage.leaveImport mark = .error fault := by
      rw [Stage.leaveImport, hrestore]
      rfl
    refine ⟨{ s.log [.left frame.source] with stream }, ?_⟩
    rw [hstep, leave, hmark]
    dsimp only [log]
    rw [hleave]

private theorem closed_eq_top {frame : Frame Mark} {stream : Stream Mark}
    (h : s.stream.advance = .closed frame stream) : frame = s.stream.top := by
  unfold Stream.advance at h
  split at h
  · cases h
  · cases h
  split at h
  · cases h
  · cases h
    rfl

/-- Imported files and their scopes stay in step.  In every session on the way, the entries of imports among the open
scopes are, in this order, those of the open files with a mark; each mark goes back to the import of its file and has
the number of scopes, the floor and the recorded object from before it; and the floor is right above the innermost
entry.  So a file that ends with a mark has the innermost one, and its scope is open.  If nothing has been left open
since the import, the scopes from before it come back, else this is the fault that is reported. -/
theorem imports_in_step [LinearAlgebra] (hs : s.Start) (h : Run s moments s') :
    s'.stage.scopes.importPlaces = (openMarks s'.stream.frames).reverse.map (·.depth) ∧
    s'.stage.scopes.floor = (s'.stage.scopes.importPlaces.getLast?.map (· + 1)).getD 0 ∧
    (∀ above mark below, s'.closings = above ++ some mark :: below →
      ∃ earlier m later, moments = earlier ++ m :: later ∧ ImportedBy s' mark below.length m later) ∧
    ∀ frame stream mark, s'.stream.advance = .closed frame stream → frame.onClose = some mark →
      (openMarks s'.stream.frames).head? = some mark ∧ mark.depth + 1 ≤ s'.stage.scopes.depth ∧
      ∃ earlier m later, moments = earlier ++ m :: later ∧ ImportedBy s' mark s'.stream.below.length m later ∧
        ((¬ LeftOpen Moment.side later ∧ s'.stage.scopes.restore mark = .ok m.before.stage.scopes ∧
            ∃ t, s'.step = .moved (.left frame.source (some mark)) t ∧ t.stage.scopes = m.before.stage.scopes) ∨
          (LeftOpen Moment.side later ∧ ∃ fault t, s'.stage.scopes.restore mark = .error fault ∧
            fault.kind = .unbalancedScope ∧ s'.step = .failed (fault.at frame.includeLine) t)) := by
  obtain ⟨hconsistent, htraced⟩ := h.traced hs
  have hplaces : s'.stage.scopes.importPlaces = (openMarks s'.stream.frames).reverse.map (·.depth) :=
    OpenScopes.places_eq hconsistent
  refine ⟨hplaces, ?_, htraced, ?_⟩
  · have hfloor : s'.stage.scopes.floor = ((openMarks s'.stream.frames).head?.map (·.depth + 1)).getD 0 :=
      OpenScopes.floor_eq hconsistent
    rw [hfloor, hplaces, List.getLast?_map, List.getLast?_reverse, Option.map_map]
    rfl
  intro frame stream mark hclosed hmark
  have htop : s'.stream.top.onClose = some mark := by
    rw [← closed_eq_top hclosed]
    exact hmark
  have hmarks : s'.machine.marks = mark :: openMarks s'.stream.below := by
    show openMarks s'.stream.frames = _
    rw [Stream.frames, openMarks_cons, htop]
    rfl
  have hopen : s'.closings = [] ++ some mark :: s'.stream.below.map (·.onClose) := by
    rw [closings, Stream.frames, List.map_cons, htop]
    rfl
  obtain ⟨earlier, m, later, hsplit, himported⟩ := htraced _ _ _ hopen
  rw [List.length_map] at himported
  refine ⟨congrArg List.head? hmarks, himported.depth_lt, earlier, m, later, hsplit, himported, ?_⟩
  obtain ⟨hrestored, hreported⟩ := step_of_closed hclosed hmark
  rcases himported.restore_eq hconsistent hmarks with ⟨hnothing, hrestore⟩ | ⟨hsome, fault, hrestore, hkind⟩
  · exact .inl ⟨hnothing, hrestore, hrestored _ hrestore⟩
  · obtain ⟨t, hstep⟩ := hreported fault hrestore
    exact .inr ⟨hsome, fault, t, hrestore, hkind, hstep⟩

end Session

/-! ### A file that leaves a scope open -/

namespace Session

attribute [local instance] LinearAlgebra.stepwise

/-- A library in which every file holds the begin of a scope. -/
def begins : Library :=
  { config := { one_le_maxIncludeDepth := Config.one_le_defaultDepth }
    files :=
      { workingDirectory := []
        read _ := .ok "AttributeBegin".toUTF8.toList
        resolve p := .ok (p.resolve []) } }

/-- A session in the world, in a text that is not a file. -/
def inWorld (items : List Item) : Session where
  library := begins
  stream := { top := { source := "<string>", path := none, cursor := { items, stuck := none } } }
  stage := { phase := .world, draft := { coordinateSystems := [("world", .both .identity)] } }

/-- The session in an imported file. -/
def inImport (items : List Item) (saved : List (ScopeKind × GraphicsState)) : Session where
  library := begins
  stream :=
    { top :=
        { source := "a", path := some { names := ["a"] }, includeLine := some 1, onClose := some ⟨0, 0, none⟩,
          cursor := { items, stuck := none } },
      below := [(inWorld []).stream.top] }
  stage := { (inWorld []).stage with scopes := { saved, floor := 1 } }
  journal := [.opened { names := ["a"] } "<string>" 1, .imported { names := ["a"] }]

private theorem step_worldBegin : ∃ e, (ofText begins "WorldBegin Import \"a\"".toList).step =
    .moved e (inWorld [.token ⟨.identifier "Import", 1⟩, .token ⟨.quoted "a", 1⟩]) := by
  have hcursor : Cursor.ofText "<string>" "WorldBegin Import \"a\"".toList =
      { items := [.token ⟨.identifier "WorldBegin", 1⟩, .token ⟨.identifier "Import", 1⟩, .token ⟨.quoted "a", 1⟩],
        stuck := none } := by
    cbv
  unfold ofText Stream.ofText
  rw [hcursor]
  exact ⟨_, rfl⟩

private theorem openFile_begins : (inWorld []).stream.openFile begins "a" (some 1) (some ⟨0, 0, none⟩) =
    .ok ({ names := ["a"] }, (inImport [.token ⟨.identifier "AttributeBegin", 1⟩] []).stream) := by
  have hpath : Path.ofString "a" = { names := ["a"] } := by
    cbv
  have hresolve : (inWorld []).stream.resolve begins.config "a" = { names := ["a"] } := by
    rw [Stream.resolve_eq, hpath]
    rfl
  have hsource : ({ names := ["a"] } : Path).toText = "a" := by
    cbv
  have htext : begins.files.readText begins.config { names := ["a"] } = .ok "AttributeBegin".toList := by
    cbv
  have hcursor : Cursor.ofText "a" "AttributeBegin".toList =
      { items := [.token ⟨.identifier "AttributeBegin", 1⟩], stuck := none } := by
    cbv
  rw [Stream.openFile_of_checks (some 1) (some ⟨0, 0, none⟩) hresolve (by decide) rfl htext, Stream.push, hsource,
    hcursor]
  rfl

private theorem step_importFile : ∃ e,
    (inWorld [.token ⟨.identifier "Import", 1⟩, .token ⟨.quoted "a", 1⟩]).step =
      .moved e (inImport [.token ⟨.identifier "AttributeBegin", 1⟩] [(.imported, {})]) := by
  have hcarry := carryOut_of_opening .importFile 1 (.importFile "a") rfl rfl openFile_begins
  exact ⟨_, hcarry⟩

private theorem run_leaving_open : ∃ moments, Run (ofText begins "WorldBegin Import \"a\"".toList) moments
    (inImport [] [(.attributes, {}), (.imported, {})]) := by
  obtain ⟨_, hworld⟩ := step_worldBegin
  obtain ⟨_, himport⟩ := step_importFile
  have hbegin : ∃ e, (inImport [.token ⟨.identifier "AttributeBegin", 1⟩] [(.imported, {})]).step =
      .moved e (inImport [] [(.attributes, {}), (.imported, {})]) := ⟨_, rfl⟩
  obtain ⟨_, hbegin⟩ := hbegin
  exact ⟨_, .cons hworld (.cons himport (.cons hbegin (.nil _)))⟩

/-- A file that leaves a scope open is imported. -/
theorem import_leaves_scope_open :
    ∃ (s : Session) (moments : List Moment) (s' : Session) (frame : Frame Mark) (stream : Stream Mark),
      s.Start ∧ Run s moments s' ∧ s'.stream.advance = .closed frame stream ∧ frame.onClose = some ⟨0, 0, none⟩ ∧
      s'.stage.scopes.importPlaces = [0] ∧ s'.stage.scopes.floor = 1 ∧
      ∃ (fault : Fault) (t : Session), fault.kind = .unbalancedScope ∧
        s'.step = .failed (fault.at frame.includeLine) t := by
  obtain ⟨moments, hrun⟩ := run_leaving_open
  have hstart : Start (ofText begins "WorldBegin Import \"a\"".toList) := .text _ _
  obtain ⟨hplaces, hfloor, _, hcloses⟩ := imports_in_step hstart hrun
  obtain ⟨_, _, _, m, later, _, _, hend⟩ := hcloses _ _ _ rfl rfl
  refine ⟨_, moments, _, _, _, hstart, hrun, rfl, rfl, hplaces, ?_, ?_⟩
  · rw [hfloor, hplaces]
    rfl
  · rcases hend with ⟨_, hrestore, _⟩ | ⟨_, fault, t, _, hkind, hstep⟩
    · cases hrestore
    · exact ⟨fault, t, hkind, hstep⟩

end Session

end SceneDescription
