import SceneDescription.Proofs.Files.Paths
import SceneDescription.Proofs.Sessions.Failures
import SceneDescription.Proofs.Sessions.Termination
import SceneDescription.Proofs.Tokens.Places
import SceneDescription.Transform.Elimination

/-!
# Where errors are reported

An error of a scene file names the innermost open file, a line of that file, and the files around it.  All open texts
of such a session are files, and a cursor stands behind tokens of its file (`Frame.ReadFrom`); each of them is open
because of a directive in the file around it (`Frame.OpenedFrom`).  Different open files have different names, so the
rule that keeps the file of the report out of the including ones takes away just that one
(`parseFile_error_located`).
-/

namespace SceneDescription

/-! ### Lines of files -/

/-- A line on which a lexeme in front of the cursor starts: a token, or one that cannot be read. -/
def Cursor.HasLine (c : Cursor) (line : Nat) : Prop :=
  (∃ t, Item.token t ∈ c.items ∧ t.line = line) ∨
    ∃ r, (Item.malformed r ∈ c.items ∨ c.stuck = some r) ∧ r.line = some line

/-- A line of a file on which a lexeme starts. -/
def Library.HasLine (library : Library) (path : Path) (line : Nat) : Prop :=
  ∃ text, library.files.readText library.config path = .ok text ∧ (Cursor.ofText path.toText text).HasLine line

/-- The last tokens are a directive that opens a file, on this line. -/
def EndsOpening (tokens : List Token) (line : Nat) : Prop :=
  ∃ earlier opening operand, tokens = earlier ++ [opening, operand] ∧
    (opening.lexeme = .identifier "Include" ∨ opening.lexeme = .identifier "Import") ∧ opening.line = line

/-- The line of the last token, or of the directive before it if that one opens a file. -/
def EndsOn (tokens : List Token) (line : Nat) : Prop :=
  tokens.getLast?.map (·.line) = some line ∨ EndsOpening tokens line

/-! ### Open files -/

section Frames

variable {κ : Type} {library : Library} {frame frame' : Frame κ} {path : Path} {taken : List Token}

/-- The text is a file, and its cursor stands behind the given tokens. -/
structure Frame.ReadFrom (frame : Frame κ) (library : Library) (path : Path) (taken : List Token) : Prop where
  isFile : frame.path = some path
  wellFormed : path.WellFormed
  named : frame.source = path.toText
  behind : ∃ text, library.files.readText library.config path = .ok text ∧
    (Cursor.ofText path.toText text).items = taken.map .token ++ frame.cursor.items ∧
    (Cursor.ofText path.toText text).stuck = frame.cursor.stuck

/-- The text has been opened by the last directive that was read in the file around it. -/
def Frame.OpenedFrom (library : Library) (inner outer : Frame κ) : Prop :=
  ∃ path taken line, outer.ReadFrom library path taken ∧ EndsOpening taken line ∧ inner.includeLine = some line

/-- What matters of the cursor is what is still to come. -/
private theorem Frame.ReadFrom.congr (h : frame.ReadFrom library path taken) (hpath : frame'.path = frame.path)
    (hsource : frame'.source = frame.source) (hitems : frame'.cursor.items = frame.cursor.items)
    (hstuck : frame'.cursor.stuck = frame.cursor.stuck) : frame'.ReadFrom library path taken where
  isFile := hpath.trans h.isFile
  wellFormed := h.wellFormed
  named := hsource.trans h.named
  behind := by
    obtain ⟨text, hread, hall, hend⟩ := h.behind
    exact ⟨text, hread, by rw [hall, hitems], by rw [hend, hstuck]⟩

private theorem Frame.ReadFrom.advance (h : frame.ReadFrom library path taken) {c : Cursor} {more : List Token}
    (hitems : frame.cursor.items = more.map .token ++ c.items) (hstuck : c.stuck = frame.cursor.stuck) :
    ({ frame with cursor := c } : Frame κ).ReadFrom library path (taken ++ more) where
  isFile := h.isFile
  wellFormed := h.wellFormed
  named := h.named
  behind := by
    obtain ⟨text, hread, hall, hend⟩ := h.behind
    refine ⟨text, hread, ?_, hend.trans hstuck.symm⟩
    rw [hall, hitems, List.map_append, List.append_assoc]

/-- A line of a token that has been read is a line of the file, and not the number zero. -/
private theorem Frame.ReadFrom.hasLine_of_taken (h : frame.ReadFrom library path taken) {t : Token} (ht : t ∈ taken) :
    library.HasLine path t.line ∧ 0 < t.line := by
  obtain ⟨text, hread, hall, _⟩ := h.behind
  have hmem : Item.token t ∈ (Cursor.ofText path.toText text).items := by
    rw [hall]
    exact List.mem_append_left _ (List.mem_map_of_mem ht)
  exact ⟨⟨text, hread, .inl ⟨t, hmem, rfl⟩⟩, (Cursor.placed_ofText path.toText text).1 _ hmem⟩

private theorem Frame.ReadFrom.hasLine_of_endsOn (h : frame.ReadFrom library path taken) {line : Nat}
    (hends : EndsOn taken line) : library.HasLine path line := by
  rcases hends with hlast | ⟨earlier, opening, operand, rfl, _, rfl⟩
  · obtain ⟨t, ht, rfl⟩ := Option.map_eq_some_iff.1 hlast
    exact (h.hasLine_of_taken (List.mem_of_getLast? ht)).1
  · exact (h.hasLine_of_taken (t := opening) (by simp)).1

/-- What is reported of the tokens to come has a line of the file, and no other source than the file. -/
private theorem Frame.ReadFrom.reported (h : frame.ReadFrom library path taken) {r : Report Fault}
    (hr : frame.cursor.Reports (fun _ => False) r) :
    (r.source = none ∨ r.source = some path.toText) ∧ r.chain = [] ∧
      ∀ line, r.line = some line → library.HasLine path line := by
  obtain ⟨text, hread, hall, hend⟩ := h.behind
  have hsubset : frame.cursor.items ⊆ (Cursor.ofText path.toText text).items := by
    rw [hall]
    exact List.subset_append_right _ _
  obtain ⟨hitems, hstuck⟩ := Cursor.placed_ofText path.toText text
  cases hr with
  | malformed hmem =>
    have hplaced : r.PlacedIn path.toText := hitems _ (hsubset hmem)
    exact ⟨.inr hplaced.1, hplaced.2.1, fun line hline => ⟨text, hread, .inr ⟨r, .inl (hsubset hmem), hline⟩⟩⟩
  | stuck hr =>
    rw [← hend] at hr
    have hplaced := hstuck r hr
    exact ⟨.inr hplaced.1, hplaced.2.1, fun line hline => ⟨text, hread, .inr ⟨r, .inr hr, hline⟩⟩⟩
  | unplaced hline =>
    refine ⟨.inl rfl, rfl, fun line heq => ?_⟩
    rcases hline line heq with hfalse | ⟨t, ht, rfl⟩
    · exact hfalse.elim
    · exact ⟨text, hread, .inl ⟨t, hsubset ht, rfl⟩⟩

end Frames

namespace Session

variable {s s' : Session} {event : Event} {moments : List Moment} {root : Path}

/-- All open texts are files, opened from one another, and the stream knows the line it stands on. -/
structure Anchored (s : Session) (root : Path) : Prop where
  frames : ∀ frame ∈ s.stream.frames, ∃ path taken, frame.ReadFrom s.library path taken
  opened : s.stream.frames.IsChain (Frame.OpenedFrom s.library)
  lastLine : ∃ path taken, s.stream.top.ReadFrom s.library path taken ∧
    ((taken = [] ∧ (s.stream.below = [] → s.stage = {})) ∨ EndsOn taken s.stream.lastLine)
  root : (s.stream.frames.map (·.path)).getLast? = some (some root)

theorem anchored_ofFile {library : Library} {name : String} (h : ofFile library (.ofString name) = .ok s) :
    s.Anchored (.ofString name) := by
  obtain ⟨stream, hstream, rfl⟩ := bind_pure_eq_ok.1 h
  obtain ⟨text, htext, rfl⟩ := Stream.ofFile_eq_ok hstream
  let top : Frame Mark :=
    { source := (Path.ofString name).toText, path := some (Path.ofString name),
      cursor := .ofText (Path.ofString name).toText text }
  have hroot : top.ReadFrom library (Path.ofString name) [] :=
    ⟨rfl, Path.wellFormed_ofString name, rfl, text, htext, rfl, rfl⟩
  refine ⟨?_, .singleton _, ⟨_, [], hroot, .inl ⟨rfl, fun _ => rfl⟩⟩, rfl⟩
  intro frame hframe
  rw [List.mem_singleton.1 hframe]
  exact ⟨_, [], hroot⟩

/-- The operand of a directive that opens a file is one token. -/
theorem Performs.exists_operand [LinearAlgebra] {t : Token} {c₁ c₂ : Cursor} {keyword : Keyword} {d : Directive}
    {relative : String} (h : s.Performs t c₁ c₂ keyword d s') (hopens : d.opens? = some relative) :
    (t.lexeme = .identifier "Include" ∨ t.lexeme = .identifier "Import") ∧
      ∃ operand, c₁.items = .token operand :: c₂.items := by
  obtain ⟨name, hlexeme, hname⟩ := h.named
  obtain ⟨hword, hoperand⟩ := readDirective_opens hname h.read hopens
  rw [hlexeme]
  exact ⟨hword.imp (congrArg _) (congrArg _), hoperand⟩

/-- The cursor behind a directive has taken its tokens, and stands on the line of the last one. -/
theorem Performs.exists_taken [LinearAlgebra] {t : Token} {c₁ c₂ : Cursor} {keyword : Keyword} {d : Directive}
    (h : s.Performs t c₁ c₂ keyword d s') :
    ∃ more : List Token, s.stream.top.cursor.items = more.map .token ++ c₂.items ∧
      c₂.stuck = s.stream.top.cursor.stuck ∧ more.getLast?.map (·.line) = some c₂.lastLine := by
  have hread := (traced_readDirective ⟨keyword, t.line⟩).advances h.read
  obtain ⟨more, hitems, hstuck, hline⟩ := (Read.advances_take h.take).trans hread
  refine ⟨more, hitems, hstuck, ?_⟩
  have hlt := h.items_lt
  rw [hitems] at hlt
  cases hlast : more.getLast? with
  | none =>
    rw [List.getLast?_eq_none_iff.1 hlast] at hlt
    exact absurd hlt (Nat.lt_irrefl _)
  | some last =>
    rw [hline, lineBehind, hlast]
    rfl

/-- Only the directive that has opened a text counts for its place in the chain. -/
private theorem isChain_of_includeLine {κ : Type} {library : Library} {frame frame' : Frame κ}
    {below : List (Frame κ)} (hline : frame'.includeLine = frame.includeLine)
    (h : (frame :: below).IsChain (Frame.OpenedFrom library)) :
    (frame' :: below).IsChain (Frame.OpenedFrom library) := by
  cases below with
  | nil => exact .singleton _
  | cons outer below =>
    obtain ⟨⟨path, taken, line, hread, hends, hinclude⟩, hrest⟩ := List.isChain_cons_cons.1 h
    exact List.isChain_cons_cons.2 ⟨⟨path, taken, line, hread, hends, hline.trans hinclude⟩, hrest⟩

private theorem Leaves.anchored {outer : Frame Mark} {below : List (Frame Mark)} (h : s.Leaves outer below s')
    (hs : s.Anchored root) : s'.Anchored root := by
  have hall : s.stream.frames = s.stream.top :: outer :: below := by rw [Stream.frames, h.around]
  have hopened := hs.opened
  rw [hall] at hopened
  obtain ⟨⟨path, taken, line, hread, hends, hinclude⟩, hrest⟩ := List.isChain_cons_cons.1 hopened
  obtain ⟨n, rfl⟩ : ∃ n, line = n + 1 := by
    obtain ⟨earlier, opening, operand, rfl, _, rfl⟩ := hends
    have hpos := (hread.hasLine_of_taken (t := opening) (by simp)).2
    exact ⟨opening.line - 1, by omega⟩
  have htop : s'.stream.top = { outer with cursor := { outer.cursor with lastLine := n + 1 } } := by
    rw [h.stream, Stream.backTo, hinclude]
    rfl
  have hbelow : s'.stream.below = below := by
    rw [h.stream]
    rfl
  have hread' : s'.stream.top.ReadFrom s.library path taken := by
    rw [htop]
    exact hread.congr rfl rfl rfl rfl
  refine ⟨?_, ?_, ⟨path, taken, h.library ▸ hread', .inr (.inr ?_)⟩, ?_⟩
  · intro frame hframe
    rw [h.library]
    rw [Stream.frames, hbelow] at hframe
    rcases List.mem_cons.1 hframe with rfl | hframe
    · exact ⟨path, taken, hread'⟩
    · refine hs.frames frame ?_
      rw [hall]
      exact List.mem_cons_of_mem _ (List.mem_cons_of_mem _ hframe)
  · rw [h.library, Stream.frames, hbelow]
    exact isChain_of_includeLine (by rw [htop]) hrest
  · rw [Stream.lastLine, htop]
    exact hends
  · have hroot := hs.root
    rw [hall, List.map_cons, List.map_cons, List.getLast?_cons_cons] at hroot
    rw [Stream.frames, hbelow, htop]
    exact hroot

/-- The frame of the innermost text behind a directive. -/
theorem Performs.readFrom [LinearAlgebra] {t : Token} {c₁ c₂ : Cursor} {keyword : Keyword} {d : Directive}
    (h : s.Performs t c₁ c₂ keyword d s') (hs : s.Anchored root) :
    (∀ frame ∈ (s.stream.withCursor c₂).frames, ∃ path taken, frame.ReadFrom s.library path taken) ∧
      ∃ path taken, (s.stream.withCursor c₂).top.ReadFrom s.library path taken ∧ EndsOn taken c₂.lastLine ∧
        (d.opens?.isSome → EndsOpening taken t.line) := by
  obtain ⟨path, taken, hread, _⟩ := hs.lastLine
  obtain ⟨more, hitems, hstuck, hline⟩ := h.exists_taken
  have hread' := hread.advance hitems hstuck
  refine ⟨?_, path, taken ++ more, hread', .inl ?_, ?_⟩
  · intro frame hframe
    rcases List.mem_cons.1 hframe with rfl | hframe
    · exact ⟨path, taken ++ more, hread'⟩
    · exact hs.frames frame (List.mem_cons_of_mem _ hframe)
  · cases hlast : more.getLast? with
    | none =>
      rw [hlast] at hline
      cases hline
    | some last =>
      rw [List.getLast?_append, hlast]
      rw [hlast] at hline
      exact hline
  · intro hopens
    obtain ⟨relative, hrelative⟩ := Option.isSome_iff_exists.1 hopens
    obtain ⟨hword, operand, hoperand⟩ := h.exists_operand hrelative
    have hsame : more.map Item.token ++ c₂.items = [t, operand].map Item.token ++ c₂.items := by
      rw [← hitems, (Read.take_some h.take).1, hoperand]
      rfl
    exact ⟨taken, t, operand, by rw [taken_unique hsame], hword, rfl⟩

private theorem Performs.anchored [LinearAlgebra] {t : Token} {c₁ c₂ : Cursor} {keyword : Keyword} {d : Directive}
    (h : s.Performs t c₁ c₂ keyword d s') (hs : s.Anchored root) : s'.Anchored root := by
  obtain ⟨hframes, path, taken, hread, hends, hopening⟩ := h.readFrom hs
  have hopened : (s.stream.withCursor c₂).frames.IsChain (Frame.OpenedFrom s.library) := by
    have hline : (s.stream.withCursor c₂).top.includeLine = s.stream.top.includeLine := rfl
    exact isChain_of_includeLine hline hs.opened
  rcases h.stream with ⟨_, hstream⟩ | ⟨relative, path', hopens, hopen⟩
  · refine ⟨?_, ?_, ⟨path, taken, ?_, .inr ?_⟩, ?_⟩
    · rw [hstream, h.library]
      exact hframes
    · rw [hstream, h.library]
      exact hopened
    · rw [hstream, h.library]
      exact hread
    · rw [hstream]
      exact hends
    · rw [hstream]
      exact hs.root
  · obtain ⟨hpath', text, htext, hstream⟩ := Stream.openFile_eq_ok hopen
    have hwf : path'.WellFormed := by
      have hdirectory : (s.stream.withCursor c₂).baseDirectory s.library.config = path.parent := by
        simp [Stream.baseDirectory_eq, Stream.frames, hread.isFile]
      rw [hpath', Stream.resolve_eq, hdirectory]
      exact hread.wellFormed.parent.join (Path.wellFormed_ofString relative)
    have hnew : s'.stream.top.ReadFrom s.library path' [] := by
      rw [hstream]
      exact ⟨rfl, hwf, rfl, text, htext, rfl, rfl⟩
    have hbelow : s'.stream.below = (s.stream.withCursor c₂).frames := by rw [hstream]
    refine ⟨?_, ?_, ⟨path', [], ?_, .inl ⟨rfl, ?_⟩⟩, ?_⟩
    · intro frame hframe
      rw [h.library]
      rw [Stream.frames, hbelow] at hframe
      rcases List.mem_cons.1 hframe with rfl | hframe
      · exact ⟨path', [], hnew⟩
      · exact hframes frame hframe
    · rw [h.library, Stream.frames, hbelow]
      refine List.isChain_cons_cons.2 ⟨⟨path, taken, t.line, hread, hopening (by simp [hopens]), ?_⟩, hopened⟩
      rw [hstream]
    · rw [h.library]
      exact hnew
    · rw [hbelow]
      rintro ⟨⟩
    · have hroot := hs.root
      rw [Stream.frames, hbelow, Stream.frames, List.map_cons, List.map_cons, List.getLast?_cons_cons]
      exact hroot

theorem Run.anchored [LinearAlgebra] (h : Run s moments s') (hs : s.Anchored root) : s'.Anchored root := by
  refine h.invariant (P := fun s => s.Anchored root) (fun s e s' hs hmoves => ?_) hs
  cases hmoves with
  | performs h => exact h.anchored hs
  | leaves h => exact h.anchored hs

/-! ### Reports of a session that fails -/

/-- A report that is placed in the innermost text of a stream: it has no including files yet, or, if a file could not
be opened, those of that file. -/
structure Settles (library : Library) (stream : Stream Mark) (r : Report Fault) : Prop where
  places : ((r.source = none ∨ r.source = some stream.source) ∧ r.chain = []) ∨
    (r.source = some stream.source ∧ r.chain = stream.chain ++ [stream.source])
  line : ∀ line, r.line = some line → ∃ path, stream.top.path = some path ∧ library.HasLine path line

/-- The innermost file and the one around it have different names. -/
def NamesApart (stream : Stream Mark) : Prop :=
  stream.below.head?.map (·.source) ≠ some stream.source

private theorem Settles.source_locate {library : Library} {stream : Stream Mark} {r : Report Fault}
    (h : Settles library stream r) : (r.locate stream.source stream.chain).source = some stream.source := by
  rcases h.places with ⟨hnone | hsource, _⟩ | ⟨hsource, _⟩
  · simp [Report.locate, hnone]
  · simp [Report.locate, hsource]
  · simp [Report.locate, hsource]

private theorem Settles.including_locate {library : Library} {stream : Stream Mark} {r : Report Fault}
    (h : Settles library stream r) (hapart : NamesApart stream) :
    (r.locate stream.source stream.chain).including = stream.below.map (·.source) := by
  have hsource := h.source_locate
  have hlast : stream.chain.getLast? = stream.below.head?.map (·.source) := by
    rw [Stream.chain, List.getLast?_reverse, List.head?_map]
  have hreverse : stream.chain.reverse = stream.below.map (·.source) := by
    rw [Stream.chain, List.reverse_reverse]
  unfold Report.including
  rw [hsource]
  rcases h.places with ⟨hplace, hchain⟩ | ⟨_, hchain⟩
  · have hfilled : (r.locate stream.source stream.chain).chain = stream.chain := by
      rcases hplace with hnone | hsome
      · simp [Report.locate, hnone, hchain]
      · simp [Report.locate, hsome, hchain]
    rw [hfilled, hlast, if_neg hapart, hreverse]
  · have hkept : (r.locate stream.source stream.chain).chain = stream.chain ++ [stream.source] := by
      simp [Report.locate, hchain]
    rw [hkept, List.getLast?_append]
    simp [hreverse]

/-- An open file, with the name that its path has. -/
def Named (frame : Frame Mark) : Prop :=
  ∃ path, frame.path = some path ∧ path.WellFormed ∧ frame.source = path.toText

private theorem Anchored.named (hs : s.Anchored root) : ∀ frame ∈ s.stream.frames, Named frame := by
  intro frame hframe
  obtain ⟨path, taken, hread⟩ := hs.frames frame hframe
  exact ⟨path, hread.isFile, hread.wellFormed, hread.named⟩

/-- What is known of the innermost text does not depend on its cursor. -/
private theorem named_of_cons {frame frame' : Frame Mark} {below : List (Frame Mark)}
    (hnamed : ∀ f ∈ frame :: below, Named f) (hpath : frame'.path = frame.path)
    (hsource : frame'.source = frame.source) : ∀ f ∈ frame' :: below, Named f := by
  intro f hf
  rcases List.mem_cons.1 hf with rfl | hf
  · obtain ⟨path, hfile, hwf, hname⟩ := hnamed frame (List.mem_cons_self ..)
    exact ⟨path, hpath.trans hfile, hwf, hsource.trans hname⟩
  · exact hnamed f (List.mem_cons_of_mem _ hf)

/-- Two open files with one name would be the same file, and no file is open twice. -/
theorem namesApart_of_named (hnamed : ∀ frame ∈ s.stream.frames, Named frame) (hlimits : s.WithinLimits) :
    NamesApart s.stream := by
  intro hsame
  obtain ⟨outer, houter, hsource⟩ := Option.map_eq_some_iff.1 hsame
  obtain ⟨below, hbelow⟩ := List.head?_eq_some_iff.1 houter
  obtain ⟨p, hp, hpwf, hptext⟩ := hnamed s.stream.top (List.mem_cons_self ..)
  obtain ⟨q, hq, hqwf, hqtext⟩ := hnamed outer (by simp [Stream.frames, hbelow])
  have hpaths : p = q := by
    refine hpwf.toText_inj hqwf ?_
    rw [← hptext, ← hqtext, hsource]
    rfl
  have hdistinct := hlimits.distinct
  rw [filePaths, Stream.frames, hbelow, List.filterMap_cons_some hp, List.filterMap_cons_some hq] at hdistinct
  exact (List.rel_of_pairwise_cons hdistinct (List.mem_cons_self ..)).ne hpaths

/-- A report of what comes next in the innermost text is settled there. -/
private theorem Anchored.settles_of_reports (hs : s.Anchored root) {r : Report Fault}
    (hr : s.stream.top.cursor.Reports (fun _ => False) r) (c : Cursor) :
    Settles s.library (s.stream.withCursor c) r := by
  obtain ⟨path, taken, hread, _⟩ := hs.lastLine
  obtain ⟨hsource, hchain, hline⟩ := hread.reported hr
  have hname : (s.stream.withCursor c).source = path.toText := hread.named
  refine ⟨.inl ⟨?_, hchain⟩, fun line heq => ⟨path, hread.isFile, hline line heq⟩⟩
  rw [hname]
  exact hsource

/-- A fault on the line of the keyword is settled in its text. -/
private theorem reports_of_take {token : Token} {c c₁ : Cursor} (htake : Read.take c = .ok (some token) c₁)
    (f : Fault) : c.Reports (fun _ => False) (f.at token.line) :=
  .unplaced fun _ hn => .inr ⟨token, Read.mem_of_take htake, Option.some.inj hn⟩

private theorem Fails.settles [LinearAlgebra] {t : Session} {r : Report Fault} (h : s.Fails t r)
    (hs : s.Anchored root) : Settles s.library t.stream r ∧ ∀ frame ∈ t.stream.frames, Named frame := by
  have hnamed : ∀ c, ∀ frame ∈ (s.stream.withCursor c).frames, Named frame :=
    fun c => named_of_cons hs.named rfl rfl
  cases h with
  | scan htake hstream =>
    rw [hstream]
    exact ⟨hs.settles_of_reports (Read.traced_take.reports htake) _, hnamed _⟩
  | heading htake _ hstream =>
    rw [hstream]
    exact ⟨hs.settles_of_reports (reports_of_take htake _) _, hnamed _⟩
  | @operands token c₁ c₂ keyword r hbegins hread hstream =>
    rw [hstream]
    have htake := hbegins.take
    have hbehind : c₁.Reports (fun n => False ∨ n = token.line) r :=
      ((traced_readDirective ⟨keyword, token.line⟩).reports hread).mono fun n hn => .inr hn
    have hr := (hbehind.of_advances (Read.advances_take htake)).of_token (Read.mem_of_take htake)
    exact ⟨hs.settles_of_reports hr _, hnamed _⟩
  | execution hbegins _ _ hstream =>
    rw [hstream]
    exact ⟨hs.settles_of_reports (reports_of_take hbegins.take _) _, hnamed _⟩
  | @opening token c₁ c₂ keyword d relative r hbegins _ _ hopen hstream =>
    obtain ⟨f, rfl⟩ := Stream.openFile_eq_error hopen
    -- the line is that of the keyword
    have hline := (hs.settles_of_reports (reports_of_take hbegins.take f) c₂).line
    rw [← hstream] at hline
    exact ⟨⟨.inr ⟨rfl, rfl⟩, hline⟩, hstream ▸ hnamed c₂⟩
  | @importEnd _ outer below _ _ _ haround _ _ hstream =>
    have hall : s.stream.frames = s.stream.top :: outer :: below := by rw [Stream.frames, haround]
    have hopened := hs.opened
    rw [hall] at hopened
    obtain ⟨⟨path, taken, line, hread, hends, hinclude⟩, _⟩ := List.isChain_cons_cons.1 hopened
    rw [hstream]
    refine ⟨⟨.inl ⟨.inl rfl, rfl⟩, fun n hn => ⟨path, hread.isFile, ?_⟩⟩, ?_⟩
    · have hsame : n = line := Option.some.inj (hn.symm.trans hinclude)
      rw [hsame]
      exact hread.hasLine_of_endsOn (.inr hends)
    · have houter : ∀ f ∈ outer :: below, Named f := by
        intro f hf
        refine hs.named f ?_
        rw [hall]
        exact List.mem_cons_of_mem _ hf
      exact named_of_cons houter rfl rfl
  | inputEnd _ hbelow hbalanced hstream =>
    rw [hstream]
    refine ⟨⟨.inl ⟨.inl rfl, rfl⟩, fun n hn => ?_⟩, hs.named⟩
    obtain ⟨path, taken, hread, ⟨_, hinitial⟩ | hends⟩ := hs.lastLine
    · -- nothing has been read, so no scope is open
      rw [hinitial hbelow] at hbalanced
      cases hbalanced
    · cases hn
      exact ⟨path, hread.isFile, hread.hasLine_of_endsOn hends⟩

/-- The file in which a step fails: the innermost one, or the importing one when an imported file ends with a scope
open in it. -/
private theorem Fails.files [LinearAlgebra] {t : Session} {r : Report Fault} (h : s.Fails t r) :
    t.files = s.files ∨ ∃ file mark, s.files = file :: t.files ∧ file.2 = some mark ∧
      (∃ c, Read.take s.stream.top.cursor = .ok none c) ∧ s.stage.leaveImport mark = .error r.cause := by
  cases h with
  | scan _ hstream | heading _ _ hstream | operands _ _ hstream | execution _ _ _ hstream
  | opening _ _ _ _ hstream | inputEnd _ _ _ hstream =>
    refine .inl ?_
    rw [Session.files, hstream]
    rfl
  | importEnd htake haround hclose hleave hstream =>
    refine .inr ⟨(s.stream.top.path, s.stream.top.onClose), _, ?_, hclose, ⟨_, htake⟩, hleave⟩
    rw [Session.files, Session.files, Stream.frames, haround, hstream]
    rfl

/-- At the end of the input, the line is that of the last token of the root, or of the directive before it if that
one opens a file. -/
private theorem Fails.line_of_end [LinearAlgebra] {t : Session} {r : Report Fault} {c : Cursor} (h : s.Fails t r)
    (hs : s.Anchored root) (hbelow : s.stream.below = []) (htake : Read.take s.stream.top.cursor = .ok none c) :
    t.stream.top.path = some root ∧ ∃ tokens line, s.library.tokens? root = some tokens ∧
      r.line = some line ∧ EndsOn tokens line := by
  cases h with
  | scan htake' _ | heading htake' _ _ =>
    rw [htake] at htake'
    cases htake'
  | operands hbegins _ _ | execution hbegins _ _ _ | opening hbegins _ _ _ _ =>
    cases htake.symm.trans hbegins.take
  | importEnd _ haround _ _ _ =>
    rw [hbelow] at haround
    cases haround
  | inputEnd _ _ hbalanced hstream =>
    obtain ⟨path, taken, hread, ⟨_, hinitial⟩ | hends⟩ := hs.lastLine
    · rw [hinitial hbelow] at hbalanced
      cases hbalanced
    · have hroot : path = root := by
        have hpaths := hs.root
        rw [Stream.frames, hbelow] at hpaths
        simpa [hread.isFile] using hpaths
      subst hroot
      refine ⟨hstream ▸ hread.isFile, taken, s.stream.lastLine, ?_, rfl, hends⟩
      obtain ⟨text, htext, hitems, hstuck⟩ := hread.behind
      obtain ⟨hnil, hnone⟩ := Read.over_of_take_none htake
      refine Library.tokens?_eq_some htext ⟨?_, hstuck.trans hnone⟩
      rw [hitems, hnil]
      exact List.append_nil _

end Session

private theorem Report.render_of_source {r : Report Fault} {source : String} (hsource : r.source = some source)
    (hne : source ≠ "") (wording : Fault → String) :
    r.render wording = source ++ (r.line.elim "" fun line => ":" ++ Nat.repr line) ++ ": " ++ wording r.cause ++
      String.join (r.including.map ("\n  included from " ++ ·)) := by
  unfold render
  rw [hsource]
  cases r.line with
  | none => simp
  | some line => simp [String.append_assoc]

/-- An error of a scene file that could be opened names the innermost open file; its line, if it has one, is a line
of that file on which a lexeme starts; and it is rendered with one further line for each file around that one,
innermost first. -/
theorem parseFile_error_located [LinearAlgebra] {library : Library} {name : String} {s : Session}
    {report : Report Fault} (hs : Session.ofFile library (.ofString name) = .ok s)
    (h : parseFile library (.ofString name) = .error report) :
    ∃ moments last r t, Session.Run s moments last ∧ last.step = .failed r t ∧ report.cause = r.cause ∧
      (t.files = last.files ∨ ∃ file mark, last.files = file :: t.files ∧ file.2 = some mark ∧
        (∃ c, Read.take last.stream.top.cursor = .ok none c) ∧ last.stage.leaveImport mark = .error r.cause) ∧
      (∀ frame ∈ t.stream.frames, ∃ path, frame.path = some path ∧ frame.source = path.toText) ∧
      report.source = some t.stream.source ∧
      (∀ line, report.line = some line → ∃ path, t.stream.top.path = some path ∧ library.HasLine path line) ∧
      (last.stream.below = [] → (∃ c, Read.take last.stream.top.cursor = .ok none c) →
        t.stream.top.path = some (.ofString name) ∧ ∃ tokens line, library.tokens? (.ofString name) = some tokens ∧
          report.line = some line ∧ EndsOn tokens line) ∧
      report.render Fault.message =
        t.stream.source ++ (report.line.elim "" fun line => ":" ++ Nat.repr line) ++ ": " ++
          report.cause.message ++
          String.join (t.stream.below.map fun frame => "\n  included from " ++ frame.source) := by
  have hparse : s.finish.result = .error report := by
    rw [parseFile, hs] at h
    exact h
  obtain ⟨moments, last, hrun, ⟨_, hfinish⟩ | ⟨r, t, hstep, hfinish⟩⟩ := s.exists_run_to_end
  · rw [hfinish] at hparse
    cases hparse
  rw [hfinish] at hparse
  cases hparse
  have hlibrary : s.library = library := by
    obtain ⟨stream, _, rfl⟩ := bind_pure_eq_ok.1 hs
    rfl
  have hanchored := hrun.anchored (Session.anchored_ofFile hs)
  have hfails := Session.fails_of_step hstep
  obtain ⟨hsettles, hnamed⟩ := hfails.settles hanchored
  have hlimits : t.WithinLimits := by
    obtain ⟨hsame, hfiles⟩ := Session.files_of_failed hstep
    exact (hrun.withinLimits (Session.Start.file hs).withinLimits).of_files hsame hfiles
  have hapart := Session.namesApart_of_named hnamed hlimits
  have hsource := hsettles.source_locate
  rw [hrun.library, hlibrary] at hsettles
  refine ⟨moments, last, r, t, hrun, hstep, rfl, hfails.files, ?_, hsource, hsettles.line, ?_, ?_⟩
  · intro frame hframe
    obtain ⟨path, hfile, _, hname⟩ := hnamed frame hframe
    exact ⟨path, hfile, hname⟩
  · rintro hbelow ⟨c, htake⟩
    obtain ⟨hroot, tokens, line, htokens, hline⟩ := hfails.line_of_end hanchored hbelow htake
    rw [hrun.library, hlibrary] at htokens
    exact ⟨hroot, tokens, line, htokens, hline⟩
  · obtain ⟨path, _, hwf, hname⟩ := hnamed t.stream.top (List.mem_cons_self ..)
    have hne : t.stream.source ≠ "" := by
      rw [Stream.source, hname]
      exact hwf.toText_ne_empty
    rw [Report.render_of_source hsource hne, hsettles.including_locate hapart, List.map_map]
    rfl

/-! ### An error in an included file -/

namespace ClosedInInclude

attribute [local instance] LinearAlgebra.stepwise

/-- A library with a file that includes another one, in which a scope is closed that was never opened. -/
def library : Library :=
  ⟨{ one_le_maxIncludeDepth := Config.one_le_defaultDepth },
    (FileTree.directory [("a", .file "Include \"b\"".toUTF8.toList),
      ("b", .file "\nAttributeEnd".toUTF8.toList)]).fileSystem []⟩

def including : List Token :=
  [⟨.identifier "Include", 1⟩, ⟨.quoted "b", 1⟩]

def ending : List Token :=
  [⟨.identifier "AttributeEnd", 2⟩]

/-- The session at the start of the file that includes the other one. -/
def root : Session where
  library := ClosedInInclude.library
  stream.top :=
    { source := "a", path := some { names := ["a"] },
      cursor := { items := including.map .token, stuck := none } }

/-- The session at the start of the included file. -/
def inner : Session where
  library := ClosedInInclude.library
  stream :=
    { top :=
        { source := "b", path := some { names := ["b"] }, includeLine := some 1,
          cursor := { items := ending.map .token, stuck := none } },
      below := [{ root.stream.top with cursor := { items := [], stuck := none } }] }
  journal := [.opened { names := ["b"] } "a" 1, .included { names := ["b"] }]

private theorem ofFile_root : Session.ofFile library (.ofString "a") = .ok root := by
  have hpath : Path.ofString "a" = { names := ["a"] } := by cbv
  have htext : ({ names := ["a"] } : Path).toText = "a" := by cbv
  have hread : library.files.readText library.config { names := ["a"] } =
      .ok "Include \"b\"".toList := by cbv
  have hcursor : Cursor.ofText "a" "Include \"b\"".toList =
      { items := including.map .token, stuck := none } := by cbv
  rw [hpath, Session.ofFile, Stream.ofFile, hread, htext]
  dsimp only
  rw [hcursor]
  rfl

private theorem openFile_inner :
    (root.stream.withCursor { items := [], stuck := none }).openFile library "b" (some 1) none =
      .ok ({ names := ["b"] }, inner.stream) := by
  have hpath : Path.ofString "b" = { names := ["b"] } := by cbv
  have htext : ({ names := ["b"] } : Path).toText = "b" := by cbv
  have hread : library.files.readText library.config { names := ["b"] } =
      .ok "\nAttributeEnd".toList := by cbv
  have hcursor : Cursor.ofText "b" "\nAttributeEnd".toList =
      { items := ending.map .token, stuck := none } := by cbv
  have hresolve : (root.stream.withCursor { items := [], stuck := none }).resolve library.config "b" =
      { names := ["b"] } := by
    rw [Stream.resolve_eq, hpath]
    rfl
  have hplaces : library.files.LeadApart { names := ["a"] } { names := ["b"] } :=
    ⟨["a"], ["b"], by cbv, by cbv, by decide⟩
  have hapart : (root.stream.withCursor { items := [], stuck := none }).isOpen library.files { names := ["b"] } =
      .ok false := by
    refine OpenPaths.isOpen_eq_false.2 fun other hother => ?_
    obtain rfl := Option.some.inj (List.mem_singleton.1 hother)
    exact hplaces
  rw [Stream.openFile_of_checks (some 1) none hresolve (by decide) hapart hread, Stream.push, htext, hcursor]
  rfl

private theorem step_root : ∃ e, root.step = .moved e inner := by
  have hcarry := Session.carryOut_of_opening
    (t := { root with stream := root.stream.withCursor { items := [], stuck := none } })
    .includeFile 1 (.includeFile "b") rfl rfl openFile_inner
  exact ⟨_, hcarry⟩

/-- The report of the scope that is closed in the included file. -/
def report : Report Fault :=
  { cause := .beforeWorld "AttributeEnd", line := some 2, source := some "b", chain := ["a"] }

private theorem parseFile_root : parseFile library (.ofString "a") = .error report := by
  obtain ⟨e, hstep⟩ := step_root
  let t : Session :=
    { inner with stream := inner.stream.withCursor { items := [], stuck := none, lastLine := 2 } }
  have hfailed : inner.step = .failed ((Fault.beforeWorld "AttributeEnd").at (some 2)) t := rfl
  rw [parseFile, ofFile_root]
  show root.finish.result = _
  rw [Session.finish_of_moved hstep, Session.finish_of_failed hfailed]
  rfl

/-- An error in an included file names that file, a line of it, and the file that includes it. -/
theorem error_in_included_file_located :
    Session.ofFile library (.ofString "a") = .ok root ∧
      parseFile library (.ofString "a") = .error report ∧
      ∃ t : Session, report.source = some t.stream.source ∧
        (∃ path, t.stream.top.path = some path ∧ library.HasLine path 2) ∧
        report.render Fault.message =
          t.stream.source ++ (report.line.elim "" fun line => ":" ++ Nat.repr line) ++ ": " ++
            report.cause.message ++
            String.join (t.stream.below.map fun frame => "\n  included from " ++ frame.source) := by
  obtain ⟨_, _, _, t, _, _, _, _, _, hsource, hline, _, hrender⟩ :=
    parseFile_error_located ofFile_root parseFile_root
  exact ⟨ofFile_root, parseFile_root, t, hsource, hline 2 rfl, hrender⟩

end ClosedInInclude

end SceneDescription
