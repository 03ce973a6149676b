import SceneDescription.Proofs.Files.Links
import SceneDescription.Proofs.Files.Paths
import SceneDescription.Proofs.Sessions.Twins
import SceneDescription.Proofs.Tokens.Scanning

/-!
# Texts that are read again

The outermost text of a session may have no path, while the same text is also a file.  When this file is opened from
another one, nothing forbids it at first.  But then the text is read again from its start, and on the way to its end
it comes to the directive that opened the first of the files that are open already (`Session.not_doomed_of_finish`).
So a session that finishes has never opened that file (`Session.apart_of_finish`).
-/

namespace SceneDescription

/-- One of the directives of a text opens the file of this name.  In front of it, other directives stand. -/
inductive Ahead (relative : String) : List Lexeme → Prop
  | here {name : String} {rest : List Lexeme} (hname : name = "Include" ∨ name = "Import") :
      Ahead relative (.identifier name :: .quoted relative :: rest)
  | opening {name other : String} {rest : List Lexeme} (hname : name = "Include" ∨ name = "Import")
      (hrest : Ahead relative rest) : Ahead relative (.identifier name :: .quoted other :: rest)
  | directive {name : String} {keyword : Keyword} {operands rest : List Lexeme} {d : Directive}
      (hname : Keyword.ofName? name = some keyword) (hreads : Reads keyword operands d)
      (hrest : Ahead relative rest) : Ahead relative (.identifier name :: (operands ++ rest))

private theorem Ahead.head {relative : String} {lexemes : List Lexeme} (h : Ahead relative lexemes) :
    ∃ name rest, lexemes = .identifier name :: rest := by
  cases h with
  | here => exact ⟨_, _, rfl⟩
  | opening => exact ⟨_, _, rfl⟩
  | directive => exact ⟨_, _, rfl⟩

namespace Session

variable {s s' last : Session} {e : Event} {t : Token} {c₁ c₂ : Cursor} {keyword : Keyword} {d : Directive}
  {tokens : List Token} {relative : String}

/-! ### Directives among the tokens of a text -/

/-- The tokens of a text that a directive has been read from. -/
theorem Performs.exists_split [LinearAlgebra] (h : s.Performs t c₁ c₂ keyword d s')
    (hover : s.stream.top.cursor.Over tokens) : ∃ taken rest, tokens = t :: (taken ++ rest) ∧ c₁.Over (taken ++ rest) ∧
      c₁.items = taken.map .token ++ c₂.items ∧ c₂.Over rest := by
  obtain ⟨more, rfl, hc₁⟩ := h.exists_tail hover
  obtain ⟨taken, rest, rfl, hc₁items, hc₂⟩ := hc₁.split_of_read h.read
  exact ⟨taken, rest, rfl, hc₁, hc₁items, hc₂⟩

/-- What is ahead behind a directive was ahead in front of it, and so was the file that the directive opens. -/
theorem Performs.ahead [LinearAlgebra] (h : s.Performs t c₁ c₂ keyword d s') (hover : s.stream.top.cursor.Over tokens) :
    ∃ rest, c₂.Over rest ∧
      (∀ relative, Ahead relative (rest.map (·.lexeme)) → Ahead relative (tokens.map (·.lexeme))) ∧
      ∀ relative, d.opens? = some relative → Ahead relative (tokens.map (·.lexeme)) := by
  obtain ⟨taken, rest, rfl, _, hitems, hrest⟩ := h.exists_split hover
  obtain ⟨name, hlexeme, hname⟩ := h.named
  refine ⟨rest, hrest, ?_⟩
  obtain ⟨taken', hitems', hcases⟩ := readDirective_cases hname h.read
  obtain rfl : taken' = taken := taken_unique (hitems'.symm.trans hitems)
  rw [List.map_cons, List.map_append, hlexeme]
  rcases hcases with ⟨hopens, _, _, hreads⟩ | ⟨relative, line, rfl, rfl, rfl⟩ | ⟨relative, line, rfl, rfl, rfl, rfl⟩
  · refine ⟨fun relative hahead => .directive hname hreads hahead, fun relative hsome => ?_⟩
    cases hopens.symm.trans hsome
  · refine ⟨fun relative hahead => .opening (.inl rfl) hahead, fun relative hsome => ?_⟩
    cases hsome
    exact .here (.inl rfl)
  · refine ⟨fun relative hahead => .opening (.inr rfl) hahead, fun relative hsome => ?_⟩
    cases hsome
    exact .here (.inr rfl)

/-- A directive opens the file that is ahead, or the file is still ahead behind it. -/
theorem Performs.ahead_cases [LinearAlgebra] (h : s.Performs t c₁ c₂ keyword d s')
    (hover : s.stream.top.cursor.Over tokens) (hahead : Ahead relative (tokens.map (·.lexeme))) :
    d.opens? = some relative ∨ ∃ rest, c₂.Over rest ∧ Ahead relative (rest.map (·.lexeme)) := by
  obtain ⟨taken, rest, rfl, hc₁, hitems, hrest⟩ := h.exists_split hover
  obtain ⟨name, hlexeme, hname⟩ := h.named
  obtain ⟨taken', hitems', hcases⟩ := readDirective_cases hname h.read
  obtain rfl : taken' = taken := taken_unique (hitems'.symm.trans hitems)
  rw [List.map_cons, hlexeme] at hahead
  generalize hmore : (taken' ++ rest).map (·.lexeme) = more at hahead
  cases hahead with
  | here hword =>
    rcases hcases with ⟨_, hplain, _⟩ | ⟨other, line, rfl, rfl, rfl⟩ | ⟨other, line, rfl, rfl, rfl, rfl⟩
    · rcases hword with rfl | rfl
      · exact absurd rfl hplain.1
      · exact absurd rfl hplain.2
    · cases hmore
      exact .inl rfl
    · cases hmore
      exact .inl rfl
  | opening hword hlater =>
    refine .inr ⟨rest, hrest, ?_⟩
    rcases hcases with ⟨_, hplain, _⟩ | ⟨other, line, rfl, rfl, rfl⟩ | ⟨other, line, rfl, rfl, rfl, rfl⟩
    · rcases hword with rfl | rfl
      · exact absurd rfl hplain.1
      · exact absurd rfl hplain.2
    · cases hmore
      exact hlater
    · cases hmore
      exact hlater
  | directive hname' hreads hlater =>
    -- the operands are read in one way only
    cases hname.symm.trans hname'
    obtain ⟨operands, later, hsplit, rfl, rfl⟩ := List.map_eq_append_iff.1 hmore
    rw [hsplit] at hc₁
    obtain ⟨e', hread, he'⟩ := hreads t.line c₁ operands later hc₁ rfl (by
      intro u hu
      obtain ⟨word, words, hwords⟩ := hlater.head
      rw [List.head?_eq_some_iff] at hu
      obtain ⟨others, rfl⟩ := hu
      exact ⟨word, (List.cons.inj hwords).1⟩)
    obtain ⟨rfl, rfl⟩ := EStateM.Result.ok.inj (hread.symm.trans h.read)
    exact .inr ⟨later, he', hlater⟩

/-! ### Sessions that cannot finish -/

/-- The places of open files. -/
def placesOf (files : FileSystem) (frames : List (Frame Mark)) : List (Except ResolveFault (List String)) :=
  (frames.filterMap (·.path)).map files.resolve

private theorem mem_placesOf {files : FileSystem} {frames : List (Frame Mark)} {frame : Frame Mark} {p : Path}
    (hframe : frame ∈ frames) (hpath : frame.path = some p) : files.resolve p ∈ placesOf files frames :=
  List.mem_map_of_mem (List.mem_filterMap.2 ⟨frame, hframe, hpath⟩)

/-- A file that is to be opened is in none of these places. -/
theorem not_mem_placesOf {stream : Stream Mark} {files : FileSystem} {p : Path}
    (hclosed : stream.isOpen files p = .ok false) : files.resolve p ∉ placesOf files stream.frames := by
  intro hmem
  obtain ⟨other, hother, hsame⟩ := List.mem_map.1 hmem
  obtain ⟨frame, hframe, hpath⟩ := List.mem_filterMap.1 hother
  obtain ⟨here, there, hhere, hthere, hne⟩ :=
    OpenPaths.isOpen_eq_false.1 hclosed other (List.mem_map.2 ⟨frame, hframe, hpath⟩)
  rw [hhere, hthere] at hsame
  exact hne (Except.ok.inj hsame)

/-- One of the open files has a directive ahead that opens a file which is open already and will stay open until
then. -/
inductive Doomed (files : FileSystem) : List (Frame Mark) → Prop
  | here {frame : Frame Mark} {below : List (Frame Mark)} {p : Path} {tokens : List Token} {relative : String}
      (hpath : frame.path = some p) (hover : frame.cursor.Over tokens)
      (hahead : Ahead relative (tokens.map (·.lexeme)))
      (hopen : .ok ((p.parent.join (.ofString relative)).resolve files.workingDirectory) ∈
        placesOf files (frame :: below)) :
      Doomed files (frame :: below)
  | above {frame : Frame Mark} {below : List (Frame Mark)} (hbelow : Doomed files below) :
      Doomed files (frame :: below)

/-- Behind a directive the session is as doomed as before: the open file cannot have been opened. -/
theorem Performs.doomed [LinearAlgebra] (h : s.Performs t c₁ c₂ keyword d s') (hlinks : s.library.files.WithoutLinks)
    (hs : Doomed s.library.files s.stream.frames) : Doomed s.library.files s'.stream.frames := by
  have hbehind : Doomed s.library.files (s.stream.withCursor c₂).frames := by
    rw [Stream.frames] at hs
    cases hs with
    | above hbelow => exact .above hbelow
    | @here _ _ p tokens relative hpath hover hahead hopen =>
      rcases h.ahead_cases hover hahead with hsome | ⟨rest, hrest, hahead'⟩
      · exfalso
        rcases h.stream with ⟨hnone, _⟩ | ⟨relative', q, hsome', hfile⟩
        · cases hnone.symm.trans hsome
        cases hsome'.symm.trans hsome
        obtain ⟨hq, text, htext, _⟩ := Stream.openFile_eq_ok hfile
        obtain ⟨_, hclosed⟩ := Stream.checks_of_openFile hfile
        have hbase : (s.stream.withCursor c₂).baseDirectory s.library.config = p.parent := by
          simp [Stream.baseDirectory_eq, Stream.frames, Stream.withCursor, hpath]
        have hnot := not_mem_placesOf hclosed
        rw [hlinks.resolve_of_readText htext, hq, Stream.resolve_eq, hbase] at hnot
        exact hnot hopen
      · exact .here hpath hrest hahead' hopen
  rcases h.stream with ⟨_, hstream⟩ | ⟨relative, path, _, hfile⟩
  · rw [hstream]
    exact hbehind
  · obtain ⟨_, text, _, hstream⟩ := Stream.openFile_eq_ok hfile
    rw [hstream]
    exact .above hbehind

private theorem Leaves.doomed {outer : Frame Mark} {below : List (Frame Mark)} (h : s.Leaves outer below s')
    (hs : Doomed s.library.files s.stream.frames) : Doomed s.library.files s'.stream.frames := by
  rw [Stream.frames, h.around] at hs
  rw [h.stream]
  obtain ⟨c, htake⟩ := h.take
  cases hs with
  | here hpath hover hahead hopen =>
    -- the text that has ended has nothing ahead
    exfalso
    obtain rfl := List.map_eq_nil_iff.1 (hover.1.symm.trans (Read.over_of_take_none htake).1)
    obtain ⟨name, rest, hhead⟩ := hahead.head
    cases hhead
  | above hbelow =>
    cases hbelow with
    | here hpath hover hahead hopen =>
      show Doomed _ ((Stream.backTo s.stream.top outer below).top :: below)
      exact .here hpath hover hahead hopen
    | above hbelow => exact .above hbelow

/-- A session that finishes was not doomed. -/
theorem not_doomed_of_finish [LinearAlgebra] (h : s.finish = .finished last) (hlinks : s.library.files.WithoutLinks) :
    ¬ Doomed s.library.files s.stream.frames := by
  revert hlinks
  refine finish_induction
    (motive := fun s => s.library.files.WithoutLinks → ¬ Doomed s.library.files s.stream.frames) ?_ ?_ h
  · intro hstep _ hdoomed
    obtain ⟨hbelow, ⟨c, htake⟩, _⟩ := of_step_finished hstep
    rw [Stream.frames, hbelow] at hdoomed
    cases hdoomed with
    | above hnothing => cases hnothing
    | here hpath hover hahead hopen =>
      obtain rfl := List.map_eq_nil_iff.1 (hover.1.symm.trans (Read.over_of_take_none htake).1)
      obtain ⟨name, rest, hhead⟩ := hahead.head
      cases hhead
  · intro s e s' hstep _ ih hlinks hdoomed
    have hmoves := moves_of_step hstep
    rw [hmoves.library] at ih
    refine ih hlinks ?_
    cases hmoves with
    | performs h => exact h.doomed hlinks hdoomed
    | leaves h => exact h.doomed hdoomed

/-! ### Texts without a path -/

/-- The outermost text has no path, and what is ahead in it is ahead in the lexemes.  The file right above it has been
opened by one of its directives, in the place that its path says. -/
inductive Grounded (files : FileSystem) (directory : Path) (lexemes : List Lexeme) : List (Frame Mark) → Prop
  | root {frame : Frame Mark} {tokens : List Token} (hpath : frame.path = none) (hover : frame.cursor.Over tokens)
      (hahead : ∀ relative, Ahead relative (tokens.map (·.lexeme)) → Ahead relative lexemes) :
      Grounded files directory lexemes [frame]
  | inner {frame : Frame Mark} {below : List (Frame Mark)} (hbelow : Grounded files directory lexemes below)
      (hfirst : below.length = 1 → ∃ relative path, frame.path = some path ∧
        path = directory.join (.ofString relative) ∧ files.resolve path = .ok (path.resolve files.workingDirectory) ∧
        Ahead relative lexemes) : Grounded files directory lexemes (frame :: below)

variable {files : FileSystem} {directory : Path} {lexemes : List Lexeme}

private theorem Grounded.exists_first {frames : List (Frame Mark)} (h : Grounded files directory lexemes frames)
    (hlength : 1 < frames.length) : ∃ frame ∈ frames, ∃ relative path, frame.path = some path ∧
      path = directory.join (.ofString relative) ∧ files.resolve path = .ok (path.resolve files.workingDirectory) ∧
      Ahead relative lexemes := by
  induction h with
  | root => exact absurd hlength (Nat.lt_irrefl 1)
  | @inner frame below hbelow hfirst ih =>
    by_cases hone : below.length = 1
    · exact ⟨frame, List.mem_cons_self .., hfirst hone⟩
    · have hmore : 1 < below.length := by
        rw [List.length_cons] at hlength
        omega
      obtain ⟨first, hmem, hfound⟩ := ih hmore
      exact ⟨first, List.mem_cons_of_mem _ hmem, hfound⟩

private theorem Performs.grounded [LinearAlgebra] (h : s.Performs t c₁ c₂ keyword d s')
    (hlinks : s.library.files.WithoutLinks)
    (hfiles : s.library.files = files) (hdirectory : s.library.config.baseDirectory = directory)
    (hs : Grounded files directory lexemes s.stream.frames) : Grounded files directory lexemes s'.stream.frames := by
  rw [Stream.frames] at hs
  generalize hbelow : s.stream.below = below at hs
  cases hs with
  | @root _ tokens hpath hover hahead =>
    obtain ⟨rest, hrest, hstill, hopened⟩ := h.ahead hover
    have hbehind : Grounded files directory lexemes (s.stream.withCursor c₂).frames := by
      rw [Stream.frames, Stream.withCursor, hbelow]
      exact .root hpath hrest fun relative hrelative => hahead relative (hstill relative hrelative)
    rcases h.stream with ⟨_, hstream⟩ | ⟨relative, path, hsome, hfile⟩
    · rw [hstream]
      exact hbehind
    · obtain ⟨hresolve, text, htext, hstream⟩ := Stream.openFile_eq_ok hfile
      have hplace := hlinks.resolve_of_readText htext
      rw [hfiles] at hplace
      rw [hstream]
      refine .inner hbehind fun _ => ⟨relative, path, rfl, ?_, hplace, hahead relative (hopened relative hsome)⟩
      rw [hresolve, Stream.resolve_eq, Stream.baseDirectory_eq]
      simp [Stream.frames, Stream.withCursor, hbelow, hpath, hdirectory]
  | inner hinner hfirst =>
    have hbehind : Grounded files directory lexemes (s.stream.withCursor c₂).frames := by
      rw [Stream.frames, Stream.withCursor, hbelow]
      exact .inner hinner hfirst
    rcases h.stream with ⟨_, hstream⟩ | ⟨relative, path, hsome, hfile⟩
    · rw [hstream]
      exact hbehind
    · obtain ⟨hresolve, text, _, hstream⟩ := Stream.openFile_eq_ok hfile
      rw [hstream]
      refine .inner hbehind fun hone => ?_
      exfalso
      rw [Stream.frames, Stream.withCursor, hbelow, List.length_cons, Nat.succ_inj, List.length_eq_zero_iff] at hone
      subst hone
      cases hinner

private theorem Leaves.grounded {outer : Frame Mark} {below : List (Frame Mark)} (h : s.Leaves outer below s')
    (hs : Grounded files directory lexemes s.stream.frames) : Grounded files directory lexemes s'.stream.frames := by
  rw [Stream.frames, h.around] at hs
  rw [h.stream]
  cases hs with
  | inner hinner _ =>
    show Grounded files directory lexemes ((Stream.backTo s.stream.top outer below).top :: below)
    cases hinner with
    | root hpath hover hahead => exact .root hpath hover hahead
    | inner hinner hfirst => exact .inner hinner hfirst

private theorem Moves.grounded [LinearAlgebra] (h : s.Moves e s') (hlinks : s.library.files.WithoutLinks)
    (hfiles : s.library.files = files) (hdirectory : s.library.config.baseDirectory = directory)
    (hs : Grounded files directory lexemes s.stream.frames) : Grounded files directory lexemes s'.stream.frames := by
  cases h with
  | performs h => exact h.grounded hlinks hfiles hdirectory hs
  | leaves h => exact h.grounded hs

private theorem Grounded.paths_eq {frames : List (Frame Mark)} (h : Grounded files directory lexemes frames) :
    frames.map (·.path) = (frames.map (·.path)).dropLast ++ [none] := by
  induction h with
  | root hpath => simp [hpath]
  | @inner frame below _ _ ih =>
    have hne : below.map (·.path) ≠ [] := by
      rw [ih]
      simp
    rw [List.map_cons, List.dropLast_cons_of_ne_nil hne, List.cons_append, ← ih]

/-- A path that is opened is well-formed if those of the open files and the configured directory are. -/
theorem wellFormed_resolve {stream : Stream Mark} {config : Config} (relative : String)
    (hpaths : ∀ p, some p ∈ stream.frames.map (·.path) → p.WellFormed) (hbase : config.baseDirectory.WellFormed) :
    (stream.resolve config relative).WellFormed := by
  rw [Stream.resolve_eq, Stream.baseDirectory_eq]
  refine Path.WellFormed.join ?_ (Path.wellFormed_ofString relative)
  cases hfound : stream.frames.findSome? (·.path) with
  | none => exact hbase
  | some p =>
    obtain ⟨frame, hframe, hpath⟩ := List.exists_of_findSome?_eq_some hfound
    exact (hpaths p (List.mem_map.2 ⟨frame, hframe, hpath⟩)).parent

/-- The outermost text, which has no path, is also the text of the file at the path `f`.  This file is not open. -/
structure Alone (library : Library) (f : Path) (lexemes : List Lexeme) (s : Session) : Prop where
  within : s.library = library
  grounded : Grounded library.files f.parent lexemes s.stream.frames
  apart : ∀ p, some p ∈ s.innerPaths → p.WellFormed ∧ library.files.LeadApart p f

section Alone

variable {library : Library} {f p : Path} {text : List Char} (hlinks : library.files.WithoutLinks)
  (htext : library.files.readText library.config f = .ok text)
  (hlexemes : ∀ source tokens, (Cursor.ofText source text).Over tokens → tokens.map (·.lexeme) = lexemes)
include hlinks htext hlexemes

/-- A file that is opened while the session can still finish is not the one that is the outermost text. -/
theorem leadApart_of_openFile [LinearAlgebra] {stream : Stream Mark} {line : Option Nat} {mark : Option Mark}
    (hlibrary : s'.library = library) (hfinish : s'.finish = .finished last)
    (hgrounded : Grounded library.files f.parent lexemes s'.stream.frames)
    (hopen : stream.openFile library relative line mark = .ok (p, s'.stream)) :
    library.files.LeadApart p f := by
  obtain ⟨_, text', htext', hstream⟩ := Stream.openFile_eq_ok hopen
  refine hlinks.leadApart htext' htext fun hplace => ?_
  obtain rfl := hlinks.readText_inj htext htext' hplace.symm
  have hproper := hlinks.proper_of_readText htext
  have hproper' := hlinks.proper_of_readText htext'
  obtain ⟨tokens, hover⟩ := scanned_of_finish hfinish s'.stream.top (List.mem_cons_self ..)
  have htokens : tokens.map (·.lexeme) = lexemes := by
    rw [hstream] at hover
    exact hlexemes p.toText tokens hover
  have hlength : 1 < s'.stream.frames.length := by
    rw [hstream]
    simp [Stream.frames]
  obtain ⟨first, hfirst, relative, other, hpath, rfl, hother, hahead⟩ := hgrounded.exists_first hlength
  rw [← hlibrary] at hlinks hplace hother
  -- the file right above the outermost text is open, and its name comes up again
  refine not_doomed_of_finish hfinish hlinks (.here (p := p) ?_ hover (htokens ▸ hahead) ?_)
  · rw [hstream]
  · rw [hproper'.resolve_join_congr hproper hplace, ← hother]
    exact mem_placesOf hfirst hpath

private theorem Moves.alone [LinearAlgebra] (hbase : library.config.baseDirectory = f.parent) (hf : f.WellFormed)
    (hs : s.Alone library f lexemes) (h : s.Moves e s') (hfinish : s'.finish = .finished last) :
    s'.Alone library f lexemes := by
  have hlibrary : s'.library = library := h.library.trans hs.within
  have hgrounded : Grounded library.files f.parent lexemes s'.stream.frames := by
    refine h.grounded ?_ ?_ ?_ hs.grounded
    · rw [hs.within]
      exact hlinks
    · rw [hs.within]
    · rw [hs.within]
      exact hbase
  refine ⟨hlibrary, hgrounded, ?_⟩
  rcases h.innerPaths with hsame | ⟨path, hleft⟩ | ⟨t, c₁, c₂, keyword, d, relative, path, _, hopen, hopened⟩
  · rw [hsame]
    exact hs.apart
  · intro p hp
    refine hs.apart p ?_
    rw [hleft]
    exact List.mem_cons_of_mem _ hp
  · rw [hs.within] at hopen
    intro p hp
    rw [hopened] at hp
    rcases List.mem_cons.1 hp with hnew | hold
    · cases hnew
      refine ⟨?_, leadApart_of_openFile hlinks htext hlexemes hlibrary hfinish hgrounded hopen⟩
      rw [(Stream.openFile_eq_ok hopen).1]
      refine wellFormed_resolve relative ?_ (hbase ▸ hf.parent)
      intro q hq
      have hpaths : (s.stream.withCursor c₂).frames.map (·.path) = s.innerPaths ++ [none] := hs.grounded.paths_eq
      rw [hpaths] at hq
      rcases List.mem_append.1 hq with hinner | hroot
      · exact (hs.apart q hinner).1
      · simp at hroot
    · exact hs.apart p hold

end Alone

/-- A session on the text of a file that finishes never opens this file. -/
theorem Run.apart_of_finish [LinearAlgebra] {library : Library} {f : Path} {text : List Char} {moments : List Moment}
    (hlinks : library.files.WithoutLinks) (hf : f.WellFormed)
    (hbase : library.config.baseDirectory = f.parent)
    (htext : library.files.readText library.config f = .ok text)
    (hfinish : (ofText library text).finish = .finished last) (h : Run (ofText library text) moments s') :
    ∀ p, some p ∈ s'.innerPaths → p.WellFormed ∧ library.files.LeadApart p f := by
  obtain ⟨tokens, hover⟩ := scanned_of_finish hfinish (ofText library text).stream.top (List.mem_cons_self ..)
  have hlexemes : ∀ source tokens', (Cursor.ofText source text).Over tokens' →
      tokens'.map (·.lexeme) = tokens.map (·.lexeme) := by
    intro source tokens' hover'
    have hsame : (Cursor.ofText "<string>" text).Over tokens' := Cursor.over_ofText_congr hover'
    have hitems : tokens'.map Item.token = tokens.map .token := hsame.1.symm.trans hover.1
    rw [map_token_inj hitems]
  have hstart : (ofText library text).Alone library f (tokens.map (·.lexeme)) :=
    ⟨rfl, .root rfl hover fun _ hahead => hahead, by simp [innerPaths, ofText, Stream.ofText, Stream.frames]⟩
  have hend := h.invariant_of_finish (P := Alone library f (tokens.map (·.lexeme)))
    (fun _ _ _ hs hmoves hfinish' => hmoves.alone hlinks htext hlexemes hbase hf hs hfinish') hfinish hstart
  exact hend.apart

end Session

end SceneDescription
