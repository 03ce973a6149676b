import SceneDescription.Proofs.Sessions.ErrorReports
import SceneDescription.Proofs.Sessions.Reinclusion
import SceneDescription.Transform.Elimination

/-!
# Scenes from files and from their texts

Reading a scene file and reading its text, with relative paths looked up in the directory of the file, come to the
same: either both give a scene, and the scenes differ only in the name of the root, or both fail
(`parseText_agrees_with_parseFile`).  The sessions go in step.  Only the check for files that are open already sees a
difference, because the text alone has no path; but no session that finishes comes to where it matters.
-/

namespace SceneDescription

/-- The same location, if the text of this name has been read without its path. -/
def Location.inMemory (name : String) (l : Location) : Location :=
  if l.source = name then { l with source := "<string>" } else l

private theorem Location.inMemory_self (name : String) (line : Nat) :
    inMemory name ⟨name, line⟩ = ⟨"<string>", line⟩ := by
  simp [inMemory]

private theorem Location.inMemory_of_ne {name source : String} (h : source ≠ name) (line : Nat) :
    inMemory name ⟨source, line⟩ = ⟨source, line⟩ := by
  simp [inMemory, h]

/-! ### Stages with other locations -/

/-- Stages that agree once their locations have been replaced. -/
def StageRelation.relocated [LinearAlgebra] (g g' : Option Location → Option Location) : StageRelation where
  stages s t := s.relocated g = t.relocated g'
  locations l l' := g (some l) = g' (some l')
  phase h := Stage.phase_congr h
  mark h := Stage.mark_congr h
  balanced {s t} h := by
    rw [← s.scopes.relocated_checkBalanced g, ← t.scopes.relocated_checkBalanced g', Stage.scopes_congr h]
  execute h hl hexecute := exists_ok_of_map_eq (Stage.execute_relocated h hl _) hexecute
  leaveImport h hleave := exists_ok_of_map_eq (Stage.leaveImport_congr h _) hleave

/-- A session in step with one that finishes gives a scene that agrees with its scene. -/
private theorem Pairing.Twins.finish_relocated [LinearAlgebra] {R : Pairing} {g g' : Option Location → Option Location}
    {s t last : Session} (h : R.Twins s t) (hR : R.toStageRelation = .relocated g g') (hextra : R.extra = [])
    (hfinish : s.finish = .finished last)
    (hinner : ∀ moments s', Session.Run s moments s' → ∀ p, some p ∈ s'.innerPaths → R.inner p) :
    ∃ last', t.finish = .finished last' ∧ last.scene.relocated g = last'.scene.relocated g' := by
  obtain ⟨last', hfinish', hstages⟩ := h.exists_finish hextra hfinish hinner
  rw [hR] at hstages
  refine ⟨last', hfinish', ?_⟩
  rw [Session.scene, Session.scene, Draft.scene_relocated, Draft.scene_relocated, Stage.draft_congr hstages]

/-! ### A file and its text -/

section Root

variable (files : FileSystem) (config : Config) (f : Path)

/-- The path `p` is well-formed and leads to another place than `f`. -/
def FileSystem.Apart (p : Path) : Prop :=
  p.WellFormed ∧ files.LeadApart p f

private theorem FileSystem.Apart.inMemory {files : FileSystem} {f p : Path} (hf : f.WellFormed) (h : files.Apart f p)
    (line : Nat) : Location.inMemory f.toText ⟨p.toText, line⟩ = ⟨p.toText, line⟩ := by
  refine Location.inMemory_of_ne ?_ line
  intro htext
  exact h.2.ne (h.1.toText_inj hf htext)

/-- A session on a file, and one on its text. -/
def Pairing.ofFile [LinearAlgebra] (hf : f.WellFormed) : Pairing where
  toStageRelation := .relocated (Option.map (Location.inMemory f.toText)) id
  library := ⟨config, files⟩
  directory := f.parent
  path := some f
  path' := none
  base := rfl
  extra := []
  keyword := keyword_nil
  inner := files.Apart f
  locations_inner h line := congrArg some (h.inMemory hf line)
  apart _ h := by cases h

/-- A session on the text of a file, and one on the file itself. -/
def Pairing.ofText [LinearAlgebra] (hf : f.WellFormed) : Pairing where
  toStageRelation := .relocated id (Option.map (Location.inMemory f.toText))
  library := ⟨{ config with baseDirectory := f.parent }, files⟩
  directory := config.baseDirectory
  path := none
  path' := some f
  base := rfl
  extra := []
  keyword := keyword_nil
  inner := files.Apart f
  locations_inner h line := congrArg some (h.inMemory hf line).symm
  apart h hq := by
    cases hq
    exact h.2.symm

/-- The session at the start of a file with a known text. -/
def Session.atFile (text : List Char) : Session where
  library := ⟨config, files⟩
  stream.top := { source := f.toText, path := some f, cursor := .ofText f.toText text }

variable {files config f} {text : List Char}

private theorem Session.ofFile_of_readText (htext : files.readText config f = .ok text) :
    Session.ofFile ⟨config, files⟩ f = .ok (Session.atFile files config f text) := by
  unfold Session.ofFile Stream.ofFile
  dsimp only
  rw [htext]
  rfl

private theorem parseFile_of_readText [LinearAlgebra] (htext : files.readText config f = .ok text) :
    parseFile ⟨config, files⟩ f = (Session.atFile files config f text).finish.result := by
  unfold parseFile
  rw [Session.ofFile_of_readText htext]
  rfl

/-- While a file is being read, no other file in its place is opened. -/
theorem Session.apart_of_run [LinearAlgebra] {name : String} {s' : Session} {moments : List Moment}
    (htext : files.readText config (.ofString name) = .ok text)
    (hrun : Run (atFile files config (.ofString name) text) moments s') :
    ∀ p, some p ∈ s'.innerPaths → files.Apart (.ofString name) p := by
  have hopen := ofFile_of_readText htext
  have hanchored := hrun.anchored (anchored_ofFile hopen)
  have hdistinct := (hrun.withinLimits (Start.file hopen).withinLimits).distinct
  have hlibrary : s'.library = ⟨config, files⟩ := hrun.library
  have hpaths : s'.stream.frames.map (·.path) = s'.innerPaths ++ [some (.ofString name)] := by
    obtain ⟨paths, hpaths⟩ := List.getLast?_eq_some_iff.1 hanchored.root
    rw [innerPaths, hpaths, List.dropLast_concat]
  have hfound : s'.filePaths = s'.innerPaths.filterMap id ++ [.ofString name] := by
    have hmap : s'.filePaths = (s'.stream.frames.map (·.path)).filterMap id := by
      rw [filePaths, List.filterMap_map]
      rfl
    rw [hmap, hpaths]
    simp
  intro p hp
  constructor
  · obtain ⟨frame, hframe, hpath⟩ := List.mem_map.1 (List.dropLast_subset _ hp)
    obtain ⟨path, taken, hread⟩ := hanchored.frames frame hframe
    cases hread.isFile.symm.trans hpath
    exact hread.wellFormed
  · rw [hfound, hlibrary, List.pairwise_append] at hdistinct
    exact hdistinct.2.2 p (List.mem_filterMap.2 ⟨some p, hp, rfl⟩) _ (List.mem_singleton_self _)

variable (files config) {tokens : List Token} (hf : f.WellFormed)

private theorem Pairing.twins_ofFile [LinearAlgebra]
    (hover : (Cursor.ofText f.toText text).Over tokens) : (Pairing.ofFile files config f hf).Twins
      (.atFile files config f text) (.ofText ⟨{ config with baseDirectory := f.parent }, files⟩ text) where
  library := rfl
  library' := rfl
  frames := by
    refine .root ⟨tokens, tokens, hover, ?_, ?_⟩ rfl rfl
    · exact (List.append_nil tokens).symm ▸ Cursor.over_ofText_congr hover
    · exact List.forall₂_same.2 fun t _ => ⟨rfl, congrArg some (Location.inMemory_self f.toText t.line)⟩
  stages := rfl

private theorem Pairing.twins_ofText [LinearAlgebra]
    (hover : (Cursor.ofText "<string>" text).Over tokens) : (Pairing.ofText files config f hf).Twins
      (.ofText ⟨{ config with baseDirectory := f.parent }, files⟩ text) (.atFile files config f text) where
  library := rfl
  library' := rfl
  frames := by
    refine .root ⟨tokens, tokens, hover, ?_, ?_⟩ rfl rfl
    · exact (List.append_nil tokens).symm ▸ Cursor.over_ofText_congr hover
    · exact List.forall₂_same.2 fun t _ => ⟨rfl, congrArg some (Location.inMemory_self f.toText t.line).symm⟩
  stages := rfl

end Root

section Agreement

variable {files : FileSystem} {config : Config} {name : String} {text : List Char} {scene : Scene}

/-- A scene from a file can be read from its text. -/
private theorem parseText_of_parseFile [LinearAlgebra] (htext : files.readText config (.ofString name) = .ok text)
    (h : parseFile ⟨config, files⟩ (.ofString name) = .ok scene) :
    parseText ⟨{ config with baseDirectory := (Path.ofString name).parent }, files⟩ text =
      .ok (scene.relocated (Option.map (Location.inMemory (Path.ofString name).toText))) := by
  rw [parseFile_of_readText htext] at h
  obtain ⟨last, hfinish, rfl⟩ := Outcome.result_eq_ok h
  obtain ⟨tokens, hover⟩ := Session.scanned_of_finish hfinish _ (List.mem_cons_self ..)
  have htwins := Pairing.twins_ofFile files config (Path.wellFormed_ofString name) hover
  obtain ⟨last', hfinish', hscene⟩ := htwins.finish_relocated rfl rfl hfinish fun moments s' hrun =>
    Session.apart_of_run htext hrun
  rw [Scene.relocated_id] at hscene
  unfold parseText
  rw [hfinish', hscene]
  rfl

/-- A scene from the text of a file can be read from the file. -/
private theorem parseFile_of_parseText [LinearAlgebra] (hlinks : files.WithoutLinks)
    (htext : files.readText config (.ofString name) = .ok text)
    (h : parseText ⟨{ config with baseDirectory := (Path.ofString name).parent }, files⟩ text = .ok scene) :
    ∃ scene', parseFile ⟨config, files⟩ (.ofString name) = .ok scene' := by
  obtain ⟨last, hfinish, rfl⟩ := Outcome.result_eq_ok h
  obtain ⟨tokens, hover⟩ := Session.scanned_of_finish hfinish _ (List.mem_cons_self ..)
  have htwins := Pairing.twins_ofText files config (Path.wellFormed_ofString name) hover
  obtain ⟨last', hfinish', _⟩ := htwins.finish_relocated rfl rfl hfinish fun moments s' hrun =>
    hrun.apart_of_finish hlinks (Path.wellFormed_ofString name) rfl htext hfinish
  refine ⟨last'.scene, ?_⟩
  rw [parseFile_of_readText htext, hfinish']
  rfl

/-- Reading a file and reading its text come to the same: both give a scene, and the scenes are the same up to the name
of the root in their locations, or both fail.  Files that include the root again make no difference. -/
theorem parseText_agrees_with_parseFile [LinearAlgebra] (hlinks : files.WithoutLinks)
    (htext : files.readText config (.ofString name) = .ok text) :
    (∃ scene, parseFile ⟨config, files⟩ (.ofString name) = .ok scene ∧
      parseText ⟨{ config with baseDirectory := (Path.ofString name).parent }, files⟩ text =
        .ok (scene.relocated (Option.map (Location.inMemory (Path.ofString name).toText)))) ∨
    ∃ r r', parseFile ⟨config, files⟩ (.ofString name) = .error r ∧
      parseText ⟨{ config with baseDirectory := (Path.ofString name).parent }, files⟩ text = .error r' := by
  cases hfile : parseFile ⟨config, files⟩ (.ofString name) with
  | ok scene => exact .inl ⟨scene, rfl, parseText_of_parseFile htext hfile⟩
  | error r =>
    cases hstring : parseText ⟨{ config with baseDirectory := (Path.ofString name).parent }, files⟩ text with
    | error r' => exact .inr ⟨r, r', rfl, rfl⟩
    | ok scene =>
      obtain ⟨scene', hfile'⟩ := parseFile_of_parseText hlinks htext hstring
      cases hfile.symm.trans hfile'

end Agreement

/-! ### A file that is included again -/

namespace IncludedAgain

attribute [local instance] LinearAlgebra.stepwise

def config : Config :=
  { one_le_maxIncludeDepth := Config.one_le_defaultDepth }

/-- Two files that include each other, and a third one that stands alone. -/
def tree : FileTree :=
  .directory [("a", .file "Include \"b\"".toUTF8.toList), ("b", .file "Include \"a\"".toUTF8.toList),
    ("c", .file "Film \"rgb\"".toUTF8.toList)]

def including (name : String) : List Token :=
  [⟨.identifier "Include", 1⟩, ⟨.quoted name, 1⟩]

/-- The session at the start of the file `a`. -/
def outer : Session where
  library := ⟨config, tree.fileSystem []⟩
  stream.top :=
    { source := "a", path := some { names := ["a"] },
      cursor := { items := (including "b").map .token, stuck := none } }

/-- The session at the start of the file `b`, which `a` has included. -/
def inner : Session where
  library := ⟨config, tree.fileSystem []⟩
  stream :=
    { top :=
        { source := "b", path := some { names := ["b"] }, includeLine := some 1,
          cursor := { items := (including "a").map .token, stuck := none } },
      below := [{ outer.stream.top with cursor := { items := [], stuck := none } }] }
  journal := [.opened { names := ["b"] } "a" 1, .included { names := ["b"] }]

private theorem pathA : Path.ofString "a" = { names := ["a"] } := by
  cbv

private theorem readText_a :
    (tree.fileSystem []).readText config (.ofString "a") = .ok "Include \"b\"".toList := by
  cbv

private theorem readText_b :
    (tree.fileSystem []).readText config { names := ["b"] } = .ok "Include \"a\"".toList := by
  cbv

private theorem readText_c :
    (tree.fileSystem []).readText config (.ofString "c") = .ok "Film \"rgb\"".toList := by
  cbv

private theorem withoutLinks_tree : (tree.fileSystem []).WithoutLinks :=
  FileTree.withoutLinks List.not_mem_nil rfl

private theorem openFile_b :
    (outer.stream.withCursor { items := [], stuck := none }).openFile ⟨config, tree.fileSystem []⟩ "b" (some 1) none =
      .ok ({ names := ["b"] }, inner.stream) := by
  have hpath : Path.ofString "b" = { names := ["b"] } := by cbv
  have htext : ({ names := ["b"] } : Path).toText = "b" := by cbv
  have hcursor : Cursor.ofText "b" "Include \"a\"".toList =
      { items := (including "a").map .token, stuck := none } := by cbv
  have hresolve : (outer.stream.withCursor { items := [], stuck := none }).resolve config "b" =
      { names := ["b"] } := by
    rw [Stream.resolve_eq, hpath]
    rfl
  have hapart : (outer.stream.withCursor { items := [], stuck := none }).isOpen (tree.fileSystem [])
      { names := ["b"] } = .ok false := by
    refine OpenPaths.isOpen_eq_false.2 fun other hother => ?_
    obtain rfl := Option.some.inj (List.mem_singleton.1 hother)
    exact ⟨["a"], ["b"], by cbv, by cbv, by decide⟩
  rw [Stream.openFile_of_checks (some 1) none hresolve (by decide) hapart readText_b, Stream.push, htext, hcursor]
  rfl

private theorem step_outer : ∃ e, outer.step = .moved e inner := by
  have hcarry := Session.carryOut_of_opening
    (t := { outer with stream := outer.stream.withCursor { items := [], stuck := none } })
    .includeFile 1 (.includeFile "b") rfl rfl openFile_b
  exact ⟨_, hcarry⟩

/-- In `b`, the file `a` is ahead, which is open. -/
private theorem doomed_inner : Session.Doomed (tree.fileSystem []) inner.stream.frames := by
  have hahead : Ahead "a" ((including "a").map (·.lexeme)) := .here (.inl rfl)
  have hplace : .ok ((({ names := ["b"] } : Path).parent.join (.ofString "a")).resolve []) ∈
      Session.placesOf (tree.fileSystem []) inner.stream.frames := by
    have hopen : (tree.fileSystem []).resolve { names := ["a"] } = .ok ["a"] := by cbv
    rw [pathA]
    exact List.mem_cons_of_mem _ (hopen ▸ List.mem_cons_self ..)
  exact .here rfl ⟨rfl, rfl⟩ hahead hplace

private theorem parseFile_a (scene : Scene) :
    parseFile ⟨config, tree.fileSystem []⟩ (.ofString "a") ≠ .ok scene := by
  have htext : ({ names := ["a"] } : Path).toText = "a" := by cbv
  have hcursor : Cursor.ofText "a" "Include \"b\"".toList =
      { items := (including "b").map .token, stuck := none } := by cbv
  intro hparse
  rw [parseFile_of_readText readText_a, pathA, Session.atFile, htext, hcursor] at hparse
  obtain ⟨last, hfinish, _⟩ := Outcome.result_eq_ok hparse
  obtain ⟨e, hstep⟩ := step_outer
  have hfinish' : inner.finish = .finished last := (Session.finish_of_moved hstep).symm.trans hfinish
  exact Session.not_doomed_of_finish hfinish' withoutLinks_tree doomed_inner

private theorem parseFile_c : ∃ scene, parseFile ⟨config, tree.fileSystem []⟩ (.ofString "c") = .ok scene ∧
    scene.settings.film.map (·.location) = some (some ⟨"c", 1⟩) := by
  have hpath : Path.ofString "c" = { names := ["c"] } := by cbv
  have htext : ({ names := ["c"] } : Path).toText = "c" := by cbv
  have hcursor : Cursor.ofText "c" "Film \"rgb\"".toList =
      { items := [.token ⟨.identifier "Film", 1⟩, .token ⟨.quoted "rgb", 1⟩], stuck := none } := by cbv
  rw [parseFile_of_readText readText_c, hpath, Session.atFile, htext, hcursor]
  generalize hs : ({ library := _, stream := _ } : Session) = s
  have hlast : ((s.endWithin 2).map fun last => last.scene.settings.film.map (·.location)) =
      some (some (some ⟨"c", 1⟩)) := by
    subst hs
    decide +kernel
  obtain ⟨last, hend, hfilm⟩ := Option.map_eq_some_iff.1 hlast
  refine ⟨last.scene, ?_, hfilm⟩
  rw [Session.finish_of_endWithin hend]
  rfl

/-- The text of `a` cannot be read either, although it has no path itself, and the text of `c` can. -/
theorem text_of_file_included_again :
    (tree.fileSystem []).WithoutLinks ∧
      (tree.fileSystem []).readText config (.ofString "a") = .ok "Include \"b\"".toList ∧
      (∃ r, parseText ⟨{ config with baseDirectory := (Path.ofString "a").parent }, tree.fileSystem []⟩
        "Include \"b\"".toList = .error r) ∧
      (tree.fileSystem []).readText config (.ofString "c") = .ok "Film \"rgb\"".toList ∧
      ∃ scene, parseText ⟨{ config with baseDirectory := (Path.ofString "c").parent }, tree.fileSystem []⟩
        "Film \"rgb\"".toList = .ok scene ∧ scene.settings.film.map (·.location) = some (some ⟨"<string>", 1⟩) := by
  refine ⟨withoutLinks_tree, readText_a, ?_, readText_c, ?_⟩
  · rcases parseText_agrees_with_parseFile withoutLinks_tree readText_a with ⟨scene, hfile, _⟩ | ⟨_, r, _, htext⟩
    · exact absurd hfile (parseFile_a scene)
    · exact ⟨r, htext⟩
  · obtain ⟨scene, hscene, hfilm⟩ := parseFile_c
    rcases parseText_agrees_with_parseFile withoutLinks_tree readText_c with ⟨scene', hfile, htext⟩ | ⟨r, _, hfile, _⟩
    · cases hscene.symm.trans hfile
      refine ⟨_, htext, ?_⟩
      have hname : (Path.ofString "c").toText = "c" := by cbv
      have hmap : (scene.relocated (Option.map (Location.inMemory "c"))).settings.film.map (·.location) =
          (scene.settings.film.map (·.location)).map (Option.map (Location.inMemory "c")) := by
        simp [Scene.relocated, Declarations.relocated, Settings.relocated, Setting.relocated, Function.comp_def]
      rw [hname, hmap, hfilm]
      rfl
    · cases hscene.symm.trans hfile

end IncludedAgain

end SceneDescription
