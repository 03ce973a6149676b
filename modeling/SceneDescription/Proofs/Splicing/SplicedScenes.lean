import SceneDescription.Proofs.Splicing.Replay
import SceneDescription.Transform.Elimination

/-!
# Scenes of spliced texts

A scene that can be read from a text or a file can be read from the spliced text, which is one sequence of tokens
and opens no files, and it is the same scene up to locations.
-/

namespace SceneDescription

/-! ### Scenes from tokens -/

/-- A session at the start of tokens that stand alone. -/
def Session.ofTokens (library : Library) (tokens : List Token) : Session where
  library := library
  stream.top := { source := "<string>", path := none, cursor := { items := tokens.map .token, stuck := none } }

/-- Reads a scene from tokens. -/
def parseTokens [LinearAlgebra] (library : Library) (tokens : List Token) : Except (Report Fault) Scene :=
  (Session.ofTokens library tokens).finish.result

private theorem Session.ofText_eq_ofTokens {text : List Char} {tokens : List Token} (library : Library)
    (h : (Scanner.ofText "<string>" text).tokens = .ok tokens) : ofText library text = ofTokens library tokens := by
  have hover := Cursor.over_ofText_iff.2 h
  have hcursor : Cursor.ofText "<string>" text = { items := tokens.map .token, stuck := none } :=
    congr (congrArg (Cursor.mk · · 1) hover.1) hover.2
  unfold ofText Stream.ofText ofTokens
  rw [hcursor]

theorem parseText_eq_parseTokens [LinearAlgebra] {text : List Char} {tokens : List Token} (library : Library)
    (h : (Scanner.ofText "<string>" text).tokens = .ok tokens) :
    parseText library text = parseTokens library tokens := by
  unfold parseText parseTokens
  rw [Session.ofText_eq_ofTokens library h]

/-! ### Scenes from texts and files -/

/-- What a scene is read from. -/
inductive Root
  | text (characters : List Char)
  | file (path : Path)

namespace Root

variable {library : Library} {root : Root} {scene : Scene}

/-- Reads a scene. -/
def parse [LinearAlgebra] (library : Library) : Root → Except (Report Fault) Scene
  | text characters => parseText library characters
  | file path => parseFile library path

/-- The tokens of the root, if it can be read and scanned to its end. -/
def tokens? (library : Library) : Root → Option (List Token)
  | text characters => (Scanner.ofText "<string>" characters).tokens.toOption
  | file path => library.tokens? path

/-- The directory that relative paths in the root are looked up in. -/
def directory (config : Config) : Root → Path
  | text _ => config.baseDirectory
  | file path => path.parent

/-- The session that has read a scene. -/
theorem exists_session [LinearAlgebra] (h : root.parse library = .ok scene) :
    ∃ s last : Session, s.Start ∧ s.library = library ∧ s.finish = .finished last ∧ last.scene = scene ∧
      s.stream.baseDirectory library.config = root.directory library.config ∧
      ∀ tokens, s.stream.top.cursor.Over tokens → root.tokens? library = some tokens := by
  cases root with
  | text characters =>
    obtain ⟨last, hfinish, hscene⟩ := Outcome.result_eq_ok h
    refine ⟨.ofText library characters, last, .text library characters, rfl, hfinish, hscene, rfl, ?_⟩
    intro tokens hover
    have hover' : (Cursor.ofText "<string>" characters).Over tokens := hover
    simp [tokens?, Cursor.over_ofText_iff.1 hover', Except.toOption]
  | file path =>
    obtain ⟨s, hs, hresult⟩ := bind_eq_ok.1 h
    obtain ⟨last, hfinish, hscene⟩ := Outcome.result_eq_ok hresult
    obtain ⟨stream, hstream, rfl⟩ := bind_pure_eq_ok.1 hs
    obtain ⟨text, htext, rfl⟩ := Stream.ofFile_eq_ok hstream
    refine ⟨_, last, .file hs, rfl, hfinish, hscene, rfl, ?_⟩
    intro tokens hover
    exact Library.tokens?_eq_some htext hover

/-- A scene can also be read from the tokens of the spliced text alone, with any files or none, and is the same up
to locations. -/
theorem parse_spliced [LinearAlgebra] (h : root.parse library = .ok scene) :
    ∃ tokens lexemes, root.tokens? library = some tokens ∧
      Spliced library (root.directory library.config) tokens lexemes ∧
      (∀ other, Spliced library (root.directory library.config) tokens other → other = lexemes) ∧
      (∀ l ∈ lexemes, l.IsPlain) ∧
      ∀ library' flat, flat.map (·.lexeme) = lexemes →
        ∃ scene', parseTokens library' flat = .ok scene' ∧ scene'.unlocated = scene.unlocated ∧
          ∀ text, (Scanner.ofText "<string>" text).tokens = .ok flat → parseText library' text = .ok scene' := by
  obtain ⟨s, last, hs, rfl, hfinish, rfl, hdirectory, htokens⟩ := exists_session h
  obtain ⟨lexemes, hremains, hreplays⟩ := Session.exists_replay hs.consistent hs.importsInWorld hfinish
  obtain ⟨hbelow, hclose⟩ := hs.frames
  obtain ⟨tokens, inner, outer, hover, hspliced, houter, rfl⟩ := hremains
  rw [hbelow] at houter
  obtain rfl : outer = [] := houter
  have hspliced' : Spliced s.library (root.directory s.library.config) tokens inner := by
    rw [← hdirectory]
    exact hspliced
  rw [hs.stage, hclose, closing, List.append_nil, List.append_nil] at hreplays
  refine ⟨tokens, inner, htokens tokens hover, hspliced', fun other => hspliced'.unique, hspliced'.isPlain, ?_⟩
  intro library' flat hflat
  obtain ⟨last', hfinish', hscene⟩ :=
    hreplays.finish (.ofTokens library' flat) ⟨rfl, ⟨flat, ⟨rfl, rfl⟩, hflat⟩, rfl⟩
  have hparse : parseTokens library' flat = .ok last'.scene := by
    unfold parseTokens
    rw [hfinish']
    rfl
  refine ⟨last'.scene, hparse, hscene, ?_⟩
  intro text htext
  rw [parseText_eq_parseTokens library' htext]
  exact hparse

end Root

/-! ### A scene with an import -/

namespace Root

attribute [local instance] LinearAlgebra.stepwise

/-- A library with one file, which holds a sphere. -/
def spheres : Library :=
  ⟨{ one_le_maxIncludeDepth := Config.one_le_defaultDepth },
    (FileTree.directory [("a", .file "Shape \"sphere\"".toUTF8.toList)]).fileSystem []⟩

def importing : List Token :=
  [⟨.identifier "WorldBegin", 1⟩, ⟨.identifier "Import", 1⟩, ⟨.quoted "a", 1⟩]

def sphere : List Token :=
  [⟨.identifier "Shape", 1⟩, ⟨.quoted "sphere", 1⟩]

/-- The session behind `WorldBegin`. -/
def inWorld : Session :=
  { Session.ofTokens spheres (importing.drop 1) with
    stage := { phase := .world, draft := { coordinateSystems := [("world", .both .identity)] } } }

/-- The session at the start of the imported file. -/
def inFile : Session where
  library := spheres
  stream :=
    { top :=
        { source := "a", path := some { names := ["a"] }, includeLine := some 1, onClose := some ⟨0, 0, none⟩,
          cursor := { items := sphere.map .token, stuck := none } },
      below := [(Session.ofTokens spheres []).stream.top] }
  stage := { inWorld.stage with scopes := { saved := [(.imported, {})], floor := 1 } }
  journal := [.opened { names := ["a"] } "<string>" 1, .imported { names := ["a"] }]

private theorem path_sphere : Path.ofString "a" = { names := ["a"] } := by
  cbv

private theorem readText_sphere :
    spheres.files.readText spheres.config { names := ["a"] } = .ok "Shape \"sphere\"".toList := by
  cbv

private theorem cursor_sphere :
    Cursor.ofText "a" "Shape \"sphere\"".toList = { items := sphere.map .token, stuck := none } := by
  cbv

private theorem openFile_sphere : (Session.ofTokens spheres []).stream.openFile spheres "a" (some 1)
    (some ⟨0, 0, none⟩) = .ok ({ names := ["a"] }, inFile.stream) := by
  have hresolve : (Session.ofTokens spheres []).stream.resolve spheres.config "a" = { names := ["a"] } := by
    rw [Stream.resolve_eq, path_sphere]
    rfl
  have htext : ({ names := ["a"] } : Path).toText = "a" := by
    cbv
  rw [Stream.openFile_of_checks (some 1) (some ⟨0, 0, none⟩) hresolve (by decide) rfl readText_sphere, Stream.push,
    htext, cursor_sphere]
  rfl

private theorem step_importing : ∃ e, inWorld.step = .moved e inFile := by
  have hcarry := Session.carryOut_of_opening (t := { inWorld with stream := (Session.ofTokens spheres []).stream })
    .importFile 1 (.importFile "a") rfl rfl openFile_sphere
  exact ⟨_, hcarry⟩

private theorem parse_importing :
    ∃ scene, (text "WorldBegin Import \"a\"".toList).parse spheres = .ok scene ∧
      scene.shapes.map (·.type) = ["sphere"] := by
  have htokens : (Scanner.ofText "<string>" "WorldBegin Import \"a\"".toList).tokens = .ok importing := by
    cbv
  have hworld : (Session.ofTokens spheres importing).step =
      .moved (.performed .worldBegin .worldBegin ⟨"<string>", 1⟩) inWorld := rfl
  obtain ⟨e, himport⟩ := step_importing
  have hlast : ((inFile.endWithin 4).map fun last => last.scene.shapes.map (·.type)) = some ["sphere"] := by
    decide +kernel
  obtain ⟨last, hend, hshapes⟩ := Option.map_eq_some_iff.1 hlast
  refine ⟨last.scene, ?_, hshapes⟩
  show parseText spheres _ = _
  rw [parseText_eq_parseTokens spheres htokens, parseTokens, Session.finish_of_moved hworld,
    Session.finish_of_moved himport, Session.finish_of_endWithin hend]
  rfl

/-- A sphere that is imported, and the spliced text. -/
theorem imported_sphere_spliced :
    ∃ scene, (text "WorldBegin Import \"a\"".toList).parse spheres = .ok scene ∧
      scene.shapes.map (·.type) = ["sphere"] ∧
      ∀ library' flat, flat.map (·.lexeme) = [.identifier "WorldBegin", .identifier "AttributeBegin",
          .identifier "Shape", .quoted "sphere", .identifier "AttributeEnd"] →
        ∃ scene', parseTokens library' flat = .ok scene' ∧ scene'.unlocated = scene.unlocated := by
  obtain ⟨scene, hparse, hshapes⟩ := parse_importing
  refine ⟨scene, hparse, hshapes, ?_⟩
  intro library' flat hflat
  obtain ⟨tokens, lexemes, htokens, _, hunique, _, hscene⟩ := parse_spliced hparse
  have htokens' : tokens? spheres (text "WorldBegin Import \"a\"".toList) = some importing := by
    cbv
  cases htokens.symm.trans htokens'
  have hfile : spheres.tokens? { names := ["a"] } = some sphere :=
    Library.tokens?_eq_some readText_sphere (cursor_sphere ▸ ⟨rfl, rfl⟩)
  have hpath : { names := ["a"] } = spheres.config.baseDirectory.join (.ofString "a") := by
    rw [path_sphere]
    rfl
  have hword : ∀ name : String, name ≠ "Include" → name ≠ "Import" → (Lexeme.identifier name).IsPlain :=
    fun name hinclude himport => ⟨by simpa using hinclude, by simpa using himport⟩
  have hsplice := hunique _ (.plain (hword _ (by decide) (by decide)) (.imported hpath hfile
    (.plain (hword _ (by decide) (by decide)) (.plain (Lexeme.isPlain_quoted _) .nil)) .nil))
  obtain ⟨scene', hparse', hsame, _⟩ := hscene library' flat (hflat.trans hsplice)
  exact ⟨scene', hparse', hsame⟩

end Root

end SceneDescription
