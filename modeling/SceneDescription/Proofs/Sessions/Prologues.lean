import SceneDescription.Proofs.Sessions.Twins
import SceneDescription.Proofs.Stages.World
import SceneDescription.Proofs.Tokens.Scanning
import SceneDescription.Transform.Elimination

/-!
# The world after two prologues

A prologue is a text that stays in the options.  What the world makes of a prologue is only what it leaves behind:
the coordinate systems it has named, the names of its media, and the active media.  Two prologues that leave the same
can be followed by the same worlds, and the scenes have the same shapes, lights, materials, textures, objects and
instances, up to locations (`world_after_prologues`).  The session on the first whole text and the session on the
second get to `WorldBegin` on their own, as the sessions on the prologues alone do; from there on they go in step.
-/

namespace SceneDescription

/-! ### Prologues -/

/-- The text stays in the options and leads to the stage. -/
def IsPrologue [LinearAlgebra] (library : Library) (text : List Char) (stage : Stage) : Prop :=
  ∃ last, (Session.ofText library text).finish = .finished last ∧ last.stage = stage ∧ stage.phase = .options

/-- The text with a world behind it. -/
def withWorld (prologue world : List Char) : List Char :=
  prologue ++ '\n' :: ("WorldBegin\n".toList ++ world)

namespace Session

variable {s s' : Session} {e : Event}

/-- As long as the world has not begun, it is untouched. -/
structure WorldAhead (s : Session) : Prop where
  imports : s.ImportsInWorld
  untouched : s.stage.phase = .options → s.stage.Untouched

theorem Start.worldAhead (h : s.Start) : s.WorldAhead where
  imports := h.importsInWorld
  untouched _ := by
    rw [h.stage]
    exact Stage.untouched_initial

variable [LinearAlgebra]

theorem Moves.worldAhead (hs : s.WorldAhead) (h : s.Moves e s') : s'.WorldAhead := by
  refine ⟨h.importsInWorld hs.imports, fun hoptions => ?_⟩
  cases h with
  | @performs t c₁ c₂ keyword d _ h =>
    have hbefore : s.stage.phase = .options := by
      cases hphase : s.stage.phase with
      | options => rfl
      | world => cases hoptions.symm.trans (Stage.execute_world h.execute hphase)
    have hallowed : keyword.allowedIn .options := hbefore ▸ h.phase
    have hd := prepares_readDirective ⟨keyword, t.line⟩ hallowed _ _ _ h.read
    exact (hs.untouched hbefore).execute hd h.execute hoptions
  | leaves h =>
    rcases h.stage with ⟨_, hstage⟩ | ⟨mark, hclose, hleave⟩
    · rw [hstage] at hoptions ⊢
      exact hs.untouched hoptions
    · -- an import has been left, so the world has begun
      have hworld : s.stage.phase = .world := by
        refine hs.imports ?_
        simp [openMarks, Stream.frames, hclose]
      obtain ⟨_, _, hstage⟩ := bind_pure_eq_ok.1 hleave
      rw [← hstage] at hoptions
      cases hworld.symm.trans hoptions

end Session

private theorem IsPrologue.options [LinearAlgebra] {library : Library} {text : List Char} {stage : Stage}
    (h : IsPrologue library text stage) : stage.phase = .options := by
  obtain ⟨_, _, _, hoptions⟩ := h
  exact hoptions

private theorem IsPrologue.untouched [LinearAlgebra] {library : Library} {text : List Char} {stage : Stage}
    (h : IsPrologue library text stage) : stage.Untouched := by
  obtain ⟨last, hfinish, rfl, hoptions⟩ := h
  have hahead := (Session.run_moments hfinish).1.invariant
    (fun _ _ _ hs hmoves => hmoves.worldAhead hs) (Session.Start.text library text).worldAhead
  exact hahead.untouched hoptions

/-! ### The tokens of the world -/

/-- The tokens of a prologue, and the line that a text behind it starts on. -/
private theorem IsPrologue.exists_tokens [LinearAlgebra] {library : Library} {text : List Char} {stage : Stage}
    (h : IsPrologue library text stage) : ∃ tokens line, (Cursor.ofText "<string>" text).Over tokens ∧
      ∀ later all, (Cursor.ofText "<string>" (text ++ '\n' :: later)).Over all ↔
        ∃ extra, all = tokens ++ extra ∧ (Scanner.mk "<string>" later line).scan = (extra.map .token, none) := by
  obtain ⟨last, hfinish, _⟩ := h
  obtain ⟨tokens, hover⟩ := Session.scanned_of_finish hfinish _ (List.mem_cons_self ..)
  obtain ⟨line, hline⟩ := Cursor.exists_line_ofText_append hover
  exact ⟨tokens, line, hover, hline⟩

/-- Before a world, the first token is its beginning. -/
private theorem head_of_worldBegin {source : String} {line : Nat} {world : List Char} {tokens : List Token}
    (h : (Scanner.mk source ("WorldBegin\n".toList ++ world) line).scan = (tokens.map .token, none)) :
    ∃ rest, tokens = ⟨.identifier "WorldBegin", line⟩ :: rest := by
  have hnext : (Scanner.mk source ("WorldBegin\n".toList ++ world) line).next =
      (.token ⟨.identifier "WorldBegin", line⟩, ⟨source, '\n' :: world, line⟩) := rfl
  rw [Scanner.scan, Scanner.scanOnto_eq, hnext] at h
  dsimp only at h
  rw [← List.nil_append [Item.token _], Scanner.scanOnto_append] at h
  obtain ⟨_, rest, rfl, ⟨⟩, _⟩ := List.map_eq_cons_iff.1 (Prod.mk.inj h).1.symm
  exact ⟨rest, rfl⟩

/-! ### From the prologue to the world -/

section

variable [LinearAlgebra]

/-- A session in a text that is not a file, in front of tokens. -/
structure Session.Facing (library : Library) (tokens : List Token) (s : Session) : Prop where
  lib : s.library = library
  alone : s.stream.below = []
  unnamed : s.stream.top.path = none
  ahead : s.stream.top.cursor.Over tokens

/-- A session on a prologue, and one on a text that goes on behind it. -/
def Pairing.continued (library : Library) (extra : List Token)
    (keyword : ∀ t, extra.head? = some t → ∃ name, t.lexeme = .identifier name) : Pairing where
  stages s t := s = t
  locations l l' := l = l'
  phase h := by rw [h]
  mark h := by rw [h]
  balanced h := by rw [h]
  execute := by
    rintro s _ s' l _ d rfl rfl h
    exact ⟨s', h, rfl⟩
  leaveImport := by
    rintro s _ s' mark rfl h
    exact ⟨s', h, rfl⟩
  library := library
  directory := library.config.baseDirectory
  path := none
  path' := none
  base := rfl
  extra := extra
  keyword := keyword
  inner _ := True
  locations_inner _ _ := rfl
  apart _ h := by cases h

/-- A session on a text that begins with a prologue gets to its end. -/
private theorem IsPrologue.exists_end {library : Library} {text whole : List Char} {stage : Stage}
    {tokens extra : List Token} (h : IsPrologue library text stage)
    (hover : (Cursor.ofText "<string>" text).Over tokens)
    (hwhole : (Cursor.ofText "<string>" whole).Over (tokens ++ extra))
    (hextra : ∀ t, extra.head? = some t → ∃ name, t.lexeme = .identifier name) :
    ∃ t : Session, (Session.ofText library whole).finish = t.finish ∧ t.Facing library extra ∧ t.stage = stage := by
  obtain ⟨last, hfinish, hstage, _⟩ := h
  have htwins : (Pairing.continued library extra hextra).Twins (.ofText library text) (.ofText library whole) := by
    refine ⟨rfl, rfl, .root ⟨tokens, tokens, hover, hwhole, ?_⟩ rfl rfl, rfl⟩
    exact List.forall₂_same.2 fun _ _ => ⟨rfl, rfl⟩
  obtain ⟨t, hsame, ht⟩ := htwins.exists_twin_of_finish hfinish fun _ _ _ _ _ => trivial
  obtain ⟨hbelow, hpath, hahead⟩ := ht.of_step_finished (Session.run_moments hfinish).2
  have hlast : last.stage = t.stage := ht.stages
  exact ⟨t, hsame, ⟨ht.library', hbelow, hpath, hahead⟩, hlast.symm.trans hstage⟩

/-- The world begins. -/
private theorem Session.Facing.worldBegin {library : Library} {token : Token} {tokens : List Token} {s : Session}
    (h : s.Facing library (token :: tokens)) (htoken : token.lexeme = .identifier "WorldBegin")
    (hoptions : s.stage.phase = .options) :
    ∃ (t : Session) (l : Location), s.finish = t.finish ∧ t.Facing library tokens ∧
      s.stage.execute l .worldBegin = .ok t.stage := by
  obtain ⟨c, htake, hc⟩ := Read.take_over h.ahead
  have hallowed : Keyword.worldBegin.allowedIn s.stage.phase := by
    rw [hoptions]
    rfl
  obtain ⟨e, t, hstep, hstage, hstream⟩ :=
    step_of_directive htake htoken rfl hallowed rfl rfl (d := .worldBegin) rfl
  refine ⟨t, ⟨s.stream.source, token.line⟩, finish_of_moved hstep, ⟨?_, ?_, ?_, ?_⟩, ?_⟩
  · rw [(moves_of_step hstep).library, h.lib]
  · rw [hstream]
    exact h.alone
  · rw [hstream]
    exact h.unnamed
  · rw [hstream]
    exact hc
  · rw [hstage]
    rfl

/-- A session on a prologue with a world behind it gets to the world. -/
private theorem IsPrologue.exists_worldBegin {library : Library} {text whole : List Char} {stage : Stage}
    {tokens rest : List Token} {token : Token} (h : IsPrologue library text stage)
    (hover : (Cursor.ofText "<string>" text).Over tokens)
    (hwhole : (Cursor.ofText "<string>" whole).Over (tokens ++ token :: rest))
    (htoken : token.lexeme = .identifier "WorldBegin") :
    ∃ (t : Session) (l : Location), (Session.ofText library whole).finish = t.finish ∧ t.Facing library rest ∧
      stage.execute l .worldBegin = .ok t.stage := by
  obtain ⟨s, hsame, hs, rfl⟩ := h.exists_end hover hwhole (by simp [htoken])
  obtain ⟨t, l, hbegin, ht, hexecute⟩ := hs.worldBegin htoken h.options
  exact ⟨t, l, hsame.trans hbegin, ht, hexecute⟩

/-! ### Two worlds -/

def StageRelation.sameWorld : StageRelation where
  stages := Stage.SameWorld
  locations _ _ := True
  phase h := h.phase
  mark h := h.mark
  balanced h := h.balanced
  execute h _ hexecute := h.execute _ hexecute
  leaveImport h hleave := h.leaveImport hleave

/-- Two sessions in the worlds behind two prologues. -/
def Pairing.worlds (library : Library) : Pairing where
  toStageRelation := .sameWorld
  library := library
  directory := library.config.baseDirectory
  path := none
  path' := none
  base := rfl
  extra := []
  keyword := keyword_nil
  inner _ := True
  locations_inner _ _ := trivial
  apart _ h := by cases h

private theorem Pairing.twins_worlds {library : Library} {tokens tokens' : List Token} {s t : Session}
    (hs : s.Facing library tokens) (ht : t.Facing library tokens')
    (htokens : tokens'.map (·.lexeme) = tokens.map (·.lexeme)) (hstages : s.stage.SameWorld t.stage) :
    (Pairing.worlds library).Twins s t := by
  refine ⟨hs.lib, ht.lib, ?_, hstages⟩
  rw [Stream.frames, hs.alone, Stream.frames, ht.alone]
  refine .root ⟨tokens, tokens', hs.ahead, ?_, ?_⟩ hs.unnamed ht.unnamed
  · exact (List.append_nil tokens').symm ▸ ht.ahead
  · have hlexemes : List.Forall₂ (· = ·) (tokens.map (·.lexeme)) (tokens'.map (·.lexeme)) := by
      rw [List.forall₂_eq_eq_eq, htokens]
    rw [List.forall₂_map_left_iff, List.forall₂_map_right_iff] at hlexemes
    exact hlexemes.imp fun _ _ heq => ⟨heq, trivial⟩

section Agreement

variable {library : Library} {prologue prologue' world : List Char} {stage stage' : Stage}

/-- A world that can be read behind one prologue can be read behind another one that leaves the same to it. -/
private theorem IsPrologue.exists_scene {scene : Scene} (h : IsPrologue library prologue stage)
    (h' : IsPrologue library prologue' stage') (hsame : stage.SameLegacy stage')
    (hscene : parseText library (withWorld prologue world) = .ok scene) :
    ∃ scene', parseText library (withWorld prologue' world) = .ok scene' ∧
      scene.world.unlocated = scene'.world.unlocated := by
  obtain ⟨last, hfinish, rfl⟩ := Outcome.result_eq_ok hscene
  obtain ⟨all, hall⟩ := Session.scanned_of_finish hfinish _ (List.mem_cons_self ..)
  obtain ⟨tokens, line, hover, hbehind⟩ := h.exists_tokens
  obtain ⟨tokens', line', hover', hbehind'⟩ := h'.exists_tokens
  -- the world is made of tokens, and they are the same behind the other prologue
  obtain ⟨extra, rfl, hextra⟩ := (hbehind _ _).1 hall
  obtain ⟨extra', hextra', hlexemes⟩ := Scanner.exists_tokens_on_line _ hextra line'
  have hall' := (hbehind' _ _).2 ⟨extra', rfl, hextra'⟩
  obtain ⟨rest, rfl⟩ := head_of_worldBegin hextra
  obtain ⟨first, rest', rfl, hfirst, hrest⟩ := List.map_eq_cons_iff.1 hlexemes
  -- both sessions get to the world, and go in step from there on
  obtain ⟨t, l, hbegin, ht, hexecute⟩ := h.exists_worldBegin hover hall rfl
  obtain ⟨t', l', hbegin', ht', hexecute'⟩ := h'.exists_worldBegin hover' hall' hfirst
  have hworlds := hsame.worldBegin h.untouched h'.untouched hexecute hexecute'
  obtain ⟨last', hfinish', hlast⟩ := (Pairing.twins_worlds ht ht' hrest hworlds).exists_finish rfl
    (hbegin.symm.trans hfinish) fun _ _ _ _ _ => trivial
  refine ⟨last'.scene, ?_, ?_⟩
  · rw [parseText, withWorld, hbegin', hfinish']
    rfl
  · have hdraft : last.stage.draft.world.unlocated = last'.stage.draft.world.unlocated :=
      congrArg (·.draft) hlast.world
    exact congrArg (·.toDeclarations) hdraft

/-- The options reach the world only through the coordinate systems they name, the names of their media and the
active media.  Behind two prologues that leave the same of these, a world can be read or not alike, and the two scenes
agree in all that the world is made of, up to locations. -/
theorem world_after_prologues (h : IsPrologue library prologue stage) (h' : IsPrologue library prologue' stage')
    (hsame : stage.SameLegacy stage') (world : List Char) :
    ((∃ scene, parseText library (withWorld prologue world) = .ok scene) ↔
      ∃ scene', parseText library (withWorld prologue' world) = .ok scene') ∧
    ∀ scene scene', parseText library (withWorld prologue world) = .ok scene →
      parseText library (withWorld prologue' world) = .ok scene' → scene.world.unlocated = scene'.world.unlocated := by
  refine ⟨⟨?_, ?_⟩, ?_⟩
  · rintro ⟨scene, hscene⟩
    obtain ⟨scene', hscene', _⟩ := h.exists_scene h' hsame hscene
    exact ⟨scene', hscene'⟩
  · rintro ⟨scene', hscene'⟩
    obtain ⟨scene, hscene, _⟩ := h'.exists_scene h hsame.symm hscene'
    exact ⟨scene, hscene⟩
  · intro scene scene' hscene hscene'
    obtain ⟨scene'', hscene'', heq⟩ := h.exists_scene h' hsame hscene
    cases hscene'.symm.trans hscene''
    exact heq

end Agreement

end

/-! ### A sphere in the fog -/

namespace Fog

attribute [local instance] LinearAlgebra.stepwise

def library : Library :=
  ⟨{ one_le_maxIncludeDepth := Config.one_le_defaultDepth }, (FileTree.directory []).fileSystem []⟩

/-- A prologue with a fog, behind which transformations move only the closing of the shutter. -/
def moving : List Char :=
  "MakeNamedMedium \"fog\" \"string type\" \"cloud\" MediumInterface \"fog\" ActiveTransform EndTime".toList

/-- A prologue with another fog and a film. -/
def filmed : List Char :=
  "Film \"rgb\" MakeNamedMedium \"fog\" \"string type\" \"homogeneous\" MediumInterface \"fog\"".toList

def sphere : List Char :=
  "MediumInterface \"fog\" \"\" Shape \"sphere\"".toList

/-- The tokens that make the fog and enter it. -/
def fog (type : String) : List Item :=
  [.token ⟨.identifier "MakeNamedMedium", 1⟩, .token ⟨.quoted "fog", 1⟩, .token ⟨.quoted "string type", 1⟩,
    .token ⟨.quoted type, 1⟩, .token ⟨.identifier "MediumInterface", 1⟩, .token ⟨.quoted "fog", 1⟩]

def motion : List Item :=
  [.token ⟨.identifier "ActiveTransform", 1⟩, .token ⟨.identifier "EndTime", 1⟩]

def film : List Item :=
  [.token ⟨.identifier "Film", 1⟩, .token ⟨.quoted "rgb", 1⟩]

/-- A session in a text that is not a file. -/
def reading (items : List Item) : Session where
  library := library
  stream := { top := { source := "<string>", path := none, cursor := { items, stuck := none } } }

private theorem exists_stage {text : List Char} {items : List Item} (times : Shutter Bool)
    (hcursor : Cursor.ofText "<string>" text = { items, stuck := none })
    (hend : ((reading items).endWithin 4).map (fun last =>
        (last.stage.phase, last.stage.draft.coordinateSystems.map (·.1), last.stage.draft.mediumNames,
          last.stage.active.mediumInterface, last.stage.active.activeTimes)) =
      some (.options, [], ["fog"], ⟨some "fog", some "fog"⟩, times)) :
    ∃ stage, IsPrologue library text stage ∧ stage.draft.coordinateSystems = [] ∧
      stage.draft.mediumNames = ["fog"] ∧ stage.active.mediumInterface = ⟨some "fog", some "fog"⟩ ∧
      stage.active.activeTimes = times := by
  obtain ⟨last, hlast, hstage⟩ := Option.map_eq_some_iff.1 hend
  simp only [Prod.mk.injEq, List.map_eq_nil_iff] at hstage
  obtain ⟨hoptions, hsystems, hnames, hmedia, htimes⟩ := hstage
  have hfinish : (Session.ofText library text).finish = .finished last := by
    rw [Session.ofText, Stream.ofText, hcursor]
    exact Session.finish_of_endWithin hlast
  exact ⟨last.stage, ⟨last, hfinish, rfl, hoptions⟩, hsystems, hnames, hmedia, htimes⟩

private theorem parse_moving : ∃ scene, parseText library (withWorld moving sphere) = .ok scene ∧
    scene.shapes.map (·.type) = ["sphere"] := by
  have hcursor : Cursor.ofText "<string>" (withWorld moving sphere) =
      { items := fog "cloud" ++ motion ++ [.token ⟨.identifier "WorldBegin", 2⟩,
          .token ⟨.identifier "MediumInterface", 3⟩, .token ⟨.quoted "fog", 3⟩, .token ⟨.quoted "", 3⟩,
          .token ⟨.identifier "Shape", 3⟩, .token ⟨.quoted "sphere", 3⟩],
        stuck := none } := by
    cbv
  rw [parseText, Session.ofText, Stream.ofText, hcursor]
  generalize hs : ({ library := _, stream := _ } : Session) = s
  have hlast : ((s.endWithin 7).map fun last => last.scene.shapes.map (·.type)) = some ["sphere"] := by
    subst hs
    decide +kernel
  obtain ⟨last, hend, hshapes⟩ := Option.map_eq_some_iff.1 hlast
  refine ⟨last.scene, ?_, hshapes⟩
  rw [Session.finish_of_endWithin hend]
  rfl

/-- A sphere in the fog, whatever the fog is made of and however the transformations are set up. -/
theorem sphere_after_prologues : ∃ stage stage' scene scene',
    IsPrologue library moving stage ∧ IsPrologue library filmed stage' ∧ stage.SameLegacy stage' ∧
      stage.active.activeTimes ≠ stage'.active.activeTimes ∧
      parseText library (withWorld moving sphere) = .ok scene ∧ scene.shapes.map (·.type) = ["sphere"] ∧
      parseText library (withWorld filmed sphere) = .ok scene' ∧
      scene.world.unlocated = scene'.world.unlocated := by
  have hmoving : Cursor.ofText "<string>" moving = { items := fog "cloud" ++ motion, stuck := none } := by cbv
  have hfilmed : Cursor.ofText "<string>" filmed = { items := film ++ fog "homogeneous", stuck := none } := by cbv
  obtain ⟨stage, h, hsystems, hnames, hmedia, htimes⟩ := exists_stage ⟨false, true⟩ hmoving (by decide +kernel)
  obtain ⟨stage', h', hsystems', hnames', hmedia', htimes'⟩ := exists_stage ⟨true, true⟩ hfilmed (by decide +kernel)
  have hsame : stage.SameLegacy stage' := by
    refine ⟨fun name _ => ?_, fun name => ?_, hmedia.trans hmedia'.symm⟩
    · rw [hsystems, hsystems']
    · rw [hnames, hnames']
  obtain ⟨hiff, hagree⟩ := world_after_prologues h h' hsame sphere
  obtain ⟨scene, hscene, hshapes⟩ := parse_moving
  obtain ⟨scene', hscene'⟩ := hiff.1 ⟨scene, hscene⟩
  refine ⟨stage, stage', scene, scene', h, h', hsame, ?_, hscene, hshapes, hscene', hagree _ _ hscene hscene'⟩
  rw [htimes, htimes']
  decide

end Fog

end SceneDescription
