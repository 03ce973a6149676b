import SceneDescription.Proofs.Sessions.Continuations
import SceneDescription.Proofs.Sessions.NameTables
import SceneDescription.Proofs.Sessions.ReportedLines
import SceneDescription.Proofs.Sessions.Twins
import SceneDescription.Proofs.Stages.Growth
import SceneDescription.Proofs.Tokens.Scanning
import SceneDescription.Transform.Elimination

/-!
# Texts behind texts

Where a text that can be read is followed by another one that begins with a keyword, the session on the whole passes
through the end of the session on the first text: a keyword looks to every reader like the end.  From there on
declarations are only added, and what there is one of is changed only by a directive that sets it
(`parseText_append_only`).
-/

namespace SceneDescription

/-! ### Reading in front of a keyword -/

/-- The tokens begin with a keyword, if there are any. -/
def BeginsDirective (tokens : List Token) : Prop :=
  ∀ t, tokens.head? = some t → ∃ name, t.lexeme = .identifier name

/-- A directive at the end of a text is read the same in front of a keyword. -/
private theorem readDirective_continued {keyword : Keyword} {line : Nat} {c c' : Cursor} {d : Directive}
    {tokens extra : List Token} (hextra : BeginsDirective extra) (hover : c.Over tokens)
    (h : readDirective ⟨keyword, line⟩ c = .ok d c') :
    readDirective ⟨keyword, line⟩ (c.continued (extra.map .token) none) =
      .ok d (c'.continued (extra.map .token) none) := by
  obtain ⟨_, taken, hitems, _, hagain⟩ := local_readDirective_of_any keyword line line c d c' h
  obtain ⟨rest, rfl, hrest⟩ := exists_rest_of_taken (hover.1.symm.trans hitems)
  have hfollows : Follows c'.items (rest ++ extra) := by
    cases rest with
    | nil => exact .inl hextra
    | cons t rest => exact .inr ⟨t, t, by rw [hrest]; rfl, rfl, rfl⟩
  have hover' : (c.continued (extra.map .token) none).Over (taken ++ (rest ++ extra)) := by
    refine ⟨?_, rfl⟩
    rw [Cursor.continued, hitems, hrest]
    simp
  obtain ⟨e, hread, he⟩ := hagain _ taken _ hover' rfl hfollows
  rw [hread]
  -- both cursors have taken the same tokens, so they stand on the same line
  have htraced := traced_readDirective ⟨keyword, line⟩
  obtain ⟨first, hfirst, _, hline⟩ := htraced.advances h
  obtain ⟨second, hsecond, _, hline'⟩ := htraced.advances hread
  obtain rfl : first = taken := taken_unique (hfirst.symm.trans hitems)
  have hitems' : e.items = (c'.continued (extra.map .token) none).items := by
    rw [he.1, Cursor.continued, hrest, List.map_append]
  have hboth : second.map .token ++ e.items = first.map .token ++ e.items := by
    rw [← hsecond, hitems', Cursor.continued, Cursor.continued, hitems, List.append_assoc]
  obtain rfl : second = first := taken_unique hboth
  have hsame : e = c'.continued (extra.map .token) none := by
    obtain ⟨items, stuck, lastLine⟩ := e
    exact (Cursor.mk.injEq ..).mpr ⟨hitems', he.2, hline'.trans hline.symm⟩
  rw [hsame]

namespace Session

variable {s s' last : Session} {event : Event} {moments : List Moment}

/-- A step in a text of tokens is the same if a keyword comes behind the text. -/
theorem Moves.readsAlike [LinearAlgebra] {extra : List Token} (h : s.Moves event s') (hs : s.Scanned)
    (hextra : BeginsDirective extra) : s.ReadsAlike (extra.map .token) none := by
  intro hbelow
  cases h with
  | leaves h => cases hbelow.symm.trans h.around
  | @performs t c₁ c₂ keyword d _ h =>
    obtain ⟨name, hlexeme, hname⟩ := h.named
    obtain ⟨tokens, hover⟩ := hs s.stream.top (List.mem_cons_self ..)
    obtain ⟨more, _, hover₁⟩ := h.exists_tail hover
    have hnext := Phase.readNext_of_readDirective h.take hlexeme hname h.phase h.read
    have hnext' := Phase.readNext_of_readDirective (Read.take_continued h.take (extra.map .token) none) hlexeme hname
      h.phase (readDirective_continued hextra hover₁ h.read)
    rw [hnext, hnext']
    refine ⟨fun c hnone => ?_, rfl⟩
    cases hnone

/-- A session that finishes runs the same with a keyword behind its text, up to there. -/
theorem run_continued [LinearAlgebra] {extra : List Token} (h : s.finish = .finished last)
    (hextra : BeginsDirective extra) : Run (s.continued (extra.map .token) none)
    (s.moments.map (continuedMoment (extra.map .token) none)) (last.continued (extra.map .token) none) := by
  have hrun := (run_moments h).1
  refine hrun.continued fun m hm => ?_
  obtain ⟨earlier, later, hmoments⟩ := List.append_of_mem hm
  rw [hmoments] at hrun
  obtain ⟨hfirst, _, hmoves, _⟩ := hrun.split
  have hbefore : m.before.finish = .finished last := hfirst.finish_eq.symm.trans h
  exact hmoves.readsAlike (scanned_of_finish hbefore) hextra

end Session

/-- Behind a text of tokens, a text that begins with a keyword begins with it as well. -/
private theorem Cursor.exists_ofText_append {source : String} {text later : List Char} {tokens all : List Token}
    {name : String} {line : Nat} {rest : List Item} (hover : (ofText source text).Over tokens)
    (hall : (ofText source (text ++ '\n' :: later)).Over all) (hmark : later.head? ≠ some '\ufeff')
    (hfirst : (ofText source later).items = .token ⟨.identifier name, line⟩ :: rest) :
    ∃ extra, BeginsDirective extra ∧
      ofText source (text ++ '\n' :: later) = (ofText source text).continued (extra.map .token) none ∧
      (extra.map Item.token).map Item.unlined = (ofText source later).items.map Item.unlined := by
  obtain ⟨line', hline⟩ := exists_line_ofText_append hover
  obtain ⟨extra, rfl, hextra⟩ := (hline later all).1 hall
  -- on the first line, the later text has the same lexemes
  obtain ⟨alone, halone, hlexemes⟩ := Scanner.exists_tokens_on_line source hextra 1
  have hscanner : Scanner.ofText source later = ⟨source, later, 1⟩ := by
    unfold Scanner.ofText
    rw [if_neg hmark]
  have hitems : (ofText source later).items = alone.map .token := by
    unfold ofText
    rw [hscanner, halone]
  refine ⟨extra, ?_, ?_, ?_⟩
  · rw [hitems] at hfirst
    obtain ⟨first, alone, rfl, hitem, _⟩ := List.map_eq_cons_iff.1 hfirst
    cases hitem
    intro t ht
    obtain ⟨extra, rfl⟩ := List.head?_eq_some_iff.1 ht
    rw [List.map_cons, List.map_cons, List.cons.injEq] at hlexemes
    exact ⟨name, hlexemes.1.symm⟩
  · rw [continued, hover.1, ← List.map_append, ← hall.1, ← hall.2]
    rfl
  · have hunlined : ∀ tokens : List Token, (tokens.map Item.token).map Item.unlined =
        (tokens.map (·.lexeme)).map fun lexeme => .token ⟨lexeme, 0⟩ := by
      intro tokens
      rw [List.map_map, List.map_map]
      rfl
    rw [hitems, hunlined, hunlined, hlexemes]

/-! ### From the cut on -/

/-- The slot that an event sets. -/
def Event.sets? : Event → Option Slot
  | .performed _ d _ => d.sets?
  | .left _ _ => none

namespace Session

variable {s s' : Session} {event : Event} {moments : List Moment}

private theorem Run.precedes [LinearAlgebra] (h : Run s moments s') : s.scene.Precedes s'.scene.toDeclarations := by
  refine h.invariant (P := fun t => s.scene.Precedes t.scene.toDeclarations) ?_ (.refl _)
  intro t event t' ht hmoves
  cases hmoves with
  | performs h => exact ht.trans (Stage.execute_precedes h.execute)
  | leaves h =>
    have hscene : t'.scene = t.scene := congrArg Draft.scene h.draft
    rwa [hscene]

private theorem Run.sameAt [LinearAlgebra] {slot : Slot} (h : Run s moments s')
    (hslot : ∀ m ∈ moments, m.event.sets? ≠ some slot) : s.scene.SameAt s'.scene slot := by
  induction h with
  | nil s => cases slot <;> rfl
  | @cons s s₁ s' event moments hstep _ ih =>
    obtain ⟨hfirst, hrest⟩ := List.forall_mem_cons.1 hslot
    refine Scene.SameAt.trans ?_ (ih hrest)
    cases moves_of_step hstep with
    | performs h => exact Stage.execute_sameAt h.execute hfirst
    | leaves h =>
      rw [scene, scene, h.draft]
      cases slot <;> rfl

end Session

/-- Declarations are only added.  Let a text be read, and also the same text with another one behind it that begins
with a keyword and has no byte-order mark.  Then every list of the first scene is the beginning of that list in the
second one, and what has been declared under a name stays.  The session on the whole comes by the scene of the first
text, behind the same events, with the other text still to be read; and what a scene has one of is the same in both,
if no later event sets it. -/
theorem parseText_append_only [LinearAlgebra] {library : Library} {text later : List Char} {scene scene' : Scene}
    {name : String} {line : Nat} {rest : List Item} (h : parseText library text = .ok scene)
    (hfirst : (Cursor.ofText "<string>" later).items = .token ⟨.identifier name, line⟩ :: rest)
    (hmark : later.head? ≠ some '\ufeff') (h' : parseText library (text ++ '\n' :: later) = .ok scene') :
    scene.Precedes scene'.toDeclarations ∧ scene.KeepsNames scene'.toDeclarations ∧
    ∃ earlier cut, Session.Run (.ofText library (text ++ '\n' :: later)) earlier cut ∧
      earlier.map (·.event) = (Session.ofText library text).moments.map (·.event) ∧
      cut.scene = scene ∧ cut.stream.below = [] ∧
      cut.stream.top.cursor.items.map Item.unlined = (Cursor.ofText "<string>" later).items.map Item.unlined ∧
      cut.finish.result = .ok scene' ∧
      ∀ slot, (∀ m ∈ cut.moments, m.event.sets? ≠ some slot) → scene.SameAt scene' slot := by
  obtain ⟨last, hfinish, rfl⟩ := Outcome.result_eq_ok h
  obtain ⟨last', hfinish', rfl⟩ := Outcome.result_eq_ok h'
  obtain ⟨tokens, hover⟩ := Session.scanned_of_finish hfinish _ (List.mem_cons_self ..)
  obtain ⟨all, hall⟩ := Session.scanned_of_finish hfinish' _ (List.mem_cons_self ..)
  obtain ⟨extra, hextra, hcursor, hunlined⟩ := Cursor.exists_ofText_append hover hall hmark hfirst
  have hstart : Session.ofText library (text ++ '\n' :: later) =
      (Session.ofText library text).continued (extra.map .token) none := by
    unfold Session.ofText Stream.ofText
    rw [hcursor]
    rfl
  -- the session on the whole gets to the end of the first text
  have hrun := Session.run_continued hfinish hextra
  rw [← hstart] at hrun
  obtain ⟨hbelow, ⟨c, htake⟩, _⟩ := Session.of_step_finished (Session.run_moments hfinish).2
  obtain ⟨hnil, _⟩ := Read.over_of_take_none htake
  have hcut : (last.continued (extra.map .token) none).finish = .finished last' :=
    hrun.finish_eq.symm.trans hfinish'
  have hrest := (Session.run_moments hcut).1
  have hprecedes : last.scene.Precedes last'.scene.toDeclarations := hrest.precedes
  have hdistinct := ((Session.run_moments hfinish).1.wellNamed (Session.Start.text library text).wellNamed).distinct
  have hdistinct' := ((Session.run_moments hfinish').1.wellNamed (Session.Start.text library _).wellNamed).distinct
  refine ⟨hprecedes, hprecedes.keepsNames hdistinct hdistinct', _, _, hrun, ?_, rfl, ?_, ?_, ?_,
    fun slot hslot => hrest.sameAt hslot⟩
  · rw [List.map_map]
    rfl
  · simp only [Session.continued, Stream.continued, hbelow]
  · rw [← hunlined]
    simp only [Session.continued, Stream.continued, hbelow]
    simp [Frame.continued, Cursor.continued, hnil]
  · rw [hcut]
    rfl

namespace DiskBehindSphere

attribute [local instance] LinearAlgebra.stepwise

/-- A text that ends in a comment, in which a name is given and a sphere declared. -/
def sphere : List Char :=
  "WorldBegin\nMakeNamedMaterial \"red\" \"string type\" \"diffuse\"\nShape \"sphere\" # the end".toList

def disk : List Char :=
  "Shape \"disk\"".toList

def tokens : List Token :=
  [⟨.identifier "WorldBegin", 1⟩, ⟨.identifier "MakeNamedMaterial", 2⟩, ⟨.quoted "red", 2⟩,
    ⟨.quoted "string type", 2⟩, ⟨.quoted "diffuse", 2⟩, ⟨.identifier "Shape", 3⟩, ⟨.quoted "sphere", 3⟩]

private theorem parse_shapes {text : List Char} {all : List Token} (types : List String)
    (h : (Scanner.ofText "<string>" text).tokens = .ok all)
    (hend : ((Session.ofTokens .withoutFiles all).endWithin 5).map
      (fun last => (last.scene.shapes.map (·.type), last.scene.materialNames)) = some (types, ["red"])) :
    ∃ scene, parseText .withoutFiles text = .ok scene ∧ scene.shapes.map (·.type) = types ∧
      scene.materialNames = ["red"] := by
  obtain ⟨last, hlast, hscene⟩ := Option.map_eq_some_iff.1 hend
  obtain ⟨hshapes, hnames⟩ := Prod.mk.inj hscene
  refine ⟨last.scene, ?_, hshapes, hnames⟩
  rw [parseText_eq_parseTokens _ h, parseTokens, Session.finish_of_endWithin hlast]
  rfl

/-- A disk behind the sphere leaves the sphere and the named material as they are. -/
theorem disk_added : ∃ scene scene',
    parseText .withoutFiles sphere = .ok scene ∧ parseText .withoutFiles (sphere ++ '\n' :: disk) = .ok scene' ∧
      scene.shapes.map (·.type) = ["sphere"] ∧ scene'.shapes.map (·.type) = ["sphere", "disk"] ∧
      scene.shapes <+: scene'.shapes ∧ scene.materialNames = ["red"] ∧
      ∀ material, scene.material? "red" = some material → scene'.material? "red" = some material := by
  have h : (Scanner.ofText "<string>" sphere).tokens = .ok tokens := by cbv
  have h' : (Scanner.ofText "<string>" (sphere ++ '\n' :: disk)).tokens =
      .ok (tokens ++ [⟨.identifier "Shape", 4⟩, ⟨.quoted "disk", 4⟩]) := by cbv
  have hfirst : (Cursor.ofText "<string>" disk).items =
      [.token ⟨.identifier "Shape", 1⟩, .token ⟨.quoted "disk", 1⟩] := by cbv
  obtain ⟨scene, hscene, hshapes, hnames⟩ := parse_shapes ["sphere"] h (by decide +kernel)
  obtain ⟨scene', hscene', hshapes', _⟩ := parse_shapes ["sphere", "disk"] h' (by decide +kernel)
  obtain ⟨hprecedes, hkeeps, _⟩ := parseText_append_only hscene hfirst (by decide) hscene'
  exact ⟨scene, scene', hscene, hscene', hshapes, hshapes', hprecedes.shapes, hnames, hkeeps.materials "red"⟩

end DiskBehindSphere

end SceneDescription
