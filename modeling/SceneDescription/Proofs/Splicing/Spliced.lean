import SceneDescription.Proofs.Splicing.Locality
import SceneDescription.Session

/-!
# Splicing files into their places

`Spliced` relates the tokens of a text to the lexemes of the one text that comes about when every included file is
put in its place, and every imported one too, between `AttributeBegin` and `AttributeEnd`, and so on in these
files.  There is at most one such text (`Spliced.unique`), and it opens no files (`Spliced.isPlain`).  `Remains`
says the same of what is still to come in a stack of open texts.
-/

namespace SceneDescription

/-! ### Tokens of texts and files -/

private theorem Item.tokens_of_findSome? {items : List Item} (h : items.findSome? Item.fault? = none) :
    items = (items.filterMap Item.token?).map .token := by
  induction items with
  | nil => rfl
  | cons item items ih =>
    cases item with
    | token t =>
      have hrest := ih (by simpa [Item.fault?] using h)
      simpa [Item.token?] using hrest
    | malformed r => simp [Item.fault?] at h

/-- A text can be scanned to its end if and only if a cursor finds nothing but tokens in it. -/
theorem Cursor.over_ofText_iff {source : String} {text : List Char} {tokens : List Token} :
    (Cursor.ofText source text).Over tokens ↔ (Scanner.ofText source text).tokens = .ok tokens := by
  simp only [Over, Cursor.ofText, Scanner.tokens]
  obtain ⟨items, stuck⟩ := (Scanner.ofText source text).scan
  dsimp only
  constructor
  · rintro ⟨rfl, rfl⟩
    have hfault : (tokens.map Item.token).findSome? Item.fault? = none := by simp [Item.fault?]
    have htokens : (tokens.map Item.token).filterMap Item.token? = tokens := by
      rw [List.filterMap_map]
      exact List.filterMap_some
    simp [hfault, htokens]
  · intro h
    cases hfault : items.findSome? Item.fault? with
    | some r => simp [hfault] at h
    | none =>
      cases stuck with
      | some r => simp [hfault] at h
      | none =>
        have htokens : items.filterMap Item.token? = tokens := by simpa [hfault] using h
        exact ⟨htokens ▸ Item.tokens_of_findSome? hfault, rfl⟩

theorem Cursor.over_ofText {source : String} {text : List Char} {tokens : List Token}
    (h : (Scanner.ofText source text).tokens.toOption = some tokens) : (Cursor.ofText source text).Over tokens := by
  cases hscan : (Scanner.ofText source text).tokens with
  | error r =>
    rw [hscan] at h
    cases h
  | ok found =>
    rw [hscan] at h
    cases h
    exact over_ofText_iff.2 hscan

/-- The tokens of a file, if it can be read and scanned to its end. -/
def Library.tokens? (library : Library) (path : Path) : Option (List Token) :=
  match library.files.readText library.config path with
  | .error _ => none
  | .ok text => (Scanner.ofText path.toText text).tokens.toOption

theorem Library.tokens?_eq_some {library : Library} {path : Path} {text : List Char} {tokens : List Token}
    (htext : library.files.readText library.config path = .ok text)
    (hover : (Cursor.ofText path.toText text).Over tokens) : library.tokens? path = some tokens := by
  unfold tokens?
  rw [htext]
  dsimp only
  rw [Cursor.over_ofText_iff.1 hover]
  rfl

/-! ### The spliced text -/

/-- The lexemes of a text after splicing; relative paths in it are looked up in the directory. -/
inductive Spliced (library : Library) : Path → List Token → List Lexeme → Prop
  | nil {directory : Path} : Spliced library directory [] []
  | plain {directory : Path} {t : Token} {tokens : List Token} {rest : List Lexeme} (hplain : t.lexeme.IsPlain)
      (hrest : Spliced library directory tokens rest) : Spliced library directory (t :: tokens) (t.lexeme :: rest)
  | included {directory path : Path} {relative : String} {line line' : Nat} {tokens file : List Token}
      {inner rest : List Lexeme} (hpath : path = directory.join (.ofString relative))
      (hfile : library.tokens? path = some file) (hinner : Spliced library path.parent file inner)
      (hrest : Spliced library directory tokens rest) :
      Spliced library directory (⟨.identifier "Include", line⟩ :: ⟨.quoted relative, line'⟩ :: tokens)
        (inner ++ rest)
  | imported {directory path : Path} {relative : String} {line line' : Nat} {tokens file : List Token}
      {inner rest : List Lexeme} (hpath : path = directory.join (.ofString relative))
      (hfile : library.tokens? path = some file) (hinner : Spliced library path.parent file inner)
      (hrest : Spliced library directory tokens rest) :
      Spliced library directory (⟨.identifier "Import", line⟩ :: ⟨.quoted relative, line'⟩ :: tokens)
        (.identifier "AttributeBegin" :: inner ++ .identifier "AttributeEnd" :: rest)

namespace Spliced

variable {library : Library} {directory : Path} {tokens : List Token} {lexemes : List Lexeme}

/-- The spliced text opens no files. -/
theorem isPlain (h : Spliced library directory tokens lexemes) : ∀ l ∈ lexemes, l.IsPlain := by
  induction h with
  | nil => simp
  | plain hplain _ ih =>
    intro l hl
    rcases List.mem_cons.1 hl with rfl | hl
    · exact hplain
    · exact ih l hl
  | included _ _ _ _ ihinner ihrest =>
    intro l hl
    rcases List.mem_append.1 hl with hl | hl
    · exact ihinner l hl
    · exact ihrest l hl
  | imported _ _ _ _ ihinner ihrest =>
    intro l hl
    rcases List.mem_append.1 hl with hl | hl
    · rcases List.mem_cons.1 hl with rfl | hl
      · exact ⟨by decide, by decide⟩
      · exact ihinner l hl
    · rcases List.mem_cons.1 hl with rfl | hl
      · exact ⟨by decide, by decide⟩
      · exact ihrest l hl

/-- There is at most one spliced text. -/
theorem unique {other : List Lexeme} (h : Spliced library directory tokens lexemes)
    (hother : Spliced library directory tokens other) : other = lexemes := by
  induction h generalizing other with
  | nil =>
    cases hother
    rfl
  | plain hplain _ ih =>
    cases hother with
    | plain _ hrest => rw [ih hrest]
    | included _ _ _ _ => exact absurd rfl hplain.1
    | imported _ _ _ _ => exact absurd rfl hplain.2
  | included hpath hfile _ _ ihinner ihrest =>
    -- the keyword is made a variable, so that the other two rules can be told apart from this one
    generalize hname : "Include" = name at hother
    cases hother with
    | plain hplain _ => exact absurd (hname ▸ rfl) hplain.1
    | imported _ _ _ _ => exact absurd hname (by decide)
    | included hpath' hfile' hinner hrest =>
      subst hpath hpath'
      cases hfile.symm.trans hfile'
      rw [ihinner hinner, ihrest hrest]
  | imported hpath hfile _ _ ihinner ihrest =>
    generalize hname : "Import" = name at hother
    cases hother with
    | plain hplain _ => exact absurd (hname ▸ rfl) hplain.2
    | included _ _ _ _ => exact absurd hname (by decide)
    | imported hpath' hfile' hinner hrest =>
      subst hpath hpath'
      cases hfile.symm.trans hfile'
      rw [ihinner hinner, ihrest hrest]

/-- Plain tokens are kept. -/
theorem append {taken : List Token} (hplain : ∀ t ∈ taken, t.lexeme.IsPlain)
    (h : Spliced library directory tokens lexemes) :
    Spliced library directory (taken ++ tokens) (taken.map (·.lexeme) ++ lexemes) := by
  induction taken with
  | nil => exact h
  | cons t taken ih =>
    have hrest := ih fun u hu => hplain u (List.mem_cons_of_mem t hu)
    exact .plain (hplain t List.mem_cons_self) hrest

end Spliced

/-! ### What remains of open texts -/

/-- What the end of a text stands for: the end of the attribute scope, if the text is imported and has a mark. -/
def closing : Option Mark → List Lexeme
  | some _ => [.identifier "AttributeEnd"]
  | none => []

/-- The lexemes that are still to come from the open texts, innermost first, after splicing. -/
def Remains (library : Library) : List (Frame Mark) → List Lexeme → Prop
  | [], lexemes => lexemes = []
  | frame :: below, lexemes => ∃ tokens inner outer, frame.cursor.Over tokens ∧
      Spliced library ((Stream.mk frame below).baseDirectory library.config) tokens inner ∧
      Remains library below outer ∧ lexemes = inner ++ closing frame.onClose ++ outer

end SceneDescription
