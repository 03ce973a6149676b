import Mathlib
import SceneDescription.Parameter.Decode

/-!
# Reading the same operands elsewhere

A reader that succeeds has taken some tokens, and it would succeed with the same result in front of any other text,
as long as that text starts like the old one, or with a keyword, or is empty: no reader looks further than one token
ahead, and a keyword looks to it like the end.  `Local` puts this into a form that goes through sequences of
readers.  Lines do not matter for a reader that succeeds.
-/

namespace SceneDescription

/-- Not a keyword that opens a file. -/
def Lexeme.IsPlain (l : Lexeme) : Prop :=
  l ≠ .identifier "Include" ∧ l ≠ .identifier "Import"

/-- Whether a lexeme opens a bracket. -/
def Lexeme.opensBracket : Lexeme → Bool
  | .leftBracket => true
  | _ => false

/-- Whether a lexeme is a quoted string. -/
def Lexeme.isQuoted : Lexeme → Bool
  | .quoted _ => true
  | _ => false

/-- A cursor in front of tokens, behind which the text ends without a fault. -/
def Cursor.Over (c : Cursor) (tokens : List Token) : Prop :=
  c.items = tokens.map .token ∧ c.stuck = none

/-- The tokens may come in place of the items: they start with a keyword, or like the items, or there are none. -/
def Follows (items : List Item) (tokens : List Token) : Prop :=
  (∀ t, tokens.head? = some t → ∃ name, t.lexeme = .identifier name) ∨
    ∃ t t', items.head? = some (.token t) ∧ tokens.head? = some t' ∧ t'.lexeme = t.lexeme

/-- When the first reader succeeds, its result is as `P` says, it has taken plain tokens only, and the second reader
gives the same result on any tokens with the same lexemes, whatever may come behind them. -/
def Local {α : Type} (P : α → Prop) (m m' : Read α) : Prop :=
  ∀ c a c', m c = .ok a c' → P a ∧ ∃ taken : List Token, c.items = taken.map .token ++ c'.items ∧
    (∀ t ∈ taken, t.lexeme.IsPlain) ∧
    ∀ e tokens rest, e.Over (tokens ++ rest) → tokens.map (·.lexeme) = taken.map (·.lexeme) →
      Follows c'.items rest → ∃ e', m' e = .ok a e' ∧ e'.Over rest

variable {α β : Type} {P : α → Prop} {Q : β → Prop}

namespace Lexeme

theorem isPlain_quoted (content : String) : (quoted content).IsPlain :=
  ⟨by simp, by simp⟩

theorem isPlain_number (numeral : Numeral) : (number numeral).IsPlain :=
  ⟨by simp, by simp⟩

theorem isPlain_leftBracket : leftBracket.IsPlain :=
  ⟨by simp, by simp⟩

theorem isPlain_rightBracket : rightBracket.IsPlain :=
  ⟨by simp, by simp⟩

theorem isPlain_of_isValue {l : Lexeme} (h : l.isValue) : l.IsPlain := by
  cases l with
  | identifier name =>
    simp only [isValue, Bool.or_eq_true, decide_eq_true_eq] at h
    rcases h with rfl | rfl <;> exact ⟨by decide, by decide⟩
  | quoted content => exact isPlain_quoted content
  | number numeral => exact isPlain_number numeral
  | leftBracket => exact isPlain_leftBracket
  | rightBracket => exact isPlain_rightBracket

end Lexeme

/-- In front of tokens that have been taken, the same lexemes come first. -/
private theorem Follows.append {items : List Item} {taken tokens rest : List Token} (h : Follows items rest)
    (htokens : tokens.map (·.lexeme) = taken.map (·.lexeme)) :
    Follows (taken.map .token ++ items) (tokens ++ rest) := by
  cases taken with
  | nil =>
    obtain rfl : tokens = [] := List.map_eq_nil_iff.1 htokens
    exact h
  | cons t taken =>
    cases tokens with
    | nil => cases htokens
    | cons t' tokens =>
      rw [List.map_cons, List.map_cons, List.cons.injEq] at htokens
      exact .inr ⟨t, t', rfl, rfl, htokens.1⟩

/-- A look ahead that finds nothing in the items, and takes a keyword for nothing, finds nothing in the tokens. -/
private theorem Follows.any_head_eq_false {items : List Item} {tokens : List Token} {test : Lexeme → Bool}
    (h : Follows items tokens) (hkeyword : ∀ name, test (.identifier name) = false)
    (hitems : ∀ t, items.head? = some (.token t) → test t.lexeme = false) :
    tokens.head?.any (test ·.lexeme) = false := by
  rcases h with hname | ⟨t, t', ht, ht', hlexeme⟩
  · cases hhead : tokens.head? with
    | none => rfl
    | some t =>
      obtain ⟨name, hname⟩ := hname t hhead
      rw [Option.any_some, hname, hkeyword]
  · rw [ht', Option.any_some, hlexeme]
    exact hitems t ht

theorem map_token_inj {tokens tokens' : List Token} (h : tokens.map Item.token = tokens'.map .token) :
    tokens = tokens' :=
  (List.map_inj_right fun _ _ heq => Item.token.inj heq).1 h

theorem taken_unique {taken taken' : List Token} {items : List Item}
    (h : taken'.map .token ++ items = taken.map .token ++ items) : taken' = taken :=
  map_token_inj (List.append_cancel_right h)

/-- Where some of the tokens have been taken, tokens remain. -/
theorem exists_rest_of_taken {tokens taken : List Token} {items : List Item}
    (h : tokens.map Item.token = taken.map .token ++ items) :
    ∃ rest, tokens = taken ++ rest ∧ items = rest.map .token := by
  obtain ⟨first, rest, rfl, hfirst, hrest⟩ := List.map_eq_append_iff.1 h
  rw [map_token_inj hfirst]
  exact ⟨rest, rfl, hrest.symm⟩

/-- When at least one token has been taken, the first one is the one that a look ahead has seen. -/
private theorem exists_head_of_taken {items items' : List Item} {taken tokens : List Token} {t : Token}
    (hitems : items = taken.map .token ++ items') (hless : items'.length < items.length)
    (hhead : items.head? = some (.token t)) (htokens : tokens.map (·.lexeme) = taken.map (·.lexeme)) :
    ∃ t' more, tokens = t' :: more ∧ t'.lexeme = t.lexeme := by
  subst hitems
  cases taken with
  | nil => exact absurd hless (Nat.lt_irrefl _)
  | cons u taken =>
    cases hhead
    cases tokens with
    | nil => cases htokens
    | cons t' more =>
      rw [List.map_cons, List.map_cons, List.cons.injEq] at htokens
      exact ⟨t', more, rfl, htokens.1⟩

namespace Read

/-! ### Results of composed readers -/

theorem bind_apply (m : Read α) (f : α → Read β) (c : Cursor) :
    (m >>= f) c = match m c with
      | .ok a c' => f a c'
      | .error r c' => .error r c' := by
  show EStateM.bind m f c = _
  unfold EStateM.bind
  cases m c <;> rfl

theorem bind_ok {m : Read α} {f : α → Read β} {c c' : Cursor} {b : β} :
    (m >>= f) c = .ok b c' ↔ ∃ a c₁, m c = .ok a c₁ ∧ f a c₁ = .ok b c' := by
  show EStateM.bind m f c = _ ↔ _
  unfold EStateM.bind
  cases m c with
  | error r c₁ => simp
  | ok a c₁ =>
    constructor
    · intro h
      exact ⟨a, c₁, rfl, h⟩
    · rintro ⟨_, _, ⟨rfl, rfl⟩, h⟩
      exact h

theorem map_ok {m : Read α} {f : α → β} {c c' : Cursor} {b : β} :
    (f <$> m) c = .ok b c' ↔ ∃ a, m c = .ok a c' ∧ f a = b := by
  show EStateM.map f m c = _ ↔ _
  unfold EStateM.map
  cases m c with
  | error r c₁ => simp
  | ok a c₁ =>
    simp only [EStateM.Result.ok.injEq]
    constructor
    · rintro ⟨rfl, rfl⟩
      exact ⟨a, ⟨rfl, rfl⟩, rfl⟩
    · rintro ⟨_, ⟨rfl, rfl⟩, rfl⟩
      exact ⟨rfl, rfl⟩

theorem fail_ne_ok (f : Fault) (line : Option Nat) {c c' : Cursor} {a : α} : fail f line c ≠ .ok a c' := by
  intro h
  simp [fail, throw, throwThe, MonadExceptOf.throw, EStateM.throw] at h

theorem take_some {c c' : Cursor} {t : Token} (h : take c = .ok (some t) c') :
    c.items = .token t :: c'.items ∧ c'.stuck = c.stuck := by
  obtain ⟨_ | ⟨_ | _, rest⟩, stuck, line⟩ := c
  · cases stuck <;> simp [take] at h
  · cases h
    exact ⟨rfl, rfl⟩
  · simp [take] at h

theorem take_of_items {c : Cursor} {t : Token} {rest : List Item} (h : c.items = .token t :: rest) :
    ∃ c', take c = .ok (some t) c' ∧ c'.items = rest := by
  obtain ⟨items, stuck, lastLine⟩ := c
  cases h
  exact ⟨_, rfl, rfl⟩

theorem take_over {e : Cursor} {t : Token} {tokens : List Token} (h : e.Over (t :: tokens)) :
    ∃ e', take e = .ok (some t) e' ∧ e'.Over tokens := by
  obtain ⟨items, stuck, line⟩ := e
  obtain ⟨rfl, rfl⟩ := h
  exact ⟨_, rfl, rfl, rfl⟩

theorem peek_eq_head {c c' : Cursor} {t : Option Token} (h : peek c = .ok t c') :
    c' = c ∧ c.items.head? = t.map .token := by
  obtain ⟨_ | ⟨_ | _, rest⟩, stuck, line⟩ := c
  · cases stuck with
    | some r => cases h
    | none =>
      cases h
      exact ⟨rfl, rfl⟩
  · cases h
    exact ⟨rfl, rfl⟩
  · cases h

theorem peek_over {e : Cursor} {tokens : List Token} (h : e.Over tokens) : peek e = .ok tokens.head? e := by
  obtain ⟨items, stuck, line⟩ := e
  obtain ⟨rfl, rfl⟩ := h
  cases tokens <;> rfl

end Read

namespace Local

/-! ### Readers and sequences of readers -/

theorem pure {a : α} (ha : P a) : Local P (Pure.pure a) (Pure.pure a) := by
  rintro c _ _ ⟨⟩
  refine ⟨ha, [], rfl, by simp, ?_⟩
  intro e tokens rest he htokens _
  obtain rfl : tokens = [] := List.map_eq_nil_iff.1 htokens
  exact ⟨e, rfl, he⟩

theorem fail {m' : Read α} (f : Fault) (line : Option Nat) : Local P (Read.fail f line) m' := by
  intro c a c' h
  exact absurd h (Read.fail_ne_ok f line)

theorem bind {m m' : Read α} {f f' : α → Read β} (hm : Local P m m') (hf : ∀ a, P a → Local Q (f a) (f' a)) :
    Local Q (m >>= f) (m' >>= f') := by
  intro c b c' h
  obtain ⟨a, c₁, hfirst, hsecond⟩ := Read.bind_ok.1 h
  obtain ⟨ha, taken₁, hitems₁, hplain₁, hagain₁⟩ := hm c a c₁ hfirst
  obtain ⟨hb, taken₂, hitems₂, hplain₂, hagain₂⟩ := hf a ha c₁ b c' hsecond
  refine ⟨hb, taken₁ ++ taken₂, ?_, ?_, ?_⟩
  · rw [hitems₁, hitems₂, List.map_append, List.append_assoc]
  · intro t ht
    rcases List.mem_append.1 ht with ht | ht
    · exact hplain₁ t ht
    · exact hplain₂ t ht
  · intro e tokens rest he htokens hrest
    rw [List.map_append] at htokens
    obtain ⟨tokens₁, tokens₂, rfl, htokens₁, htokens₂⟩ := List.map_eq_append_iff.1 htokens
    rw [List.append_assoc] at he
    have hmiddle : Follows c₁.items (tokens₂ ++ rest) := by
      rw [hitems₂]
      exact hrest.append htokens₂
    obtain ⟨e₁, hfirst', he₁⟩ := hagain₁ e tokens₁ (tokens₂ ++ rest) he htokens₁ hmiddle
    obtain ⟨e', hsecond', he'⟩ := hagain₂ e₁ tokens₂ rest he₁ htokens₂ hrest
    exact ⟨e', Read.bind_ok.2 ⟨a, e₁, hfirst', hsecond'⟩, he'⟩

theorem map {m m' : Read α} {g : α → β} (hm : Local P m m') (hg : ∀ a, P a → Q (g a)) :
    Local Q (g <$> m) (g <$> m') := by
  intro c b c' h
  obtain ⟨a, hok, rfl⟩ := Read.map_ok.1 h
  obtain ⟨ha, taken, hitems, hplain, hagain⟩ := hm c a c' hok
  refine ⟨hg a ha, taken, hitems, hplain, ?_⟩
  intro e tokens rest he htokens hrest
  obtain ⟨e', hok', he'⟩ := hagain e tokens rest he htokens hrest
  exact ⟨e', Read.map_ok.2 ⟨a, hok', rfl⟩, he'⟩

/-- A reader that takes a token and fails without one. -/
theorem take {f f' : Option Token → Read α} (hnone : ∀ c a c', f none c ≠ .ok a c')
    (hplain : ∀ t c a c', f (some t) c = .ok a c' → t.lexeme.IsPlain)
    (hf : ∀ t t', t'.lexeme = t.lexeme → Local P (f (some t)) (f' (some t'))) :
    Local P (Read.take >>= f) (Read.take >>= f') := by
  intro c a c' h
  obtain ⟨t, c₁, htake, hrest⟩ := Read.bind_ok.1 h
  cases t with
  | none => exact absurd hrest (hnone c₁ a c')
  | some t =>
    obtain ⟨ha, taken, hitems, hplain', _⟩ := hf t t rfl c₁ a c' hrest
    refine ⟨ha, t :: taken, ?_, ?_, ?_⟩
    · rw [(Read.take_some htake).1, hitems]
      rfl
    · intro u hu
      rcases List.mem_cons.1 hu with rfl | hu
      · exact hplain u c₁ a c' hrest
      · exact hplain' u hu
    · intro e tokens rest he htokens hfollows
      cases tokens with
      | nil => cases htokens
      | cons t' tokens =>
        rw [List.map_cons, List.map_cons, List.cons.injEq] at htokens
        obtain ⟨e₁, htake', he₁⟩ := Read.take_over he
        obtain ⟨_, taken', hitems', _, hagain⟩ := hf t t' htokens.1 c₁ a c' hrest
        obtain rfl : taken' = taken := taken_unique (hitems'.symm.trans hitems)
        obtain ⟨e', hok, he'⟩ := hagain e₁ tokens rest he₁ htokens.2 hfollows
        exact ⟨e', Read.bind_ok.2 ⟨some t', e₁, htake', hok⟩, he'⟩

/-- A reader that looks at the next token and goes one way only if it then takes this token. -/
theorem peek {test : Lexeme → Bool} {m₁ m₁' m₂ m₂' : Read α} (hkeyword : ∀ name, test (.identifier name) = false)
    (htakes : ∀ c a c', m₁ c = .ok a c' → c'.items.length < c.items.length) (h₁ : Local P m₁ m₁')
    (h₂ : Local P m₂ m₂') :
    Local P (Read.peek >>= fun t => if t.any (test ·.lexeme) then m₁ else m₂)
      (Read.peek >>= fun t => if t.any (test ·.lexeme) then m₁' else m₂') := by
  intro c a c' h
  obtain ⟨t, c₁, hpeek, hrest⟩ := Read.bind_ok.1 h
  obtain ⟨rfl, hhead⟩ := Read.peek_eq_head hpeek
  by_cases htest : t.any (test ·.lexeme)
  · rw [if_pos htest] at hrest
    obtain ⟨ha, taken, hitems, hplain, hagain⟩ := h₁ c₁ a c' hrest
    refine ⟨ha, taken, hitems, hplain, ?_⟩
    intro e tokens rest he htokens hfollows
    obtain ⟨e', hok, he'⟩ := hagain e tokens rest he htokens hfollows
    refine ⟨e', Read.bind_ok.2 ⟨_, e, Read.peek_over he, ?_⟩, he'⟩
    cases t with
    | none => cases htest
    | some t =>
      obtain ⟨t', more, rfl, hlexeme⟩ := exists_head_of_taken hitems (htakes c₁ a c' hrest) hhead htokens
      rw [Option.any_some] at htest
      rw [List.cons_append, List.head?_cons, Option.any_some, hlexeme, if_pos htest]
      exact hok
  · rw [if_neg htest] at hrest
    obtain ⟨ha, taken, hitems, hplain, hagain⟩ := h₂ c₁ a c' hrest
    refine ⟨ha, taken, hitems, hplain, ?_⟩
    intro e tokens rest he htokens hfollows
    obtain ⟨e', hok, he'⟩ := hagain e tokens rest he htokens hfollows
    refine ⟨e', Read.bind_ok.2 ⟨_, e, Read.peek_over he, ?_⟩, he'⟩
    have hfollows₁ : Follows c₁.items (tokens ++ rest) := by
      rw [hitems]
      exact hfollows.append htokens
    have hfalse : (tokens ++ rest).head?.any (test ·.lexeme) = false := by
      refine hfollows₁.any_head_eq_false hkeyword ?_
      intro u hu
      rw [hhead] at hu
      cases t with
      | none => cases hu
      | some t =>
        cases hu
        simpa using htest
    rw [hfalse]
    exact hok

end Local

end SceneDescription
