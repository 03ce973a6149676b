import SceneDescription.Proofs.Parameters.ValueGrammar

/-!
# Groups of tokens

A parameter is declared by a group of tokens: a heading that names a type and the parameter, and behind it one token, or
tokens between brackets, that spell a value of the type (`IsGroup`).  The reader of parameters takes groups as long as
there is a heading, and it takes nothing else: it succeeds if and only if the tokens that it takes are groups, in front
of something that is no heading (`readParameters_eq_ok`).
-/

namespace SceneDescription

/-! ### Tokens that are taken -/

/-- The line of the last token, or the one before if there is no token. -/
def lineBehind (line : Nat) (taken : List Token) : Nat :=
  (taken.getLast?.map (·.line)).getD line

private theorem lineBehind_append (line : Nat) (front more : List Token) :
    lineBehind line (front ++ more) = lineBehind (lineBehind line front) more := by
  unfold lineBehind
  rw [List.getLast?_append]
  cases more.getLast? <;> rfl

/-- Between the cursors, these tokens have been taken. -/
def Cursor.Takes (c : Cursor) (taken : List Token) (c' : Cursor) : Prop :=
  c.items = taken.map .token ++ c'.items ∧ c'.stuck = c.stuck ∧ c'.lastLine = lineBehind c.lastLine taken

namespace Cursor.Takes

variable {c c' c'' : Cursor} {front more : List Token}

theorem nil_iff : c.Takes [] c' ↔ c' = c := by
  obtain ⟨items, stuck, lastLine⟩ := c
  obtain ⟨items', stuck', lastLine'⟩ := c'
  rw [Cursor.mk.injEq]
  exact and_congr_left' eq_comm

theorem refl (c : Cursor) : c.Takes [] c :=
  nil_iff.2 rfl

theorem append_iff : c.Takes (front ++ more) c'' ↔ ∃ c', c.Takes front c' ∧ c'.Takes more c'' := by
  unfold Takes
  rw [lineBehind_append, List.map_append, List.append_assoc]
  constructor
  · rintro ⟨hitems, hstuck, hline⟩
    exact ⟨⟨more.map .token ++ c''.items, c.stuck, lineBehind c.lastLine front⟩, ⟨hitems, rfl, rfl⟩, rfl, hstuck, hline⟩
  · rintro ⟨c', ⟨hitems, hstuck, hline⟩, hitems', hstuck', hline'⟩
    exact ⟨by rw [hitems, hitems'], hstuck'.trans hstuck, by rw [hline', hline]⟩

theorem append (h : c.Takes front c') (h' : c'.Takes more c'') : c.Takes (front ++ more) c'' :=
  append_iff.2 ⟨c', h, h'⟩

theorem cons_iff {t : Token} : c.Takes (t :: more) c'' ↔ ∃ c', c.Takes [t] c' ∧ c'.Takes more c'' :=
  @append_iff c c'' [t] more

end Cursor.Takes

private theorem Read.take_eq_some {c c' : Cursor} {t : Token} : take c = .ok (some t) c' ↔ c.Takes [t] c' := by
  constructor
  · intro h
    obtain ⟨_ | ⟨_ | _, rest⟩, stuck, lastLine⟩ := c
    · cases stuck <;> cases h
    · cases h
      exact ⟨rfl, rfl, rfl⟩
    · cases h
  · obtain ⟨items, stuck, lastLine⟩ := c
    obtain ⟨items', stuck', lastLine'⟩ := c'
    rintro ⟨rfl, rfl, hline⟩
    obtain rfl : lastLine' = t.line := hline
    rfl

/-- Looking at the next token does not take it. -/
private theorem Read.peek_eq_ok {c c' : Cursor} {t : Option Token} : peek c = .ok t c' ↔ c' = c ∧ match t with
    | none => c.items = [] ∧ c.stuck = none
    | some t => ∃ rest, c.items = .token t :: rest := by
  constructor
  · intro h
    refine ⟨peek_unmoved h, ?_⟩
    obtain ⟨_ | ⟨_ | _, rest⟩, stuck, lastLine⟩ := c
    · cases stuck with
      | none =>
        cases h
        exact ⟨rfl, rfl⟩
      | some r => cases h
    · cases h
      exact ⟨rest, rfl⟩
    · cases h
  · obtain ⟨items, stuck, lastLine⟩ := c
    cases t with
    | none =>
      rintro ⟨rfl, rfl, rfl⟩
      rfl
    | some t =>
      rintro ⟨rfl, rest, rfl⟩
      rfl

/-- The parameters are at their end: there is nothing more, or what comes cannot be a heading. -/
def Cursor.EndsParameters (c : Cursor) : Prop :=
  (c.items = [] ∧ c.stuck = none) ∨ ∃ t rest, c.items = .token t :: rest ∧ t.lexeme.isQuoted = false

/-! ### Groups -/

/-- A quoted text that names a known type and a parameter. -/
structure Token.Heads (heading : Token) (keyword name : String) : Prop where
  quoted : heading.lexeme.isQuoted
  words : words heading.text = [keyword, name]
  known : (ParameterType.ofKeyword? keyword).isSome

/-- Whether a lexeme is a bracket. -/
def Lexeme.isBracket : Lexeme → Bool
  | .leftBracket | .rightBracket => true
  | _ => false

/-- The tokens that declare a parameter. -/
inductive IsGroup : List Token → Parameter → Prop
  | single {heading t : Token} {keyword name : String} {value : Value} (hheading : heading.Heads keyword name)
      (ht : t.lexeme.isBracket = false) (hvalue : decodeValue keyword [t] heading = .ok value) :
      IsGroup [heading, t] ⟨name, value⟩
  | bracketed {heading opening closing : Token} {tokens : List Token} {keyword name : String} {value : Value}
      (hheading : heading.Heads keyword name) (hopening : opening.lexeme = .leftBracket)
      (htokens : ∀ t ∈ tokens, t.lexeme.isValue) (hclosing : closing.lexeme = .rightBracket)
      (hvalue : decodeValue keyword tokens heading = .ok value) :
      IsGroup (heading :: opening :: (tokens ++ [closing])) ⟨name, value⟩

/-- The tokens that declare parameters one after the other. -/
inductive Groups : List Token → List Parameter → Prop
  | nil : Groups [] []
  | cons {group rest : List Token} {p : Parameter} {params : List Parameter} (hgroup : IsGroup group p)
      (hrest : Groups rest params) : Groups (group ++ rest) (p :: params)

private theorem Groups.append {front more : List Token} {params params' : List Parameter} (h : Groups front params)
    (h' : Groups more params') : Groups (front ++ more) (params ++ params') := by
  induction h with
  | nil => exact h'
  | cons hgroup _ ih =>
    rw [List.append_assoc]
    exact .cons hgroup ih

/-! ### Values -/

/-- The reader of a value between brackets, as a look at the text and what follows from the answer. -/
theorem readBracketed_eq (heading : Token) (taken : List Token) :
    readBracketed heading taken = (Read.take >>= fun
      | none => Read.fail (.unclosedBracket heading.text) heading.line
      | some t =>
        if t.lexeme = .rightBracket then pure taken.reverse
        else if t.lexeme.isValue then readBracketed heading (t :: taken)
        else Read.fail (.misplacedInValue t.describe heading.text) t.line) := by
  funext c
  rw [readBracketed, Read.bind_apply]
  split
  · rename_i htake
    rw [htake]
  · rename_i htake
    rw [htake]
    rfl
  · rename_i htake
    rw [htake]
    dsimp only
    split
    · rfl
    split
    · rfl
    · rfl

private theorem readBracketed_step {heading : Token} {taken tokens : List Token} {c c' : Cursor} :
    readBracketed heading taken c = .ok tokens c' ↔ ∃ t c₁, c.Takes [t] c₁ ∧
      ((t.lexeme = .rightBracket ∧ tokens = taken.reverse ∧ c' = c₁) ∨
        (t.lexeme.isValue ∧ readBracketed heading (t :: taken) c₁ = .ok tokens c')) := by
  rw [readBracketed_eq, Read.bind_ok]
  constructor
  · rintro ⟨_ | t, c₁, htake, h⟩
    · exact absurd h (Read.fail_ne_ok _ _)
    · refine ⟨t, c₁, Read.take_eq_some.1 htake, ?_⟩
      dsimp only at h
      split at h
      · rename_i hclosing
        cases h
        exact .inl ⟨hclosing, rfl, rfl⟩
      split at h
      · rename_i hvalue
        exact .inr ⟨hvalue, h⟩
      · exact absurd h (Read.fail_ne_ok _ _)
  · rintro ⟨t, c₁, htakes, h⟩
    refine ⟨some t, c₁, Read.take_eq_some.2 htakes, ?_⟩
    dsimp only
    rcases h with ⟨hclosing, rfl, rfl⟩ | ⟨hvalue, h⟩
    · rw [if_pos hclosing]
      rfl
    · have hopen : t.lexeme ≠ .rightBracket := by
        intro hclosing
        rw [hclosing] at hvalue
        cases hvalue
      rw [if_neg hopen, if_pos hvalue]
      exact h

/-- Between brackets, values are taken up to the closing bracket. -/
private theorem readBracketed_eq_ok {heading : Token} {taken tokens : List Token} {c c' : Cursor} :
    readBracketed heading taken c = .ok tokens c' ↔ ∃ values closing, tokens = taken.reverse ++ values ∧
      (∀ t ∈ values, t.lexeme.isValue) ∧ closing.lexeme = .rightBracket ∧ c.Takes (values ++ [closing]) c' := by
  constructor
  · intro h
    -- each token that is taken leaves fewer of them
    induction hlength : c.items.length using Nat.strong_induction_on generalizing taken c with
    | h length ih =>
      obtain ⟨t, c₁, htakes, ⟨hclosing, rfl, rfl⟩ | ⟨hvalue, hrest⟩⟩ := readBracketed_step.1 h
      · exact ⟨[], t, by simp, by simp, hclosing, htakes⟩
      · have hless := Read.take_shrinks (Read.take_eq_some.2 htakes)
        obtain ⟨values, closing, rfl, hvalues, hclosing, hmore⟩ := ih _ (hlength ▸ hless) hrest rfl
        refine ⟨t :: values, closing, by simp, ?_, hclosing, Cursor.Takes.cons_iff.2 ⟨c₁, htakes, hmore⟩⟩
        exact List.forall_mem_cons.2 ⟨hvalue, hvalues⟩
  · rintro ⟨values, closing, rfl, hvalues, hclosing, htakes⟩
    induction values generalizing taken c with
    | nil => exact readBracketed_step.2 ⟨closing, c', htakes, .inl ⟨hclosing, by simp, rfl⟩⟩
    | cons t values ih =>
      obtain ⟨hvalue, hvalues⟩ := List.forall_mem_cons.1 hvalues
      obtain ⟨c₁, hfirst, hrest⟩ := Cursor.Takes.cons_iff.1 htakes
      have hmore := @ih (t :: taken) c₁ hvalues hrest
      rw [List.reverse_cons, List.append_assoc] at hmore
      exact readBracketed_step.2 ⟨t, c₁, hfirst, .inr ⟨hvalue, hmore⟩⟩

/-- The tokens of a value are a single one, or those between brackets. -/
theorem readValueTokens_eq_ok {heading : Token} {tokens : List Token} {c c' : Cursor} :
    readValueTokens heading c = .ok tokens c' ↔
      (∃ t, t.lexeme.isBracket = false ∧ tokens = [t] ∧ c.Takes [t] c') ∨
      ∃ opening closing, opening.lexeme = .leftBracket ∧ (∀ t ∈ tokens, t.lexeme.isValue) ∧
        closing.lexeme = .rightBracket ∧ c.Takes (opening :: (tokens ++ [closing])) c' := by
  rw [readValueTokens, Read.bind_ok]
  constructor
  · rintro ⟨_ | ⟨l, line⟩, c₁, htake, h⟩
    · exact absurd h (Read.fail_ne_ok _ _)
    have hfirst := Read.take_eq_some.1 htake
    cases l with
    | rightBracket => exact absurd h (Read.fail_ne_ok _ _)
    | leftBracket =>
      obtain ⟨values, closing, rfl, hvalues, hclosing, hrest⟩ := readBracketed_eq_ok.1 h
      exact .inr ⟨_, closing, rfl, hvalues, hclosing, Cursor.Takes.cons_iff.2 ⟨c₁, hfirst, hrest⟩⟩
    | identifier | quoted | number =>
      cases h
      exact .inl ⟨_, rfl, rfl, hfirst⟩
  · rintro (⟨t, ht, rfl, htakes⟩ | ⟨opening, closing, hopening, hvalues, hclosing, htakes⟩)
    · refine ⟨some t, c', Read.take_eq_some.2 htakes, ?_⟩
      obtain ⟨l, line⟩ := t
      cases l with
      | leftBracket | rightBracket => cases ht
      | identifier | quoted | number => rfl
    · obtain ⟨c₁, hfirst, hrest⟩ := Cursor.Takes.cons_iff.1 htakes
      refine ⟨some opening, c₁, Read.take_eq_some.2 hfirst, ?_⟩
      dsimp only
      rw [hopening]
      exact readBracketed_eq_ok.2 ⟨tokens, closing, rfl, hvalues, hclosing, hrest⟩

/-! ### Parameters -/

private theorem Read.ofExcept_eq_ok {α : Type} {e : Except (Report Fault) α} {a : α} {c c' : Cursor} :
    ofExcept e c = .ok a c' ↔ e = .ok a ∧ c' = c := by
  cases e with
  | ok b =>
    constructor
    · intro h
      cases h
      exact ⟨rfl, rfl⟩
    · rintro ⟨⟨⟩, rfl⟩
      rfl
  | error r =>
    constructor
    · intro h
      cases h
    · rintro ⟨⟨⟩, _⟩

/-- A heading that names no known type is reported; behind any other one the value is read. -/
private theorem readDeclared_cases (heading : Token) :
    (∃ fault, readDeclared heading = Read.fail fault heading.line ∧
      ∀ keyword name, words heading.text = [keyword, name] → (ParameterType.ofKeyword? keyword).isNone) ∨
    ∃ keyword name, words heading.text = [keyword, name] ∧ (ParameterType.ofKeyword? keyword).isSome ∧
      readDeclared heading = do
        let tokens ← readValueTokens heading
        let value ← Read.ofExcept (decodeValue keyword tokens heading)
        return ⟨name, value⟩ := by
  unfold readDeclared
  split
  · rename_i keyword name hwords
    split
    · rename_i hunknown
      refine .inl ⟨_, rfl, ?_⟩
      intro keyword' name' hwords'
      obtain rfl : keyword = keyword' := (List.cons.inj (hwords.symm.trans hwords')).1
      exact hunknown
    · rename_i hknown
      rw [Option.isNone_iff_eq_none, ← ne_eq, Option.ne_none_iff_isSome] at hknown
      exact .inr ⟨keyword, name, hwords, hknown, rfl⟩
  · rename_i hwords
    exact .inl ⟨_, rfl, fun keyword name h => absurd h (hwords keyword name)⟩

private theorem readDeclared_eq_ok {heading : Token} {p : Parameter} {c c' : Cursor}
    (hquoted : heading.lexeme.isQuoted) :
    readDeclared heading c = .ok p c' ↔ ∃ keyword name tokens value, heading.Heads keyword name ∧
      readValueTokens heading c = .ok tokens c' ∧ decodeValue keyword tokens heading = .ok value ∧
      p = ⟨name, value⟩ := by
  rcases readDeclared_cases heading with ⟨fault, hread, hunknown⟩ | ⟨keyword, name, hwords, hknown, hread⟩
  · rw [hread]
    constructor
    · intro h
      exact absurd h (Read.fail_ne_ok _ _)
    · rintro ⟨keyword, name, _, _, hheads, _⟩
      have hnone := Option.isNone_iff_eq_none.1 (hunknown keyword name hheads.words)
      exact absurd hnone (Option.isSome_iff_ne_none.1 hheads.known)
  · rw [hread]
    constructor
    · intro h
      obtain ⟨tokens, c₁, htokens, hrest⟩ := Read.bind_ok.1 h
      obtain ⟨value, c₂, hresult, hlast⟩ := Read.bind_ok.1 hrest
      obtain ⟨hvalue, rfl⟩ := Read.ofExcept_eq_ok.1 hresult
      cases hlast
      exact ⟨keyword, name, tokens, value, ⟨hquoted, hwords, hknown⟩, htokens, hvalue, rfl⟩
    · rintro ⟨keyword', name', tokens, value, hheads, htokens, hvalue, rfl⟩
      obtain ⟨rfl, hname⟩ := List.cons.inj (hwords.symm.trans hheads.words)
      obtain ⟨rfl, _⟩ := List.cons.inj hname
      exact Read.bind_ok.2 ⟨tokens, c', htokens, Read.bind_ok.2 ⟨value, c', Read.ofExcept_eq_ok.2 ⟨hvalue, rfl⟩, rfl⟩⟩

/-- Behind its heading, a parameter takes the rest of its group. -/
private theorem readDeclared_takes {heading : Token} {p : Parameter} {c c' : Cursor}
    (hquoted : heading.lexeme.isQuoted) :
    readDeclared heading c = .ok p c' ↔ ∃ more, IsGroup (heading :: more) p ∧ c.Takes more c' := by
  rw [readDeclared_eq_ok hquoted]
  constructor
  · rintro ⟨keyword, name, tokens, value, hheads, htokens, hvalue, rfl⟩
    rcases readValueTokens_eq_ok.1 htokens with ⟨t, ht, rfl, htakes⟩ |
      ⟨opening, closing, hopening, hvalues, hclosing, htakes⟩
    · exact ⟨_, .single hheads ht hvalue, htakes⟩
    · exact ⟨_, .bracketed hheads hopening hvalues hclosing hvalue, htakes⟩
  · rintro ⟨more, hgroup, htakes⟩
    cases hgroup with
    | single hheads ht hvalue =>
      exact ⟨_, _, _, _, hheads, readValueTokens_eq_ok.2 (.inl ⟨_, ht, rfl, htakes⟩), hvalue, rfl⟩
    | bracketed hheads hopening hvalues hclosing hvalue =>
      refine ⟨_, _, _, _, hheads, ?_, hvalue, rfl⟩
      exact readValueTokens_eq_ok.2 (.inr ⟨_, _, hopening, hvalues, hclosing, htakes⟩)

private theorem IsGroup.exists_heading {group : List Token} {p : Parameter} (h : IsGroup group p) :
    ∃ heading more, group = heading :: more ∧ heading.lexeme.isQuoted := by
  cases h with
  | single hheads | bracketed hheads => exact ⟨_, _, rfl, hheads.quoted⟩

/-- Reading one parameter takes one group. -/
theorem readParameter_eq_ok {p : Parameter} {c c' : Cursor} :
    readParameter c = .ok p c' ↔ ∃ group, IsGroup group p ∧ c.Takes group c' := by
  rw [readParameter, Read.bind_ok]
  constructor
  · rintro ⟨_ | ⟨l, line⟩, c₁, htake, h⟩
    · exact absurd h (Read.fail_ne_ok _ _)
    cases l with
    | quoted content =>
      obtain ⟨more, hgroup, htakes⟩ := (readDeclared_takes rfl).1 h
      exact ⟨_, hgroup, Cursor.Takes.cons_iff.2 ⟨c₁, Read.take_eq_some.1 htake, htakes⟩⟩
    | identifier | number | leftBracket | rightBracket => exact absurd h (Read.fail_ne_ok _ _)
  · rintro ⟨group, hgroup, htakes⟩
    obtain ⟨⟨l, line⟩, more, rfl, hquoted⟩ := hgroup.exists_heading
    obtain ⟨c₁, hfirst, hrest⟩ := Cursor.Takes.cons_iff.1 htakes
    cases l with
    | quoted content => exact ⟨_, c₁, Read.take_eq_some.2 hfirst, (readDeclared_takes rfl).2 ⟨more, hgroup, hrest⟩⟩
    | identifier | number | leftBracket | rightBracket => cases hquoted

/-- The reader of parameters, as a look at the text and what follows from the answer. -/
theorem readParametersOnto_eq (found : List Parameter) :
    readParametersOnto found = (Read.peek >>= fun
      | none => pure ⟨found.reverse⟩
      | some t => match t.lexeme with
        | .quoted _ => readParameter >>= fun p => readParametersOnto (p :: found)
        | _ => pure ⟨found.reverse⟩) := by
  funext c
  rw [readParametersOnto, Read.bind_apply]
  split
  · rename_i hpeek
    rw [hpeek]
  · rename_i hpeek
    rw [hpeek]
    rfl
  · rename_i t c₁ hpeek
    rw [hpeek]
    obtain ⟨lexeme, line⟩ := t
    cases lexeme with
    | quoted content =>
      dsimp only
      rw [Read.bind_apply]
      split
      · rename_i hparameter
        rw [hparameter]
      · rename_i hparameter
        rw [hparameter]
    | identifier _ | number _ | leftBracket | rightBracket => rfl

/-- Parameters are read up to their end. -/
private theorem readParametersOnto_step {found : List Parameter} {params : ParameterList} {c c' : Cursor} :
    readParametersOnto found c = .ok params c' ↔
      (c.EndsParameters ∧ params = ⟨found.reverse⟩ ∧ c' = c) ∨
      ∃ p c₁, readParameter c = .ok p c₁ ∧ readParametersOnto (p :: found) c₁ = .ok params c' := by
  rw [readParametersOnto_eq, Read.bind_ok]
  constructor
  · rintro ⟨t, c₁, hpeek, h⟩
    obtain ⟨rfl, hends⟩ := Read.peek_eq_ok.1 hpeek
    cases t with
    | none =>
      cases h
      exact .inl ⟨.inl hends, rfl, rfl⟩
    | some t =>
      obtain ⟨rest, hitems⟩ := hends
      obtain ⟨l, line⟩ := t
      cases l with
      | quoted content => exact .inr (Read.bind_ok.1 h)
      | identifier | number | leftBracket | rightBracket =>
        cases h
        exact .inl ⟨.inr ⟨_, rest, hitems, rfl⟩, rfl, rfl⟩
  · rintro (⟨⟨hitems, hstuck⟩ | ⟨⟨l, line⟩, rest, hitems, hother⟩, rfl, rfl⟩ | ⟨p, c₁, hparameter, hrest⟩)
    · exact ⟨none, _, Read.peek_eq_ok.2 ⟨rfl, hitems, hstuck⟩, rfl⟩
    · refine ⟨some ⟨l, line⟩, _, Read.peek_eq_ok.2 ⟨rfl, rest, hitems⟩, ?_⟩
      cases l with
      | quoted content => cases hother
      | identifier | number | leftBracket | rightBracket => rfl
    · obtain ⟨group, hgroup, hitems, _⟩ := readParameter_eq_ok.1 hparameter
      obtain ⟨⟨l, line⟩, more, rfl, hquoted⟩ := hgroup.exists_heading
      refine ⟨some ⟨l, line⟩, c, Read.peek_eq_ok.2 ⟨rfl, _, hitems⟩, ?_⟩
      cases l with
      | quoted content => exact Read.bind_ok.2 ⟨p, c₁, hparameter, hrest⟩
      | identifier | number | leftBracket | rightBracket => cases hquoted

/-- Reading parameters takes groups, as long as there is a heading. -/
private theorem readParametersOnto_eq_ok {found : List Parameter} {params : ParameterList} {c c' : Cursor} :
    readParametersOnto found c = .ok params c' ↔ ∃ taken more, params = ⟨found.reverse ++ more⟩ ∧
      Groups taken more ∧ c.Takes taken c' ∧ c'.EndsParameters := by
  constructor
  · intro h
    induction hlength : c.items.length using Nat.strong_induction_on generalizing found c with
    | h length ih =>
      rcases readParametersOnto_step.1 h with ⟨hends, rfl, rfl⟩ | ⟨p, c₁, hparameter, hrest⟩
      · exact ⟨[], [], by simp, .nil, .refl _, hends⟩
      · obtain ⟨group, hgroup, htakes⟩ := readParameter_eq_ok.1 hparameter
        have hless := readParameter_shrinks hparameter
        obtain ⟨taken, more, rfl, hgroups, hmore, hends⟩ := ih _ (hlength ▸ hless) hrest rfl
        exact ⟨group ++ taken, p :: more, by simp, .cons hgroup hgroups, htakes.append hmore, hends⟩
  · rintro ⟨taken, more, rfl, hgroups, htakes, hends⟩
    induction hgroups generalizing found c with
    | nil =>
      obtain rfl := Cursor.Takes.nil_iff.1 htakes
      exact readParametersOnto_step.2 (.inl ⟨hends, by simp, rfl⟩)
    | @cons group rest p more hgroup _ ih =>
      obtain ⟨c₁, hfirst, hrest⟩ := Cursor.Takes.append_iff.1 htakes
      have hmore := @ih (p :: found) c₁ hrest
      rw [List.reverse_cons, List.append_assoc] at hmore
      exact readParametersOnto_step.2 (.inr ⟨p, c₁, readParameter_eq_ok.2 ⟨group, hgroup, hfirst⟩, hmore⟩)

theorem readParameters_eq_ok {params : ParameterList} {c c' : Cursor} : readParameters c = .ok params c' ↔
    ∃ taken, Groups taken params.entries ∧ c.Takes taken c' ∧ c'.EndsParameters := by
  refine readParametersOnto_eq_ok.trans (exists_congr fun taken => ?_)
  constructor
  · rintro ⟨more, rfl, h⟩
    exact h
  · intro h
    exact ⟨params.entries, rfl, h⟩

/-! ### Brackets around a single token -/

section

variable {heading opening t closing : Token} {p : Parameter}

private theorem isGroup_single_iff (ht : t.lexeme.isBracket = false) : IsGroup [heading, t] p ↔
    ∃ keyword name value, heading.Heads keyword name ∧ decodeValue keyword [t] heading = .ok value ∧
      p = ⟨name, value⟩ := by
  constructor
  · generalize htokens : [heading, t] = tokens
    intro h
    cases h with
    | single hheads _ hvalue =>
      cases htokens
      exact ⟨_, _, _, hheads, hvalue, rfl⟩
    | bracketed =>
      have hlength := congrArg List.length htokens
      simp at hlength
  · rintro ⟨keyword, name, value, hheads, hvalue, rfl⟩
    exact .single hheads ht hvalue

private theorem isGroup_bracketed_iff (hopening : opening.lexeme = .leftBracket)
    (hclosing : closing.lexeme = .rightBracket) : IsGroup [heading, opening, t, closing] p ↔
    ∃ keyword name value, heading.Heads keyword name ∧ decodeValue keyword [t] heading = .ok value ∧
      p = ⟨name, value⟩ := by
  constructor
  · generalize htokens : [heading, opening, t, closing] = tokens
    intro h
    cases h with
    | single => simp at htokens
    | @bracketed _ _ closing' tokens _ _ _ hheads _ _ _ hvalue =>
      rw [List.cons.injEq, List.cons.injEq] at htokens
      have hvalues : [t] ++ [closing] = tokens ++ [closing'] := htokens.2.2
      obtain ⟨rfl, _⟩ := List.append_inj' hvalues rfl
      rw [← htokens.1] at hheads hvalue
      exact ⟨_, _, _, hheads, hvalue, rfl⟩
  · rintro ⟨keyword, name, value, hheads, hvalue, rfl⟩
    obtain ⟨type, _, hspells⟩ := decodeValue_eq_ok.1 hvalue
    have hplain : ∀ u ∈ [t], u.lexeme.isValue := fun u hu => hspells.isValue _ (List.mem_map_of_mem hu)
    exact .bracketed hheads hopening hplain hclosing hvalue

/-- A single token makes the same parameter with brackets around it. -/
private theorem isGroup_brackets (ht : t.lexeme.isBracket = false) (hopening : opening.lexeme = .leftBracket)
    (hclosing : closing.lexeme = .rightBracket) :
    IsGroup [heading, t] p ↔ IsGroup [heading, opening, t, closing] p :=
  (isGroup_single_iff ht).trans (isGroup_bracketed_iff hopening hclosing).symm

end

private theorem readParameter_of_takes {p : Parameter} {group : List Token} {c c' : Cursor}
    (htakes : c.Takes group c') : readParameter c = .ok p c' ↔ IsGroup group p := by
  rw [readParameter_eq_ok]
  constructor
  · rintro ⟨group', hgroup, hitems, _⟩
    rwa [taken_unique (hitems.symm.trans htakes.1)] at hgroup
  · intro hgroup
    exact ⟨group, hgroup, htakes⟩

/-- Reading parameters is exactly the grammar of groups: it succeeds if and only if it has taken groups, up to the end
of the parameters, and gives what they declare, in their order.  Groups behind groups give what both declare, and a
single token declares the same with brackets around it. -/
theorem readParameters_exact :
    (∀ c c' params, readParameters c = .ok params c' ↔
      ∃ taken, Groups taken params.entries ∧ c.Takes taken c' ∧ c'.EndsParameters) ∧
    (∀ front more params params' c c', Groups front params → Groups more params' → c.Takes (front ++ more) c' →
      c'.EndsParameters → readParameters c = .ok ⟨params ++ params'⟩ c') ∧
    ∀ heading opening t closing : Token, t.lexeme.isBracket = false → opening.lexeme = .leftBracket →
      closing.lexeme = .rightBracket → ∀ c c' d d', c.Takes [heading, t] c' →
      d.Takes [heading, opening, t, closing] d' →
      ∀ p, readParameter c = .ok p c' ↔ readParameter d = .ok p d' := by
  refine ⟨fun c c' params => readParameters_eq_ok, ?_, ?_⟩
  · intro front more params params' c c' hfront hmore htakes hends
    exact readParameters_eq_ok.2 ⟨front ++ more, hfront.append hmore, htakes, hends⟩
  · intro heading opening t closing ht hopening hclosing c c' d d' hsingle hbracketed p
    rw [readParameter_of_takes hsingle, readParameter_of_takes hbracketed]
    exact isGroup_brackets ht hopening hclosing

namespace TwoDeclarations

/-- A declaration without brackets. -/
def plain : List Token :=
  [⟨.quoted "bool visible", 1⟩, ⟨.identifier "true", 1⟩]

/-- A declaration with brackets, on the next line. -/
def bracketed : List Token :=
  [⟨.quoted "string\tname", 2⟩, ⟨.leftBracket, 2⟩, ⟨.quoted "glass", 2⟩, ⟨.rightBracket, 3⟩]

/-- The declarations in front of a directive. -/
def cursor : Cursor where
  items := (plain ++ bracketed).map .token ++ [.token ⟨.identifier "WorldBegin", 4⟩]
  stuck := none

/-- What is left behind them. -/
def behind : Cursor where
  items := [.token ⟨.identifier "WorldBegin", 4⟩]
  stuck := none
  lastLine := 3

/-- Both are read, and the directive is left. -/
theorem both_declarations_read : readParameters cursor =
    .ok ⟨[⟨"visible", .flags [true]⟩, ⟨"name", .texts .string ["glass"]⟩]⟩ behind := by
  have hbool : Token.Heads ⟨.quoted "bool visible", 1⟩ "bool" "visible" := ⟨rfl, by decide, rfl⟩
  have hstring : Token.Heads ⟨.quoted "string\tname", 2⟩ "string" "name" := ⟨rfl, by decide, rfl⟩
  have hvalue : ∀ t ∈ [Token.mk (.quoted "glass") 2], t.lexeme.isValue := by decide
  have hplain : Groups plain [⟨"visible", .flags [true]⟩] := .cons (.single hbool rfl rfl) .nil
  have hbracketed : Groups bracketed [⟨"name", .texts .string ["glass"]⟩] :=
    .cons (.bracketed hstring rfl hvalue rfl rfl) .nil
  have hends : behind.EndsParameters := .inr ⟨_, [], rfl, rfl⟩
  exact readParameters_exact.2.1 plain bracketed _ _ cursor behind hplain hbracketed ⟨rfl, rfl, rfl⟩ hends

end TwoDeclarations

end SceneDescription
