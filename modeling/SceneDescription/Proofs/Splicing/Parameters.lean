import SceneDescription.Proofs.Parameters.Groups

/-!
# Reading the same parameters elsewhere

Which parameters a group of tokens declares depends on the lexemes of the tokens alone, and no token of a group is a
keyword that opens a file.  So whoever reads groups reads the same in front of any other text that goes on in the same
way.
-/

namespace SceneDescription

variable {group group' taken taken' : List Token} {p : Parameter} {params : List Parameter}

/-! ### Groups with the same lexemes -/

/-- A value decodes to the same elsewhere. -/
private theorem decodeValue_of_lexemes {keyword : String} {tokens tokens' : List Token} {heading heading' : Token}
    {value : Value} (h : decodeValue keyword tokens heading = .ok value)
    (hsame : tokens'.map (·.lexeme) = tokens.map (·.lexeme)) : decodeValue keyword tokens' heading' = .ok value := by
  obtain ⟨type, htype, hspells⟩ := decodeValue_eq_ok.1 h
  exact decodeValue_eq_ok.2 ⟨type, htype, hsame ▸ hspells⟩

private theorem Token.Heads.of_lexeme {heading heading' : Token} {keyword name : String}
    (h : heading.Heads keyword name) (hsame : heading'.lexeme = heading.lexeme) : heading'.Heads keyword name where
  quoted := hsame ▸ h.quoted
  words := by
    rw [Token.text, hsame]
    exact h.words
  known := h.known

private theorem IsGroup.of_lexemes (h : IsGroup group p) (hsame : group'.map (·.lexeme) = group.map (·.lexeme)) :
    IsGroup group' p := by
  cases h with
  | single hheads ht hvalue =>
    obtain ⟨heading', _, rfl, hheading, hsame⟩ := List.map_eq_cons_iff.1 hsame
    obtain ⟨t', _, rfl, hlexeme, hsame⟩ := List.map_eq_cons_iff.1 hsame
    obtain rfl := List.map_eq_nil_iff.1 hsame
    exact .single (hheads.of_lexeme hheading) (hlexeme ▸ ht) (decodeValue_of_lexemes hvalue (by simp [hlexeme]))
  | bracketed hheads hopening hvalues hclosing hvalue =>
    obtain ⟨heading', _, rfl, hheading, hsame⟩ := List.map_eq_cons_iff.1 hsame
    obtain ⟨opening', _, rfl, hlexeme, hsame⟩ := List.map_eq_cons_iff.1 hsame
    rw [List.map_append] at hsame
    obtain ⟨tokens', _, rfl, htokens, hsame⟩ := List.map_eq_append_iff.1 hsame
    obtain ⟨closing', rfl, hlexeme'⟩ := List.map_eq_singleton_iff.1 hsame
    have hvalues' : ∀ t ∈ tokens', t.lexeme.isValue := by
      intro t ht
      have hmem : t.lexeme ∈ tokens'.map (·.lexeme) := List.mem_map_of_mem ht
      rw [htokens] at hmem
      obtain ⟨u, hu, hlexeme⟩ := List.mem_map.1 hmem
      exact hlexeme ▸ hvalues u hu
    exact .bracketed (hheads.of_lexeme hheading) (hlexeme.trans hopening) hvalues' (hlexeme'.trans hclosing)
      (decodeValue_of_lexemes hvalue htokens)

private theorem Groups.of_lexemes (h : Groups taken params) (hsame : taken'.map (·.lexeme) = taken.map (·.lexeme)) :
    Groups taken' params := by
  induction h generalizing taken' with
  | nil =>
    obtain rfl := List.map_eq_nil_iff.1 hsame
    exact .nil
  | cons hgroup _ ih =>
    rw [List.map_append] at hsame
    obtain ⟨group', rest', rfl, hfirst, hrest⟩ := List.map_eq_append_iff.1 hsame
    exact .cons (hgroup.of_lexemes hfirst) (ih hrest)

/-! ### Groups are plain -/

private theorem IsGroup.isPlain (h : IsGroup group p) : ∀ t ∈ group, t.lexeme.IsPlain := by
  have hheading {heading : Token} {keyword name : String} (hheads : heading.Heads keyword name) :
      heading.lexeme.IsPlain := by
    obtain ⟨l, line⟩ := heading
    cases l with
    | quoted content => exact Lexeme.isPlain_quoted content
    | _ => cases hheads.quoted
  have hvalue {keyword : String} {tokens : List Token} {heading : Token} {value : Value}
      (h : decodeValue keyword tokens heading = .ok value) : ∀ t ∈ tokens, t.lexeme.IsPlain := by
    obtain ⟨type, _, hspells⟩ := decodeValue_eq_ok.1 h
    exact fun t ht => Lexeme.isPlain_of_isValue (hspells.isValue t.lexeme (List.mem_map_of_mem ht))
  cases h with
  | single hheads _ h => exact List.forall_mem_cons.2 ⟨hheading hheads, hvalue h⟩
  | @bracketed heading opening closing tokens _ _ _ hheads hopening _ hclosing h =>
    have hbehind : ∀ t ∈ tokens ++ [closing], t.lexeme.IsPlain := by
      refine List.forall_mem_append.2 ⟨hvalue h, fun t ht => ?_⟩
      rw [List.mem_singleton.1 ht, hclosing]
      exact Lexeme.isPlain_rightBracket
    have hopens : opening.lexeme.IsPlain := by
      rw [hopening]
      exact Lexeme.isPlain_leftBracket
    exact List.forall_mem_cons.2 ⟨hheading hheads, List.forall_mem_cons.2 ⟨hopens, hbehind⟩⟩

private theorem Groups.isPlain (h : Groups taken params) : ∀ t ∈ taken, t.lexeme.IsPlain := by
  induction h with
  | nil => simp
  | cons hgroup _ ih => exact List.forall_mem_append.2 ⟨hgroup.isPlain, ih⟩

/-! ### The readers -/

/-- In front of tokens without a fault behind them, the first of them can be taken. -/
private theorem Cursor.Over.exists_takes {e : Cursor} {tokens rest : List Token} (h : e.Over (tokens ++ rest)) :
    ∃ e', e.Takes tokens e' ∧ e'.Over rest := by
  obtain ⟨hitems, hstuck⟩ := h
  refine ⟨⟨rest.map .token, none, lineBehind e.lastLine tokens⟩, ⟨?_, hstuck.symm, rfl⟩, rfl, rfl⟩
  rw [hitems, List.map_append]

/-- Parameters end in front of whatever may come in place of their end. -/
private theorem Cursor.EndsParameters.of_follows {c e : Cursor} {rest : List Token} (h : c.EndsParameters)
    (hfollows : Follows c.items rest) (he : e.Over rest) : e.EndsParameters := by
  obtain ⟨hitems, hstuck⟩ := he
  cases rest with
  | nil => exact .inl ⟨hitems, hstuck⟩
  | cons t rest =>
    refine .inr ⟨t, rest.map .token, hitems, ?_⟩
    rcases hfollows with hkeyword | ⟨u, t', hu, ht', hsame⟩
    · obtain ⟨name, hname⟩ := hkeyword t rfl
      rw [hname]
      rfl
    · cases ht'
      rw [hsame]
      rcases h with ⟨hnil, _⟩ | ⟨v, more, hhead, hother⟩
      · rw [hnil] at hu
        cases hu
      · rw [hhead] at hu
        cases hu
        exact hother

theorem local_readParameter : Local (fun _ => True) readParameter readParameter := by
  intro c p c' h
  obtain ⟨group, hgroup, htakes⟩ := readParameter_eq_ok.1 h
  refine ⟨trivial, group, htakes.1, hgroup.isPlain, ?_⟩
  intro e tokens rest he htokens _
  obtain ⟨e', htakes', he'⟩ := he.exists_takes
  exact ⟨e', readParameter_eq_ok.2 ⟨tokens, hgroup.of_lexemes htokens, htakes'⟩, he'⟩

theorem local_readParameters : Local (fun _ => True) readParameters readParameters := by
  intro c params c' h
  obtain ⟨taken, hgroups, htakes, hends⟩ := readParameters_eq_ok.1 h
  refine ⟨trivial, taken, htakes.1, hgroups.isPlain, ?_⟩
  intro e tokens rest he htokens hfollows
  obtain ⟨e', htakes', he'⟩ := he.exists_takes
  have hends' := hends.of_follows hfollows he'
  exact ⟨e', readParameters_eq_ok.2 ⟨tokens, hgroups.of_lexemes htokens, htakes', hends'⟩, he'⟩

end SceneDescription
