import SceneDescription.Proofs.Tokens.Scanning

/-!
# Texts as lexemes and gaps

A text that can be scanned to its end is a sequence of gaps and lexemes, and nothing is lost: gap by gap and lexeme by
lexeme it is the text again (`Scanner.tokens_decompose`).  The other way round, lexemes that are written down with gaps
between them, which keep bare lexemes apart, are scanned as these lexemes (`Scanner.tokens_of_layout`).  Either way a
token stands on the line that is one more than the number of line ends in front of it.
-/

namespace SceneDescription

/-- A gap and the lexeme behind it. -/
structure Piece where
  gap : List Char
  lexeme : Lexeme

def Piece.chars (p : Piece) : List Char :=
  p.gap ++ p.lexeme.describe.toList

/-- The piece with its numeral as it is read from its text. -/
def Piece.reread (p : Piece) : Piece :=
  { p with lexeme := p.lexeme.reread }

private theorem Piece.chars_reread (p : Piece) (hl : p.lexeme.Valid) : p.reread.chars = p.chars := by
  rw [chars, chars, reread, hl.describe_reread]

/-- The pieces as one text. -/
def written (pieces : List Piece) : List Char :=
  pieces.flatMap Piece.chars

private theorem written_cons (p : Piece) (pieces : List Piece) : written (p :: pieces) = p.chars ++ written pieces :=
  List.flatMap_cons

/-- The pieces of a text and the gap behind the last of them: two bare lexemes have a gap between them. -/
structure IsLayout (pieces : List Piece) (last : List Char) : Prop where
  gaps : ∀ p ∈ pieces, IsGap false p.gap
  valid : ∀ p ∈ pieces, p.lexeme.Valid
  apart : pieces.IsChain fun p q => p.lexeme.IsBare → q.lexeme.IsBare → q.gap ≠ []
  last : IsGap true last

/-- The tokens stand on the lines of the pieces, counted by the line ends in front of their lexemes. -/
def OnLinesOf (pieces : List Piece) (tokens : List Token) : Prop :=
  ∀ earlier p later, pieces = earlier ++ p :: later →
    (tokens[earlier.length]?).map (·.line) = some (1 + (written earlier ++ p.gap).count '\n')

/-- The tokens of the pieces, if the first of them starts on a line. -/
def tokensFrom (line : Nat) : List Piece → List Token
  | [] => []
  | p :: pieces => ⟨p.lexeme, line + p.gap.count '\n'⟩ :: tokensFrom (line + p.chars.count '\n') pieces

private theorem map_lexeme_tokensFrom (line : Nat) (pieces : List Piece) :
    (tokensFrom line pieces).map (·.lexeme) = pieces.map (·.lexeme) := by
  induction pieces generalizing line with
  | nil => rfl
  | cons p pieces ih => rw [tokensFrom, List.map_cons, List.map_cons, ih]

private theorem line_tokensFrom (line : Nat) (earlier : List Piece) (p : Piece) (later : List Piece) :
    ((tokensFrom line (earlier ++ p :: later))[earlier.length]?).map (·.line) =
      some (line + (written earlier ++ p.gap).count '\n') := by
  induction earlier generalizing line with
  | nil => rfl
  | cons q earlier ih =>
    rw [List.cons_append, tokensFrom, List.length_cons, List.getElem?_cons_succ, ih, Nat.add_assoc,
      ← List.count_append, ← List.append_assoc, ← written_cons]

private theorem map_line_tokensFrom_reread {line : Nat} {pieces : List Piece} (h : ∀ p ∈ pieces, p.lexeme.Valid) :
    (tokensFrom line (pieces.map Piece.reread)).map (·.line) = (tokensFrom line pieces).map (·.line) := by
  induction pieces generalizing line with
  | nil => rfl
  | cons p pieces ih =>
    obtain ⟨hp, hpieces⟩ := List.forall_mem_cons.1 h
    rw [List.map_cons, tokensFrom, tokensFrom, List.map_cons, List.map_cons, ih hpieces, p.chars_reread hp]
    rfl

private theorem onLinesOf_tokensFrom (pieces : List Piece) : OnLinesOf pieces (tokensFrom 1 pieces) := by
  rintro earlier p later rfl
  exact line_tokensFrom 1 earlier p later

/-! ### Keeping lexemes apart -/

private theorem IsGap.opensGap_head {atEnd : Bool} {gap : List Char} (h : IsGap atEnd gap) {c : Char}
    (hc : gap.head? = some c) : opensGap c := by
  cases h with
  | nil => cases hc
  | blank hblank =>
    cases hc
    simpa [opensGap] using .inl hblank
  | comment | unfinished =>
    cases hc
    decide

private theorem isDelimiter_of_opensGap {c : Char} (h : opensGap c) : isDelimiter c := by
  by_contra hc
  have hnot := (isDelimiter_eq_false_iff.1 (Bool.eq_false_iff.2 hc)).1
  rw [h] at hnot
  cases hnot

/-- Lexemes that are not bare begin with a delimiter. -/
private theorem Lexeme.isDelimiter_of_describe {l : Lexeme} (hl : ¬ l.IsBare) {c : Char}
    (hc : l.describe.toList.head? = some c) : isDelimiter c := by
  cases l with
  | identifier | number => exact absurd trivial hl
  | leftBracket | rightBracket =>
    cases hc
    decide
  | quoted content =>
    rw [describe_quoted] at hc
    cases hc
    decide

/-- A bare run can end in front of a piece unless another bare run goes on there. -/
theorem Piece.endsRun_iff {p : Piece} (hgap : IsGap false p.gap) (hl : p.lexeme.Valid) (rest : List Char) :
    EndsRun (p.chars ++ rest) ↔ (p.lexeme.IsBare → p.gap ≠ []) := by
  rw [chars, List.append_assoc]
  constructor
  · intro hend hbare hnil
    obtain ⟨first, tail, htext⟩ := List.exists_cons_of_ne_nil (hl.isBareRun hbare).ne_nil
    have hdescribe : p.lexeme.describe.toList = first :: tail := by
      rw [← htext, Lexeme.describe_of_isBare hbare]
    rw [hnil, hdescribe] at hend
    have hnot := (hl.isBareRun hbare).undelimited first (by rw [htext]; exact List.mem_cons_self)
    rw [hend first rfl] at hnot
    cases hnot
  · intro hapart c hc
    cases hstart : p.gap with
    | cons first gap =>
      rw [hstart] at hc hgap
      cases hc
      exact isDelimiter_of_opensGap (hgap.opensGap_head rfl)
    | nil =>
      rw [hstart, List.nil_append, List.head?_append_of_ne_nil _ hl.describe_ne_nil] at hc
      exact Lexeme.isDelimiter_of_describe (fun hbare => hapart hbare hstart) hc

namespace IsLayout

variable {p : Piece} {pieces : List Piece} {last : List Char}

/-- A layout has a piece in front of a layout, and its lexeme ends there. -/
theorem cons_iff : IsLayout (p :: pieces) last ↔ IsGap false p.gap ∧ p.lexeme.Valid ∧
    (p.lexeme.IsBare → EndsRun (written pieces ++ last)) ∧ IsLayout pieces last := by
  have hends (h : IsLayout pieces last) : EndsRun (written pieces ++ last) ↔
      ∀ q ∈ pieces.head?, q.lexeme.IsBare → q.gap ≠ [] := by
    cases pieces with
    | nil =>
      refine iff_of_true (fun c hc => isDelimiter_of_opensGap (h.last.opensGap_head hc)) (by simp)
    | cons q pieces =>
      have hgap := h.gaps q List.mem_cons_self
      have hl := h.valid q List.mem_cons_self
      rw [written_cons, List.append_assoc, Piece.endsRun_iff hgap hl]
      simp
  constructor
  · rintro ⟨hgaps, hvalid, hapart, hlast⟩
    rw [List.forall_mem_cons] at hgaps hvalid
    rw [List.isChain_cons] at hapart
    have hpieces : IsLayout pieces last := ⟨hgaps.2, hvalid.2, hapart.2, hlast⟩
    exact ⟨hgaps.1, hvalid.1, fun hbare => (hends hpieces).2 fun q hq => hapart.1 q hq hbare, hpieces⟩
  · rintro ⟨hgap, hvalid, hend, hpieces⟩
    refine ⟨List.forall_mem_cons.2 ⟨hgap, hpieces.gaps⟩, List.forall_mem_cons.2 ⟨hvalid, hpieces.valid⟩, ?_,
      hpieces.last⟩
    exact List.isChain_cons.2 ⟨fun q hq hbare => (hends hpieces).1 (hend hbare) q hq, hpieces.apart⟩

/-- A text that is a layout begins with a printable character or a delimiter. -/
private theorem head (h : IsLayout pieces last) {c : Char} (hc : (written pieces ++ last).head? = some c) :
    isDelimiter c ∨ isPrintable c := by
  cases pieces with
  | nil => exact .inl (isDelimiter_of_opensGap (h.last.opensGap_head hc))
  | cons p pieces =>
    obtain ⟨hgap, hl, _, _⟩ := cons_iff.1 h
    by_cases hends : p.lexeme.IsBare → p.gap ≠ []
    · rw [written_cons, List.append_assoc] at hc
      exact .inl ((Piece.endsRun_iff hgap hl _).2 hends c hc)
    · obtain ⟨hbare, hnil⟩ := Classical.not_imp.1 hends
      have hrun := hl.isBareRun hbare
      rw [written_cons, Piece.chars, not_not.1 hnil, List.nil_append, Lexeme.describe_of_isBare hbare,
        List.append_assoc, List.head?_append_of_ne_nil _ hrun.ne_nil] at hc
      exact .inr (hrun.printable c (List.mem_of_head? hc))

end IsLayout

/-! ### From texts to layouts and back -/

namespace Scanner

/-- A text that is scanned as tokens is a layout of their lexemes. -/
private theorem exists_layout {s : Scanner} {tokens : List Token} (h : s.scan = (tokens.map .token, none)) :
    ∃ pieces last, s.rest = written pieces ++ last ∧ IsLayout pieces last ∧ tokens = tokensFrom s.line pieces := by
  induction tokens generalizing s with
  | nil =>
    obtain ⟨gap, hmeets⟩ := s.exists_meets_next
    generalize hnext : s.next = found at hmeets
    cases hmeets with
    | finished hrest hgap => exact ⟨[], gap, hrest, ⟨by simp, by simp, .nil, hgap⟩, rfl⟩
    | token => simp [scan_of_token hnext] at h
    | malformed => simp [scan_of_malformed hnext] at h
    | stuck => simp [scan_of_stuck hnext] at h
  | cons t tokens ih =>
    obtain ⟨gap, hmeets⟩ := s.exists_meets_next
    generalize hnext : s.next = found at hmeets
    cases hmeets with
    | finished => simp [scan_of_finished hnext] at h
    | malformed => simp [scan_of_malformed hnext] at h
    | stuck => simp [scan_of_stuck hnext] at h
    | @token l rest hrest hgap hl _ hend =>
      rw [scan_of_token hnext, List.map_cons, Prod.mk.injEq, List.cons.injEq] at h
      obtain ⟨⟨ht, hitems⟩, hstuck⟩ := h
      cases ht
      obtain ⟨pieces, last, rfl, hpieces, rfl⟩ := ih (Prod.ext hitems hstuck)
      refine ⟨⟨gap, l⟩ :: pieces, last, ?_, IsLayout.cons_iff.2 ⟨hgap, hl, hend, hpieces⟩, rfl⟩
      rw [hrest, written_cons, Piece.chars, List.append_assoc, List.append_assoc]

/-- A layout is scanned as its lexemes. -/
private theorem scan_of_layout {s : Scanner} {pieces : List Piece} {last : List Char} (h : IsLayout pieces last)
    (hrest : s.rest = written pieces ++ last) :
    s.scan = ((tokensFrom s.line (pieces.map Piece.reread)).map .token, none) := by
  induction pieces generalizing s with
  | nil =>
    obtain rfl : s.rest = last := hrest
    rw [scan_of_finished (Meets.finished rfl h.last).next_eq]
    rfl
  | cons p pieces ih =>
    obtain ⟨hgap, hl, hend, hpieces⟩ := IsLayout.cons_iff.1 h
    rw [written_cons, List.append_assoc, Piece.chars, List.append_assoc] at hrest
    have hnext := next_of_lexeme hrest hgap hl hend
    rw [scan_of_token hnext, ih hpieces rfl, List.map_cons, tokensFrom, p.chars_reread hl]
    rfl

/-- Nothing of a text is lost.  A text whose tokens are found is, behind its byte-order mark, made of gaps and the
tokens as they stand in the source, and a gap at the end.  Strings hold no quote; bare lexemes are printable runs
without delimiters, with a gap between any two of them, and are numbers if they begin like numbers and identifiers
otherwise; and every token is on the line of its first character. -/
theorem tokens_decompose {source : String} {text : List Char} {tokens : List Token}
    (h : (Scanner.ofText source text).tokens = .ok tokens) :
    ∃ pieces last, withoutMark text = written pieces ++ last ∧ IsLayout pieces last ∧
      pieces.map (·.lexeme) = tokens.map (·.lexeme) ∧ OnLinesOf pieces tokens ∧
      ∀ t ∈ tokens, t.lexeme.IsBare → IsBareRun t.text.toList ∧
        ∀ c, t.text.toList.head? = some c →
          if startsNumber c then t.lexeme.kind = .number ∧ t.text.toList ∈ numberPattern
          else t.lexeme.kind = .identifier := by
  obtain ⟨hitems, hstuck⟩ := Cursor.over_ofText_iff.2 h
  obtain ⟨pieces, last, hrest, hlayout, rfl⟩ := exists_layout (Prod.ext hitems hstuck)
  have hlexemes := map_lexeme_tokensFrom (Scanner.ofText source text).line pieces
  refine ⟨pieces, last, hrest, hlayout, hlexemes.symm, onLinesOf_tokensFrom pieces, fun t ht hbare => ?_⟩
  have hmem : t.lexeme ∈ pieces.map (·.lexeme) := hlexemes ▸ List.mem_map_of_mem ht
  obtain ⟨p, hp, hlexeme⟩ := List.mem_map.1 hmem
  have hvalid : t.lexeme.Valid := hlexeme ▸ hlayout.valid p hp
  exact ⟨hvalid.isBareRun hbare, fun c hc => hvalid.kind_of_isBare hbare hc⟩

private theorem ofText_of_layout (source : String) {pieces : List Piece} {last : List Char} (h : IsLayout pieces last) :
    ofText source (written pieces ++ last) = ⟨source, written pieces ++ last, 1⟩ := by
  rw [ofText, if_neg]
  intro hmark
  have hnone : (isDelimiter '\ufeff' || isPrintable '\ufeff') = false := by decide +kernel
  rcases h.head hmark with hc | hc <;> simp [hc] at hnone

/-- What is written is found.  Valid lexemes with gaps between them, which may be empty only beside strings and
brackets, are scanned as tokens of the same kinds and texts, each on the line of its first character. -/
theorem tokens_of_layout (source : String) {pieces : List Piece} {last : List Char} (h : IsLayout pieces last) :
    ∃ tokens, (ofText source (written pieces ++ last)).tokens = .ok tokens ∧
      tokens.map (fun t => (t.lexeme.kind, t.text)) = pieces.map (fun p => (p.lexeme.kind, p.lexeme.text)) ∧
      OnLinesOf pieces tokens := by
  have hscan : (ofText source (written pieces ++ last)).scan =
      ((tokensFrom 1 (pieces.map Piece.reread)).map .token, none) := by
    rw [ofText_of_layout source h, scan_of_layout h rfl]
  refine ⟨_, Cursor.over_ofText_iff.1 (Prod.mk.inj hscan), ?_, ?_⟩
  · have hlexemes := map_lexeme_tokensFrom 1 (pieces.map Piece.reread)
    calc (tokensFrom 1 (pieces.map Piece.reread)).map (fun t => (t.lexeme.kind, t.text))
        = ((tokensFrom 1 (pieces.map Piece.reread)).map (·.lexeme)).map fun l => (l.kind, l.text) := by
          rw [List.map_map]
          rfl
      _ = pieces.map fun p => (p.lexeme.reread.kind, p.lexeme.reread.text) := by
          rw [hlexemes, List.map_map, List.map_map]
          rfl
      _ = pieces.map fun p => (p.lexeme.kind, p.lexeme.text) := by
          refine List.map_congr_left fun p hp => ?_
          rw [p.lexeme.kind_reread, (h.valid p hp).text_reread]
  · intro earlier p later hpieces
    rw [← List.getElem?_map, map_line_tokensFrom_reread h.valid, List.getElem?_map]
    exact onLinesOf_tokensFrom pieces earlier p later hpieces

end Scanner

namespace ClosePacked

/-- A text with a quote in a comment, a string over two lines and a comment at its end, with no more blanks than are
needed. -/
def text : List Char :=
  "# \"one\"\nShape\"a\nb\"[-.5e1 two]#".toList

def pieces : List Piece :=
  [⟨"# \"one\"\n".toList, .identifier "Shape"⟩, ⟨[], .quoted "a\nb"⟩, ⟨[], .leftBracket⟩,
    ⟨[], .number ⟨some .minus, [], some ['5'], some ⟨'e', none, ['1']⟩⟩⟩, ⟨[' '], .identifier "two"⟩,
    ⟨[], .rightBracket⟩]

def tokens : List Token :=
  [⟨.identifier "Shape", 2⟩, ⟨.quoted "a\nb", 2⟩, ⟨.leftBracket, 3⟩,
    ⟨.number ⟨some .minus, [], some ['5'], some ⟨'e', none, ['1']⟩⟩, 3⟩, ⟨.identifier "two", 3⟩, ⟨.rightBracket, 3⟩]

/-- Behind a byte-order mark, the text is decomposed. -/
theorem decomposed_behind_mark : ∃ pieces last, text = written pieces ++ last ∧ IsLayout pieces last ∧
    pieces.map (·.lexeme) = tokens.map (·.lexeme) ∧ OnLinesOf pieces tokens := by
  have h : (Scanner.ofText "<string>" ('\ufeff' :: text)).tokens = .ok tokens := by cbv
  obtain ⟨pieces, last, htext, hlayout, hlexemes, hlines, _⟩ := Scanner.tokens_decompose h
  exact ⟨pieces, last, htext, hlayout, hlexemes, hlines⟩

private theorem isLayout : IsLayout pieces ['#'] := by
  have hshape : IsBareRun "Shape".toList := ⟨by simp, by simp [isPrintable], by simp [isDelimiter, isGapBlank]⟩
  have htwo : IsBareRun "two".toList := ⟨by simp, by simp [isPrintable], by simp [isDelimiter, isGapBlank]⟩
  have hnumber : ['-', '.', '5', 'e', '1'] ∈ numberPattern := Numeral.isSome_parse?_iff.1 (by decide)
  have hgap : IsGap false "# \"one\"\n".toList := by
    have hcontent : '\n' ∉ " \"one\"".toList := by decide
    exact .comment hcontent .nil
  have hblank : IsGap false [' '] := .blank (.inl (by decide)) .nil
  refine ⟨?_, ?_, ?_, .unfinished rfl (by simp)⟩
  · simpa [pieces, IsGap.nil] using ⟨hgap, hblank⟩
  · simp only [pieces, List.forall_mem_cons, Lexeme.Valid]
    refine ⟨⟨hshape, by simp [startsNumber]⟩, by simp, trivial, ⟨hnumber, ?_⟩, ⟨htwo, by simp [startsNumber]⟩, trivial,
      by simp⟩
    rintro _ ⟨⟩
    decide
  · simp [pieces, Lexeme.IsBare]

/-- The lexemes of the text are found again, the number on the third line. -/
theorem found_as_written : ∃ tokens, (Scanner.ofText "<string>" text).tokens = .ok tokens ∧
    tokens.map (fun t => (t.lexeme.kind, t.text)) = [(.identifier, "Shape"), (.quoted, "a\nb"), (.leftBracket, "["),
      (.number, "-.5e1"), (.identifier, "two"), (.rightBracket, "]")] ∧
    (tokens[3]?).map (·.line) = some 3 := by
  have htext : text = written pieces ++ ['#'] := by decide
  obtain ⟨tokens, hscan, hread, hlines⟩ := Scanner.tokens_of_layout "<string>" isLayout
  rw [← htext] at hscan
  exact ⟨tokens, hscan, hread.trans (by decide), hlines (pieces.take 3) _ (pieces.drop 4) rfl⟩

end ClosePacked

end SceneDescription
