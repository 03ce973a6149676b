import SceneDescription.Proofs.Tokens.NumberValues

/-!
# The grammar of values

What the tokens of a value must be for a type, and which value they spell: every token is read as a component of the
type (`ParameterType.Reads`), and their number is a positive multiple of the type's arity.  A spectrum is a name, a
colour or pairs (`ParameterType.Spells`).  `decodeValue` gives exactly the values that are spelled
(`decodeValue_eq_ok`).  Where there is none, it reports the count on the line of the heading if that is wrong
(`ParameterType.Miscounts`), and otherwise the first token that cannot be read, on its own line
(`decodeValue_eq_error`).
-/

namespace SceneDescription

/-! ### Components -/

/-- The word for a truth value. -/
def truthWord : Bool → String
  | true => "true"
  | false => "false"

namespace ParameterType

/-- A lexeme is read as a component where one of a type is expected. -/
inductive Reads : ParameterType → Lexeme → Component → Prop
  | integer {n : Numeral} (h : n.IsInteger) :
      Reads .integer (.number n) (.integer (signed n.sign (placeValue n.whole)))
  | real (type : RealType) (n : Numeral) : Reads (.real type) (.number n) (.real n.toFloat)
  | quotedFlag (b : Bool) : Reads .bool (.quoted (truthWord b)) (.flag b)
  | bareFlag (b : Bool) : Reads .bool (.identifier (truthWord b)) (.flag b)
  | text (type : TextType) (content : String) : Reads (.text type) (.quoted content) (.text content)

/-- What is said to be expected where a component cannot be read. -/
def expected : ParameterType → Expected
  | integer => .integer
  | real _ => .number
  | bool => .truthValue
  | text _ => .quotedString

/-- The first token that cannot be read as a component. -/
def FirstUnread (type : ParameterType) (tokens : List Token) (t : Token) : Prop :=
  ∃ front rest, tokens = front ++ t :: rest ∧ (∀ u ∈ front, ∃ c, type.Reads u.lexeme c) ∧
    ∀ c, ¬ type.Reads t.lexeme c

/-- A number of components that makes full groups. -/
def Fits (type : ParameterType) (n : Nat) : Prop :=
  0 < n ∧ type.arity ∣ n

/-- The report of a token that cannot be read. -/
def unreadable (type : ParameterType) (heading t : Token) : Report Fault :=
  (Fault.unconvertible heading.text type.expected t.describe).at t.line

/-- The report of a wrong number of components. -/
def miscounted (type : ParameterType) (keyword : String) (given : Nat) (heading : Token) : Report Fault :=
  (Fault.arityMismatch heading.text keyword type.arity given).at heading.line

end ParameterType

/-! ### Conversions -/

/-- A conversion of tokens to the components of a type. -/
structure Token.Converts {α : Type} (type : ParameterType) (heading : Token)
    (convert : Token → Except (Report Fault) α) (component : α → Component) : Prop where
  ok (t : Token) (a : α) : convert t = .ok a ↔ type.Reads t.lexeme (component a)
  surjective {l : Lexeme} {c : Component} (h : type.Reads l c) : ∃ a, component a = c
  error {t : Token} {r : Report Fault} (h : convert t = .error r) : r = type.unreadable heading t

namespace Token

variable (heading : Token)

private theorem converts_toFloat (type : RealType) :
    Converts (.real type) heading (Token.toFloat heading.text) .real where
  ok t x := by
    obtain ⟨l, line⟩ := t
    constructor
    · intro h
      cases l with
      | number n =>
        cases h
        exact .real type n
      | _ => cases h
    · rintro ⟨⟩
      rfl
  surjective := by
    rintro _ _ ⟨⟩
    exact ⟨_, rfl⟩
  error {t r} h := by
    obtain ⟨l, line⟩ := t
    cases l with
    | number n => cases h
    | _ => exact (Except.error.inj h).symm

private theorem converts_toInt : Converts .integer heading (Token.toInt heading.text) .integer where
  ok t i := by
    obtain ⟨l, line⟩ := t
    constructor
    · intro h
      cases l with
      | number n =>
        obtain ⟨hn, rfl⟩ := Numeral.toInt?_eq_some.1 (toInt_number.1 h)
        exact .integer hn
      | _ => cases h
    · rintro ⟨hn⟩
      exact toInt_number.2 (Numeral.toInt?_eq_some.2 ⟨hn, rfl⟩)
  surjective := by
    rintro _ _ ⟨⟩
    exact ⟨_, rfl⟩
  error {t r} h := by
    unfold Token.toInt at h
    split at h
    · split at h
      · cases h
      · exact (Except.error.inj h).symm
    · exact (Except.error.inj h).symm

private theorem converts_toBool : Converts .bool heading (Token.toBool heading.text) .flag where
  ok t b := by
    obtain ⟨l, line⟩ := t
    constructor
    · intro h
      unfold Token.toBool at h
      dsimp only at h
      split at h
      · cases h
        exact .quotedFlag true
      · cases h
        exact .bareFlag true
      · cases h
        exact .quotedFlag false
      · cases h
        exact .bareFlag false
      · cases h
    · rintro ⟨⟩ <;> cases b <;> rfl
  surjective := by
    rintro _ _ ⟨⟩ <;> exact ⟨_, rfl⟩
  error {t r} h := by
    unfold Token.toBool at h
    split at h
    case h_5 => exact (Except.error.inj h).symm
    all_goals cases h

private theorem converts_toQuoted (type : TextType) :
    Converts (.text type) heading (Token.toQuoted heading.text) .text where
  ok t content := by
    obtain ⟨l, line⟩ := t
    constructor
    · intro h
      cases l with
      | quoted content =>
        cases h
        exact .text type content
      | _ => cases h
    · rintro ⟨⟩
      rfl
  surjective := by
    rintro _ _ ⟨⟩
    exact ⟨_, rfl⟩
  error {t r} h := by
    obtain ⟨l, line⟩ := t
    cases l with
    | quoted content => cases h
    | _ => exact (Except.error.inj h).symm

namespace Converts

variable {heading} {α : Type} {type : ParameterType} {convert : Token → Except (Report Fault) α}
  {component : α → Component} {tokens : List Token}

theorem error_iff (h : Converts type heading convert component) {t : Token} {r : Report Fault} :
    convert t = .error r ↔ (∀ c, ¬ type.Reads t.lexeme c) ∧ r = type.unreadable heading t := by
  constructor
  · intro herror
    refine ⟨fun c hc => ?_, h.error herror⟩
    obtain ⟨a, rfl⟩ := h.surjective hc
    cases herror.symm.trans ((h.ok t a).2 hc)
  · rintro ⟨hnone, rfl⟩
    cases hconvert : convert t with
    | ok a => exact absurd ((h.ok t a).1 hconvert) (hnone _)
    | error r => rw [h.error hconvert]

theorem exists_ok_iff (h : Converts type heading convert component) {t : Token} :
    (∃ a, convert t = .ok a) ↔ ∃ c, type.Reads t.lexeme c := by
  constructor
  · rintro ⟨a, ha⟩
    exact ⟨_, (h.ok t a).1 ha⟩
  · rintro ⟨c, hc⟩
    obtain ⟨a, rfl⟩ := h.surjective hc
    exact ⟨a, (h.ok t a).2 hc⟩

/-- The components that tokens are read as, one by one. -/
theorem mapM_ok_iff (h : Converts type heading convert component) {components : List Component} :
    (∃ values, tokens.mapM convert = .ok values ∧ values.map component = components) ↔
      List.Forall₂ type.Reads (tokens.map (·.lexeme)) components := by
  rw [List.forall₂_map_left_iff]
  constructor
  · rintro ⟨values, hvalues, rfl⟩
    rw [List.forall₂_map_right_iff]
    exact (mapM_eq_ok.1 hvalues).imp fun t a => (h.ok t a).1
  · intro hreads
    induction hreads with
    | nil => exact ⟨[], rfl, rfl⟩
    | cons hfirst _ ih =>
      obtain ⟨values, hvalues, rfl⟩ := ih
      obtain ⟨a, rfl⟩ := h.surjective hfirst
      exact ⟨a :: values, mapM_eq_ok.2 (.cons ((h.ok _ a).2 hfirst) (mapM_eq_ok.1 hvalues)), rfl⟩

theorem mapM_error_iff (h : Converts type heading convert component) {r : Report Fault} :
    tokens.mapM convert = .error r ↔ ∃ t, type.FirstUnread tokens t ∧ r = type.unreadable heading t := by
  rw [mapM_eq_error]
  constructor
  · rintro ⟨front, t, rest, htokens, hfront, ht⟩
    obtain ⟨hnone, hr⟩ := h.error_iff.1 ht
    exact ⟨t, ⟨front, rest, htokens, fun u hu => h.exists_ok_iff.1 (hfront u hu), hnone⟩, hr⟩
  · rintro ⟨t, ⟨front, rest, htokens, hfront, hnone⟩, hr⟩
    exact ⟨front, t, rest, htokens, fun u hu => h.exists_ok_iff.2 (hfront u hu), h.error_iff.2 ⟨hnone, hr⟩⟩

end Converts

end Token

/-! ### Counting -/

section Counting

variable {type : ParameterType} {keyword : String} {given : Nat} {heading : Token}

private theorem checkArity_eq_ok : checkArity type keyword given heading = .ok () ↔ type.Fits given := by
  have hgiven : ¬ (given = 0 ∨ given % type.arity ≠ 0) ↔ type.Fits given := by
    rw [not_or, not_not, ← Nat.dvd_iff_mod_eq_zero]
    exact and_congr_left' Nat.pos_iff_ne_zero.symm
  rw [← hgiven]
  unfold checkArity
  split
  · rename_i h
    simp only [Bool.or_eq_true, decide_eq_true_eq] at h
    simp [h]
  · rename_i h
    simp only [Bool.or_eq_true, decide_eq_true_eq] at h
    simp [h]

private theorem checkArity_eq_error {r : Report Fault} : checkArity type keyword given heading = .error r ↔
    ¬ type.Fits given ∧ r = type.miscounted keyword given heading := by
  rw [← @checkArity_eq_ok type keyword given heading]
  unfold checkArity ParameterType.miscounted
  split
  · simp [eq_comm]
  · simp

end Counting

/-! ### Values of one kind -/

/-- A value is determined by its type and its components. -/
private theorem Value.ext {v w : Value} (htype : v.type = w.type) (hcomponents : v.components = w.components) :
    v = w := by
  cases v with
  | integers values =>
    cases w with
    | integers values' =>
      exact congrArg integers (List.map_injective_iff.2 (fun _ _ => Component.integer.inj) hcomponents)
    | _ => cases htype
  | reals type values =>
    cases w with
    | reals type' values' =>
      cases htype
      exact congrArg (reals type) (List.map_injective_iff.2 (fun _ _ => Component.real.inj) hcomponents)
    | _ => cases htype
  | flags values =>
    cases w with
    | flags values' => exact congrArg flags (List.map_injective_iff.2 (fun _ _ => Component.flag.inj) hcomponents)
    | _ => cases htype
  | texts type values =>
    cases w with
    | texts type' values' =>
      cases htype
      exact congrArg (texts type) (List.map_injective_iff.2 (fun _ _ => Component.text.inj) hcomponents)
    | _ => cases htype

section

variable {α : Type} {type target : ParameterType} {keyword : String} {tokens : List Token} {heading : Token}
  {convert : Token → Except (Report Fault) α} {component : α → Component} {make : List α → Value} {v : Value}
  {r : Report Fault}

/-- The value that is made of components is determined by its type and by them. -/
private theorem made_eq_ok (h : Token.Converts type heading convert component)
    (hmake : ∀ values, (make values).type = target ∧ (make values).components = values.map component) :
    (∃ values, tokens.mapM convert = .ok values ∧ make values = v) ↔
      v.type = target ∧ List.Forall₂ type.Reads (tokens.map (·.lexeme)) v.components := by
  constructor
  · rintro ⟨values, hvalues, rfl⟩
    obtain ⟨htype, hcomponents⟩ := hmake values
    exact ⟨htype, h.mapM_ok_iff.1 ⟨values, hvalues, hcomponents.symm⟩⟩
  · rintro ⟨htype, hreads⟩
    obtain ⟨values, hvalues, hcomponents⟩ := h.mapM_ok_iff.2 hreads
    obtain ⟨htype', hcomponents'⟩ := hmake values
    exact ⟨values, hvalues, Value.ext (htype'.trans htype.symm) (hcomponents'.trans hcomponents)⟩

/-- Values that are counted first, and then made of their components. -/
private theorem counted_eq_ok (h : Token.Converts type heading convert component)
    (hmake : ∀ values, (make values).type = type ∧ (make values).components = values.map component) :
    (do checkArity type keyword tokens.length heading; return make (← tokens.mapM convert)) = .ok v ↔
      type.Fits tokens.length ∧ v.type = type ∧
        List.Forall₂ type.Reads (tokens.map (·.lexeme)) v.components := by
  rw [bind_eq_ok, ← made_eq_ok h hmake, ← @checkArity_eq_ok type keyword tokens.length heading]
  simp only [bind_pure_eq_ok]
  constructor
  · rintro ⟨⟨⟩, harity, hvalues⟩
    exact ⟨harity, hvalues⟩
  · rintro ⟨harity, hvalues⟩
    exact ⟨(), harity, hvalues⟩

private theorem counted_eq_error (h : Token.Converts type heading convert component) :
    (do checkArity type keyword tokens.length heading; return make (← tokens.mapM convert)) = .error r ↔
      (¬ type.Fits tokens.length ∧ r = type.miscounted keyword tokens.length heading) ∨
      (type.Fits tokens.length ∧ ∃ t, type.FirstUnread tokens t ∧ r = type.unreadable heading t) := by
  rw [bind_eq_error, checkArity_eq_error, ← h.mapM_error_iff, ← @checkArity_eq_ok type keyword tokens.length heading]
  refine or_congr_right ?_
  constructor
  · rintro ⟨⟨⟩, harity, herror⟩
    rcases bind_eq_error.1 herror with hvalues | ⟨_, _, hpure⟩
    · exact ⟨harity, hvalues⟩
    · cases hpure
  · rintro ⟨harity, hvalues⟩
    exact ⟨(), harity, bind_eq_error.2 (.inl hvalues)⟩

end

/-! ### The grammar -/

namespace ParameterType

/-- The values that lexemes spell for a type.  A spectrum may be a name, a colour of three numbers, or pairs. -/
inductive Spells : ParameterType → List Lexeme → Value → Prop
  | plain {type : ParameterType} {lexemes : List Lexeme} {v : Value} (hplain : type ≠ .real .spectrum)
      (hfits : type.Fits lexemes.length) (htype : v.type = type)
      (hreads : List.Forall₂ type.Reads lexemes v.components) : Spells type lexemes v
  | name (content : String) : Spells (.real .spectrum) [.quoted content] (.texts .namedSpectrum [content])
  | colour {lexemes : List Lexeme} {v : Value} (hthree : lexemes.length = 3) (htype : v.type = .real .rgb)
      (hreads : List.Forall₂ (Reads (.real .spectrum)) lexemes v.components) : Spells (.real .spectrum) lexemes v
  | pairs {lexemes : List Lexeme} {v : Value} (hpos : 0 < lexemes.length) (heven : Even lexemes.length)
      (htype : v.type = .real .spectrum) (hreads : List.Forall₂ (Reads (.real .spectrum)) lexemes v.components) :
      Spells (.real .spectrum) lexemes v

/-- The lexemes are of the wrong number, with the fault that says so.  Only what could be a colour or pairs is counted
as such. -/
inductive Miscounts (heading keyword : String) : ParameterType → List Lexeme → Fault → Prop
  | plain {type : ParameterType} {lexemes : List Lexeme} (hplain : type ≠ .real .spectrum)
      (hcount : ¬ type.Fits lexemes.length) :
      Miscounts heading keyword type lexemes (.arityMismatch heading keyword type.arity lexemes.length)
  | name (content : String) (l : Lexeme) (others : List Lexeme) :
      Miscounts heading keyword (.real .spectrum) (.quoted content :: l :: others)
        (.namedSpectrumCount heading (others.length + 2))
  | pairs {lexemes : List Lexeme} (hnumbers : ∀ l ∈ lexemes, ∃ n, l = .number n) (hthree : lexemes.length ≠ 3)
      (hcount : ¬ (0 < lexemes.length ∧ Even lexemes.length)) :
      Miscounts heading keyword (.real .spectrum) lexemes (.arityMismatch heading keyword 2 lexemes.length)

/-- The report of tokens that spell no value of a type: on the line of the heading if their number is wrong, and on
that of the first token that cannot be read otherwise.  The name of a spectrum need not be read as a number. -/
inductive Refuses (keyword : String) (tokens : List Token) (heading : Token) (type : ParameterType) :
    Report Fault → Prop
  | count {fault : Fault} (hcount : Miscounts heading.text keyword type (tokens.map (·.lexeme)) fault) :
      Refuses keyword tokens heading type (fault.at heading.line)
  | component {t : Token} (hcount : ∀ fault, ¬ Miscounts heading.text keyword type (tokens.map (·.lexeme)) fault)
      (hname : type = .real .spectrum → ∀ content, tokens.map (·.lexeme) ≠ [.quoted content])
      (ht : type.FirstUnread tokens t) : Refuses keyword tokens heading type (type.unreadable heading t)

variable {type : ParameterType} {lexemes : List Lexeme} {heading keyword : String} {fault : Fault}

private theorem Reads.isValue {l : Lexeme} {c : Component} (h : type.Reads l c) : l.isValue := by
  cases h with
  | integer | real | quotedFlag | text => rfl
  | bareFlag b => cases b <;> rfl

/-- The lexemes that spell a value may stand between its brackets. -/
theorem Spells.isValue {v : Value} (h : type.Spells lexemes v) : ∀ l ∈ lexemes, l.isValue := by
  have hreads {type : ParameterType} {lexemes : List Lexeme} {components : List Component}
      (h : List.Forall₂ type.Reads lexemes components) : ∀ l ∈ lexemes, l.isValue := by
    induction h with
    | nil => simp
    | cons hfirst _ ih => exact List.forall_mem_cons.2 ⟨hfirst.isValue, ih⟩
  cases h with
  | plain _ _ _ h | colour _ _ h | pairs _ _ _ h => exact hreads h
  | name content => simp [Lexeme.isValue]

theorem reads_real_iff {type : RealType} {l : Lexeme} : (∃ c, Reads (.real type) l c) ↔ ∃ n, l = .number n := by
  constructor
  · rintro ⟨_, ⟨⟩⟩
    exact ⟨_, rfl⟩
  · rintro ⟨n, rfl⟩
    exact ⟨_, .real type n⟩

/-- The number of components that there must be a multiple of.  A spectrum that begins with a text is a single name. -/
def countArity : ParameterType → List Lexeme → Nat
  | .real .spectrum, .quoted _ :: _ => 1
  | type, _ => type.arity

theorem Miscounts.kind_and_given (h : Miscounts heading keyword type lexemes fault) :
    fault.kind = .arityMismatch ∧ fault.arityAndGiven? = some (type.countArity lexemes, lexemes.length) := by
  cases h with
  | plain hplain _ =>
    refine ⟨rfl, ?_⟩
    rw [countArity.eq_2 _ _ fun _ _ hspectrum _ => hplain hspectrum]
    rfl
  | name => exact ⟨rfl, rfl⟩
  | pairs hnumbers _ _ =>
    refine ⟨rfl, ?_⟩
    rw [countArity.eq_2]
    · rfl
    · rintro content others - rfl
      obtain ⟨n, hn⟩ := hnumbers _ (List.mem_cons_self ..)
      cases hn

theorem miscounts_plain_iff (hplain : type ≠ .real .spectrum) :
    Miscounts heading keyword type lexemes fault ↔
      ¬ type.Fits lexemes.length ∧ fault = .arityMismatch heading keyword type.arity lexemes.length := by
  constructor
  · intro h
    cases h with
    | plain _ hcount => exact ⟨hcount, rfl⟩
    | name | pairs => exact absurd rfl hplain
  · rintro ⟨hcount, rfl⟩
    exact .plain hplain hcount

end ParameterType

section

open ParameterType

variable {type : ParameterType} {keyword : String} {tokens : List Token} {heading : Token} {v : Value}
  {r : Report Fault}

theorem spells_plain_iff (hplain : type ≠ .real .spectrum) {lexemes : List Lexeme} : type.Spells lexemes v ↔
    type.Fits lexemes.length ∧ v.type = type ∧ List.Forall₂ type.Reads lexemes v.components := by
  constructor
  · intro h
    cases h with
    | plain _ hfits htype hreads => exact ⟨hfits, htype, hreads⟩
    | name | colour | pairs => exact absurd rfl hplain
  · rintro ⟨hfits, htype, hreads⟩
    exact .plain hplain hfits htype hreads

theorem refuses_plain_iff (hplain : type ≠ .real .spectrum) : type.Refuses keyword tokens heading r ↔
    (¬ type.Fits tokens.length ∧ r = type.miscounted keyword tokens.length heading) ∨
      (type.Fits tokens.length ∧ ∃ t, type.FirstUnread tokens t ∧ r = type.unreadable heading t) := by
  have hlength : (tokens.map (·.lexeme)).length = tokens.length := List.length_map _
  constructor
  · intro h
    cases h with
    | count h =>
      obtain ⟨hcount, rfl⟩ := (miscounts_plain_iff hplain).1 h
      rw [hlength] at hcount ⊢
      exact .inl ⟨hcount, rfl⟩
    | component hcount _ ht =>
      refine .inr ⟨?_, _, ht, rfl⟩
      by_contra hfits
      rw [← hlength] at hfits
      exact hcount _ (.plain hplain hfits)
  · rintro (⟨hcount, rfl⟩ | ⟨hfits, t, ht, rfl⟩)
    · rw [miscounted, ← hlength]
      rw [← hlength] at hcount
      exact .count (.plain hplain hcount)
    · refine .component (fun fault hcount => ?_) (fun hspectrum => absurd hspectrum hplain) ht
      rw [← hlength] at hfits
      exact ((miscounts_plain_iff hplain).1 hcount).1 hfits

/-! ### Spectra -/

/-- A spectrum that does not begin with a text is converted before it is counted. -/
private theorem decodeSpectrum_unnamed (h : ∀ content line others, tokens ≠ ⟨.quoted content, line⟩ :: others) :
    decodeSpectrum keyword tokens heading = do
      let floats ← tokens.mapM (Token.toFloat heading.text)
      if floats.length = 3 then return .reals .rgb floats
      checkArity (.real .spectrum) keyword floats.length heading
      return .reals .spectrum floats := by
  unfold decodeSpectrum
  split
  · exact absurd rfl (h _ _ _)
  · rfl

private theorem fits_spectrum_iff {n : Nat} : (ParameterType.real .spectrum).Fits n ↔ 0 < n ∧ Even n :=
  and_congr_right' even_iff_two_dvd.symm

/-- Numbers make a colour or pairs. -/
private theorem coloured_eq_ok {floats : List Float} :
    (do if floats.length = 3 then return .reals .rgb floats
        checkArity (.real .spectrum) keyword floats.length heading
        return .reals .spectrum floats : Except (Report Fault) Value) = .ok v ↔
      (floats.length = 3 ∧ .reals .rgb floats = v) ∨
        ((0 < floats.length ∧ Even floats.length) ∧ .reals .spectrum floats = v) := by
  by_cases hthree : floats.length = 3
  · have hodd : ¬ Even 3 := by decide
    simp [hthree, hodd, pure, Except.pure]
  · rw [if_neg hthree, ← fits_spectrum_iff]
    refine bind_pure_eq_ok.trans ⟨?_, ?_⟩
    · rintro ⟨⟨⟩, hcount, hv⟩
      exact .inr ⟨checkArity_eq_ok.1 hcount, hv⟩
    · rintro (⟨h, _⟩ | ⟨hcount, hv⟩)
      · exact absurd h hthree
      · exact ⟨(), checkArity_eq_ok.2 hcount, hv⟩

private theorem coloured_eq_error {floats : List Float} :
    (do if floats.length = 3 then return .reals .rgb floats
        checkArity (.real .spectrum) keyword floats.length heading
        return .reals .spectrum floats : Except (Report Fault) Value) = .error r ↔
      floats.length ≠ 3 ∧ ¬ (0 < floats.length ∧ Even floats.length) ∧
        r = (ParameterType.real .spectrum).miscounted keyword floats.length heading := by
  by_cases hthree : floats.length = 3
  · simp [hthree, pure, Except.pure]
  · rw [if_neg hthree, bind_eq_error, checkArity_eq_error, fits_spectrum_iff]
    simp [hthree, pure, Except.pure]

private theorem decodeSpectrum_unnamed_eq_ok (h : ∀ content line others, tokens ≠ ⟨.quoted content, line⟩ :: others) :
    decodeSpectrum keyword tokens heading = .ok v ↔
      List.Forall₂ (Reads (.real .spectrum)) (tokens.map (·.lexeme)) v.components ∧
        ((tokens.length = 3 ∧ v.type = .real .rgb) ∨
          ((0 < tokens.length ∧ Even tokens.length) ∧ v.type = .real .spectrum)) := by
  have hconverts := Token.converts_toFloat heading .spectrum
  have hmade (type : RealType) :
      (∃ floats, tokens.mapM (Token.toFloat heading.text) = .ok floats ∧ Value.reals type floats = v) ↔
        v.type = .real type ∧ List.Forall₂ (Reads (.real .spectrum)) (tokens.map (·.lexeme)) v.components :=
    made_eq_ok hconverts fun _ => ⟨rfl, rfl⟩
  have hlength {floats : List Float} (hfloats : tokens.mapM (Token.toFloat heading.text) = .ok floats) :
      floats.length = tokens.length := (mapM_eq_ok.1 hfloats).length_eq.symm
  rw [decodeSpectrum_unnamed h, bind_eq_ok]
  simp only [coloured_eq_ok]
  constructor
  · rintro ⟨floats, hfloats, ⟨hthree, hv⟩ | ⟨hcount, hv⟩⟩
    · obtain ⟨htype, hreads⟩ := (hmade .rgb).1 ⟨floats, hfloats, hv⟩
      exact ⟨hreads, .inl ⟨hlength hfloats ▸ hthree, htype⟩⟩
    · obtain ⟨htype, hreads⟩ := (hmade .spectrum).1 ⟨floats, hfloats, hv⟩
      exact ⟨hreads, .inr ⟨hlength hfloats ▸ hcount, htype⟩⟩
  · rintro ⟨hreads, ⟨hthree, htype⟩ | ⟨hcount, htype⟩⟩
    · obtain ⟨floats, hfloats, hv⟩ := (hmade .rgb).2 ⟨htype, hreads⟩
      exact ⟨floats, hfloats, .inl ⟨(hlength hfloats).trans hthree, hv⟩⟩
    · obtain ⟨floats, hfloats, hv⟩ := (hmade .spectrum).2 ⟨htype, hreads⟩
      exact ⟨floats, hfloats, .inr ⟨hlength hfloats ▸ hcount, hv⟩⟩

/-- A name is all that a spectrum may have that begins with a text. -/
private theorem spells_named_iff {content : String} {others : List Lexeme} :
    (ParameterType.real .spectrum).Spells (.quoted content :: others) v ↔
      others = [] ∧ v = .texts .namedSpectrum [content] := by
  constructor
  · intro h
    cases h with
    | plain hplain => exact absurd rfl hplain
    | name => exact ⟨rfl, rfl⟩
    | colour _ _ hreads | pairs _ _ _ hreads =>
      obtain ⟨_, _, hfirst, _⟩ := List.forall₂_cons_left_iff.1 hreads
      cases hfirst
  · rintro ⟨rfl, rfl⟩
    exact .name content

private theorem spells_unnamed_iff {lexemes : List Lexeme} (h : ∀ content others, lexemes ≠ .quoted content :: others) :
    (ParameterType.real .spectrum).Spells lexemes v ↔ List.Forall₂ (Reads (.real .spectrum)) lexemes v.components ∧
      ((lexemes.length = 3 ∧ v.type = .real .rgb) ∨
        ((0 < lexemes.length ∧ Even lexemes.length) ∧ v.type = .real .spectrum)) := by
  constructor
  · intro hspells
    cases hspells with
    | plain hplain => exact absurd rfl hplain
    | name => exact absurd rfl (h _ _)
    | colour hthree htype hreads => exact ⟨hreads, .inl ⟨hthree, htype⟩⟩
    | pairs hpos heven htype hreads => exact ⟨hreads, .inr ⟨⟨hpos, heven⟩, htype⟩⟩
  · rintro ⟨hreads, ⟨hthree, htype⟩ | ⟨⟨hpos, heven⟩, htype⟩⟩
    · exact .colour hthree htype hreads
    · exact .pairs hpos heven htype hreads

private theorem lexemes_unnamed (h : ∀ content line others, tokens ≠ ⟨.quoted content, line⟩ :: others)
    (content : String) (others : List Lexeme) : tokens.map (·.lexeme) ≠ .quoted content :: others := by
  intro hlexemes
  obtain ⟨⟨_, line⟩, rest, rfl, rfl, _⟩ := List.map_eq_cons_iff.1 hlexemes
  exact h content line rest rfl

private theorem decodeSpectrum_eq_ok : decodeSpectrum keyword tokens heading = .ok v ↔
    (ParameterType.real .spectrum).Spells (tokens.map (·.lexeme)) v := by
  by_cases hnamed : ∃ content line others, tokens = ⟨.quoted content, line⟩ :: others
  · obtain ⟨content, line, others, rfl⟩ := hnamed
    rw [List.map_cons, spells_named_iff, List.map_eq_nil_iff]
    cases others with
    | nil => simp [decodeSpectrum, eq_comm]
    | cons t others => simp [decodeSpectrum]
  · push Not at hnamed
    rw [decodeSpectrum_unnamed_eq_ok hnamed, spells_unnamed_iff (lexemes_unnamed hnamed), List.length_map]

/-- Where a spectrum begins with a text, only the count can be wrong. -/
private theorem refuses_named_iff {content : String} {line : Nat} {others : List Token} :
    (ParameterType.real .spectrum).Refuses keyword (⟨.quoted content, line⟩ :: others) heading r ↔
      others ≠ [] ∧ r = (Fault.namedSpectrumCount heading.text (others.length + 1)).at heading.line := by
  constructor
  · intro h
    cases h with
    | count hcount =>
      generalize hlexemes : (Token.mk (.quoted content) line :: others).map (·.lexeme) = lexemes at hcount
      cases hcount with
      | plain hplain => exact absurd rfl hplain
      | name _ l more =>
        obtain ⟨t, rest, rfl, _, rfl⟩ := List.map_eq_cons_iff.1 (List.cons.inj hlexemes).2
        simp
      | pairs hnumbers =>
        obtain ⟨n, hn⟩ := hnumbers (.quoted content) (hlexemes ▸ List.mem_cons_self ..)
        cases hn
    | component hcount hname _ =>
      cases others with
      | nil => exact absurd rfl (hname rfl content)
      | cons t rest => exact absurd (.name content t.lexeme (rest.map (·.lexeme))) (hcount _)
  · rintro ⟨hne, rfl⟩
    obtain ⟨t, rest, rfl⟩ := List.exists_cons_of_ne_nil hne
    have hcount : Miscounts heading.text keyword (.real .spectrum)
        ((⟨.quoted content, line⟩ :: t :: rest).map (·.lexeme))
        (.namedSpectrumCount heading.text (rest.length + 2)) := by
      rw [← rest.length_map]
      exact .name content t.lexeme (rest.map (·.lexeme))
    exact .count hcount

private theorem not_forall_number {t : Token} (ht : (ParameterType.real .spectrum).FirstUnread tokens t) :
    ¬ ∀ l ∈ tokens.map (·.lexeme), ∃ n, l = .number n := by
  obtain ⟨front, rest, rfl, _, hnone⟩ := ht
  intro hnumbers
  obtain ⟨c, hc⟩ := reads_real_iff.2 (hnumbers t.lexeme (by simp))
  exact hnone c hc

private theorem refuses_unnamed_iff (h : ∀ content line others, tokens ≠ ⟨.quoted content, line⟩ :: others) :
    (ParameterType.real .spectrum).Refuses keyword tokens heading r ↔
      (∃ t, (ParameterType.real .spectrum).FirstUnread tokens t ∧ r = unreadable (.real .spectrum) heading t) ∨
      ((∀ l ∈ tokens.map (·.lexeme), ∃ n, l = .number n) ∧ tokens.length ≠ 3 ∧
        ¬ (0 < tokens.length ∧ Even tokens.length) ∧
        r = (ParameterType.real .spectrum).miscounted keyword tokens.length heading) := by
  have hlength : (tokens.map (·.lexeme)).length = tokens.length := List.length_map _
  have hlexemes := lexemes_unnamed h
  constructor
  · intro hrefuses
    cases hrefuses with
    | count hcount =>
      generalize tokens.map (·.lexeme) = lexemes at hcount hlength hlexemes
      cases hcount with
      | plain hplain => exact absurd rfl hplain
      | name => exact absurd rfl (hlexemes _ _)
      | pairs hnumbers hthree hcount =>
        rw [hlength] at hthree hcount ⊢
        exact .inr ⟨hnumbers, hthree, hcount, rfl⟩
    | component _ _ ht => exact .inl ⟨_, ht, rfl⟩
  · rintro (⟨t, ht, rfl⟩ | ⟨hnumbers, hthree, hcount, rfl⟩)
    · refine .component (fun fault hcount => ?_) (fun _ content => hlexemes content []) ht
      have hnot := not_forall_number ht
      generalize tokens.map (·.lexeme) = lexemes at hcount hlexemes hnot
      cases hcount with
      | plain hplain => exact absurd rfl hplain
      | name => exact absurd rfl (hlexemes _ _)
      | pairs hnumbers => exact hnot hnumbers
    · rw [miscounted, ← hlength]
      rw [← hlength] at hthree hcount
      exact .count (.pairs hnumbers hthree hcount)

private theorem decodeSpectrum_eq_error :
    decodeSpectrum keyword tokens heading = .error r ↔
      (ParameterType.real .spectrum).Refuses keyword tokens heading r := by
  have hconverts := Token.converts_toFloat heading .spectrum
  by_cases hnamed : ∃ content line others, tokens = ⟨.quoted content, line⟩ :: others
  · obtain ⟨content, line, others, rfl⟩ := hnamed
    rw [refuses_named_iff]
    cases others with
    | nil => simp [decodeSpectrum]
    | cons t others => simp [decodeSpectrum, eq_comm]
  · push Not at hnamed
    rw [decodeSpectrum_unnamed hnamed, bind_eq_error, refuses_unnamed_iff hnamed, hconverts.mapM_error_iff]
    simp only [coloured_eq_error]
    refine or_congr_right ?_
    constructor
    · rintro ⟨floats, hfloats, hthree, hcount, hr⟩
      have hlength : floats.length = tokens.length := (mapM_eq_ok.1 hfloats).length_eq.symm
      have hnumbers : ∀ l ∈ tokens.map (·.lexeme), ∃ n, l = .number n := by
        intro l hl
        obtain ⟨t, ht, rfl⟩ := List.mem_map.1 hl
        exact reads_real_iff.1 (hconverts.exists_ok_iff.1 (exists_ok_of_mapM hfloats t ht))
      rw [hlength] at hthree hcount hr
      exact ⟨hnumbers, hthree, hcount, hr⟩
    · rintro ⟨hnumbers, hthree, hcount, hr⟩
      cases hfloats : tokens.mapM (Token.toFloat heading.text) with
      | error r' =>
        obtain ⟨t, ht, _⟩ := hconverts.mapM_error_iff.1 hfloats
        exact absurd hnumbers (not_forall_number ht)
      | ok floats =>
        have hlength : floats.length = tokens.length := (mapM_eq_ok.1 hfloats).length_eq.symm
        rw [← hlength] at hthree hcount hr
        exact ⟨floats, rfl, hthree, hcount, hr⟩

/-! ### All types -/

/-- All types but one count first and then convert. -/
private theorem counted_exact {α : Type} {convert : Token → Except (Report Fault) α} {component : α → Component}
    {make : List α → Value} (hplain : type ≠ .real .spectrum)
    (h : Token.Converts type heading convert component)
    (hmake : ∀ values, (make values).type = type ∧ (make values).components = values.map component) :
    let decode : Except (Report Fault) Value := do
      checkArity type keyword tokens.length heading
      return make (← tokens.mapM convert)
    (∀ v, decode = .ok v ↔ type.Spells (tokens.map (·.lexeme)) v) ∧
      ∀ r, decode = .error r ↔ type.Refuses keyword tokens heading r := by
  constructor
  · intro v
    rw [counted_eq_ok h hmake, spells_plain_iff hplain, List.length_map]
  · intro r
    rw [counted_eq_error h, refuses_plain_iff hplain]

private theorem decodeValue_of_type (htype : ofKeyword? keyword = some type) :
    (∀ v, decodeValue keyword tokens heading = .ok v ↔ type.Spells (tokens.map (·.lexeme)) v) ∧
      ∀ r, decodeValue keyword tokens heading = .error r ↔ type.Refuses keyword tokens heading r := by
  unfold decodeValue
  rw [htype]
  cases type with
  | integer => exact counted_exact (by simp) (Token.converts_toInt heading) fun _ => ⟨rfl, rfl⟩
  | bool => exact counted_exact (by simp) (Token.converts_toBool heading) fun _ => ⟨rfl, rfl⟩
  | text type => exact counted_exact (by simp) (Token.converts_toQuoted heading type) fun _ => ⟨rfl, rfl⟩
  | real type =>
    cases type with
    | spectrum => exact ⟨fun v => decodeSpectrum_eq_ok, fun r => decodeSpectrum_eq_error⟩
    | _ => exact counted_exact (by simp) (Token.converts_toFloat heading _) fun _ => ⟨rfl, rfl⟩

private theorem decodeValue_of_unknown (htype : ofKeyword? keyword = none) :
    decodeValue keyword tokens heading = .error ((Fault.unknownType keyword).at heading.line) := by
  unfold decodeValue
  rw [htype]

/-- A value is decoded if and only if it is spelled. -/
theorem decodeValue_eq_ok : decodeValue keyword tokens heading = .ok v ↔
    ∃ type, ofKeyword? keyword = some type ∧ type.Spells (tokens.map (·.lexeme)) v := by
  cases htype : ofKeyword? keyword with
  | none => simp [decodeValue_of_unknown htype]
  | some type => simp [(decodeValue_of_type htype).1]

theorem decodeValue_eq_error : decodeValue keyword tokens heading = .error r ↔
    (ofKeyword? keyword = none ∧ r = (Fault.unknownType keyword).at heading.line) ∨
      ∃ type, ofKeyword? keyword = some type ∧ type.Refuses keyword tokens heading r := by
  cases htype : ofKeyword? keyword with
  | none => simp [decodeValue_of_unknown htype, eq_comm]
  | some type => simp [(decodeValue_of_type htype).2]

/-- Decoding is exactly the grammar of values: an unknown type is reported, a value is given if and only if the tokens
spell it, and otherwise the report is of their number, if that is wrong, and else of the first one that cannot be
read. -/
theorem decodeValue_exact (keyword : String) (tokens : List Token) (heading : Token) :
    match ofKeyword? keyword with
    | none => decodeValue keyword tokens heading = .error ((Fault.unknownType keyword).at heading.line)
    | some type =>
      (∀ v, decodeValue keyword tokens heading = .ok v ↔ type.Spells (tokens.map (·.lexeme)) v) ∧
      ∀ r, decodeValue keyword tokens heading = .error r →
        (∃ fault, Miscounts heading.text keyword type (tokens.map (·.lexeme)) fault ∧ r = fault.at heading.line ∧
          fault.kind = .arityMismatch ∧
          fault.arityAndGiven? = some (type.countArity (tokens.map (·.lexeme)), tokens.length)) ∨
        ((∀ fault, ¬ Miscounts heading.text keyword type (tokens.map (·.lexeme)) fault) ∧
          ∃ t, type.FirstUnread tokens t ∧ r = type.unreadable heading t ∧ r.cause.kind = .malformedValue ∧
            r.line = some t.line) := by
  split
  · rename_i htype
    exact decodeValue_of_unknown htype
  · rename_i type htype
    refine ⟨(decodeValue_of_type htype).1, fun r hr => ?_⟩
    cases ((decodeValue_of_type htype).2 r).1 hr with
    | count hcount =>
      obtain ⟨hkind, hgiven⟩ := hcount.kind_and_given
      rw [List.length_map] at hgiven
      exact .inl ⟨_, hcount, rfl, hkind, hgiven⟩
    | component hcount _ ht => exact .inr ⟨hcount, _, ht, rfl, rfl, rfl⟩

/-- Of pairs that are not complete, a text among them is reported first. -/
example : decodeValue "spectrum" [⟨.number ⟨none, ['5'], none, none⟩, 1⟩, ⟨.quoted "bright", 2⟩, ⟨.leftBracket, 3⟩]
    ⟨.quoted "spectrum I", 1⟩ =
      .error ((Fault.unconvertible "spectrum I" .number "\"bright\"").at (some 2)) := rfl

end

end SceneDescription
