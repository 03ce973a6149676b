import SceneDescription.Parameter.ParameterList
import SceneDescription.Text.Blank
import SceneDescription.Token.Cursor

/-!
# Reading parameters

A parameter is declared by a quoted heading, `"<type> <name>"`, and a value: a single token, or tokens between
brackets.  `decodeValue` converts the tokens of a value; `readParameter` reads one declaration and
`readParameters` all declarations up to the first token that is not a quoted string.
-/

namespace SceneDescription

/-- The fault of a token that cannot be a component of a value. -/
def Token.unconvertible {α : Type} (t : Token) (heading : String) (expected : Expected) :
    Except (Report Fault) α :=
  .error ((Fault.unconvertible heading expected t.describe).at t.line)

def Token.toFloat (heading : String) (t : Token) : Except (Report Fault) Float :=
  match t.lexeme with
  | .number numeral => .ok numeral.toFloat
  | _ => t.unconvertible heading .number

def Token.toInt (heading : String) (t : Token) : Except (Report Fault) Int :=
  match t.lexeme with
  | .number numeral =>
    match numeral.toInt? with
    | some i => .ok i
    | none => t.unconvertible heading .integer
  | _ => t.unconvertible heading .integer

/-- Truth values may be written with or without quotes. -/
def Token.toBool (heading : String) (t : Token) : Except (Report Fault) Bool :=
  match t.lexeme with
  | .quoted "true" | .identifier "true" => .ok true
  | .quoted "false" | .identifier "false" => .ok false
  | _ => t.unconvertible heading .truthValue

def Token.toQuoted (heading : String) (t : Token) : Except (Report Fault) String :=
  match t.lexeme with
  | .quoted content => .ok content
  | _ => t.unconvertible heading .quotedString

/-- Checks that a value has a positive multiple of the type's number of components. -/
def checkArity (type : ParameterType) (keyword : String) (given : Nat) (heading : Token) :
    Except (Report Fault) Unit :=
  if given = 0 || given % type.arity ≠ 0 then
    .error ((Fault.arityMismatch heading.text keyword type.arity given).at heading.line)
  else .ok ()

/-- A spectrum is given by a name, by three numbers as a colour, or by pairs of numbers. -/
def decodeSpectrum (keyword : String) (tokens : List Token) (heading : Token) : Except (Report Fault) Value :=
  match tokens with
  | ⟨.quoted name, _⟩ :: others =>
    if others.isEmpty then .ok (.texts .namedSpectrum [name])
    else .error ((Fault.namedSpectrumCount heading.text tokens.length).at heading.line)
  | _ => do
    let floats ← tokens.mapM (Token.toFloat heading.text)
    if floats.length = 3 then return .reals .rgb floats
    checkArity (.real .spectrum) keyword floats.length heading
    return .reals .spectrum floats

/-- Converts the tokens of a value to the type that a keyword names. -/
def decodeValue (keyword : String) (tokens : List Token) (heading : Token) : Except (Report Fault) Value :=
  match ParameterType.ofKeyword? keyword with
  | none => .error ((Fault.unknownType keyword).at heading.line)
  | some (.real .spectrum) => decodeSpectrum keyword tokens heading
  | some type => do
    checkArity type keyword tokens.length heading
    match type with
    | .integer => return .integers (← tokens.mapM (Token.toInt heading.text))
    | .real type => return .reals type (← tokens.mapM (Token.toFloat heading.text))
    | .bool => return .flags (← tokens.mapM (Token.toBool heading.text))
    | .text type => return .texts type (← tokens.mapM (Token.toQuoted heading.text))

/-- Whether a lexeme may stand between the brackets of a value. -/
def Lexeme.isValue : Lexeme → Bool
  | .quoted _ | .number _ => true
  | .identifier name => name = "true" || name = "false"
  | .leftBracket | .rightBracket => false

/-- Reads the tokens up to the closing bracket of a value, behind those already taken, which are held last one
first. -/
def readBracketed (heading : Token) (taken : List Token) : Read (List Token) := fun c =>
  match _h : Read.take c with
  | .error r c' => .error r c'
  | .ok none c' => .error ((Fault.unclosedBracket heading.text).at heading.line) c'
  | .ok (some t) c' =>
    if t.lexeme = .rightBracket then .ok taken.reverse c'
    else if t.lexeme.isValue then readBracketed heading (t :: taken) c'
    else .error ((Fault.misplacedInValue t.describe heading.text).at t.line) c'
termination_by c => c.items.length
decreasing_by exact Read.take_shrinks _h

/-- Reads the tokens of a value. -/
def readValueTokens (heading : Token) : Read (List Token) := do
  match ← Read.take with
  | none => Read.fail (.missingValue heading.text) heading.line
  | some t =>
    match t.lexeme with
    | .rightBracket => Read.fail (.strayBracket heading.text) t.line
    | .leftBracket => readBracketed heading []
    | _ => return [t]

/-- Reads a parameter behind its heading. -/
def readDeclared (heading : Token) : Read Parameter := do
  match words heading.text with
  | [keyword, name] =>
    if (ParameterType.ofKeyword? keyword).isNone then Read.fail (.unknownType keyword) heading.line
    else
      let tokens ← readValueTokens heading
      let value ← Read.ofExcept (decodeValue keyword tokens heading)
      return ⟨name, value⟩
  | _ => Read.fail (.malformedDeclaration heading.text) heading.line

/-- Reads one parameter. -/
def readParameter : Read Parameter := do
  match ← Read.take with
  | some ⟨.quoted content, line⟩ => readDeclared ⟨.quoted content, line⟩
  | some t => Read.fail .expectedDeclaration t.line
  | none => Read.fail .expectedDeclaration none

private theorem forward_readBracketed (heading : Token) (taken : List Token) :
    (readBracketed heading taken).Forward := by
  intro c
  have ht := Read.forward_take c
  unfold Read.after at ht ⊢
  fun_induction readBracketed heading taken c with
  | case1 taken c r c' h => simpa [h] using ht
  | case2 taken c c' h => simpa [h] using ht
  | case3 taken c t c' h _ => simpa [h] using ht
  | case4 taken c t c' h _ _ ih =>
    have h2 := ih (Read.forward_take c')
    simp only [h] at ht
    exact ⟨h2.1.trans ht.1, h2.2.trans ht.2⟩
  | case5 taken c t c' h _ _ => simpa [h] using ht

private theorem forward_readValueTokens (heading : Token) : (readValueTokens heading).Forward := by
  refine Read.forward_take.bind fun t => ?_
  cases t with
  | none => exact Read.forward_fail _ _
  | some t =>
    dsimp only
    split
    · exact Read.forward_fail _ _
    · exact forward_readBracketed _ _
    · exact Read.forward_pure _

private theorem forward_readDeclared (heading : Token) : (readDeclared heading).Forward := by
  unfold readDeclared
  split
  · split
    · exact Read.forward_fail _ _
    · exact (forward_readValueTokens heading).bind fun _ => (Read.forward_ofExcept _).bind fun _ =>
        Read.forward_pure _
  · exact Read.forward_fail _ _

theorem forward_readParameter : readParameter.Forward := by
  refine Read.forward_take.bind fun t => ?_
  split
  · exact forward_readDeclared _
  · exact Read.forward_fail _ _
  · exact Read.forward_fail _ _

/-- Reading a parameter takes its heading. -/
theorem readParameter_shrinks {c c' : Cursor} {p : Parameter} (h : readParameter c = .ok p c') :
    c'.items.length < c.items.length := by
  have hafter : readParameter.after c = c' := by simp [Read.after, h]
  unfold readParameter at hafter h
  rw [Read.after_bind] at hafter
  cases ht : Read.take c with
  | error r c₁ => exact absurd h (by simp [bind, EStateM.bind, ht])
  | ok t c₁ =>
    simp only [ht] at hafter
    simp only [bind, EStateM.bind, ht] at h
    match t, ht, hafter, h with
    | some ⟨.quoted content, line⟩, ht, hafter, _ =>
      rw [← hafter]
      exact Nat.lt_of_le_of_lt ((forward_readDeclared _).length_le c₁) (Read.take_shrinks ht)
    | some ⟨.identifier _, _⟩, _, _, h => exact absurd h nofun
    | some ⟨.number _, _⟩, _, _, h => exact absurd h nofun
    | some ⟨.leftBracket, _⟩, _, _, h => exact absurd h nofun
    | some ⟨.rightBracket, _⟩, _, _, h => exact absurd h nofun
    | none, _, _, h => exact absurd h nofun

/-- Reads parameters up to the first token that is not a quoted string, behind those already read, which are
held last one first. -/
def readParametersOnto (found : List Parameter) : Read ParameterList := fun c =>
  match _h : Read.peek c with
  | .error r c' => .error r c'
  | .ok none c' => .ok ⟨found.reverse⟩ c'
  | .ok (some t) c' =>
    match t.lexeme with
    | .quoted _ =>
      match _h' : readParameter c' with
      | .error r c'' => .error r c''
      | .ok p c'' => readParametersOnto (p :: found) c''
    | _ => .ok ⟨found.reverse⟩ c'
termination_by c => c.items.length
decreasing_by
  rw [← Read.peek_unmoved _h]
  exact readParameter_shrinks _h'

/-- Reads parameters up to the first token that is not a quoted string. -/
def readParameters : Read ParameterList :=
  readParametersOnto []

theorem forward_readParameters : readParameters.Forward := by
  suffices h : ∀ found c, ((readParametersOnto found).after c).items <:+ c.items ∧
      ((readParametersOnto found).after c).stuck = c.stuck from h []
  intro found c
  unfold Read.after
  fun_induction readParametersOnto found c with
  | case1 found c r c' h =>
    have hp := Read.forward_peek c
    simpa [Read.after, h] using hp
  | case2 found c c' h => simp [Read.peek_unmoved h]
  | case3 found c t c' h _ _ r c'' h' =>
    have hp := forward_readParameter c'
    rw [← Read.peek_unmoved h]
    simpa [Read.after, h'] using hp
  | case4 found c t c' h _ _ p c'' h' ih =>
    have hp := forward_readParameter c'
    simp only [Read.after, h'] at hp
    rw [← Read.peek_unmoved h]
    exact ⟨ih.1.trans hp.1, ih.2.trans hp.2⟩
  | case5 found c t c' h => simp [Read.peek_unmoved h]

end SceneDescription
