import SceneDescription.Report
import SceneDescription.Text.Printable
import SceneDescription.Token.Basic

/-!
# Scanning text for tokens

A scanner stands at a position in a text and counts lines.  `Scanner.next` skips blanks and comments and reads
one lexeme.  A malformed number is passed over, so the scan can go on behind it; at an unterminated string or an
unprintable character the scan is stuck and finds the same fault for ever.  What is read makes the remaining
text shorter (`Scanner.next_shrinks`), so a whole text can be scanned: `Scanner.scan`.
-/

namespace SceneDescription

/-- The blanks between tokens that do not end a line. -/
def isGapBlank (c : Char) : Bool :=
  c = ' ' || c = '\t' || c = '\r' || c = '\x0c' || c = '\x0b'

/-- The characters that end a bare run. -/
def isDelimiter (c : Char) : Bool :=
  isGapBlank c || c = '\n' || c = '\x22' || c = '[' || c = ']' || c = '#'

/-- The characters that a number can start with; digits of other scripts start an identifier. -/
def startsNumber (c : Char) : Bool :=
  c = '+' || c = '-' || c = '.' || ('0' ≤ c && c ≤ '9')

/-- What a scan comes upon. -/
inductive Sight
  | finished
  | token (t : Token)
  /-- A run that starts like a number and is none; the scan goes on behind it. -/
  | malformed (r : Report Fault)
  /-- A place that the scan cannot pass. -/
  | stuck (r : Report Fault)

/-- Whether the scan has passed over a lexeme. -/
def Sight.advances : Sight → Bool
  | .token _ | .malformed _ => true
  | .finished | .stuck _ => false

structure Scanner where
  /-- The name of the text in reports. -/
  source : String
  /-- The text that has not been read yet. -/
  rest : List Char
  /-- The line that the rest starts on. -/
  line : Nat := 1

namespace Scanner

/-- A scanner at the start of a text, behind its byte-order mark. -/
def ofText (source : String) (text : List Char) : Scanner where
  source := source
  rest := if text.head? = some '\ufeff' then text.tail else text

/-- Skips blanks and comments; `comment` tells whether the text starts inside a comment.  Gives the rest and its
line. -/
def skipGap (comment : Bool) (line : Nat) : List Char → List Char × Nat
  | [] => ([], line)
  | c :: rest =>
    if c = '\n' then skipGap false (line + 1) rest
    else if comment then skipGap true line rest
    else if isGapBlank c then skipGap false line rest
    else if c = '#' then skipGap true line rest
    else (c :: rest, line)

/-- Reads a bare run, which does not start with a delimiter. -/
def bareRun (s : Scanner) (first : Char) (following : List Char) : Sight × Scanner :=
  let run := first :: following.takeWhile (!isDelimiter ·)
  let after := { s with rest := following.dropWhile (!isDelimiter ·) }
  match run.find? (!isPrintable ·) with
  | some c => (.stuck { cause := .unexpectedCharacter c, line := s.line, source := s.source }, s)
  | none =>
    if startsNumber first then
      match Numeral.parse? run with
      | some numeral => (.token ⟨.number numeral, s.line⟩, after)
      | none =>
        (.malformed { cause := .malformedNumber (String.ofList run), line := s.line, source := s.source }, after)
    else (.token ⟨.identifier (String.ofList run), s.line⟩, after)

/-- Reads a string behind its opening quote. -/
def quotedString (s : Scanner) (following : List Char) : Sight × Scanner :=
  let content := following.takeWhile (· ≠ '\x22')
  match following.dropWhile (· ≠ '\x22') with
  | [] => (.stuck { cause := .unterminatedString, line := s.line, source := s.source }, s)
  | _ :: rest =>
    (.token ⟨.quoted (String.ofList content), s.line⟩, { s with rest, line := s.line + content.count '\n' })

/-- Reads the lexeme that the rest starts with. -/
def lexeme (s : Scanner) : Sight × Scanner :=
  match s.rest with
  | [] => (.finished, s)
  | '[' :: rest => (.token ⟨.leftBracket, s.line⟩, { s with rest })
  | ']' :: rest => (.token ⟨.rightBracket, s.line⟩, { s with rest })
  | '\x22' :: rest => s.quotedString rest
  | first :: rest => s.bareRun first rest

/-- Moves the scanner behind the blanks and comments in front of it. -/
def pastGap (s : Scanner) : Scanner :=
  let (rest, line) := skipGap false s.line s.rest
  { s with rest, line }

/-- Reads the next lexeme. -/
def next (s : Scanner) : Sight × Scanner :=
  s.pastGap.lexeme

private theorem length_skipGap_le (comment : Bool) (line : Nat) (text : List Char) :
    (skipGap comment line text).1.length ≤ text.length := by
  induction text generalizing comment line with
  | nil => simp [skipGap]
  | cons c rest ih =>
    unfold skipGap
    split
    · exact Nat.le_succ_of_le (ih ..)
    split
    · exact Nat.le_succ_of_le (ih ..)
    split
    · exact Nat.le_succ_of_le (ih ..)
    split
    · exact Nat.le_succ_of_le (ih ..)
    · exact Nat.le_refl _

private theorem length_dropWhile_le (p : Char → Bool) (text : List Char) :
    (text.dropWhile p).length ≤ text.length :=
  (List.dropWhile_suffix p).sublist.length_le

private theorem quotedString_shrinks (s : Scanner) (following : List Char)
    (h : (s.quotedString following).1.advances) :
    (s.quotedString following).2.rest.length ≤ following.length := by
  revert h
  have hle := length_dropWhile_le (· ≠ '\x22') following
  dsimp only [quotedString]
  split
  · simp [Sight.advances]
  · rename_i heq
    rw [heq] at hle
    exact fun _ => Nat.le_of_succ_le hle

private theorem bareRun_shrinks (s : Scanner) (first : Char) (following : List Char)
    (h : (s.bareRun first following).1.advances) :
    (s.bareRun first following).2.rest.length ≤ following.length := by
  revert h
  have hle := length_dropWhile_le (!isDelimiter ·) following
  dsimp only [bareRun]
  split
  · simp [Sight.advances]
  split
  · split <;> exact fun _ => hle
  · exact fun _ => hle

private theorem lexeme_shrinks (s : Scanner) (h : s.lexeme.1.advances) : s.lexeme.2.rest.length < s.rest.length := by
  unfold lexeme at h ⊢
  split at h
  · simp [Sight.advances] at h
  all_goals rename_i heq; simp only [heq, List.length_cons] at h ⊢
  · omega
  · omega
  · exact Nat.lt_succ_of_le (quotedString_shrinks _ _ h)
  · exact Nat.lt_succ_of_le (bareRun_shrinks _ _ _ h)

/-- Reading a lexeme makes the remaining text shorter. -/
theorem next_shrinks (s : Scanner) (h : s.next.1.advances) : s.next.2.rest.length < s.rest.length :=
  Nat.lt_of_lt_of_le (lexeme_shrinks _ h) (length_skipGap_le false s.line s.rest)

end Scanner

/-- What a cursor over tokens can come upon. -/
inductive Item
  | token (t : Token)
  | malformed (r : Report Fault)

namespace Item

def token? : Item → Option Token
  | token t => some t
  | malformed _ => none

def fault? : Item → Option (Report Fault)
  | token _ => none
  | malformed r => some r

end Item

/-- Adds what the scanner finds, from its position on, to the items found so far, which are held last one first.
Gives also the fault that the scan is stuck at, if it does not reach the end. -/
def Scanner.scanOnto (found : List Item) (s : Scanner) : List Item × Option (Report Fault) :=
  match _h : s.next with
  | (.finished, _) => (found.reverse, none)
  | (.stuck r, _) => (found.reverse, some r)
  | (.token t, s') => scanOnto (.token t :: found) s'
  | (.malformed r, s') => scanOnto (.malformed r :: found) s'
termination_by s.rest.length
decreasing_by
  all_goals
    have := s.next_shrinks
    rw [_h] at this
    exact this rfl

/-- Scans the text from the position on: the tokens and malformed numbers in order, and the fault that the scan is
stuck at, if it does not reach the end. -/
def Scanner.scan (s : Scanner) : List Item × Option (Report Fault) :=
  s.scanOnto []

/-- The tokens from the position on, or the first fault among them. -/
def Scanner.tokens (s : Scanner) : Except (Report Fault) (List Token) :=
  let (items, stuck) := s.scan
  match items.findSome? Item.fault? <|> stuck with
  | some r => .error r
  | none => .ok (items.filterMap Item.token?)

end SceneDescription
