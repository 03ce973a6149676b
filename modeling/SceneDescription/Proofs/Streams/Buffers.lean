import SceneDescription.Proofs.Readers.Dialogues
import SceneDescription.Proofs.Tokens.Progress
import SceneDescription.Proofs.Tokens.Scanning
import SceneDescription.Stream.Buffered

/-!
# Buffers and what they stand for

A text with a scanner and a buffer stands for the same text with all its items in a list: those in the buffer, and those
that the scanner will find (`BufferedFrame.unrolled`).  There is never more than one token in the buffer, and then every
action on the text comes to the same as on the list.  So it is with streams, whatever calls are made on them: both give
the same answers (`BufferedStream.Shows.answers`).  A reader that looks at its text through a buffer is told the same and
ends in the same way (`BufferedStream.Shows.dialogue`, `BufferedStream.Shows.dialogue_list`).
-/

namespace SceneDescription

variable {κ : Type}

private theorem Read.take_none {c c' : Cursor} (h : take c = .ok none c') : c' = c := by
  obtain ⟨_ | ⟨_ | _, rest⟩, stuck, lastLine⟩ := c
  · cases stuck with
    | some r => cases h
    | none =>
      cases h
      rfl
  · cases h
  · cases h

/-! ### Scanners -/

namespace Scanner

variable {s s' : Scanner}

/-- At the end and at an obstacle the scan stays what it is. -/
private theorem scan_of_not_advances {sight : Sight} (h : s.next = (sight, s')) (hsight : sight.advances = false) :
    s'.scan = s.scan := by
  have hagain : s'.next = (sight, s') := by
    have hnext := next_next_of_not_advances (s := s) (by rw [h]; exact hsight)
    rwa [h] at hnext
  cases sight with
  | finished => rw [scan_of_finished h, scan_of_finished hagain]
  | stuck r => rw [scan_of_stuck h, scan_of_stuck hagain]
  | token t => cases hsight
  | malformed r => cases hsight

/-- A cursor over all that a scanner will find. -/
def cursor (s : Scanner) (lastLine : Nat) : Cursor :=
  { items := s.scan.1, stuck := s.scan.2, lastLine }

/-- Going on to the next token is taking it from the list of all. -/
private theorem take_cursor (s : Scanner) (line : Nat) : Read.take (s.cursor line) = match scanToken s with
    | .ok t? s' => .ok t? (s'.cursor (t?.elim line Token.line))
    | .error r s' => .error r (s'.cursor line) := by
  unfold scanToken cursor
  cases hnext : s.next with
  | mk sight s' =>
    cases sight with
    | finished =>
      have hagain := scan_of_not_advances hnext rfl
      simp [Read.take, hagain, scan_of_finished hnext]
    | stuck r =>
      have hagain := scan_of_not_advances hnext rfl
      simp [Read.take, hagain, scan_of_stuck hnext]
    | token t => simp [Read.take, scan_of_token hnext]
    | malformed r => simp [Read.take, scan_of_malformed hnext]

/-- A token that the scanner has gone on to is the first of the list. -/
private theorem peek_cursor (s : Scanner) (line : Nat) : Read.peek (s.cursor line) = match scanToken s with
    | .ok none s' => .ok none (s'.cursor line)
    | .ok (some t) s' => .ok (some t) { s'.cursor line with items := .token t :: s'.scan.1 }
    | .error r s' => .error r (s'.cursor line) := by
  unfold scanToken cursor
  cases hnext : s.next with
  | mk sight s' =>
    cases sight with
    | finished =>
      have hagain := scan_of_not_advances hnext rfl
      simp [Read.peek, hagain, scan_of_finished hnext]
    | stuck r =>
      have hagain := scan_of_not_advances hnext rfl
      simp [Read.peek, hagain, scan_of_stuck hnext]
    | token t => simp [Read.peek, scan_of_token hnext]
    | malformed r => simp [Read.peek, scan_of_malformed hnext]

private theorem source_scanToken (s : Scanner) :
    (match scanToken s with | .ok _ s' | .error _ s' => s'.source) = s.source := by
  have hsource := s.source_next
  unfold scanToken
  cases hnext : s.next with
  | mk sight s' =>
    rw [hnext] at hsource
    cases sight <;> exact hsource

end Scanner

/-! ### Texts -/

namespace BufferedFrame

/-- The text with all that is still to come in a list. -/
def unrolled (f : BufferedFrame κ) (lastLine : Nat) : Frame κ where
  source := f.source
  path := f.path
  includeLine := f.includeLine
  onClose := f.onClose
  cursor :=
    { items := f.lookahead.map .token ++ f.scanner.scan.1
      stuck := f.scanner.scan.2
      lastLine }

/-- A later state of the same text, with at most one token in the buffer. -/
structure GoesOn (f f' : BufferedFrame κ) : Prop where
  source : f'.source = f.source
  path : f'.path = f.path
  includeLine : f'.includeLine = f.includeLine
  onClose : f'.onClose = f.onClose
  buffer : f'.lookahead.length ≤ 1

variable {f f' : BufferedFrame κ} {line : Nat}

private theorem GoesOn.unrolled_eq (h : f.GoesOn f') (line line' : Nat) :
    f'.unrolled line' = { f.unrolled line with cursor := (f'.unrolled line').cursor } := by
  unfold unrolled
  rw [h.source, h.path, h.includeLine, h.onClose]

/-- The same result of an action on a text and of one on the list that it stands for.  Which line has been taken last
then depends on the result. -/
inductive Alike (f : BufferedFrame κ) (lineAfter : Option Token → Nat) (line : Nat) :
    EStateM.Result (Report Fault) (BufferedFrame κ) (Option Token) →
      EStateM.Result (Report Fault) Cursor (Option Token) → Prop
  | ok {f' : BufferedFrame κ} (t? : Option Token) (hgoes : f.GoesOn f') :
      Alike f lineAfter line (.ok t? f') (.ok t? (f'.unrolled (lineAfter t?)).cursor)
  | error {f' : BufferedFrame κ} (r : Report Fault) (hgoes : f.GoesOn f') :
      Alike f lineAfter line (.error r f') (.error r (f'.unrolled line).cursor)

/-- The line of the token taken last, when one has been taken or none. -/
def lineAfterTaking (line : Nat) (t? : Option Token) : Nat :=
  t?.elim line Token.line

private theorem goesOn_scanToken (hbuffer : f.lookahead = []) :
    match scanToken f with | .ok _ f' | .error _ f' => f.GoesOn f' ∧ f'.lookahead = [] := by
  have hsource := f.scanner.source_scanToken
  unfold scanToken
  cases hscan : Scanner.scanToken f.scanner with
  | ok t? scanner =>
    rw [hscan] at hsource
    exact ⟨⟨hsource, rfl, rfl, rfl, by simp [hbuffer]⟩, hbuffer⟩
  | error r scanner =>
    rw [hscan] at hsource
    exact ⟨⟨hsource, rfl, rfl, rfl, by simp [hbuffer]⟩, hbuffer⟩

private theorem cursor_of_empty (hbuffer : f.lookahead = []) (line : Nat) :
    (f.unrolled line).cursor = f.scanner.cursor line := by
  simp [unrolled, Scanner.cursor, hbuffer]

/-- Taking a token, out of the buffer or from the scanner, is taking it from the list. -/
theorem take_alike (hbuffer : f.lookahead.length ≤ 1) (line : Nat) :
    Alike f (lineAfterTaking line) line (take f) (Read.take (f.unrolled line).cursor) := by
  cases hlookahead : f.lookahead with
  | nil =>
    have htake : take f = scanToken f := by
      rw [take_apply, hlookahead]
      rfl
    have hgoes := goesOn_scanToken hlookahead
    rw [htake, cursor_of_empty hlookahead, Scanner.take_cursor]
    unfold scanToken at hgoes ⊢
    cases hscan : Scanner.scanToken f.scanner with
    | ok t? scanner =>
      rw [hscan] at hgoes
      obtain ⟨hgoes, hempty⟩ := hgoes
      have halike : Alike f (lineAfterTaking line) line _ _ := .ok t? hgoes
      rwa [cursor_of_empty hempty] at halike
    | error r scanner =>
      rw [hscan] at hgoes
      obtain ⟨hgoes, hempty⟩ := hgoes
      have halike : Alike f (lineAfterTaking line) line _ _ := .error r hgoes
      rwa [cursor_of_empty hempty] at halike
  | cons t later =>
    rw [hlookahead, List.length_cons] at hbuffer
    obtain rfl : later = [] := List.length_eq_zero_iff.1 (by omega)
    have htake : take f = .ok (some t) { f with lookahead := [] } := by
      rw [take_apply, hlookahead]
      rfl
    have hlist : Read.take (f.unrolled line).cursor =
        .ok (some t) (unrolled { f with lookahead := [] } t.line).cursor := by
      simp [Read.take, unrolled, hlookahead]
    rw [htake, hlist]
    exact .ok (some t) ⟨rfl, rfl, rfl, rfl, Nat.zero_le 1⟩

/-- Looking at a token leaves the list as it is, although the scanner may have gone on to it. -/
theorem peek_alike (hbuffer : f.lookahead.length ≤ 1) (line : Nat) :
    Alike f (fun _ => line) line (peek f) (Read.peek (f.unrolled line).cursor) := by
  cases hlookahead : f.lookahead with
  | nil =>
    have hgoes := goesOn_scanToken hlookahead
    rw [peek_apply, hlookahead, if_pos List.isEmpty_nil, cursor_of_empty hlookahead, Scanner.peek_cursor]
    unfold scanToken at hgoes ⊢
    cases hscan : Scanner.scanToken f.scanner with
    | ok t? scanner =>
      rw [hscan] at hgoes
      obtain ⟨hgoes, hempty⟩ := hgoes
      cases t? with
      | none =>
        have halike : Alike f (fun _ => line) line _ _ := .ok none hgoes
        rw [cursor_of_empty hempty] at halike
        simpa [hlookahead] using halike
      | some t =>
        have hbuffered : f.GoesOn { f with scanner, lookahead := [t] } := ⟨hgoes.source, rfl, rfl, rfl, le_refl 1⟩
        have halike : Alike f (fun _ => line) line _ _ := .ok (some t) hbuffered
        simpa [hlookahead, unrolled, Scanner.cursor] using halike
    | error r scanner =>
      rw [hscan] at hgoes
      obtain ⟨hgoes, hempty⟩ := hgoes
      have halike : Alike f (fun _ => line) line _ _ := .error r hgoes
      rwa [cursor_of_empty hempty] at halike
  | cons t later =>
    have hpeek : peek f = .ok (some t) f := by
      rw [peek_apply, hlookahead]
      rfl
    have hlist : Read.peek (f.unrolled line).cursor = .ok (some t) (f.unrolled line).cursor := by
      simp [Read.peek, unrolled, hlookahead]
    rw [hpeek, hlist]
    exact .ok (some t) ⟨rfl, rfl, rfl, rfl, hbuffer⟩

end BufferedFrame

/-! ### Calls -/

/-- A call on a stream. -/
inductive Call (κ : Type)
  | peek
  | take
  | next
  | openFile (relative : String) (line : Option Nat) (onClose : Option κ)

/-- What a call is answered with. -/
inductive Answer (κ : Type)
  /-- The next token, which has not been taken. -/
  | seen (t? : Except (Report Fault) (Option Token))
  /-- The next token, which has been taken, and what has been handed out on the way to it. -/
  | taken (t? : Except (Report Fault) (Option Token)) (handed : List (κ × String))
  | opened (path : Except (Report Fault) Path)

namespace Answer

/-- The token that has been taken. -/
def token? : Answer κ → Option Token
  | taken (.ok t?) _ => t?
  | _ => none

def handed : Answer κ → List (κ × String)
  | taken _ handed => handed
  | _ => []

/-- The path of the file that has been opened. -/
def path? : Answer κ → Option Path
  | opened (.ok path) => some path
  | _ => none

/-- An answer with the result of an action, and the state that the action has left. -/
def ofAction {σ α : Type} (answer : Except (Report Fault) α → Answer κ) :
    EStateM.Result (Report Fault) σ α → Answer κ × σ
  | .ok a s => (answer (.ok a), s)
  | .error r s => (answer (.error r), s)

end Answer

/-- The answers to a sequence of calls, and the state after them. -/
def Call.answers {σ : Type} (answer : σ → Call κ → Answer κ × σ) (s : σ) : List (Call κ) → List (Answer κ) × σ
  | [] => ([], s)
  | c :: cs =>
    let (first, s') := answer s c
    let (rest, last) := answers answer s' cs
    (first :: rest, last)

/-- What a stream answers to a call. -/
def Stream.answer (library : Library) (s : Stream κ) : Call κ → Answer κ × Stream κ
  | .peek =>
    let (a, cursor) := Answer.ofAction .seen (Read.peek s.top.cursor)
    (a, s.withCursor cursor)
  | .take =>
    let (a, cursor) := Answer.ofAction (.taken · []) (Read.take s.top.cursor)
    (a, s.withCursor cursor)
  | .next => (.taken s.next.1 s.next.2.1, s.next.2.2)
  | .openFile relative line onClose =>
    match s.openFile library relative line onClose with
    | .ok (path, s') => (.opened (.ok path), s')
    | .error r => (.opened (.error r), s)

/-- What a stream with buffers answers to a call. -/
def BufferedStream.answer (library : Library) (s : BufferedStream κ) : Call κ → Answer κ × BufferedStream κ
  | .peek => Answer.ofAction .seen (peek s)
  | .take => Answer.ofAction (.taken · []) (take s)
  | .next => (.taken s.next.1 s.next.2.1, s.next.2.2)
  | .openFile relative line onClose => Answer.ofAction .opened (openFile library relative line onClose s)

/-! ### Streams -/

namespace Stream

variable {s s' : Stream κ}

private theorem next_of_token {t : Token} (h : s.advance = .token t s') : s.next = (.ok (some t), [], s') := by
  rw [next]
  split
  all_goals
    rename_i heq
    cases h.symm.trans heq
  rfl

private theorem next_of_finished (h : s.advance = .finished s') : s.next = (.ok none, [], s') := by
  rw [next]
  split
  all_goals
    rename_i heq
    cases h.symm.trans heq
  rfl

private theorem next_of_fault {r : Report Fault} (h : s.advance = .fault r s') : s.next = (.error r, [], s') := by
  rw [next]
  split
  all_goals
    rename_i heq
    cases h.symm.trans heq
  rfl

private theorem next_of_closed {frame : Frame κ} (h : s.advance = .closed frame s') :
    s.next = (s'.next.1, (frame.onClose.map (·, s'.source)).toList ++ s'.next.2.1, s'.next.2.2) := by
  rw [next]
  split
  all_goals
    rename_i heq
    cases h.symm.trans heq
  rfl

end Stream

namespace BufferedStream

/-- What a stream with buffers stands for.  Of the texts around the innermost one, the line of the token taken last is
not known any more. -/
structure Shows (b : BufferedStream κ) (s : Stream κ) : Prop where
  top : s.top = b.top.unrolled b.lastLine
  below : List.Forall₂ (fun f frame => ∃ line, frame = f.unrolled line) b.below s.below
  buffers : ∀ f ∈ b.frames, f.lookahead.length ≤ 1

/-- How an action on a stream with buffers has ended, and one on the list of the innermost text. -/
inductive EndsAlike {α : Type} (s : Stream κ) :
    EStateM.Result (Report Fault) (BufferedStream κ) α → Read.Ending α → Prop
  | ok {b' : BufferedStream κ} {c : Cursor} (a : α) (hshows : b'.Shows (s.withCursor c)) :
      EndsAlike s (.ok a b') (.ok a c)
  | error {b' : BufferedStream κ} {c : Cursor} (r : Report Fault) (hshows : b'.Shows (s.withCursor c)) :
      EndsAlike s (.error r b') (.error r c)

/-- Where the cursor was before does not matter. -/
private theorem EndsAlike.of_withCursor {α : Type} {s : Stream κ} {c : Cursor}
    {ending : EStateM.Result (Report Fault) (BufferedStream κ) α} {ending' : Read.Ending α}
    (h : EndsAlike (s.withCursor c) ending ending') : EndsAlike s ending ending' := by
  cases h with
  | ok a hshows => exact .ok a hshows
  | error r hshows => exact .error r hshows

namespace Shows

variable {b b' : BufferedStream κ} {s : Stream κ}

private theorem buffer (h : b.Shows s) : b.top.lookahead.length ≤ 1 :=
  h.buffers _ (List.mem_cons_self ..)

private theorem cursor_top (h : b.Shows s) : s.top.cursor = (b.top.unrolled b.lastLine).cursor := by
  rw [h.top]

/-- The innermost text goes on. -/
private theorem goOn (h : b.Shows s) {top : BufferedFrame κ} (hgoes : b.top.GoesOn top) (line : Nat) :
    Shows { b with top, lastLine := line } (s.withCursor (top.unrolled line).cursor) where
  top := by
    rw [Stream.withCursor, h.top]
    exact (hgoes.unrolled_eq b.lastLine line).symm
  below := h.below
  buffers := List.forall_mem_cons.2 ⟨hgoes.buffer, (List.forall_mem_cons.1 h.buffers).2⟩

/-- What texts have in common with those that they stand for. -/
private theorem map_frames {α : Type} (h : b.Shows s) {get : Frame κ → α} {get' : BufferedFrame κ → α}
    (hget : ∀ (f : BufferedFrame κ) line, get (f.unrolled line) = get' f) : s.frames.map get = b.frames.map get' := by
  have hbelow : s.below.map get = b.below.map get' := by
    obtain ⟨_, hothers, _⟩ := h
    generalize b.below = below at hothers
    generalize s.below = below' at hothers
    induction hothers with
    | nil => rfl
    | cons hframe _ ih =>
      obtain ⟨line, rfl⟩ := hframe
      rw [List.map_cons, List.map_cons, hget, ih]
  rw [Stream.frames, frames, List.map_cons, List.map_cons, hbelow, h.top, hget]

theorem paths (h : b.Shows s) : s.paths = b.paths :=
  h.map_frames fun _ _ => rfl

theorem sources (h : b.Shows s) : s.source = b.source ∧ s.chain = b.chain := by
  have hsources : s.frames.map (·.source) = b.frames.map (·.source) := h.map_frames fun _ _ => rfl
  obtain ⟨hsource, hchain⟩ := List.cons.inj hsources
  exact ⟨hsource, congrArg List.reverse hchain⟩

private theorem lastLine (h : b.Shows s) : s.lastLine = b.lastLine := by
  rw [Stream.lastLine, h.top]
  rfl

/-- The stream at the start of a text. -/
theorem start (scanner : Scanner) (path : Option Path) : Shows (κ := κ) { top := { scanner, path } }
    { top := { source := scanner.source, path, cursor := scanner.cursor 1 } } where
  top := rfl
  below := .nil
  buffers := by simp [frames]

/-- Going back to the text around the innermost one. -/
private theorem backTo (h : b.Shows s) {outer : BufferedFrame κ} {below : List (BufferedFrame κ)}
    (hbelow : b.below = outer :: below) : ∃ outer' below', s.below = outer' :: below' ∧
      (b.backTo outer below).Shows (Stream.backTo s.top outer' below') := by
  have hothers := h.below
  have hbuffers := h.buffers
  rw [frames, hbelow] at hbuffers
  rw [hbelow] at hothers
  obtain ⟨outer', below', houter, hrest, hsbelow⟩ := List.forall₂_cons_left_iff.1 hothers
  obtain ⟨line, rfl⟩ := houter
  refine ⟨_, below', hsbelow, ?_, hrest, (List.forall_mem_cons.1 hbuffers).2⟩
  rw [h.top]
  rfl

/-- A new text on top. -/
private theorem push (h : b.Shows s) (path : Path) (text : List Char) (line : Option Nat) (onClose : Option κ) :
    (b.push path text line onClose).Shows (s.push path text line onClose) where
  top := by
    rw [Stream.push, h.lastLine]
    rfl
  below := .cons ⟨b.lastLine, h.top⟩ h.below
  buffers := List.forall_mem_cons.2 ⟨Nat.zero_le 1, h.buffers⟩

/-- At the end of the innermost text, the scanner has gone on without finding anything. -/
private theorem ended (h : b.Shows s) {top : BufferedFrame κ} (hgoes : b.top.GoesOn top)
    (htake : Read.take s.top.cursor = .ok none (top.unrolled b.lastLine).cursor) : Shows { b with top } s := by
  have hshows := h.goOn hgoes b.lastLine
  rwa [Read.take_none htake] at hshows

/-- What comes next in both streams. -/
inductive Advances : Advance (BufferedStream κ) (BufferedFrame κ) → Advance (Stream κ) (Frame κ) → Prop
  | token {b : BufferedStream κ} {s : Stream κ} (t : Token) (h : b.Shows s) : Advances (.token t b) (.token t s)
  | closed {b : BufferedStream κ} {s : Stream κ} {f : BufferedFrame κ} {frame : Frame κ} (h : b.Shows s)
      (hclose : frame.onClose = f.onClose) : Advances (.closed f b) (.closed frame s)
  | finished {b : BufferedStream κ} {s : Stream κ} (h : b.Shows s) : Advances (.finished b) (.finished s)
  | fault {b : BufferedStream κ} {s : Stream κ} (r : Report Fault) (h : b.Shows s) :
      Advances (.fault r b) (.fault r s)

private theorem advance (h : b.Shows s) : Advances b.advance s.advance := by
  have halike := BufferedFrame.take_alike h.buffer b.lastLine
  rw [← h.cursor_top] at halike
  unfold BufferedStream.advance Stream.advance
  rw [take_apply]
  generalize htaken : BufferedFrame.take b.top = taken at halike
  generalize htaken' : Read.take s.top.cursor = taken' at halike
  cases halike with
  | error r hgoes => exact .fault r (h.goOn hgoes b.lastLine)
  | @ok top t? hgoes =>
    cases t? with
    | some t => exact .token t (h.goOn hgoes t.line)
    | none =>
      have hended := h.ended hgoes htaken'
      cases hbelow : b.below with
      | nil =>
        have hothers := h.below
        rw [hbelow, List.forall₂_nil_left_iff] at hothers
        rw [hothers]
        exact .finished (hbelow ▸ hended)
      | cons outer below =>
        obtain ⟨outer', below', hbelow', hback⟩ := hended.backTo hbelow
        rw [hbelow']
        rw [hbelow] at hback
        refine .closed hback ?_
        rw [hended.top]
        rfl

end Shows

/-! Each call is answered alike. -/

namespace Shows

variable {b b' : BufferedStream κ} {s : Stream κ}

private theorem peek (h : b.Shows s) : EndsAlike s (BufferedStream.peek b) (Read.peek s.top.cursor) := by
  have halike := BufferedFrame.peek_alike h.buffer b.lastLine
  rw [← h.cursor_top] at halike
  unfold BufferedStream.peek onTop
  generalize BufferedFrame.peek b.top = seen at halike
  generalize Read.peek s.top.cursor = seen' at halike
  cases halike with
  | ok t? hgoes => exact .ok t? (h.goOn hgoes b.lastLine)
  | error r hgoes => exact .error r (h.goOn hgoes b.lastLine)

private theorem take (h : b.Shows s) : EndsAlike s (BufferedStream.take b) (Read.take s.top.cursor) := by
  have halike := BufferedFrame.take_alike h.buffer b.lastLine
  rw [← h.cursor_top] at halike
  rw [take_apply]
  generalize BufferedFrame.take b.top = taken at halike
  generalize Read.take s.top.cursor = taken' at halike
  cases halike with
  | ok t? hgoes =>
    cases t? with
    | none => exact .ok none (h.goOn hgoes b.lastLine)
    | some t => exact .ok (some t) (h.goOn hgoes t.line)
  | error r hgoes => exact .error r (h.goOn hgoes b.lastLine)

/-- The next token, what is handed out on the way to it, and what is left. -/
private theorem next (h : b.Shows s) : s.next.1 = b.next.1 ∧ s.next.2.1 = b.next.2.1 ∧ b.next.2.2.Shows s.next.2.2 := by
  fun_induction BufferedStream.next b generalizing s with
  | case1 b t b' hadvance =>
    have hboth := h.advance
    rw [hadvance] at hboth
    generalize hadvance' : s.advance = advanced at hboth
    cases hboth with
    | token _ hshows =>
      rw [Stream.next_of_token hadvance']
      exact ⟨rfl, rfl, hshows⟩
  | case2 b b' hadvance =>
    have hboth := h.advance
    rw [hadvance] at hboth
    generalize hadvance' : s.advance = advanced at hboth
    cases hboth with
    | finished hshows =>
      rw [Stream.next_of_finished hadvance']
      exact ⟨rfl, rfl, hshows⟩
  | case3 b r b' hadvance =>
    have hboth := h.advance
    rw [hadvance] at hboth
    generalize hadvance' : s.advance = advanced at hboth
    cases hboth with
    | fault _ hshows =>
      rw [Stream.next_of_fault hadvance']
      exact ⟨rfl, rfl, hshows⟩
  | case4 b frame b' hadvance result handed b'' hnext ih =>
    have hboth := h.advance
    rw [hadvance] at hboth
    generalize hadvance' : s.advance = advanced at hboth
    cases hboth with
    | closed hshows hclose =>
      rw [Stream.next_of_closed hadvance']
      obtain ⟨hresult, hhanded, hlast⟩ := ih hshows
      rw [hnext] at hresult hhanded hlast
      refine ⟨hresult, ?_, hlast⟩
      rw [hhanded, hclose, hshows.sources.1]

/-- A call is answered alike. -/
private theorem answer (h : b.Shows s) (library : Library) (c : Call κ) :
    (s.answer library c).1 = (b.answer library c).1 ∧ (b.answer library c).2.Shows (s.answer library c).2 := by
  cases c with
  | peek =>
    have halike := h.peek
    unfold Stream.answer BufferedStream.answer
    generalize BufferedStream.peek b = seen at halike
    generalize Read.peek s.top.cursor = seen' at halike
    cases halike with
    | ok t? hshows => exact ⟨rfl, hshows⟩
    | error r hshows => exact ⟨rfl, hshows⟩
  | take =>
    have halike := h.take
    unfold Stream.answer BufferedStream.answer
    generalize BufferedStream.take b = taken at halike
    generalize Read.take s.top.cursor = taken' at halike
    cases halike with
    | ok t? hshows => exact ⟨rfl, hshows⟩
    | error r hshows => exact ⟨rfl, hshows⟩
  | next =>
    obtain ⟨hresult, hhanded, hlast⟩ := h.next
    refine ⟨?_, hlast⟩
    show Answer.taken _ _ = Answer.taken _ _
    rw [hresult, hhanded]
  | openFile relative line onClose =>
    have hfile : s.fileFor library relative = b.paths.fileFor library relative := by
      rw [Stream.fileFor, h.paths]
    unfold Stream.answer BufferedStream.answer Stream.openFile
    dsimp only
    rw [hfile, openFile_apply]
    cases b.paths.fileFor library relative with
    | error f =>
      obtain ⟨hsource, hchain⟩ := h.sources
      refine ⟨?_, h⟩
      show Answer.opened (.error (s.openFault line f)) = Answer.opened (.error (b.openFault line f))
      rw [Stream.openFault, hsource, hchain, BufferedStream.openFault]
    | ok file =>
      obtain ⟨path, text⟩ := file
      exact ⟨rfl, h.push path text line onClose⟩

/-- A sequence of calls is answered alike. -/
theorem answers (h : b.Shows s) (library : Library) (cs : List (Call κ)) :
    (Call.answers (Stream.answer library) s cs).1 = (Call.answers (BufferedStream.answer library) b cs).1 ∧
      (Call.answers (BufferedStream.answer library) b cs).2.Shows (Call.answers (Stream.answer library) s cs).2 := by
  induction cs generalizing b s with
  | nil => exact ⟨rfl, h⟩
  | cons c cs ih =>
    obtain ⟨hfirst, hafter⟩ := h.answer library c
    obtain ⟨hrest, hlast⟩ := ih hafter
    exact ⟨congrArg₂ List.cons hfirst hrest, hlast⟩

end Shows

/-! ### Readers -/

/-- The evaluation of a reader on a stream with buffers: what its looks were answered with, and how it ended. -/
inductive Dialogue : {α : Type} → Read α → BufferedStream κ → List (Option Token) →
    EStateM.Result (Report Fault) (BufferedStream κ) α → Prop
  | pure {α : Type} (a : α) (b : BufferedStream κ) : Dialogue (pure a) b [] (.ok a b)
  | throw {α : Type} (r : Report Fault) (b : BufferedStream κ) : Dialogue (throw r : Read α) b [] (.error r b)
  | peek {b b' : BufferedStream κ} {answer : Option Token} (h : peek b = .ok answer b') :
      Dialogue Read.peek b [answer] (.ok answer b')
  | peek_error {b b' : BufferedStream κ} {r : Report Fault} (h : peek b = .error r b') :
      Dialogue Read.peek b [] (.error r b')
  | take {b b' : BufferedStream κ} {answer : Option Token} (h : take b = .ok answer b') :
      Dialogue Read.take b [answer] (.ok answer b')
  | take_error {b b' : BufferedStream κ} {r : Report Fault} (h : take b = .error r b') :
      Dialogue Read.take b [] (.error r b')
  | bind {α β : Type} {m : Read α} {f : α → Read β} {b b' : BufferedStream κ} {a : α}
      {told told' : List (Option Token)} {ending : EStateM.Result (Report Fault) (BufferedStream κ) β}
      (hm : Dialogue m b told (.ok a b')) (hf : Dialogue (f a) b' told' ending) :
      Dialogue (m >>= f) b (told ++ told') ending
  | bind_error {α β : Type} {m : Read α} {f : α → Read β} {b b' : BufferedStream κ} {r : Report Fault}
      {told : List (Option Token)} (hm : Dialogue m b told (.error r b')) : Dialogue (m >>= f) b told (.error r b')

namespace Shows

variable {α : Type} {b : BufferedStream κ} {s : Stream κ} {m : Read α} {told : List (Option Token)}

/-- What a reader does on the list of the innermost text, it does on the buffer. -/
theorem dialogue {c : Cursor} {ending : Read.Ending α} (h : m.Dialogue c told ending) {b : BufferedStream κ}
    {s : Stream κ} (hshows : b.Shows s) (hcursor : s.top.cursor = c) :
    ∃ ending', Dialogue m b told ending' ∧ EndsAlike s ending' ending := by
  induction h generalizing b s with
  | pure a c =>
    subst hcursor
    exact ⟨_, .pure a b, .ok a hshows⟩
  | throw r c =>
    subst hcursor
    exact ⟨_, .throw r b, .error r hshows⟩
  | peek h =>
    have halike := hshows.peek
    rw [hcursor, h] at halike
    generalize hpeek : BufferedStream.peek b = seen at halike
    cases halike with
    | ok _ hshows' => exact ⟨_, .peek hpeek, .ok _ hshows'⟩
  | peek_error h =>
    have halike := hshows.peek
    rw [hcursor, h] at halike
    generalize hpeek : BufferedStream.peek b = seen at halike
    cases halike with
    | error _ hshows' => exact ⟨_, .peek_error hpeek, .error _ hshows'⟩
  | take h =>
    have halike := hshows.take
    rw [hcursor, h] at halike
    generalize htake : BufferedStream.take b = taken at halike
    cases halike with
    | ok _ hshows' => exact ⟨_, .take htake, .ok _ hshows'⟩
  | take_error h =>
    have halike := hshows.take
    rw [hcursor, h] at halike
    generalize htake : BufferedStream.take b = taken at halike
    cases halike with
    | error _ hshows' => exact ⟨_, .take_error htake, .error _ hshows'⟩
  | bind hm hf ihm ihf =>
    obtain ⟨_, hfirst, hmiddle⟩ := ihm hshows hcursor
    cases hmiddle with
    | ok a hshows' =>
      obtain ⟨ending', hsecond, hends⟩ := ihf hshows' rfl
      exact ⟨ending', .bind hfirst hsecond, hends.of_withCursor⟩
  | bind_error hm ihm =>
    obtain ⟨_, hfirst, hends⟩ := ihm hshows hcursor
    cases hends with
    | error _ hshows' => exact ⟨_, .bind_error hfirst, .error _ hshows'⟩

/-- What a reader does on the buffer, it does on the list of the innermost text. -/
theorem dialogue_list {ending : EStateM.Result (Report Fault) (BufferedStream κ) α}
    (h : Dialogue m b told ending) {s : Stream κ} (hshows : b.Shows s) :
    ∃ ending', m.Dialogue s.top.cursor told ending' ∧ EndsAlike s ending ending' := by
  induction h generalizing s with
  | pure a b => exact ⟨_, .pure a _, .ok a hshows⟩
  | throw r b => exact ⟨_, .throw r _, .error r hshows⟩
  | peek h =>
    have halike := hshows.peek
    rw [h] at halike
    generalize hpeek : Read.peek s.top.cursor = seen at halike
    cases halike with
    | ok _ hshows' => exact ⟨_, .peek hpeek, .ok _ hshows'⟩
  | peek_error h =>
    have halike := hshows.peek
    rw [h] at halike
    generalize hpeek : Read.peek s.top.cursor = seen at halike
    cases halike with
    | error _ hshows' => exact ⟨_, .peek_error hpeek, .error _ hshows'⟩
  | take h =>
    have halike := hshows.take
    rw [h] at halike
    generalize htake : Read.take s.top.cursor = taken at halike
    cases halike with
    | ok _ hshows' => exact ⟨_, .take htake, .ok _ hshows'⟩
  | take_error h =>
    have halike := hshows.take
    rw [h] at halike
    generalize htake : Read.take s.top.cursor = taken at halike
    cases halike with
    | error _ hshows' => exact ⟨_, .take_error htake, .error _ hshows'⟩
  | bind hm hf ihm ihf =>
    obtain ⟨_, hfirst, hmiddle⟩ := ihm hshows
    cases hmiddle with
    | ok a hshows' =>
      obtain ⟨ending', hsecond, hends⟩ := ihf hshows'
      exact ⟨ending', .bind hfirst hsecond, hends.of_withCursor⟩
  | bind_error hm ihm =>
    obtain ⟨_, hfirst, hends⟩ := ihm hshows
    cases hends with
    | error _ hshows' => exact ⟨_, .bind_error hfirst, .error _ hshows'⟩

end Shows

end BufferedStream

end SceneDescription
