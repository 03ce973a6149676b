import SceneDescription.Proofs.Streams.Buffers

/-!
# Calls on a stream

A stream can be asked for the next token of the innermost text, which it may keep or give away, for the next token
across the ends of texts, and for the opening of a file.  A stream under observation (`Watched`) numbers its texts and
keeps a log of what such calls do to them.  The log is complete: `Watched.call_agrees` finds in it what the stream
itself answers and hands out.
-/

namespace SceneDescription

variable {κ : Type}

/-- How a text has been opened. -/
structure Opening (κ : Type) where
  path : Path
  /-- The name of the innermost text at that time. -/
  within : String
  /-- What is to be handed out when the text is left. -/
  onClose : Option κ

/-- What happens to the texts of a stream.  They are numbered in the order of their opening, and the outermost one is
number zero. -/
inductive Deed (κ : Type)
  | opened (opening : Opening κ)
  | delivered (text : Nat) (t : Token)
  /-- What is handed out comes with the name of the text that the stream has gone back to. -/
  | left (text : Nat) (handed : Option (κ × String))

namespace Deed

def opening? : Deed κ → Option (Opening κ)
  | opened opening => some opening
  | _ => none

def token? : Deed κ → Option Token
  | delivered _ t => some t
  | _ => none

/-- The text that has delivered a token or been left. -/
def text? : Deed κ → Option Nat
  | delivered text _ | left text _ => some text
  | opened _ => none

/-- The token, if it comes from the given text. -/
def tokenFrom? (text : Nat) : Deed κ → Option Token
  | delivered text' t => if text' = text then some t else none
  | _ => none

def handed? : Deed κ → Option (κ × String)
  | left _ handed => handed
  | _ => none

def leaves (text : Nat) : Deed κ → Bool
  | left text' _ => text' = text
  | _ => false

end Deed

/-! ### Logs -/

/-- The openings in a log; the text with number `i + 1` is the one at place `i`. -/
def openings (log : List (Deed κ)) : List (Opening κ) :=
  log.filterMap Deed.opening?

/-- The tokens that a text has delivered. -/
def deliveredFrom (text : Nat) (log : List (Deed κ)) : List Token :=
  log.filterMap (Deed.tokenFrom? text)

/-- The number of times that a text has been left. -/
def timesLeft (text : Nat) (log : List (Deed κ)) : Nat :=
  log.countP (Deed.leaves text)

section Logs

variable (log : List (Deed κ)) (text : Nat) (t : Token) (handed : Option (κ × String))

@[simp]
theorem openings_opened (opening : Opening κ) : openings (log ++ [.opened opening]) = openings log ++ [opening] := by
  simp [openings, Deed.opening?]

@[simp]
theorem openings_delivered : openings (log ++ [.delivered text t]) = openings log := by
  simp [openings, Deed.opening?]

@[simp]
theorem openings_left : openings (log ++ [.left text handed]) = openings log := by
  simp [openings, Deed.opening?]

theorem deliveredFrom_delivered :
    deliveredFrom text (log ++ [.delivered text t]) = deliveredFrom text log ++ [t] := by
  simp [deliveredFrom, Deed.tokenFrom?]

theorem deliveredFrom_left (text' : Nat) :
    deliveredFrom text (log ++ [.left text' handed]) = deliveredFrom text log := by
  simp [deliveredFrom, Deed.tokenFrom?]

theorem timesLeft_delivered (text' : Nat) : timesLeft text (log ++ [.delivered text' t]) = timesLeft text log := by
  simp [timesLeft, Deed.leaves]

theorem timesLeft_left : timesLeft text (log ++ [.left text handed]) = timesLeft text log + 1 := by
  simp [timesLeft, Deed.leaves]

variable {text} {d : Deed κ}

theorem deliveredFrom_of_ne (h : d.text? ≠ some text) : deliveredFrom text (log ++ [d]) = deliveredFrom text log := by
  have hnone : d.tokenFrom? text = none := by
    cases d with
    | delivered text' t => exact if_neg fun heq => h (congrArg some heq)
    | opened _ | left _ _ => rfl
  simp [deliveredFrom, hnone]

theorem timesLeft_of_ne (h : d.text? ≠ some text) : timesLeft text (log ++ [d]) = timesLeft text log := by
  have hfalse : d.leaves text = false := by
    cases d with
    | left text' handed => exact decide_eq_false fun heq => h (congrArg some heq)
    | opened _ | delivered _ _ => rfl
  simp [timesLeft, hfalse]

end Logs

/-! ### Streams under observation -/

/-- A stream under observation. -/
structure Watched (κ : Type) where
  stream : BufferedStream κ
  /-- The numbers of the open texts, innermost first. -/
  texts : List Nat := [0]
  /-- What has happened so far. -/
  log : List (Deed κ) := []

namespace Watched

variable (w : Watched κ)

/-- The number of the innermost text. -/
def top : Nat :=
  w.texts.headD 0

/-- Notes a token of the innermost text. -/
def deliver (t : Token) (stream : BufferedStream κ) : Watched κ :=
  { w with stream, log := w.log ++ [.delivered w.top t] }

/-- Notes the end of the innermost text. -/
def leave (frame : BufferedFrame κ) (stream : BufferedStream κ) : Watched κ where
  stream := stream
  texts := w.texts.tail
  log := w.log ++ [.left w.top (frame.onClose.map (·, stream.source))]

/-- Notes the opening of a text, which gets the next number. -/
def enter (path : Path) (onClose : Option κ) (stream : BufferedStream κ) : Watched κ where
  stream := stream
  texts := ((openings w.log).length + 1) :: w.texts
  log := w.log ++ [.opened ⟨path, w.stream.source, onClose⟩]

def peek : Watched κ :=
  match BufferedStream.peek w.stream with
  | .ok _ stream | .error _ stream => { w with stream }

def take : Watched κ :=
  match BufferedStream.take w.stream with
  | .ok (some t) stream => w.deliver t stream
  | .ok none stream | .error _ stream => { w with stream }

/-- Goes back from texts that have ended until there is a token. -/
def next (w : Watched κ) : Watched κ :=
  match _h : w.stream.advance with
  | .token t stream => w.deliver t stream
  | .closed frame stream => (w.leave frame stream).next
  | .finished stream | .fault _ stream => { w with stream }
termination_by w.stream.below.length
decreasing_by exact BufferedStream.length_below_of_closed _h

def openFile (library : Library) (relative : String) (line : Option Nat) (onClose : Option κ) : Watched κ :=
  match BufferedStream.openFile library relative line onClose w.stream with
  | .ok path stream => w.enter path onClose stream
  | .error _ stream => { w with stream }

def call (library : Library) (w : Watched κ) : Call κ → Watched κ
  | .peek => w.peek
  | .take => w.take
  | .next => w.next
  | .openFile relative line onClose => w.openFile library relative line onClose

/-- A sequence of calls. -/
def calls (library : Library) (w : Watched κ) (cs : List (Call κ)) : Watched κ :=
  cs.foldl (call library) w

end Watched

/-! ### What a stream answers -/

namespace BufferedStream

variable {s s' : BufferedStream κ}

theorem advance_eq_token {t : Token} (h : s.advance = .token t s') : take s = .ok (some t) s' := by
  unfold advance at h
  split at h
  · cases h
  · rename_i htake
    cases h
    exact htake
  · split at h <;> cases h

theorem advance_eq_closed {frame : BufferedFrame κ} (h : s.advance = .closed frame s') :
    ∃ ended outer below, take s = .ok none ended ∧ ended.below = outer :: below ∧ frame = ended.top ∧
      s' = ended.backTo outer below := by
  unfold advance at h
  split at h
  · cases h
  · cases h
  · rename_i ended htake
    split at h
    · cases h
    · rename_i outer below hbelow
      cases h
      exact ⟨ended, outer, below, htake, hbelow, rfl, rfl⟩

theorem advance_eq_finished (h : s.advance = .finished s') : take s = .ok none s' ∧ s'.below = [] := by
  unfold advance at h
  split at h
  · cases h
  · cases h
  · rename_i htake
    split at h
    · rename_i hbelow
      cases h
      exact ⟨htake, hbelow⟩
    · cases h

theorem advance_eq_fault {r : Report Fault} (h : s.advance = .fault r s') : take s = .error r s' := by
  unfold advance at h
  split at h
  · rename_i htake
    cases h
    exact htake
  · cases h
  · split at h <;> cases h

theorem next_of_token {t : Token} (h : s.advance = .token t s') : s.next = (.ok (some t), [], s') := by
  rw [next]
  split
  all_goals
    rename_i heq
    cases h.symm.trans heq
  rfl

theorem next_of_finished (h : s.advance = .finished s') : s.next = (.ok none, [], s') := by
  rw [next]
  split
  all_goals
    rename_i heq
    cases h.symm.trans heq
  rfl

theorem next_of_fault {r : Report Fault} (h : s.advance = .fault r s') : s.next = (.error r, [], s') := by
  rw [next]
  split
  all_goals
    rename_i heq
    cases h.symm.trans heq
  rfl

theorem next_of_closed {frame : BufferedFrame κ} (h : s.advance = .closed frame s') :
    s.next = (s'.next.1, (frame.onClose.map (·, s'.source)).toList ++ s'.next.2.1, s'.next.2.2) := by
  rw [next]
  split
  all_goals
    rename_i heq
    cases h.symm.trans heq
  rfl

/-- What opening a file puts on top of a stream. -/
theorem of_openFile_eq_ok {library : Library} {relative : String} {line : Option Nat} {onClose : Option κ} {path : Path}
    (h : openFile library relative line onClose s = .ok path s') :
    ∃ text, s.paths.fileFor library relative = .ok (path, text) ∧ s' = s.push path text line onClose := by
  rw [openFile_apply] at h
  split at h
  · cases h
  · rename_i hfile
    cases h
    exact ⟨_, hfile, rfl⟩

/-- A stream that cannot open a file stays as it is, with all its texts, their buffers and the line of the token taken
last. -/
theorem of_openFile_eq_error {library : Library} {relative : String} {line : Option Nat} {onClose : Option κ}
    {r : Report Fault} (h : openFile library relative line onClose s = .error r s') :
    s' = s ∧ ∃ f, s.paths.fileFor library relative = .error f ∧ r = s.openFault line f := by
  rw [openFile_apply] at h
  split at h
  · rename_i hfile
    cases h
    exact ⟨rfl, _, hfile, rfl⟩
  · cases h

end BufferedStream

namespace Watched

theorem next_of_token {w : Watched κ} {t : Token} {s : BufferedStream κ} (h : w.stream.advance = .token t s) :
    w.next = w.deliver t s := by
  rw [next]
  split
  all_goals
    rename_i heq
    cases h.symm.trans heq
  rfl

theorem next_of_closed {w : Watched κ} {frame : BufferedFrame κ} {s : BufferedStream κ}
    (h : w.stream.advance = .closed frame s) :
    w.next = (w.leave frame s).next := by
  rw [next]
  split
  all_goals
    rename_i heq
    cases h.symm.trans heq
  rfl

/-- The token that a stream answers with and what it hands out on the way are those in the log. -/
private theorem next_agrees (w : Watched κ) :
    w.next.stream = w.stream.next.2.2 ∧
    ∃ deeds, w.next.log = w.log ++ deeds ∧ openings deeds = [] ∧
      deeds.filterMap Deed.token? = w.stream.next.1.toOption.join.toList ∧
      deeds.filterMap Deed.handed? = w.stream.next.2.1 := by
  fun_induction next w with
  | case1 w t stream h =>
    rw [BufferedStream.next_of_token h]
    exact ⟨rfl, [.delivered w.top t], rfl, rfl, rfl, rfl⟩
  | case2 w frame stream h ih =>
    rw [BufferedStream.next_of_closed h]
    obtain ⟨hstream, deeds, hlog, hopened, htoken, hhanded⟩ := ih
    refine ⟨hstream, .left w.top (frame.onClose.map (·, stream.source)) :: deeds, ?_, hopened, htoken, ?_⟩
    · rw [hlog, leave, List.append_assoc]
      rfl
    · cases frame.onClose with
      | none => exact hhanded
      | some k => exact congrArg ((k, stream.source) :: ·) hhanded
  | case3 w stream h =>
    rw [BufferedStream.next_of_finished h]
    exact ⟨rfl, [], (List.append_nil _).symm, rfl, rfl, rfl⟩
  | case4 w r stream h =>
    rw [BufferedStream.next_of_fault h]
    exact ⟨rfl, [], (List.append_nil _).symm, rfl, rfl, rfl⟩

/-- What a stream answers to a call is what the log says. -/
theorem call_agrees (w : Watched κ) (library : Library) (c : Call κ) :
    (w.call library c).stream = (w.stream.answer library c).2 ∧
    ∃ deeds, (w.call library c).log = w.log ++ deeds ∧
      (openings deeds).map (·.path) = (w.stream.answer library c).1.path?.toList ∧
      deeds.filterMap Deed.token? = (w.stream.answer library c).1.token?.toList ∧
      deeds.filterMap Deed.handed? = (w.stream.answer library c).1.handed := by
  cases c with
  | peek =>
    unfold call peek BufferedStream.answer
    cases BufferedStream.peek w.stream with
    | ok t? stream => exact ⟨rfl, [], (List.append_nil _).symm, rfl, rfl, rfl⟩
    | error r stream => exact ⟨rfl, [], (List.append_nil _).symm, rfl, rfl, rfl⟩
  | take =>
    unfold call take BufferedStream.answer
    cases BufferedStream.take w.stream with
    | ok t? stream =>
      cases t? with
      | none => exact ⟨rfl, [], (List.append_nil _).symm, rfl, rfl, rfl⟩
      | some t => exact ⟨rfl, [.delivered w.top t], rfl, rfl, rfl, rfl⟩
    | error r stream => exact ⟨rfl, [], (List.append_nil _).symm, rfl, rfl, rfl⟩
  | next =>
    obtain ⟨hstream, deeds, hlog, hopened, htoken, hhanded⟩ := w.next_agrees
    refine ⟨hstream, deeds, hlog, ?_, ?_, hhanded⟩
    · rw [hopened]
      rfl
    · rw [htoken]
      unfold BufferedStream.answer
      cases w.stream.next.1 with
      | error r => rfl
      | ok t? => rfl
  | openFile relative line onClose =>
    unfold call openFile BufferedStream.answer
    dsimp only
    cases BufferedStream.openFile library relative line onClose w.stream with
    | ok path stream => exact ⟨rfl, [.opened ⟨path, w.stream.source, onClose⟩], rfl, rfl, rfl, rfl⟩
    | error r stream => exact ⟨rfl, [], (List.append_nil _).symm, rfl, rfl, rfl⟩

theorem calls_agree (w : Watched κ) (library : Library) (cs : List (Call κ)) :
    (w.calls library cs).stream = (Call.answers (BufferedStream.answer library) w.stream cs).2 := by
  induction cs generalizing w with
  | nil => rfl
  | cons c cs ih =>
    obtain ⟨hstream, _⟩ := w.call_agrees library c
    have hrest := ih (w.call library c)
    rw [hstream] at hrest
    exact hrest

end Watched

end SceneDescription
