import SceneDescription.Proofs.Readers.Traces
import SceneDescription.Proofs.Sessions.Runs

/-!
# Steps that fail

`Session.Fails` says once how a step can fail, as `Session.Moves` says what a step can do: the text cannot be scanned,
a word is no directive or not allowed, its operands cannot be read, the stage refuses it, its file cannot be opened,
or a scope is still open at the end of an imported file or of the whole input.
-/

namespace SceneDescription

/-- What is wrong with a token that should begin a directive. -/
def Phase.objection? (phase : Phase) (t : Token) : Option Fault :=
  match t.lexeme with
  | .identifier name =>
    match Keyword.ofName? name with
    | none => some (.unknownDirective name)
    | some keyword => if keyword.allowedIn phase then none else some (phase.fault name)
  | _ => some (.expectedDirective t.describe)

/-- The fault with which a file is refused, which is placed where the stream stands. -/
theorem Stream.openFile_eq_error {κ : Type} {s : Stream κ} {lib : Library} {relative : String} {line : Option Nat}
    {onClose : Option κ} {r : Report Fault} (h : s.openFile lib relative line onClose = .error r) :
    ∃ f, r = s.openFault line f := by
  unfold openFile at h
  split at h
  · cases h
    exact ⟨_, rfl⟩
  · cases h

namespace Session

variable {s t : Session} {r : Report Fault}

/-- The next token begins a directive, and its operands are to be read behind the cursor `c`. -/
structure Begins (s : Session) (token : Token) (keyword : Keyword) (c : Cursor) : Prop where
  take : Read.take s.stream.top.cursor = .ok (some token) c
  named : ∃ name, token.lexeme = .identifier name ∧ Keyword.ofName? name = some keyword
  phase : keyword.allowedIn s.stage.phase

variable [LinearAlgebra]

/-- How a step can fail, and the session in which it does. -/
inductive Fails (s t : Session) : Report Fault → Prop
  | scan {r : Report Fault} {c : Cursor} (htake : Read.take s.stream.top.cursor = .error r c)
      (hstream : t.stream = s.stream.withCursor c) : Fails s t r
  | heading {token : Token} {c : Cursor} {f : Fault} (htake : Read.take s.stream.top.cursor = .ok (some token) c)
      (hf : s.stage.phase.objection? token = some f) (hstream : t.stream = s.stream.withCursor c) :
      Fails s t (f.at token.line)
  | operands {token : Token} {c₁ c₂ : Cursor} {keyword : Keyword} {r : Report Fault}
      (hbegins : s.Begins token keyword c₁)
      (hread : readDirective ⟨keyword, token.line⟩ c₁ = .error r c₂)
      (hstream : t.stream = s.stream.withCursor c₂) : Fails s t r
  | execution {token : Token} {c₁ c₂ : Cursor} {keyword : Keyword} {d : Directive} {f : Fault}
      (hbegins : s.Begins token keyword c₁)
      (hread : readDirective ⟨keyword, token.line⟩ c₁ = .ok d c₂)
      (hexecute : s.stage.execute ⟨s.stream.source, token.line⟩ d = .error f)
      (hstream : t.stream = s.stream.withCursor c₂) : Fails s t (f.at token.line)
  | opening {token : Token} {c₁ c₂ : Cursor} {keyword : Keyword} {d : Directive} {relative : String}
      {r : Report Fault} (hbegins : s.Begins token keyword c₁)
      (hread : readDirective ⟨keyword, token.line⟩ c₁ = .ok d c₂) (hopens : d.opens? = some relative)
      (hopen : t.stream.openFile s.library relative token.line (s.markFor d) = .error r)
      (hstream : t.stream = s.stream.withCursor c₂) : Fails s t r
  | importEnd {c : Cursor} {outer : Frame Mark} {below : List (Frame Mark)} {mark : Mark} {f : Fault}
      (htake : Read.take s.stream.top.cursor = .ok none c) (haround : s.stream.below = outer :: below)
      (hclose : s.stream.top.onClose = some mark) (hleave : s.stage.leaveImport mark = .error f)
      (hstream : t.stream = Stream.backTo s.stream.top outer below) : Fails s t (f.at s.stream.top.includeLine)
  | inputEnd {c : Cursor} {f : Fault} (htake : Read.take s.stream.top.cursor = .ok none c)
      (hbelow : s.stream.below = []) (hbalanced : s.stage.scopes.checkBalanced = .error f)
      (hstream : t.stream = s.stream) : Fails s t (f.at s.stream.lastLine)

private theorem carryOut_fails {token : Token} {c₁ c₂ : Cursor} {keyword : Keyword} {d : Directive}
    (hbegins : s.Begins token keyword c₁)
    (hread : readDirective ⟨keyword, token.line⟩ c₁ = .ok d c₂)
    (h : ({ s with stream := s.stream.withCursor c₂ } : Session).carryOut keyword token.line d = .failed r t) :
    s.Fails t r := by
  unfold carryOut at h
  dsimp only at h
  split at h
  · rename_i hexecute
    cases h
    exact .execution hbegins hread hexecute rfl
  split at h
  · cases h
  rename_i hopens
  split at h
  · rename_i hopen
    cases h
    exact .opening hbegins hread hopens hopen rfl
  · cases h

private theorem perform_fails {token : Token} {c₁ : Cursor}
    (htake : Read.take s.stream.top.cursor = .ok (some token) c₁)
    (h : ({ s with stream := s.stream.withCursor c₁ } : Session).perform token = .failed r t) : s.Fails t r := by
  unfold perform at h
  cases hlexeme : token.lexeme with
  | identifier name =>
    cases hname : Keyword.ofName? name with
    | none =>
      simp only [hlexeme, hname] at h
      cases h
      exact .heading htake (by simp [Phase.objection?, hlexeme, hname]) rfl
    | some keyword =>
      by_cases hphase : keyword.allowedIn s.stage.phase
      · have hbegins : s.Begins token keyword c₁ := ⟨htake, ⟨name, hlexeme, hname⟩, hphase⟩
        cases hread : readDirective ⟨keyword, token.line⟩ c₁ with
        | error report c₂ =>
          simp only [hlexeme, hname, hphase, Stream.withCursor, hread, if_true] at h
          cases h
          exact .operands hbegins hread rfl
        | ok d c₂ =>
          simp only [hlexeme, hname, hphase, Stream.withCursor, hread, if_true] at h
          exact carryOut_fails hbegins hread h
      · simp only [hlexeme, hname, hphase] at h
        cases h
        exact .heading htake (by simp [Phase.objection?, hlexeme, hname, hphase]) rfl
  | _ =>
    simp only [hlexeme] at h
    cases h
    exact .heading htake (by simp [Phase.objection?, hlexeme]) rfl

theorem fails_of_step (h : s.step = .failed r t) : s.Fails t r := by
  unfold step Stream.advance at h
  cases htake : Read.take s.stream.top.cursor with
  | error report c =>
    simp only [htake] at h
    cases h
    exact .scan htake rfl
  | ok token c =>
    rw [htake] at h
    cases token with
    | some token => exact perform_fails htake h
    | none =>
      cases hbelow : s.stream.below with
      | nil =>
        simp only [hbelow] at h
        split at h
        · rename_i hbalanced
          cases h
          exact .inputEnd htake hbelow hbalanced rfl
        · cases h
      | cons outer below =>
        simp only [hbelow] at h
        unfold leave at h
        dsimp only at h
        split at h
        · cases h
        rename_i mark hclose
        split at h
        · rename_i hleave
          cases h
          exact .importEnd htake hbelow hclose hleave rfl
        · cases h

theorem finish_of_failed (h : s.step = .failed r t) : s.finish = .failed r t := by
  rw [finish]
  split
  · rename_i heq
    rw [h] at heq
    cases heq
  · rename_i heq
    rw [h] at heq
    cases heq
    rfl
  · rename_i heq
    rw [h] at heq
    cases heq

end Session

end SceneDescription
