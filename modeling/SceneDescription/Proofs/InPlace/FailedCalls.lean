import SceneDescription.Proofs.InPlace.Drafts
import SceneDescription.Proofs.InPlace.Scopes

/-!
# Calls that fail

A directive works on the scopes and on the draft, with calls on each of them in any order.  Since each call on either is
all or nothing, so is each call on the two together, and the calls that fail can be left out of any sequence of calls
(`failed_calls_leave_no_trace`).
-/

namespace SceneDescription

open Procedure

/-- The scopes and the draft that directives work on. -/
structure Workpieces where
  scopes : ScopeStack := {}
  draft : IndexedDraft := {}

/-- A call on the scopes or on the draft. -/
inductive WorkpieceCall
  | scopes (c : ScopeCall)
  | draft (c : DraftCall)

namespace WorkpieceCall

/-- What a call gives. -/
def Result : WorkpieceCall → Type
  | scopes c => c.Result
  | draft c => c.Result

/-- A call in place, which leaves the other part alone. -/
def carryOut : (c : WorkpieceCall) → Procedure Workpieces c.Result
  | scopes c => c.carryOut.onPart Workpieces.scopes fun scopes w => { w with scopes }
  | draft c => c.carryOut.onPart Workpieces.draft fun draft w => { w with draft }

private theorem allOrNothing (c : WorkpieceCall) : c.carryOut.AllOrNothing := by
  cases c with
  | scopes c => exact c.allOrNothing.onPart fun _ => rfl
  | draft c => exact c.allOrNothing.onPart fun _ => rfl

end WorkpieceCall

/-- Each call in place comes to the same as the operation it belongs to, and leaves everything as it was if it fails,
for any scopes and marks, and for any lists and tables.  So without the calls that fail, the others of any sequence of
calls give what they gave, and scopes, lists, tables and recording are the same in the end. -/
theorem failed_calls_leave_no_trace :
    (∀ (c : ScopeCall) (s : ScopeStack), c.carryOut.run s = settled s (c.step s)) ∧
    (∀ c : ScopeCall, c.carryOut.AllOrNothing) ∧
    (∀ (c : DraftCall) (d : Draft), c.carryOut.run d.indexed = IndexedDraft.InPlace.settledIndexed d (c.step d)) ∧
    (∀ c : DraftCall, c.carryOut.AllOrNothing) ∧
    ∀ (w : Workpieces) (calls : List WorkpieceCall),
      let remaining := unfailing WorkpieceCall.carryOut w calls
      transcript WorkpieceCall.carryOut w remaining =
        (transcript WorkpieceCall.carryOut w calls).filter (·.2.isOk) ∧
      afterAll WorkpieceCall.carryOut w remaining = afterAll WorkpieceCall.carryOut w calls :=
  ⟨ScopeCall.run_carryOut, ScopeCall.allOrNothing, DraftCall.run_carryOut, DraftCall.allOrNothing,
    transcript_unfailing WorkpieceCall.allOrNothing⟩

/-- A scope that is closed as another, a second material of one name, and a medium that there is not: without them the
recording of an object ends as it did. -/
theorem recording_outlives_failures :
    let bark : Material := { type := "diffuse", name := some "bark" }
    let opening : List WorkpieceCall := [.scopes (.beginObject "tree"), .draft (.beginObject "tree"),
      .draft (.addMaterial bark)]
    let failing : List WorkpieceCall := [.scopes (.pop .attributes), .draft (.addMaterial bark),
      .draft (.find .medium "fog")]
    let closing : List WorkpieceCall := [.scopes .endObject, .draft (.endObject "tree" none)]
    unfailing WorkpieceCall.carryOut {} (opening ++ failing ++ closing) = opening ++ closing ∧
      afterAll WorkpieceCall.carryOut {} (opening ++ closing) =
        afterAll WorkpieceCall.carryOut {} (opening ++ failing ++ closing) := by
  intro bark opening failing closing
  have hremaining : unfailing WorkpieceCall.carryOut {} (opening ++ failing ++ closing) = opening ++ closing := by
    rfl
  refine ⟨hremaining, ?_⟩
  rw [← hremaining]
  exact (failed_calls_leave_no_trace.2.2.2.2 {} (opening ++ failing ++ closing)).2

end SceneDescription
