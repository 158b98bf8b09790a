import TickScript.Session

/-
  Sessions that are saved while they wait for an answer.
-/

namespace TickScript

/-- A waiting session, with what is needed to go on with it later. -/
structure SavedSession where
  schemaVersion : String
  /-- Where the pack came from. -/
  packId : String
  entry : String
  budget : Option UInt32
  snapshot : SessionSnapshot
  deriving DecidableEq

instance : JsonForm SavedSession where
  toJson s := .obj [
    ("schemaVersion", toJson s.schemaVersion),
    ("packId", toJson s.packId),
    ("entryScript", toJson s.entry),
    ("instructionBudget", toJson s.budget),
    ("snapshot", toJson s.snapshot)]
  ofJson? v := do
    let members ← v.record?
      ["schemaVersion", "packId", "entryScript", "instructionBudget", "snapshot"]
    pure {
      schemaVersion := ← Json.required "schemaVersion" members
      packId := ← Json.required "packId" members
      entry := ← Json.required "entryScript" members
      budget := ← Json.optional "instructionBudget" members
      snapshot := ← Json.required "snapshot" members }

/-- The version of the form, which every saved session names. -/
def SavedSession.schema : String := "lc-session.v1"

end TickScript
