/-!
# Kinds of scopes
-/

namespace SceneDescription

/-- What opened a scope: one of three directives, or the import of a file. -/
inductive ScopeKind
  | attributes
  | transforms
  | object
  | imported
  deriving DecidableEq

/-- The word that begins the names of the directives around a scope. -/
def ScopeKind.name : ScopeKind → String
  | attributes => "Attribute"
  | transforms => "Transform"
  | object => "Object"
  | imported => "Import"

end SceneDescription
