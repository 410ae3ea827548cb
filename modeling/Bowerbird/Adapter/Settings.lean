import Bowerbird.Ingest.Handler

namespace Bowerbird.Adapter.Settings

open Protocol Ingest

/-! What install and uninstall make of a settings document. -/

def shimBinaryName : String :=
  "bowerbird-shim"

def hookKinds : List String :=
  ["UserPromptSubmit", "PreToolUse", "PostToolUse", "Stop", "Notification"]

def legacyHookKinds : List String :=
  ["PreToolUse", "PostToolUse", "Stop", "Notification"]

def field (name : String) (fields : List (String × Json.Value)) :
    Option Json.Value :=
  (Json.Value.object fields).get name

/-- The text up to the first white space after any that leads it. -/
def firstToken (command : String) : List Char :=
  (command.toList.dropWhile isWhitespace).takeWhile (!isWhitespace ·)

/-- The last component of a path, if it names a file. -/
def fileName (path : List Char) : Option (List Char) :=
  match ((path.splitOn '/').filter fun part =>
      part ≠ [] ∧ part ≠ ['.']).getLast? with
  | some part => if part = ['.', '.'] then none else some part
  | none => none

def isBowerbirdCommand (command : String) : Bool :=
  firstToken command = shimBinaryName.toList ||
    fileName (firstToken command) = some shimBinaryName.toList

def isBowerbirdCommandHook : Json.Value → Bool
  | .object fields =>
      match (field "command" fields).bind Json.Value.asStr with
      | some command => isBowerbirdCommand command
      | none => false
  | _ => false

def groupContainsBowerbird : Json.Value → Bool
  | .object fields =>
      match field "hooks" fields with
      | some (.array hooks) => hooks.any isBowerbirdCommandHook
      | _ => false
  | _ => false

def arrayContainsBowerbird (array : List Json.Value) : Bool :=
  array.any groupContainsBowerbird

/-- Safe to drop whole: it has hooks, and every one is bowerbird's. -/
def groupIsBowerbirdOnly : Json.Value → Bool
  | .object fields =>
      match field "hooks" fields with
      | some (.array hooks) =>
          !hooks.isEmpty && hooks.all isBowerbirdCommandHook
      | _ => false
  | _ => false

def bowerbirdHookGroup (kind : String) : Json.Value :=
  .object [("hooks", .array [.object
    (Json.insertField "command"
      (.string (shimBinaryName ++ " --hook-kind " ++ kind))
      [("type", .string "command")])])]

/-- The array under a kind; anything else there counts as an empty one. -/
def kindArray (kind : String) (hooks : List (String × Json.Value)) :
    List Json.Value :=
  match field kind hooks with
  | some (.array array) => array
  | _ => []

def mergeKinds (hooks : List (String × Json.Value)) :
    List String → List (String × Json.Value) × List String
  | [] => (hooks, [])
  | kind :: rest =>
      let array := kindArray kind hooks
      if arrayContainsBowerbird array then mergeKinds hooks rest
      else
        let merged := mergeKinds
          (Json.insertField kind (.array (array ++ [bowerbirdHookGroup kind]))
            hooks) rest
        (merged.1, kind :: merged.2)

/-- A `hooks` that is no object is replaced by an empty one. -/
def mergeInstallInto (fields : List (String × Json.Value)) :
    List (String × Json.Value) × List String :=
  let hooks :=
    match field "hooks" fields with
    | some (.object hooks) => hooks
    | _ => []
  let merged := mergeKinds hooks hookKinds
  (Json.insertField "hooks" (.object merged.1) fields, merged.2)

def hasKind (hooks : List (String × Json.Value)) (kind : String) : Bool :=
  arrayContainsBowerbird (kindArray kind hooks)

def hasOnlyLegacyHooks (fields : List (String × Json.Value)) : Bool :=
  match field "hooks" fields with
  | some (.object hooks) =>
      legacyHookKinds.all (hasKind hooks) &&
        !(hookKinds.filter (· ∉ legacyHookKinds)).any (hasKind hooks)
  | _ => false

/-- A group without bowerbird's hooks, and whether it had any. -/
def stripGroup : Json.Value → Json.Value × Bool
  | .object fields =>
      match field "hooks" fields with
      | some (.array inner) =>
          let kept := inner.filter (!isBowerbirdCommandHook ·)
          (.object (Json.insertField "hooks" (.array kept) fields),
            kept.length ≠ inner.length)
      | _ => (.object fields, false)
  | group => (group, false)

def stripKinds (hooks : List (String × Json.Value)) :
    List String → List (String × Json.Value) × List String
  | [] => (hooks, [])
  | kind :: rest =>
      match field kind hooks with
      | some (.array array) =>
          let kept := array.filter (!groupIsBowerbirdOnly ·)
          let stripped := kept.map stripGroup
          let next := stripKinds
            (Json.insertField kind (.array (stripped.map (·.1))) hooks) rest
          if stripped.any (·.2) || kept.length ≠ array.length then
            (next.1, kind :: next.2)
          else next
      | _ => stripKinds hooks rest

def stripInstallFrom (fields : List (String × Json.Value)) :
    List (String × Json.Value) × List String :=
  match field "hooks" fields with
  | some (.object hooks) =>
      let stripped := stripKinds hooks hookKinds
      (Json.insertField "hooks" (.object stripped.1) fields, stripped.2)
  | _ => (fields, [])

end Bowerbird.Adapter.Settings
