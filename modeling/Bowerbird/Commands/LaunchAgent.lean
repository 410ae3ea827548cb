import Bowerbird.Foundation.Substring
import Mathlib.Tactic.Common

namespace Bowerbird.Commands.LaunchAgent

open Foundation.Substring

/-! The property list that has the daemon started at login, and what `start`
reads back out of it. -/

def xmlEscapeChar : Char → String
  | '&' => "&amp;"
  | '<' => "&lt;"
  | '>' => "&gt;"
  | '"' => "&quot;"
  | '\'' => "&apos;"
  | char => String.singleton char

def xmlEscape (text : String) : String :=
  String.ofList (text.toList.flatMap fun char => (xmlEscapeChar char).toList)

/-- `Path::join` with a name that has no slash. -/
def join (directory name : String) : String :=
  match directory.toList.getLast? with
  | none => name
  | some last =>
      if last = '/' then directory ++ name else directory ++ "/" ++ name

def envEntry (pair : String × String) : List String :=
  ["        ", "<key>", xmlEscape pair.1, "</key>", "\n        ", "<string>",
    xmlEscape pair.2, "</string>", "\n"]

def envBlock (env : List (String × String)) : List String :=
  if env.isEmpty then []
  else
    ["    ", "<key>EnvironmentVariables</key>", "\n    ", "<dict>", "\n"] ++
      env.flatMap envEntry ++ ["    ", "</dict>", "\n"]

def plistHead : List String :=
  ["<?xml version=\"1.0\" encoding=\"UTF-8\"?>\n",
    "<!DOCTYPE plist PUBLIC \"-//Apple//DTD PLIST 1.0//EN\" ",
    "\"http://www.apple.com/DTDs/PropertyList-1.0.dtd\">\n",
    "<plist version=\"1.0\">\n<dict>\n    <key>Label</key>\n    <string>"]

/-- What does not depend on the arguments, after the environment. -/
def plistRun : List String :=
  ["    <key>RunAtLoad</key>\n    <true/>\n    <key>KeepAlive</key>\n",
    "    <dict>\n        <key>SuccessfulExit</key>\n        <false/>\n",
    "    </dict>\n    <key>StandardOutPath</key>\n    <string>"]

def renderLaunchAgentPlist (label daemonPath dataDir : String)
    (env : List (String × String)) : String :=
  let outLog := join dataDir "daemon.out.log"
  let errLog := join dataDir "daemon.err.log"
  String.join (plistHead ++
    [xmlEscape label, "</string>\n    ", "<key>ProgramArguments</key>",
      "\n    ", "<array>", "\n        ", "<string>", xmlEscape daemonPath,
      "</string>", "\n    ", "</array>", "\n"] ++
    envBlock env ++ plistRun ++
    [xmlEscape outLog,
      "</string>\n    <key>StandardErrorPath</key>\n    <string>",
      xmlEscape errLog, "</string>\n</dict>\n</plist>\n"])

def replaceText (pattern replacement text : String) : String :=
  String.ofList (replace pattern.toList replacement.toList text.toList)

/-- The ampersand comes last. -/
def xmlUnescape (text : String) : String :=
  replaceText "&amp;" "&"
    (replaceText "&apos;" "'"
      (replaceText "&quot;" "\""
        (replaceText "&gt;" ">" (replaceText "&lt;" "<" text))))

/-- One turn of the walk; nothing when a tag is missing. -/
def nextPair (rest : List Char) :
    Option ((String × String) × List Char) := do
  let (_, fromKey) ← cut "<key>".toList rest
  let (key, afterKey) ← cut "</key>".toList fromKey
  let (_, fromValue) ← cut "<string>".toList afterKey
  let (value, afterValue) ← cut "</string>".toList fromValue
  return ((xmlUnescape (String.ofList key), xmlUnescape (String.ofList value)),
    afterValue)

theorem nextPair_shorter {rest after : List Char} {pair : String × String}
    (found : nextPair rest = some (pair, after)) :
    after.length < rest.length := by
  obtain ⟨⟨_, fromKey⟩, opened, found⟩ := Option.bind_eq_some_iff.mp found
  obtain ⟨⟨_, afterKey⟩, named, found⟩ := Option.bind_eq_some_iff.mp found
  obtain ⟨⟨_, fromValue⟩, begun, found⟩ := Option.bind_eq_some_iff.mp found
  obtain ⟨⟨_, afterValue⟩, ended, found⟩ := Option.bind_eq_some_iff.mp found
  obtain ⟨_, rfl⟩ := Prod.mk.inj (Option.some.inj found)
  have first := length_of_cut opened
  have second := length_of_cut named
  have third := length_of_cut begun
  have last := length_of_cut ended
  have tag : "<key>".toList.length = 5 := by decide
  omega

def scanPairs (rest : List Char) : List (String × String) :=
  match _found : nextPair rest with
  | none => []
  | some (pair, after) => pair :: scanPairs after
termination_by rest.length
decreasing_by exact nextPair_shorter _found

def parsePlistEnvironment (xml : String) : List (String × String) :=
  match find "<key>EnvironmentVariables</key>".toList xml.toList with
  | none => []
  | some envAt =>
      match element "<dict>".toList "</dict>".toList
          (xml.toList.drop envAt) with
      | none => []
      | some body => scanPairs body

def parsePlistProgram (xml : String) : Option String := do
  let keyAt ← find "<key>ProgramArguments</key>".toList xml.toList
  let body ← element "<array>".toList "</array>".toList
    (xml.toList.drop keyAt)
  let (_, fromString) ← cut "<string>".toList body
  let (path, _) ← cut "</string>".toList fromString
  return xmlUnescape (String.ofList path)

/-! Escaping, and back. -/

def specials : List Char :=
  ['&', '<', '>', '"', '\'']

theorem xmlEscapeChar_plain {char : Char} (plain : char ∉ specials) :
    (xmlEscapeChar char).toList = [char] := by
  simp only [specials, List.mem_cons, List.not_mem_nil, or_false,
    not_or] at plain
  unfold xmlEscapeChar
  split
  · exact absurd rfl plain.1
  · exact absurd rfl plain.2.1
  · exact absurd rfl plain.2.2.1
  · exact absurd rfl plain.2.2.2.1
  · exact absurd rfl plain.2.2.2.2
  · exact String.toList_singleton _

/-- What stands for a character once the entities of some have been read. -/
def stage (read : List Char) (char : Char) : List Char :=
  if char ∈ read then [char] else (xmlEscapeChar char).toList

theorem xmlEscapeChar_special : ∀ char ∈ specials,
    ∃ rest, (xmlEscapeChar char).toList = '&' :: rest := by
  intro char special
  simp only [specials, List.mem_cons, List.not_mem_nil, or_false] at special
  rcases special with rfl | rfl | rfl | rfl | rfl <;> exact ⟨_, rfl⟩

/-- An entity does not begin inside what stands for another character. -/
theorem free_stage {read : List Char} {char other : Char}
    (special : char ∈ specials) (ampersand : '&' ∉ read)
    (different : other ≠ char) :
    free (xmlEscapeChar char).toList (stage read other) = true := by
  have entities : (specials.all fun left => specials.all fun right =>
      right == left ||
        free (xmlEscapeChar left).toList (xmlEscapeChar right).toList) = true := by
    decide
  simp only [List.all_eq_true, Bool.or_eq_true, beq_iff_eq] at entities
  obtain ⟨rest, entity⟩ := xmlEscapeChar_special char special
  have single (plain : other ≠ '&') : free ('&' :: rest) [other] = true :=
    free_of_not_mem fun same => plain (List.mem_singleton.mp same).symm
  unfold stage
  split
  · rename_i member
    rw [entity]
    exact single fun same => ampersand (same ▸ member)
  · by_cases other_special : other ∈ specials
    · exact (entities char special other other_special).resolve_left different
    · rw [xmlEscapeChar_plain other_special, entity]
      exact single fun same => other_special (same ▸ List.mem_cons_self)

theorem replace_stage {read : List Char} {char : Char}
    (special : char ∈ specials) (ampersand : '&' ∉ read) (unread : char ∉ read)
    (chars : List Char) :
    replace (xmlEscapeChar char).toList [char] (chars.flatMap (stage read)) =
      chars.flatMap (stage (char :: read)) := by
  obtain ⟨rest, entity⟩ := xmlEscapeChar_special char special
  refine replace_flatMap ?_ [char] (fun other => ?_) chars
  · rw [entity]
    exact List.cons_ne_nil _ _
  · by_cases same : other = char
    · subst same
      exact .inl ⟨if_neg unread, if_pos List.mem_cons_self⟩
    · refine .inr ⟨free_stage special ampersand same, ?_⟩
      simp only [stage, List.mem_cons, same, false_or]

/-- One pass reads one entity more. -/
theorem replaceText_stage {read chars : List Char} {text : String} (char : Char)
    (entity single : String) (special : char ∈ specials)
    (ampersand : '&' ∉ read) (unread : char ∉ read)
    (written : xmlEscapeChar char = entity) (reads : single.toList = [char])
    (staged : text.toList = chars.flatMap (stage read)) :
    (replaceText entity single text).toList =
      chars.flatMap (stage (char :: read)) := by
  rw [replaceText, String.toList_ofList, reads, staged, ← written]
  exact replace_stage special ampersand unread chars

theorem xmlUnescape_xmlEscape (text : String) :
    xmlUnescape (xmlEscape text) = text := by
  have escaped : (xmlEscape text).toList = text.toList.flatMap (stage []) := by
    rw [xmlEscape, String.toList_ofList]
    rfl
  have less := replaceText_stage '<' "&lt;" "<" (by decide) (by decide)
    (by decide) rfl (by decide) escaped
  have greater := replaceText_stage '>' "&gt;" ">" (by decide) (by decide)
    (by decide) rfl (by decide) less
  have quoted := replaceText_stage '"' "&quot;" "\"" (by decide) (by decide)
    (by decide) rfl (by decide) greater
  have apostrophe := replaceText_stage '\'' "&apos;" "'" (by decide) (by decide)
    (by decide) rfl (by decide) quoted
  -- an ampersand is read when no entity but its own is left
  have ampersand := replaceText_stage '&' "&amp;" "&" (by decide) (by decide)
    (by decide) rfl (by decide) apostrophe
  have all : (specials.all (['&', '\'', '"', '>', '<'].contains ·)) = true := by
    decide
  simp only [List.all_eq_true, List.contains_iff_mem] at all
  have whole (char : Char) : stage ['&', '\'', '"', '>', '<'] char = [char] := by
    unfold stage
    split
    · rfl
    · rename_i plain
      exact xmlEscapeChar_plain fun special => plain (all char special)
  refine String.toList_inj.mp (ampersand.trans ?_)
  rw [funext whole, List.flatMap_singleton']

/-! Nothing that is escaped opens a tag. -/

theorem less_not_mem_xmlEscape (text : String) :
    '<' ∉ (xmlEscape text).toList := by
  rw [xmlEscape, String.toList_ofList, List.mem_flatMap]
  rintro ⟨char, _, inside⟩
  by_cases special : char ∈ specials
  · have closed : (specials.all fun char =>
        !(xmlEscapeChar char).toList.contains '<') = true := by
      decide
    simp only [List.all_eq_true, Bool.not_eq_true', ← Bool.not_eq_true,
      List.contains_iff_mem] at closed
    exact closed char special inside
  · rw [xmlEscapeChar_plain special, List.mem_singleton] at inside
    exact special (inside ▸ by decide)

/-- The tag begins nowhere in the text, whatever comes after it. -/
def Clear (tag text : String) : Prop :=
  free tag.toList text.toList = true

theorem clear_xmlEscape (tag text : String) {rest : List Char}
    (opens : tag.toList = '<' :: rest) : Clear tag (xmlEscape text) := by
  rw [Clear, opens]
  exact free_of_not_mem (less_not_mem_xmlEscape text)

/-- For a text that is written out. -/
theorem clear_ofList {tag text : List Char} (clear : free tag text = true) :
    Clear (String.ofList tag) (String.ofList text) := by
  rw [Clear, String.toList_ofList, String.toList_ofList]
  exact clear

theorem clear_join {tag : String} {parts : List String}
    (clear : ∀ part ∈ parts, Clear tag part) :
    free tag.toList (parts.flatMap String.toList) = true := by
  induction parts with
  | nil => rfl
  | cons part rest induction =>
      rw [List.forall_mem_cons] at clear
      rw [List.flatMap_cons]
      exact free_append clear.1 (induction clear.2)

/-! The walk reads the pairs that were written. -/

/-- What stands between the tags of the dictionary. -/
def envBody (env : List (String × String)) : List Char :=
  "\n".toList ++ (env.flatMap envEntry ++ ["    "]).flatMap String.toList

theorem envBody_cons (pair : String × String) (rest : List (String × String)) :
    envBody (pair :: rest) =
      "\n        ".toList ++ ("<key>".toList ++ ((xmlEscape pair.1).toList ++
        ("</key>".toList ++ ("\n        ".toList ++ ("<string>".toList ++
          ((xmlEscape pair.2).toList ++ ("</string>".toList ++
            envBody rest))))))) := by
  have indent : "\n        ".toList = "\n".toList ++ "        ".toList := by
    decide
  simp only [envBody, envEntry, List.flatMap_cons, List.cons_append,
    List.nil_append, List.append_assoc, indent]

theorem nextPair_envBody (pair : String × String)
    (rest : List (String × String)) :
    nextPair (envBody (pair :: rest)) = some (pair, envBody rest) := by
  have opened : Clear "<key>" "\n        " := clear_ofList (by decide)
  have begun : Clear "<string>" "\n        " := clear_ofList (by decide)
  have named := clear_xmlEscape "</key>" pair.1 rfl
  have ended := clear_xmlEscape "</string>" pair.2 rfl
  rw [nextPair, envBody_cons, cut_after opened]
  simp only [Option.bind_eq_bind, Option.bind_some]
  rw [cut_after named, Option.bind_some, cut_after begun, Option.bind_some,
    cut_after ended]
  simp only [Option.bind_some, String.ofList_toList, xmlUnescape_xmlEscape]
  rfl

theorem scanPairs_envBody (env : List (String × String)) :
    scanPairs (envBody env) = env := by
  induction env with
  | nil =>
      have blank : nextPair (envBody []) = none := by decide
      rw [scanPairs]
      split
      · rfl
      · rename_i found
        rw [blank] at found
        cases found
  | cons pair rest induction =>
      rw [scanPairs]
      split
      · rename_i none
        rw [nextPair_envBody] at none
        cases none
      · rename_i found
        rw [nextPair_envBody] at found
        cases found
        rw [induction]

theorem clear_envEntry {tag : String} {rest : List Char}
    (opens : tag.toList = '<' :: rest)
    (texts : ∀ text ∈ ["        ", "<key>", "</key>", "\n        ", "<string>",
      "</string>", "\n"], Clear tag text) (pair : String × String) :
    ∀ part ∈ envEntry pair, Clear tag part := by
  intro part member
  simp only [envEntry, List.mem_cons, List.not_mem_nil, or_false] at member
  rcases member with rfl | rfl | rfl | rfl | rfl | rfl | rfl | rfl | rfl
  case inr.inr.inl => exact clear_xmlEscape tag pair.1 opens
  case inr.inr.inr.inr.inr.inr.inl => exact clear_xmlEscape tag pair.2 opens
  all_goals exact texts _ (by simp)

/-! The list in three parts: what comes before the environment, the environment
and what comes after it. -/

def plistArguments (label daemonPath : String) : List String :=
  plistHead ++
    [xmlEscape label, "</string>\n    ", "<key>ProgramArguments</key>",
      "\n    ", "<array>", "\n        ", "<string>", xmlEscape daemonPath,
      "</string>", "\n    ", "</array>", "\n"]

def plistLogs (dataDir : String) : List String :=
  plistRun ++
    [xmlEscape (join dataDir "daemon.out.log"),
      "</string>\n    <key>StandardErrorPath</key>\n    <string>",
      xmlEscape (join dataDir "daemon.err.log"),
      "</string>\n</dict>\n</plist>\n"]

theorem toList_render (label daemonPath dataDir : String)
    (env : List (String × String)) :
    (renderLaunchAgentPlist label daemonPath dataDir env).toList =
      (plistArguments label daemonPath).flatMap String.toList ++
        ((envBlock env).flatMap String.toList ++
          (plistLogs dataDir).flatMap String.toList) := by
  simp only [renderLaunchAgentPlist, String.toList_join, plistArguments,
    plistLogs, List.flatMap_append, List.append_assoc]

theorem clear_plistArguments (label daemonPath : String) :
    ∀ part ∈ plistArguments label daemonPath,
      Clear "<key>EnvironmentVariables</key>" part := by
  simp only [plistArguments, plistHead, List.cons_append, List.nil_append,
    List.forall_mem_cons]
  refine ⟨?_, ?_, ?_, ?_, clear_xmlEscape _ _ rfl, ?_, ?_, ?_, ?_, ?_, ?_,
    clear_xmlEscape _ _ rfl, ?_, ?_, ?_, ?_, fun _ member =>
      absurd member List.not_mem_nil⟩ <;>
    exact clear_ofList (by decide)

theorem clear_plistLogs (dataDir : String) :
    ∀ part ∈ plistLogs dataDir,
      Clear "<key>EnvironmentVariables</key>" part := by
  simp only [plistLogs, plistRun, List.cons_append, List.nil_append,
    List.forall_mem_cons]
  refine ⟨?_, ?_, ?_, clear_xmlEscape _ _ rfl, ?_, clear_xmlEscape _ _ rfl, ?_,
    fun _ member => absurd member List.not_mem_nil⟩ <;>
    exact clear_ofList (by decide)

theorem envBlock_cons (pair : String × String) (rest : List (String × String))
    (after : List Char) :
    (envBlock (pair :: rest)).flatMap String.toList ++ after =
      "    ".toList ++ ("<key>EnvironmentVariables</key>".toList ++
        ("\n    ".toList ++ ("<dict>".toList ++ (envBody (pair :: rest) ++
          ("</dict>".toList ++ ("\n".toList ++ after)))))) := by
  simp only [envBlock, envBody, List.isEmpty_cons, Bool.false_eq_true, if_false,
    List.flatMap_append, List.flatMap_cons, List.flatMap_nil, List.append_nil,
    List.append_assoc]

theorem clear_envBody (env : List (String × String)) :
    free "</dict>".toList (envBody env) = true := by
  have texts : ∀ text ∈ ["        ", "<key>", "</key>", "\n        ", "<string>",
      "</string>", "\n"], Clear "</dict>" text := by
    simp only [List.forall_mem_cons]
    refine ⟨?_, ?_, ?_, ?_, ?_, ?_, ?_, fun _ member =>
      absurd member List.not_mem_nil⟩ <;> exact clear_ofList (by decide)
  have line : Clear "</dict>" "\n" := clear_ofList (by decide)
  refine free_append line (clear_join ?_)
  rw [List.forall_mem_append]
  constructor
  · intro part member
    obtain ⟨pair, _, inside⟩ := List.mem_flatMap.mp member
    exact clear_envEntry rfl texts pair part inside
  · intro part member
    rw [List.mem_singleton.mp member]
    exact clear_ofList (by decide)

theorem parsePlistEnvironment_render (label daemonPath dataDir : String)
    (env : List (String × String)) :
    parsePlistEnvironment (renderLaunchAgentPlist label daemonPath dataDir env) =
      env := by
  have before := clear_join (clear_plistArguments label daemonPath)
  unfold parsePlistEnvironment
  rw [toList_render]
  cases env with
  | nil =>
      have absent : find "<key>EnvironmentVariables</key>".toList
          ((plistArguments label daemonPath).flatMap String.toList ++
            ((envBlock []).flatMap String.toList ++
              (plistLogs dataDir).flatMap String.toList)) = none :=
        find_free (by decide)
          (free_append before (clear_join (clear_plistLogs dataDir)))
      rw [absent]
  | cons pair rest =>
      have indent : Clear "<key>EnvironmentVariables</key>" "    " :=
        clear_ofList (by decide)
      have marker : Clear "<dict>" "<key>EnvironmentVariables</key>" :=
        clear_ofList (by decide)
      have gap : Clear "<dict>" "\n    " := clear_ofList (by decide)
      have markerEnd : Clear "</dict>" "<key>EnvironmentVariables</key>" :=
        clear_ofList (by decide)
      have gapEnd : Clear "</dict>" "\n    " := clear_ofList (by decide)
      have opening : Clear "</dict>" "<dict>" := clear_ofList (by decide)
      rw [envBlock_cons, ← List.append_assoc,
        find_after (free_append before indent)]
      dsimp only
      rw [element_after_marker _ (free_append marker gap)
        (free_append markerEnd (free_append gapEnd
          (free_append opening (clear_envBody (pair :: rest)))))]
      exact scanPairs_envBody (pair :: rest)

/-! The daemon's path is the first string of the first array. -/

theorem toList_plistArguments (label daemonPath : String) (after : List Char) :
    (plistArguments label daemonPath).flatMap String.toList ++ after =
      (plistHead ++ [xmlEscape label, "</string>\n    "]).flatMap String.toList ++
        ("<key>ProgramArguments</key>".toList ++ ("\n    ".toList ++
          ("<array>".toList ++ (("\n        ".toList ++ ("<string>".toList ++
            ((xmlEscape daemonPath).toList ++ ("</string>".toList ++
              "\n    ".toList)))) ++ ("</array>".toList ++
                ("\n".toList ++ after)))))) := by
  simp only [plistArguments, List.flatMap_append, List.flatMap_cons,
    List.flatMap_nil, List.append_nil, List.append_assoc]

theorem parsePlistProgram_render (label daemonPath dataDir : String)
    (env : List (String × String)) :
    parsePlistProgram (renderLaunchAgentPlist label daemonPath dataDir env) =
      some daemonPath := by
  have before : ∀ part ∈ plistHead ++ [xmlEscape label, "</string>\n    "],
      Clear "<key>ProgramArguments</key>" part := by
    simp only [plistHead, List.cons_append, List.nil_append, List.forall_mem_cons]
    refine ⟨?_, ?_, ?_, ?_, clear_xmlEscape _ _ rfl, ?_, fun _ member =>
      absurd member List.not_mem_nil⟩ <;> exact clear_ofList (by decide)
  have marker : Clear "<array>" "<key>ProgramArguments</key>" :=
    clear_ofList (by decide)
  have gap : Clear "<array>" "\n    " := clear_ofList (by decide)
  have opened : Clear "<string>" "\n        " := clear_ofList (by decide)
  have ended := clear_xmlEscape "</string>" daemonPath rfl
  have closing : ∀ part ∈ ["<key>ProgramArguments</key>", "\n    ", "<array>",
      "\n        ", "<string>", xmlEscape daemonPath, "</string>", "\n    "],
      Clear "</array>" part := by
    simp only [List.forall_mem_cons]
    refine ⟨?_, ?_, ?_, ?_, ?_, clear_xmlEscape _ _ rfl, ?_, ?_, fun _ member =>
      absurd member List.not_mem_nil⟩ <;> exact clear_ofList (by decide)
  have unclosed := clear_join closing
  simp only [List.flatMap_cons, List.flatMap_nil, List.append_nil] at unclosed
  unfold parsePlistProgram
  rw [toList_render, toList_plistArguments, find_after (clear_join before)]
  simp only [Option.bind_eq_bind, Option.bind_some]
  rw [element_after_marker _ (free_append marker gap) unclosed, Option.bind_some,
    cut_after opened, Option.bind_some, cut_after ended, Option.bind_some,
    String.ofList_toList, xmlUnescape_xmlEscape]
  rfl

/-- What was rendered is read back, whatever the strings hold. -/
theorem plist_round_trip :
    (∀ label daemonPath dataDir env,
      parsePlistEnvironment
        (renderLaunchAgentPlist label daemonPath dataDir env) = env ∧
      parsePlistProgram (renderLaunchAgentPlist label daemonPath dataDir env) =
        some daemonPath) ∧
      ∀ text, xmlUnescape (xmlEscape text) = text := by
  refine ⟨fun label daemonPath dataDir env => ⟨?_, ?_⟩, xmlUnescape_xmlEscape⟩
  · exact parsePlistEnvironment_render label daemonPath dataDir env
  · exact parsePlistProgram_render label daemonPath dataDir env

end Bowerbird.Commands.LaunchAgent
