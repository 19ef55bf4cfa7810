import Onpremai.Conversation.AgentLoop

/-!
# User state manager

How the document of a user is changed: the agent gets its name, and the reflection on a
session is merged.  A document that is too long loses its oldest pending actions.
-/

namespace Onpremai.Conversation

open Onpremai.Library

/-- The settings for the documents. -/
structure UserStateSettings where
  userStateMaxChars : Nat := 2000
  maxPreferences : Nat := 10
  reflectionMinMessages : Int := 6

namespace JsonLength

/-- The characters that a code point takes in a JSON text, which is ASCII. -/
def escaped (char : Char) : Nat :=
  let code := char.toNat
  if [0x22, 0x5c, 8, 9, 10, 12, 13].contains code then 2
  else if 0x20 ≤ code ∧ code ≤ 0x7e then 1
  else if code < 0x10000 then 6
  else 12

/-- The length of a text in quotation marks. -/
def text (text : String) : Nat := 2 + (text.toList.map escaped).sum

def bracketed (items : List Nat) : Nat := 2 + items.sum + 2 * (items.length - 1)

theorem bracketed_mono (before after : List Nat) {short long : Nat} (shorter : short ≤ long) :
    bracketed (before ++ short :: after) ≤ bracketed (before ++ long :: after) := by
  rw [bracketed, bracketed, List.sum_append, List.sum_append, List.sum_cons, List.sum_cons,
    List.length_append, List.length_append, List.length_cons, List.length_cons]
  omega

/-- The length of a field, with a colon and a blank. -/
def field (key : String) (value : Nat) : Nat := text key + 2 + value

def int (value : Int) : Nat := (toString value).length

/-- The length of a text, or of `null`. -/
def optional : Option String → Nat
  | none => 4
  | some value => text value

def texts (values : List String) : Nat := bracketed (values.map text)

end JsonLength

open JsonLength

def PendingAction.length (pending : PendingAction) : Nat := bracketed [
    field "action" (text pending.action), field "created" (text pending.created),
    field "source" (text pending.source), field "due_date" (optional pending.dueDate)]

def LastSession.length (last : LastSession) : Nat :=
  bracketed [field "date" (text last.date), field "summary" (text last.summary)]

def WorkingPatterns.length (patterns : WorkingPatterns) : Nat := bracketed [
    field "avg_session_length" (int patterns.avgSessionLength),
    field "typical_session_time" (text patterns.typicalSessionTime),
    field "skills_most_used" (texts patterns.skillsMostUsed)]

namespace UserStateDoc

/-- The length of the stored document, `len(json.dumps(doc.model_dump(mode="json")))`. -/
def length (doc : UserStateDoc) : Nat := bracketed [
    field "user_id" (text doc.userId), field "tenant_id" (text doc.tenantId),
    field "updated_at" (text doc.updatedAt), field "agent_name" (text doc.agentName),
    field "current_focus" (text doc.currentFocus),
    field "last_session" (doc.lastSession.elim 4 LastSession.length),
    field "pending_actions" (bracketed (doc.pendingActions.map PendingAction.length)),
    field "preferences" (texts doc.preferences),
    field "working_patterns" doc.workingPatterns.length]

variable (settings : UserStateSettings)

def evict (doc : UserStateDoc) : List PendingAction → List PendingAction
  | [] => []
  | oldest :: rest =>
    if settings.userStateMaxChars < { doc with pendingActions := oldest :: rest }.length then
      evict doc rest
    else oldest :: rest

/-- Evict oldest entries if the document exceeds its maximal size. -/
def compact (doc : UserStateDoc) : UserStateDoc :=
  { doc with pendingActions := evict settings doc doc.pendingActions }

/-- The document that is put when a document is saved. -/
def save (today : String) (doc : UserStateDoc) : UserStateDoc :=
  let doc := { doc with updatedAt := today }
  if settings.userStateMaxChars < doc.length then compact settings doc else doc

def setAgentName (userId tenantId name : String) (loaded : Option UserStateDoc) : UserStateDoc :=
  { loaded.getD { userId, tenantId } with agentName := Text.strip (clip 30 name) }

end UserStateDoc

/-- What a reflection has found in a session. -/
structure Reflection where
  accomplished : List String := []
  pending : List String := []
  commitments : List String := []
  preferences : List String := []
  deriving DecidableEq

namespace Reflection

variable (lower : String → String)

def summary (reflection : Reflection) : String :=
  let parts := (if reflection.accomplished.isEmpty then []
      else ["; ".intercalate (reflection.accomplished.take 3)]) ++
    (if reflection.pending.isEmpty then []
      else ["Deferred: " ++ "; ".intercalate (reflection.pending.take 2)])
  if parts.isEmpty then "Brief session." else ". ".intercalate parts

def actions (reflection : Reflection) (today : String) : List PendingAction :=
  (reflection.pending.take 5).map
      (fun item => { action := item, created := today, source := "user_deferred" }) ++
    (reflection.commitments.take 3).map
      (fun item => { action := item, created := today, source := "agent_committed" })

def accomplishes (reflection : Reflection) (pending : PendingAction) : Bool :=
  (reflection.accomplished.map lower).contains (lower pending.action)

end Reflection

def addPreference (lower : String → String) (preferences : List String) (preference : String) :
    List String :=
  if (preferences.map lower).contains (lower preference) then preferences
  else preferences ++ [preference]

def WorkingPatterns.update (patterns : WorkingPatterns) (activeSkill : Option String)
    (messageCount : Int) : WorkingPatterns :=
  { patterns with
    avgSessionLength :=
      if 0 < messageCount then
        if patterns.avgSessionLength = 0 then messageCount
        else (patterns.avgSessionLength + messageCount) / 2
      else patterns.avgSessionLength
    skillsMostUsed :=
      match present activeSkill with
      | none => patterns.skillsMostUsed
      | some skill =>
        if patterns.skillsMostUsed.contains skill then patterns.skillsMostUsed
        else
          let skills := patterns.skillsMostUsed ++ [skill]
          skills.drop (skills.length - 5) }

namespace UserStateDoc

variable (settings : UserStateSettings) (lower : String → String)

/-- The document with a reflection merged, before it is compacted. -/
def absorb (doc : UserStateDoc) (reflection : Reflection) (activeSkill : Option String)
    (messageCount : Int) (today : String) : UserStateDoc :=
  { doc with
    lastSession := some { date := today, summary := reflection.summary }
    currentFocus := reflection.accomplished.headD doc.currentFocus
    pendingActions :=
      (doc.pendingActions ++ reflection.actions today).filter
        fun pending => !reflection.accomplishes lower pending
    preferences :=
      ((reflection.preferences.take 3).foldl (addPreference lower) doc.preferences).take
        settings.maxPreferences
    workingPatterns := doc.workingPatterns.update activeSkill messageCount
    updatedAt := today }

def mergeReflection (doc : UserStateDoc) (reflection : Reflection) (activeSkill : Option String)
    (messageCount : Int) (today : String) : UserStateDoc :=
  compact settings (absorb settings lower doc reflection activeSkill messageCount today)

end UserStateDoc

/-- Messages that end a session. -/
def goodbyeSignals : List String :=
  ["bye", "goodbye", "thanks", "done", "that's all", "talk later", "see you", "gotta go",
    "later", "thank you", "thx", "cheers"]

/-- The message as it is looked up among the signals. -/
def normalized (message : String) : String :=
  let text := (Text.strip (Text.lower message)).toList
  String.ofList (text.reverse.dropWhile (fun char => ['!', '.', ','].contains char)).reverse

def shouldReflect (settings : UserStateSettings) (session : SessionState) (message : String) :
    Bool :=
  if session.messageCount < settings.reflectionMinMessages then false
  else if message ≠ "" ∧ goodbyeSignals.contains (normalized message) then true
  else decide (settings.reflectionMinMessages ≤ session.messageCount)

end Onpremai.Conversation
