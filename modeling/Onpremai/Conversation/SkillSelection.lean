import Onpremai.Conversation.SkillMatcher
import Onpremai.Library.Machine

/-!
# Which skill a message selects

Skills are loaded for a role when a session starts, but the matcher's table is filled once,
at the start of the process, with the skills of the administrators.
-/

namespace Onpremai.Conversation

open Onpremai.Library
open Onpremai.Assistant (UserContext)

def applicable (role : String) (skill : Skill) : Bool :=
  skill.roles.any (fun own => decide (own = role ∨ own = "shared")) || allowedFor role skill.id

def loadForRole (recalled : List TriggeredSkill) (role : String) : List TriggeredSkill :=
  match recalled.filter fun skill => applicable role skill.toSkill with
  | [] => defaultSkillTable.filter fun skill => allowedFor role skill.id
  | skill :: rest => skill :: rest

/-- A session: the skills that were loaded when it started and the role they were loaded
for, and the skill that is active. -/
structure SkillSession where
  role : String := ""
  loaded : List TriggeredSkill := []
  activeSkill : Option String := none

/-- The matcher of the process and the sessions. -/
structure SkillService (engine : PatternEngine) where
  matcher : SkillMatcher engine := {}
  sessions : Dict String SkillSession := Dict.empty

/-- What happens: the process starts, a session starts or is read back, or a message comes
whose skill context is resolved.  The recalled skills are the memory service's answer. -/
inductive SkillEvent where
  | start (toolsListed : Bool) (recalled : List TriggeredSkill)
  | init (sessionId role : String) (recalled : List TriggeredSkill)
  | readBack (sessionId : String) (activeSkill : Option String)
  | message (sessionId role text : String)

namespace SkillService

variable {engine : PatternEngine} (service : SkillService engine)

def session (sessionId : String) : SkillSession := (service.sessions.get? sessionId).getD {}

def selected (sessionId role text : String) : Option String :=
  present (service.matcher.matchSkill text role (service.session sessionId).activeSkill)

def setSession (sessionId : String) (session : SkillSession) : SkillService engine :=
  { service with sessions := service.sessions.set sessionId session }

def step : SkillEvent → SkillService engine
  | .start toolsListed recalled =>
    { service with
      matcher := if toolsListed then .loadSkills engine (loadForRole recalled "admin") else {} }
  | .init sessionId role recalled =>
    service.setSession sessionId
      { service.session sessionId with role, loaded := loadForRole recalled role }
  | .readBack sessionId activeSkill =>
    service.setSession sessionId { service.session sessionId with activeSkill }
  | .message sessionId role text =>
    service.setSession sessionId
      { service.session sessionId with
        activeSkill := (service.selected sessionId role text).or
          (service.session sessionId).activeSkill }

def Triggered (sessionId role text : String) : Prop := (service.session sessionId).role = role ∧
    ∃ skill ∈ (service.session sessionId).loaded, engine.Triggers text skill

def Suits (sessionId role text skillId : String) : Prop :=
  ∃ skill ∈ service.matcher.skills ++ (service.session sessionId).loaded,
    skill.id = skillId ∧ applicable role skill.toSkill = true ∧ engine.Triggers text skill

def SelectsWell : SkillEvent → Prop
  | .message sessionId role text =>
    service.Triggered sessionId role text → ∃ skillId ∈ service.selected sessionId role text,
        service.Suits sessionId role text skillId
  | _ => True

def Keeps (sessionId role text : String) : Prop := Text.strip text = "" ∨
    ∃ active ∈ present (service.session sessionId).activeSkill,
      service.matcher.KeepsActive text role active

def Provided : SkillEvent → Prop
  | .message sessionId role text =>
    service.Triggered sessionId role text → (service.Keeps sessionId role text → ∃ active ∈
        present (service.session sessionId).activeSkill, service.Suits sessionId role text active) ∧
      (¬ service.Keeps sessionId role text → service.matcher.Covers text role)
  | _ => True

variable {service}

def Compiled (service : SkillService engine) : Prop :=
  ∃ skills, service.matcher = .loadSkills engine skills

theorem compiled_step (compiled : service.Compiled) (event : SkillEvent) :
    (service.step event).Compiled := by
  cases event with
  | start toolsListed recalled =>
    cases toolsListed with
    | true => exact ⟨_, rfl⟩
    | false => exact ⟨[], rfl⟩
  | init sessionId role recalled => exact compiled
  | readBack sessionId activeSkill => exact compiled
  | message sessionId role text => exact compiled

theorem suits_of_score (compiled : service.Compiled) {sessionId role text skillId : String}
    (allowed : allowedFor role skillId = true)
    (scores : 0 < service.matcher.score text skillId) :
    service.Suits sessionId role text skillId := by
  obtain ⟨skills, isCompiled⟩ := compiled
  rw [isCompiled] at scores
  obtain ⟨skill, member, same, triggers⟩ := SkillMatcher.triggers_of_score scores
  refine ⟨skill, List.mem_append_left _ ?_, same, ?_, triggers⟩
  · rw [isCompiled]
    exact member
  · rw [applicable, Bool.or_eq_true, same]
    exact .inr allowed

theorem present_of_allowed {role skillId : String} (allowed : allowedFor role skillId = true) :
    present (some skillId) = some skillId := by
  rw [present, Option.filter_eq_some_iff]
  refine ⟨rfl, ?_⟩
  rw [decide_eq_true_iff]
  intro isEmpty
  rw [isEmpty, allowedFor, List.any_eq_true] at allowed
  obtain ⟨start, member, isPrefix⟩ := allowed
  have noText : start.toList = [] := List.prefix_nil.mp (List.isPrefixOf_iff_prefix.mp isPrefix)
  have named : ∀ other ∈ roleSkillPrefixes role, other.toList ≠ [] := by
    rw [roleSkillPrefixes]
    split_ifs <;> simp
  exact named start member noText

theorem selected_of_keeps {sessionId role text : String}
    (keeps : service.Keeps sessionId role text) :
    service.selected sessionId role text =
      present (service.session sessionId).activeSkill := by
  cases isActive : present (service.session sessionId).activeSkill with
  | none =>
    cases keeps with
    | inl blank => rw [selected, SkillMatcher.matchSkill, if_pos blank, isActive]
    | inr found =>
      obtain ⟨active, member, -⟩ := found
      rw [isActive] at member
      exact absurd member (Option.not_mem_none active)
  | some active =>
    have matched : service.matcher.matchSkill text role (service.session sessionId).activeSkill =
        some active := by
      apply SkillMatcher.matchSkill_of_keeps isActive
      cases keeps with
      | inl blank => exact .inl blank
      | inr found =>
        obtain ⟨other, member, keeps⟩ := found
        rw [isActive] at member
        rw [Option.some.inj member]
        exact keeps
    rw [selected, matched]
    exact Option.filter_eq_some_iff.mpr ⟨rfl, (Option.filter_eq_some_iff.mp isActive).2⟩

theorem selected_of_not_keeps (compiled : service.Compiled) {sessionId role text : String}
    (switches : ¬ service.Keeps sessionId role text) :
    (∃ skillId ∈ service.selected sessionId role text,
      service.Suits sessionId role text skillId) ↔ service.matcher.Covers text role := by
  have isText : Text.strip text ≠ "" := fun blank => switches (.inl blank)
  have passes : ∀ active, present (service.session sessionId).activeSkill = some active →
      ¬ service.matcher.KeepsActive text role active :=
    fun active isActive keeps => switches (.inr ⟨active, isActive, keeps⟩)
  cases SkillMatcher.matchSkill_of_not_keeps isText passes with
  | inl none =>
    apply iff_of_false
    · intro found
      obtain ⟨skillId, member, -⟩ := found
      rw [selected, none.1] at member
      exact absurd member (Option.not_mem_none skillId)
    · exact none.2
  | inr found =>
    obtain ⟨skill, member, allowed, scores, matched⟩ := found
    apply iff_of_true
    · refine ⟨skill.id, ?_, suits_of_score compiled allowed scores⟩
      rw [selected, matched]
      exact present_of_allowed allowed
    · exact ⟨skill, member, allowed, scores⟩

theorem selectsWell_iff_provided (compiled : service.Compiled) (event : SkillEvent) :
    service.SelectsWell event ↔ service.Provided event := by
  cases event with
  | start toolsListed recalled => exact Iff.rfl
  | init sessionId role recalled => exact Iff.rfl
  | readBack sessionId activeSkill => exact Iff.rfl
  | message sessionId role text =>
    apply imp_congr_right
    intro _
    by_cases keeps : service.Keeps sessionId role text
    · rw [and_iff_left fun switches => absurd keeps switches, imp_iff_right keeps,
        selected_of_keeps keeps]
    · rw [and_iff_right fun kept => absurd kept keeps, imp_iff_right keeps]
      exact selected_of_not_keeps compiled keeps

/-- In every run of the process, the messages that contain a trigger of a skill loaded for
their role select a skill that suits them exactly when each finds what it needs: a skill of the
table that was loaded at the start, or a kept active skill that suits it. -/
theorem selectsWell_always_iff (engine : PatternEngine) (events : List SkillEvent) :
    Allowed step SelectsWell ({} : SkillService engine) events ↔
      Allowed step Provided ({} : SkillService engine) events := by
  apply allowed_iff step Compiled
  · exact fun _ event compiled => compiled_step compiled event
  · exact fun _ event compiled => selectsWell_iff_provided compiled event
  · exact ⟨[], rfl⟩

end SkillService

/-- Number of occurrences of a text that do not overlap; the first characters are passed
over. -/
def occurrences (needle : List Char) : Nat → List Char → Nat
  | _, [] => 0
  | passed + 1, _ :: rest => occurrences needle passed rest
  | 0, char :: rest =>
    if needle.isPrefixOf (char :: rest) then occurrences needle (needle.length - 1) rest + 1
    else occurrences needle 0 rest

def literalEngine : PatternEngine where
  Pattern := List Char
  compile := fun trigger => some (Text.lower trigger).toList
  keyword := fun trigger => (Text.lower trigger).toList
  findall := fun pattern message => occurrences pattern 0 (Text.lower message).toList

def contributorStarts : SkillService literalEngine :=
  run SkillService.step {} [.start true [], .init "s1" "contributor" []]

/-- A message with a trigger of the contributor's skill selects no skill. -/
theorem loaded_skill_not_selected : contributorStarts.Triggered "s1" "contributor" "Show my tasks" ∧
      contributorStarts.selected "s1" "contributor" "Show my tasks" = none := by
  constructor
  · refine ⟨rfl, ?_⟩
    decide
  · decide

def Config.withMatcher (config : Config) {engine : PatternEngine}
    (matcher : SkillMatcher engine) : Config :=
  { config with
    skillPrefixes := roleSkillPrefixes
    defaultSkills := defaultSkillTable.map TriggeredSkill.toSkill
    matchSkill := matcher.matchSkill }

namespace Chat

open Handler

variable (config : Config) {engine : PatternEngine} (matcher : SkillMatcher engine)
  (world : World)

theorem loadForRole_returns (role tenantId : String) (recalled : List TriggeredSkill)
    (answers : world.skillRecall tenantId none = recalled.map TriggeredSkill.toSkill)
    (turn : Turn) : ∃ after, loadForRole (config.withMatcher matcher) world role tenantId turn =
      (.ok ((Conversation.loadForRole recalled role).map TriggeredSkill.toSkill), after) := by
  have filtered : (world.skillRecall tenantId none).filter
      (skillMatchesRole (config.withMatcher matcher) role) =
        (recalled.filter fun skill => applicable role skill.toSkill).map
          TriggeredSkill.toSkill := by
    rw [answers, List.filter_map]
    rfl
  have builtIn : (config.withMatcher matcher).defaultSkills.filter (fun skill =>
      ((config.withMatcher matcher).skillPrefixes role).any fun start =>
        start.toList.isPrefixOf skill.id.toList) =
      (defaultSkillTable.filter fun skill => allowedFor role skill.id).map
        TriggeredSkill.toSkill :=
    List.filter_map
  rw [loadForRole, Conversation.loadForRole, filtered]
  cases recalled.filter fun skill => applicable role skill.toSkill with
  | nil =>
    obtain ⟨_, after, ran, -⟩ := (consults_cacheSkills
      ((defaultSkillTable.filter fun skill => allowedFor role skill.id).map
        TriggeredSkill.toSkill)).ran turn
    refine ⟨after, ?_⟩
    dsimp only [List.map_nil]
    rw [builtIn]
    exact bind_of_ok ran _
  | cons skill rest =>
    obtain ⟨_, after, ran, -⟩ := (consults_cacheSkills
      ((skill :: rest).map TriggeredSkill.toSkill)).ran turn
    exact ⟨after, bind_of_ok ran _⟩

theorem activeSkill_resolveSkillContext (user : UserContext) (message : String) (turn : Turn) :
    (resolveSkillContext (config.withMatcher matcher) world user message turn).2.session.activeSkill
      = (present (matcher.matchSkill message user.role turn.session.activeSkill)).or
          turn.session.activeSkill := by
  obtain ⟨prompt, resumed, ran, left⟩ :=
    (@consults_resumedPlaybookPrompt (config.withMatcher matcher) world user.tenantId).ran turn
  have same : resumed.session = turn.session := congrArg Loaded.state left.loaded
  rw [resolveSkillContext, bind_of_ok ran, session_bind, same]
  have isMatcher : (config.withMatcher matcher).matchSkill = matcher.matchSkill := rfl
  rw [isMatcher]
  cases present (matcher.matchSkill message user.role turn.session.activeSkill) with
  | none =>
    rw [Option.none_or]
    have kept := (@consults_activeSkillPrompt (config.withMatcher matcher) world
      user.tenantId).keepsLoaded fun loaded =>
        loaded.state.activeSkill = turn.session.activeSkill
    exact keeps_bind kept (fun _ => keeps_pure _) resumed (congrArg SessionState.activeSkill same)
  | some skillId =>
    rw [Option.some_or]
    have kept : ∀ {α : Type} {handler : Chat α}, Consults handler →
        Keeps (fun turn : Turn => turn.loaded.state.activeSkill = some skillId) handler :=
      fun consults => consults.keepsLoaded fun loaded => loaded.state.activeSkill = some skillId
    have first : (fun turn : Turn => turn.loaded.state.activeSkill = some skillId)
        ((modifySession fun state => { state with activeSkill := some skillId }) resumed).2 := rfl
    refine keeps_bind_at first fun _ =>
      keeps_bind (kept (consults_getSkillPrompt skillId user.tenantId)) fun skillPrompt =>
        keeps_bind (kept (consults_getSkillPlaybook skillId user.tenantId)) fun playbookId => ?_
    split
    · next playbookId isNew idle =>
      refine keeps_bind (keeps_change fun _ same => same) fun _ => ?_
      exact keeps_bind (kept (consults_getStepPrompt _ _ _ _)) fun _ => keeps_pure _
    · exact keeps_pure _

end Chat

end Onpremai.Conversation
