import Onpremai.Conversation.AgentLoop

/-!
# Skill matcher

A message is matched against the triggers of the skills in the matcher's table.  The first
skill with the highest score is taken, unless the active one still scores half as high.
-/

namespace Onpremai.Conversation

open Onpremai.Library

/-- The regular expressions of the triggers, which ignore case: how a text is compiled, if
it is one, how a keyword is, and how many matches a message has. -/
structure PatternEngine where
  Pattern : Type
  compile : String → Option Pattern
  keyword : String → Pattern
  findall : Pattern → String → Nat

/-- A skill with its triggers. -/
structure TriggeredSkill extends Skill where
  triggers : List String := []

def roleSkillPrefixes (role : String) : List String :=
  if role = "admin" then ["admin/", "shared/"]
  else if role = "compliance_manager" then ["cm/", "shared/"]
  else if role = "contributor" then ["contributor/", "shared/"]
  else if role = "auditor" then ["auditor/", "shared/"]
  else if role = "viewer" then ["viewer/", "shared/"]
  else ["shared/"]

def allowedFor (role skillId : String) : Bool :=
  (roleSkillPrefixes role).any fun start => start.toList.isPrefixOf skillId.toList

/-- Built-in default skills (used when memory service is unavailable). -/
def defaultSkillTable : List TriggeredSkill := [
  { id := "admin/dashboard", roles := ["admin"]
    triggers := ["dashboard", "overview", "status", "readiness"]
    systemPrompt := some <|
      "Show the executive a high-level compliance dashboard.\n" ++
      "Include: overall readiness %, top risks, team bottlenecks, days to audit.\n" ++
      "Keep it concise and actionable." },
  { id := "admin/escalation_review", roles := ["admin"]
    triggers := ["escalat", "overdue", "blocked", "stuck"]
    systemPrompt := some <|
      "Review escalated items and overdue controls.\n" ++
      "Show who is blocking, how long overdue, and impact on readiness.\n" ++
      "Offer to send reminders or reassign." },
  { id := "cm/program_status", roles := ["compliance_manager"]
    triggers := ["status", "progress", "where are we", "how are we doing"]
    systemPrompt := some <|
      "Show program status: controls by status, recent completions, upcoming deadlines, " ++
      "and blockers.\n" ++
      "Prioritize: overdue > due this week > upcoming." },
  { id := "cm/gap_analysis", roles := ["compliance_manager"]
    triggers := ["gap", "missing", "what's needed", "coverage"]
    systemPrompt := some <|
      "Analyze gaps in evidence coverage and control compliance.\n" ++
      "Show which controls lack evidence, which evaluations are stale, and prioritize by " ++
      "audit impact." },
  { id := "cm/escalation", roles := ["compliance_manager"]
    triggers := ["escalat", "remind", "overdue", "follow up"]
    systemPrompt := some <|
      "Handle overdue evidence and escalation.\n" ++
      "Show days overdue, assignee, and control impact.\n" ++
      "Recommend action based on severity."
    playbookId := some "playbook/escalation_handling" },
  { id := "contributor/my_tasks", roles := ["contributor"]
    triggers := ["my tasks", "what do i need", "to do", "assigned", "my controls"]
    systemPrompt := some <|
      "Show this user their assigned controls and tasks.\n" ++
      "Prioritize by urgency. Show one task at a time.\n" ++
      "For each: what's needed, deadline, example of good evidence." },
  { id := "contributor/upload_guidance", roles := ["contributor"]
    triggers := ["upload", "evidence", "how do i", "what do you need", "file"]
    systemPrompt := some <|
      "The user needs to upload evidence for a control.\n" ++
      "1. Check which control they're asking about (or show their assigned list)\n" ++
      "2. Tell them exactly what evidence is needed (from control definition)\n" ++
      "3. Show an example of good evidence for this control type\n" ++
      "4. Provide the upload steps\n" ++
      "5. After upload: offer to run evaluation"
    playbookId := some "playbook/evidence_collection" },
  { id := "auditor/testing_workflow", roles := ["auditor"]
    triggers := ["test", "audit", "check", "verify", "examine"]
    systemPrompt := some <|
      "Guide the auditor through testing a control.\n" ++
      "Show evidence, prior AI assessment, and let them record results.\n" ++
      "Be objective - present facts, don't advocate."
    playbookId := some "playbook/audit_testing" },
  { id := "auditor/finding_entry", roles := ["auditor"]
    triggers := ["finding", "fail", "issue", "deficiency", "observation"]
    systemPrompt := some <|
      "Help the auditor document a finding.\n" ++
      "Collect: control, severity, description, evidence, remediation.\n" ++
      "Be thorough but efficient." },
  { id := "viewer/status_report", roles := ["viewer"]
    triggers := ["status", "readiness", "how", "report", "progress"]
    systemPrompt := some <|
      "Provide read-only status information.\n" ++
      "Show readiness %, timeline, control status.\n" ++
      "Do NOT offer to take actions." },
  { id := "shared/evidence_summarization", roles := ["shared"]
    triggers := ["summarize", "what does this show", "explain this evidence", "evidence summary"]
    systemPrompt := some <|
      "Summarize evidence documents for the user. Focus on:\n" ++
      "1. What the document proves (which control requirements it addresses)\n" ++
      "2. Key data points (dates, counts, coverage)\n" ++
      "3. Gaps or weaknesses the auditor would notice\n" ++
      "4. Freshness (is this evidence current enough?)" }]

namespace PatternEngine

variable (engine : PatternEngine)

/-- A trigger as a regular expression, or as a keyword between word boundaries. -/
def compileTrigger (trigger : String) : engine.Pattern :=
  (engine.compile trigger).getD (engine.keyword trigger)

def scoreMatch (message : String) (patterns : List engine.Pattern) : Nat :=
  (patterns.map fun pattern => engine.findall pattern message).sum

def Triggers (message : String) (skill : TriggeredSkill) : Prop :=
  ∃ trigger ∈ skill.triggers, 0 < engine.findall (engine.compileTrigger trigger) message

instance (message : String) (skill : TriggeredSkill) : Decidable (engine.Triggers message skill) :=
  inferInstanceAs (Decidable (∃ trigger ∈ skill.triggers, _))

theorem scoreMatch_pos {message : String} {patterns : List engine.Pattern} :
    0 < engine.scoreMatch message patterns ↔
      ∃ pattern ∈ patterns, 0 < engine.findall pattern message := by
  rw [scoreMatch, List.sum_pos_iff_exists_pos_nat]
  simp

theorem scoreMatch_triggers {message : String} {skill : TriggeredSkill} :
    0 < engine.scoreMatch message (skill.triggers.map engine.compileTrigger) ↔
      engine.Triggers message skill := by
  rw [scoreMatch_pos, Triggers]
  simp

end PatternEngine

/-- Matches user messages to skills using trigger patterns. -/
structure SkillMatcher (engine : PatternEngine) where
  skills : List TriggeredSkill := []
  compiledPatterns : Dict String (List engine.Pattern) := Dict.empty

namespace SkillMatcher

variable {engine : PatternEngine}

def loadSkills (engine : PatternEngine) (skills : List TriggeredSkill) : SkillMatcher engine where
  skills := skills
  compiledPatterns := Dict.ofList
    (skills.map fun skill => (skill.id, skill.triggers.map engine.compileTrigger))

variable (matcher : SkillMatcher engine) (message role : String)

def score (skillId : String) : Nat :=
  engine.scoreMatch message ((matcher.compiledPatterns.get? skillId).getD [])

def better (best : Option String × Nat) (skill : TriggeredSkill) : Option String × Nat :=
  if allowedFor role skill.id then
    if best.2 < matcher.score message skill.id then (some skill.id, matcher.score message skill.id)
    else best
  else best

/-- The first skill with the highest score among those that the role's prefixes allow. -/
def best : Option String × Nat := matcher.skills.foldl (matcher.better message role) (none, 0)

def matchSkill (activeSkill : Option String) : Option String :=
  if Text.strip message = "" then activeSkill
  else
    let best := matcher.best message role
    let matched := if 0 < best.2 then best.1 else none
    match present activeSkill with
    | some active =>
      if best.1 ≠ some active ∧ 0 < matcher.score message active ∧
          best.2 < matcher.score message active * 2 then some active
      else matched
    | none => matched

def Covers : Prop :=
  ∃ skill ∈ matcher.skills, allowedFor role skill.id = true ∧ 0 < matcher.score message skill.id

def KeepsActive (active : String) : Prop :=
  Text.strip message = "" ∨ (0 < matcher.score message active ∧
    ∀ skill ∈ matcher.skills, allowedFor role skill.id = true →
      matcher.score message skill.id < matcher.score message active * 2)

variable {matcher message role}

theorem best_spec (skills : List TriggeredSkill) (start : Option String × Nat) :
    (start.2 ≤ (skills.foldl (matcher.better message role) start).2 ∧
      ∀ skill ∈ skills, allowedFor role skill.id = true →
        matcher.score message skill.id ≤ (skills.foldl (matcher.better message role) start).2) ∧
      (skills.foldl (matcher.better message role) start = start ∨
        ∃ skill ∈ skills, allowedFor role skill.id = true ∧ 0 < matcher.score message skill.id ∧
          skills.foldl (matcher.better message role) start =
            (some skill.id, matcher.score message skill.id)) := by
  induction skills generalizing start with
  | nil => exact ⟨⟨le_rfl, fun _ none => absurd none List.not_mem_nil⟩, .inl rfl⟩
  | cons skill rest ih =>
    rw [List.foldl_cons]
    obtain ⟨⟨above, all⟩, origin⟩ := ih (matcher.better message role start skill)
    have raises : start.2 ≤ (matcher.better message role start skill).2 ∧
        (allowedFor role skill.id = true →
          matcher.score message skill.id ≤ (matcher.better message role start skill).2) := by
      rw [better]
      split
      · split
        · next higher => exact ⟨higher.le, fun _ => le_rfl⟩
        · next lower => exact ⟨le_rfl, fun _ => not_lt.mp lower⟩
      · next barred => exact ⟨le_rfl, fun allowed => absurd allowed barred⟩
    refine ⟨⟨raises.1.trans above, ?_⟩, ?_⟩
    · intro other member allowed
      cases List.mem_cons.mp member with
      | inl same =>
        rw [same] at allowed ⊢
        exact (raises.2 allowed).trans above
      | inr later => exact all other later allowed
    · cases origin with
      | inr found =>
        obtain ⟨other, member, rest⟩ := found
        exact .inr ⟨other, List.mem_cons_of_mem _ member, rest⟩
      | inl same =>
        rw [same, better]
        split
        · next allowed =>
          split
          · next higher =>
            exact .inr ⟨skill, List.mem_cons_self, allowed, by omega, rfl⟩
          · exact .inl rfl
        · exact .inl rfl

theorem score_le_best {skill : TriggeredSkill} (member : skill ∈ matcher.skills)
    (allowed : allowedFor role skill.id = true) :
    matcher.score message skill.id ≤ (matcher.best message role).2 :=
  (best_spec matcher.skills (none, 0)).1.2 skill member allowed

variable (matcher message role) in
theorem best_cases : matcher.best message role = (none, 0) ∨
    ∃ skill ∈ matcher.skills, allowedFor role skill.id = true ∧ 0 < matcher.score message skill.id ∧
        matcher.best message role = (some skill.id, matcher.score message skill.id) :=
  (best_spec matcher.skills (none, 0)).2

theorem best_pos_iff : 0 < (matcher.best message role).2 ↔ matcher.Covers message role := by
  constructor
  · intro scores
    cases best_cases matcher message role with
    | inl none =>
      rw [none] at scores
      exact absurd scores (lt_irrefl 0)
    | inr found =>
      obtain ⟨skill, member, allowed, positive, -⟩ := found
      exact ⟨skill, member, allowed, positive⟩
  · intro covers
    obtain ⟨skill, member, allowed, positive⟩ := covers
    exact positive.trans_le (score_le_best member allowed)

theorem matchSkill_of_keeps {activeSkill : Option String} {active : String}
    (isActive : present activeSkill = some active)
    (keeps : matcher.KeepsActive message role active) :
    matcher.matchSkill message role activeSkill = some active := by
  have held : activeSkill = some active := (Option.filter_eq_some_iff.mp isActive).1
  rw [matchSkill]
  split
  · exact held
  · next text =>
    have scores := keeps.resolve_left text
    simp only [isActive]
    split
    · rfl
    · next switches =>
      -- the best skill has less than twice the score, so it is the active one
      have isBest : (matcher.best message role).1 = some active := by
        by_contra differs
        apply switches
        refine ⟨differs, scores.1, ?_⟩
        cases best_cases matcher message role with
        | inl none =>
          rw [none]
          show 0 < matcher.score message active * 2
          have positive := scores.1
          omega
        | inr found =>
          obtain ⟨skill, member, allowed, -, isBest⟩ := found
          rw [isBest]
          exact scores.2 skill member allowed
      rw [if_pos]
      · exact isBest
      · cases best_cases matcher message role with
        | inl none =>
          rw [none] at isBest
          cases isBest
        | inr found =>
          obtain ⟨skill, -, -, positive, same⟩ := found
          rw [same]
          exact positive

theorem matchSkill_of_not_keeps {activeSkill : Option String}
    (text : Text.strip message ≠ "")
    (switches : ∀ active, present activeSkill = some active →
      ¬ matcher.KeepsActive message role active) :
    (matcher.matchSkill message role activeSkill = none ∧ ¬ matcher.Covers message role) ∨
      ∃ skill ∈ matcher.skills, allowedFor role skill.id = true ∧
        0 < matcher.score message skill.id ∧
          matcher.matchSkill message role activeSkill = some skill.id := by
  have isBest : matcher.matchSkill message role activeSkill =
      if 0 < (matcher.best message role).2 then (matcher.best message role).1 else none := by
    rw [matchSkill, if_neg text]
    cases isActive : present activeSkill with
    | none => rfl
    | some active =>
      dsimp only
      rw [if_neg]
      intro keeps
      apply switches active isActive
      exact .inr ⟨keeps.2.1, fun skill member allowed =>
        (score_le_best member allowed).trans_lt keeps.2.2⟩
  cases best_cases matcher message role with
  | inl none =>
    left
    rw [isBest, none, if_neg (lt_irrefl 0), ← best_pos_iff, none]
    exact ⟨rfl, lt_irrefl 0⟩
  | inr found =>
    obtain ⟨skill, member, allowed, positive, same⟩ := found
    right
    refine ⟨skill, member, allowed, positive, ?_⟩
    rw [isBest, same, if_pos positive]

theorem triggers_of_score {skills : List TriggeredSkill} {message skillId : String}
    (scores : 0 < (loadSkills engine skills).score message skillId) :
    ∃ skill ∈ skills, skill.id = skillId ∧ engine.Triggers message skill := by
  rw [score] at scores
  cases compiled : (loadSkills engine skills).compiledPatterns.get? skillId with
  | none =>
    rw [compiled, Option.getD_none, engine.scoreMatch_pos] at scores
    obtain ⟨pattern, member, -⟩ := scores
    exact absurd member List.not_mem_nil
  | some patterns =>
    have entry := Dict.mem_of_get?_ofList compiled
    obtain ⟨skill, member, same⟩ := List.mem_map.mp entry
    rw [Prod.mk.injEq] at same
    refine ⟨skill, member, same.1, ?_⟩
    rw [compiled, Option.getD_some, ← same.2] at scores
    exact engine.scoreMatch_triggers.mp scores

end SkillMatcher

end Onpremai.Conversation
