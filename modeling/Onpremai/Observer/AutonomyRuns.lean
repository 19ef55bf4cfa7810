import Mathlib.Tactic.Linarith
import Onpremai.Library.Machine
import Onpremai.Observer.SelfRegulation

/-!
# The autonomy level over the weeks

The weekly evaluations move the autonomy level along a ladder of three rungs.  The rungs stay
within the floors and ceilings of the settings and each leaves less autonomy than the one above
it.
-/

namespace Onpremai.Observer

open Onpremai.Library

/-- The settings lie within the floors and ceilings of self-regulation. -/
structure ObserverSettings.Regulated (settings : ObserverSettings) : Prop where
  confidenceFloor : settings.selfRegMinConfidenceFloor ≤ settings.autoApplyMinConfidence
  confidenceCeiling : settings.autoApplyMinConfidence ≤ settings.selfRegMinConfidenceCeiling
  samplesFloor : settings.selfRegMinSamplesFloor ≤ settings.autoApplyMinSamples
  samplesCeiling : settings.autoApplyMinSamples ≤ settings.selfRegMinSamplesCeiling
  dailyFloor : 2 ≤ settings.maxAutoAppliesPerDay
  dailyCeiling : settings.maxAutoAppliesPerDay ≤ 20

namespace AutonomyLevel

/-- The level stays within the floors and ceilings. -/
structure Bounded (settings : ObserverSettings) (autonomy : AutonomyLevel) : Prop where
  confidenceFloor : settings.selfRegMinConfidenceFloor ≤ autonomy.minConfidence
  confidenceCeiling : autonomy.minConfidence ≤ settings.selfRegMinConfidenceCeiling
  samplesFloor : settings.selfRegMinSamplesFloor ≤ autonomy.minSamples
  samplesCeiling : autonomy.minSamples ≤ settings.selfRegMinSamplesCeiling
  dailyFloor : 2 ≤ autonomy.maxAutoAppliesPerDay
  dailyCeiling : autonomy.maxAutoAppliesPerDay ≤ 20

/-- The first level leaves the observer no more autonomy than the second. -/
structure NarrowerThan (first second : AutonomyLevel) : Prop where
  confidence : second.minConfidence ≤ first.minConfidence
  samples : second.minSamples ≤ first.minSamples
  daily : first.maxAutoAppliesPerDay ≤ second.maxAutoAppliesPerDay
  types : first.allowedAutoTypes ⊆ second.allowedAutoTypes

/-- The place of the level among the three. -/
def rank (autonomy : AutonomyLevel) : Nat :=
  if autonomy.level = "restricted" then 0
  else if autonomy.level = "expanded" then 2
  else 1

/-- A restricting step never widens the level, and an expanding one never narrows it. -/
structure Directed (before after : AutonomyLevel) : Prop where
  restricting : after.rank < before.rank → after.NarrowerThan before
  expanding : before.rank < after.rank → before.NarrowerThan after

theorem NarrowerThan.refl (autonomy : AutonomyLevel) : autonomy.NarrowerThan autonomy where
  confidence := le_refl _
  samples := le_refl _
  daily := le_refl _
  types := List.Subset.refl _

section

variable {before after : AutonomyLevel}

theorem directed_of_same_rank (same : after.rank = before.rank) : before.Directed after where
  restricting := fun lower => absurd lower (same ▸ Nat.lt_irrefl _)
  expanding := fun higher => absurd higher (same ▸ Nat.lt_irrefl _)

theorem directed_of_narrower (narrower : after.NarrowerThan before)
    (lower : after.rank ≤ before.rank) : before.Directed after where
  restricting := fun _ => narrower
  expanding := fun higher => absurd lower (Nat.not_le.mpr higher)

theorem directed_of_wider (wider : before.NarrowerThan after)
    (higher : before.rank ≤ after.rank) : before.Directed after where
  restricting := fun lower => absurd higher (Nat.not_le.mpr lower)
  expanding := fun _ => wider

end

end AutonomyLevel

/-! ## The ladder -/

section

variable (settings : ObserverSettings)

def restrictedLevel : AutonomyLevel := (restrictAutonomy settings (initialAutonomy settings)).1

def expandedLevel : AutonomyLevel := (expandAutonomy settings (initialAutonomy settings)).1

/-- The levels that a regulator gets to. -/
inductive OnLadder : AutonomyLevel → Prop
  | restricted : OnLadder (restrictedLevel settings)
  | standard : OnLadder (initialAutonomy settings)
  | expanded : OnLadder (expandedLevel settings)

theorem restrictAutonomy_restricted :
    restrictAutonomy settings (restrictedLevel settings) = (restrictedLevel settings, false) :=
  rfl

theorem restrictAutonomy_standard :
    restrictAutonomy settings (initialAutonomy settings) = (restrictedLevel settings, true) :=
  rfl

theorem restrictAutonomy_expanded :
    restrictAutonomy settings (expandedLevel settings) = (initialAutonomy settings, true) :=
  rfl

end

section

variable {settings : ObserverSettings} {autonomy : AutonomyLevel}

theorem OnLadder.restrict (rung : OnLadder settings autonomy) :
    OnLadder settings (restrictAutonomy settings autonomy).1 := by
  cases rung with
  | restricted => exact .restricted
  | standard => exact .restricted
  | expanded => exact .standard

theorem OnLadder.expand (rung : OnLadder settings autonomy) :
    OnLadder settings (expandAutonomy settings autonomy).1 := by
  cases rung with
  | restricted => exact .standard
  | standard => exact .expanded
  | expanded => exact .expanded

theorem OnLadder.rank_restrict (rung : OnLadder settings autonomy) :
    (restrictAutonomy settings autonomy).1.rank < autonomy.rank ↔
      autonomy.level ≠ "restricted" := by
  cases rung with
  | restricted =>
    rw [restrictAutonomy_restricted]
    exact iff_of_false (Nat.lt_irrefl _) (fun other => other rfl)
  | standard =>
    rw [restrictAutonomy_standard]
    exact iff_of_true Nat.zero_lt_one (of_decide_eq_true rfl)
  | expanded =>
    rw [restrictAutonomy_expanded]
    exact iff_of_true Nat.one_lt_two (of_decide_eq_true rfl)

theorem OnLadder.rank_restrict_le (rung : OnLadder settings autonomy) :
    (restrictAutonomy settings autonomy).1.rank ≤ autonomy.rank := by
  cases rung with
  | restricted => exact Nat.le_refl 0
  | standard => exact Nat.zero_le 1
  | expanded => exact Nat.le_succ 1

theorem OnLadder.rank_expand (rung : OnLadder settings autonomy) :
    autonomy.rank ≤ (expandAutonomy settings autonomy).1.rank := by
  cases rung with
  | restricted => exact Nat.zero_le 1
  | standard => exact Nat.le_succ 1
  | expanded => exact Nat.le_refl 2

section

variable (regulated : settings.Regulated)

include regulated

theorem bounded_of_onLadder (rung : OnLadder settings autonomy) :
    autonomy.Bounded settings := by
  obtain ⟨confidenceFloor, confidenceCeiling, samplesFloor, samplesCeiling, dailyFloor,
    dailyCeiling⟩ := regulated
  cases rung with
  | restricted =>
    have raised : settings.autoApplyMinConfidence ≤
        settings.autoApplyMinConfidence + 10 / 100 := by
      linarith
    constructor
    · exact le_min (confidenceFloor.trans confidenceCeiling) (confidenceFloor.trans raised)
    · exact min_le_left _ _
    · exact le_min (samplesFloor.trans samplesCeiling) (by dsimp only [initialAutonomy]; omega)
    · exact min_le_left _ _
    · exact le_max_left _ _
    · exact max_le (by decide) (by dsimp only [initialAutonomy]; omega)
  | standard =>
    exact ⟨confidenceFloor, confidenceCeiling, samplesFloor, samplesCeiling, dailyFloor,
      dailyCeiling⟩
  | expanded =>
    have lowered : settings.autoApplyMinConfidence - 5 / 100 ≤
        settings.autoApplyMinConfidence := by
      linarith
    constructor
    · exact le_max_left _ _
    · exact max_le (confidenceFloor.trans confidenceCeiling) (lowered.trans confidenceCeiling)
    · exact le_max_left _ _
    · exact max_le (samplesFloor.trans samplesCeiling) (by dsimp only [initialAutonomy]; omega)
    · exact le_min (by decide) (by dsimp only [initialAutonomy]; omega)
    · exact min_le_left _ _

theorem restrictedLevel_narrower :
    (restrictedLevel settings).NarrowerThan (initialAutonomy settings) where
  confidence := by
    apply le_min regulated.confidenceCeiling
    dsimp only [initialAutonomy]
    linarith
  samples := by
    apply le_min regulated.samplesCeiling
    dsimp only [initialAutonomy]
    omega
  daily := by
    apply max_le regulated.dailyFloor
    dsimp only [initialAutonomy]
    omega
  types := List.cons_subset.mpr
    ⟨List.mem_cons_of_mem _ (List.mem_cons_self), List.nil_subset _⟩

theorem narrower_expandedLevel :
    (initialAutonomy settings).NarrowerThan (expandedLevel settings) where
  confidence := by
    apply max_le regulated.confidenceFloor
    dsimp only [initialAutonomy]
    linarith
  samples := by
    apply max_le regulated.samplesFloor
    dsimp only [initialAutonomy]
    omega
  daily := by
    apply le_min regulated.dailyCeiling
    dsimp only [initialAutonomy]
    omega
  types := List.subset_append_left _ ["prompt"]

theorem OnLadder.restrict_narrower (rung : OnLadder settings autonomy) :
    (restrictAutonomy settings autonomy).1.NarrowerThan autonomy := by
  cases rung with
  | restricted => exact .refl _
  | standard => exact restrictedLevel_narrower regulated
  | expanded => exact narrower_expandedLevel regulated

theorem OnLadder.expand_wider (rung : OnLadder settings autonomy) :
    autonomy.NarrowerThan (expandAutonomy settings autonomy).1 := by
  cases rung with
  | restricted => exact restrictedLevel_narrower regulated
  | standard => exact narrower_expandedLevel regulated
  | expanded => exact .refl _

end

end

def Change.ofWeek (now : Time) (change : Change) : Bool := decide (now ≤ change.proposedAt + week)

def Change.inPlace (change : Change) : Bool :=
  decide (change.status ∈ [ChangeStatus.applied, .validated, .canaryPassed])

def Change.fellThrough (change : Change) : Bool :=
  decide (change.status ∈ [ChangeStatus.rolledBack, .canaryFailed])

def Change.isValidated (change : Change) : Bool := decide (change.status = .validated)

namespace RegulatorState

variable (regulator : RegulatorState) (now : Time)

def recentChanges : List Change := regulator.changeHistory.filter (Change.ofWeek now)

/-- The number of changes of the week with a result. -/
def resolvedCount : Nat := (regulator.recentChanges now).countP Change.inPlace +
    (regulator.recentChanges now).countP Change.fellThrough

def validatedCount : Nat := (regulator.recentChanges now).countP Change.isValidated

end RegulatorState

theorem share_above {part whole : Nat} (some : 0 < whole) :
    (9 / 10 : Rat) < (part : Rat) / whole ↔ 9 * whole < 10 * part := by
  rw [div_lt_div_iff₀ (by norm_num) (by exact_mod_cast some)]
  norm_cast
  omega

theorem share_below {part whole : Nat} (some : 0 < whole) :
    (part : Rat) / whole < (7 / 10 : Rat) ↔ 10 * part < 7 * whole := by
  rw [div_lt_div_iff₀ (by exact_mod_cast some) (by norm_num)]
  norm_cast
  omega

theorem evaluate_autonomy (settings : ObserverSettings) (regulator : RegulatorState)
    (now : Time) :
    (evaluate settings regulator now).autonomy =
      if 5 ≤ regulator.resolvedCount now then
        if 9 * regulator.resolvedCount now < 10 * regulator.validatedCount now then
          (expandAutonomy settings regulator.autonomy).1
        else if 10 * regulator.validatedCount now < 7 * regulator.resolvedCount now then
          (restrictAutonomy settings regulator.autonomy).1
        else regulator.autonomy
      else regulator.autonomy := by
  have adjusted : (evaluate settings regulator now).autonomy =
      (if 5 ≤ regulator.resolvedCount now then
        if (9 / 10 : Rat) < (if 0 < regulator.resolvedCount now then
            (regulator.validatedCount now : Rat) / (regulator.resolvedCount now : Nat) else 1) then
          expandAutonomy settings regulator.autonomy
        else if (if 0 < regulator.resolvedCount now then
            (regulator.validatedCount now : Rat) / (regulator.resolvedCount now : Nat)
              else 1) < 7 / 10 then
          restrictAutonomy settings regulator.autonomy
        else (regulator.autonomy, false)
      else (regulator.autonomy, false)).1 := rfl
  rw [adjusted]
  by_cases enough : 5 ≤ regulator.resolvedCount now
  · have positive : 0 < regulator.resolvedCount now := Nat.lt_of_lt_of_le (by decide) enough
    simp only [if_pos enough, if_pos positive, share_above positive, share_below positive]
    split
    · rfl
    · split <;> rfl
  · rw [if_neg enough, if_neg enough]

/-! ## Runs -/

/-- The regulator, with all changes that were ever recorded. -/
structure Regulation where
  regulator : RegulatorState
  recorded : List Change := []

/-- A change is recorded, another component sets the status of one, or the week is
evaluated. -/
inductive RegulationMove where
  | recordChange (change : Change)
  | setStatus (changeId : String) (status : ChangeStatus)
  | evaluate (now : Time)

def Change.setStatus (changeId : String) (status : ChangeStatus) (change : Change) : Change :=
  if change.id = changeId then { change with status } else change

namespace Regulation

section

variable (settings : ObserverSettings) (regulation : Regulation)

def step : RegulationMove → Regulation
  | .recordChange change =>
    { regulator := Observer.recordChange settings regulation.regulator change
      recorded := regulation.recorded ++ [change] }
  | .setStatus changeId status =>
    { regulator :=
        { regulation.regulator with
          changeHistory :=
            regulation.regulator.changeHistory.map (Change.setStatus changeId status) }
      recorded := regulation.recorded.map (Change.setStatus changeId status) }
  | .evaluate now =>
    { regulation with regulator := Observer.evaluate settings regulation.regulator now }

/-- The regulation after a fresh start. -/
def initial : Regulation where
  regulator := { autonomy := initialAutonomy settings }

abbrev autonomy : AutonomyLevel := regulation.regulator.autonomy

/-- No change of the week before the evaluation was rolled back or failed its canary. -/
def Unfailed (now : Time) : Prop :=
  ∀ change ∈ regulation.recorded, change.ofWeek now = true → change.fellThrough = false

/-- The move keeps the level within the bounds, moves it in the right direction, and does
not restrict it after a week in which nothing failed. -/
structure RegulatesWell (move : RegulationMove) : Prop where
  bounded : (regulation.step settings move).autonomy.Bounded settings
  directed : regulation.autonomy.Directed (regulation.step settings move).autonomy
  fair : ∀ now, move = .evaluate now → regulation.Unfailed now →
    regulation.autonomy.rank ≤ (regulation.step settings move).autonomy.rank

/-- If the move evaluates a week in which nothing failed, then fewer than five of the changes
that are kept of it are in place, or seven tenths of them are validated, or the level is
the lowest one. -/
def HasNoGrounds (move : RegulationMove) : Prop :=
  ∀ now, move = .evaluate now → regulation.Unfailed now →
    let inPlace := (regulation.regulator.recentChanges now).countP Change.inPlace
    inPlace < 5 ∨ 7 * inPlace ≤ 10 * regulation.regulator.validatedCount now ∨
      regulation.autonomy.level = "restricted"

/-- The level is on the ladder, and the history is the end of what was recorded. -/
structure Regular : Prop where
  rung : OnLadder settings regulation.autonomy
  kept : regulation.regulator.changeHistory <:+ regulation.recorded

end

section

variable {settings : ObserverSettings} {regulation : Regulation}

theorem regular_initial : (initial settings).Regular settings where
  rung := .standard
  kept := List.suffix_refl []

theorem lastItems_suffix {α : Type} (count : Int) (items : List α) :
    lastItems count items <:+ items := by
  rw [lastItems]
  split
  · exact List.drop_suffix _ items
  · exact List.drop_suffix _ items

theorem recordChange_suffix (regular : regulation.Regular settings) (change : Change) :
    (Observer.recordChange settings regulation.regulator change).changeHistory <:+
      regulation.recorded ++ [change] := by
  have appended : regulation.regulator.changeHistory ++ [change] <:+
      regulation.recorded ++ [change] := by
    obtain ⟨dropped, split⟩ := regular.kept
    exact ⟨dropped, by rw [← List.append_assoc, split]⟩
  rw [Observer.recordChange]
  dsimp only
  split
  · exact (lastItems_suffix _ _).trans appended
  · exact appended

theorem onLadder_evaluate (rung : OnLadder settings regulation.autonomy) (now : Time) :
    OnLadder settings (evaluate settings regulation.regulator now).autonomy := by
  rw [evaluate_autonomy]
  split
  · split
    · exact rung.expand
    · split
      · exact rung.restrict
      · exact rung
  · exact rung

theorem Regular.step (regular : regulation.Regular settings) (move : RegulationMove) :
    (regulation.step settings move).Regular settings := by
  cases move with
  | recordChange change => exact ⟨regular.rung, recordChange_suffix regular change⟩
  | setStatus changeId status => exact ⟨regular.rung, regular.kept.map _⟩
  | evaluate now => exact ⟨onLadder_evaluate regular.rung now, regular.kept⟩

theorem resolvedCount_of_unfailed (regular : regulation.Regular settings) {now : Time}
    (unfailed : regulation.Unfailed now) :
    regulation.regulator.resolvedCount now =
      (regulation.regulator.recentChanges now).countP Change.inPlace := by
  have none : (regulation.regulator.recentChanges now).countP Change.fellThrough = 0 := by
    rw [List.countP_eq_zero]
    intro change recent
    obtain ⟨kept, ofWeek⟩ := List.mem_filter.mp recent
    rw [unfailed change (regular.kept.subset kept) ofWeek]
    exact Bool.false_ne_true
  rw [RegulatorState.resolvedCount, none, Nat.add_zero]

theorem directed_evaluate (regulated : settings.Regulated)
    (regular : regulation.Regular settings) (now : Time) :
    regulation.autonomy.Directed (evaluate settings regulation.regulator now).autonomy := by
  have rung := regular.rung
  rw [evaluate_autonomy]
  split
  · split
    · exact AutonomyLevel.directed_of_wider (rung.expand_wider regulated) rung.rank_expand
    · split
      · exact AutonomyLevel.directed_of_narrower (rung.restrict_narrower regulated)
          rung.rank_restrict_le
      · exact AutonomyLevel.directed_of_same_rank rfl
  · exact AutonomyLevel.directed_of_same_rank rfl

theorem rank_evaluate_iff (rung : OnLadder settings regulation.autonomy) (now : Time) :
    regulation.autonomy.rank ≤ (evaluate settings regulation.regulator now).autonomy.rank ↔
      regulation.regulator.resolvedCount now < 5 ∨ 7 * regulation.regulator.resolvedCount now ≤
            10 * regulation.regulator.validatedCount now ∨
          regulation.autonomy.level = "restricted" := by
  rw [evaluate_autonomy]
  by_cases enough : 5 ≤ regulation.regulator.resolvedCount now
  · rw [if_pos enough]
    by_cases well : 9 * regulation.regulator.resolvedCount now <
        10 * regulation.regulator.validatedCount now
    · rw [if_pos well]
      exact iff_of_true rung.rank_expand (.inr (.inl (by omega)))
    · rw [if_neg well]
      by_cases poor : 10 * regulation.regulator.validatedCount now <
          7 * regulation.regulator.resolvedCount now
      · rw [if_pos poor, ← Nat.not_lt, rung.rank_restrict, Decidable.not_not]
        constructor
        · exact fun lowest => .inr (.inr lowest)
        · rintro (few | share | lowest)
          · exact absurd enough (Nat.not_le.mpr few)
          · exact absurd poor (Nat.not_lt.mpr share)
          · exact lowest
      · rw [if_neg poor]
        exact iff_of_true (Nat.le_refl _) (.inr (.inl (Nat.not_lt.mp poor)))
  · rw [if_neg enough]
    exact iff_of_true (Nat.le_refl _) (.inl (Nat.not_le.mp enough))

theorem regulatesWell_iff (regulated : settings.Regulated)
    (regular : regulation.Regular settings) (move : RegulationMove) :
    regulation.RegulatesWell settings move ↔ regulation.HasNoGrounds move := by
  have fair_iff : ∀ now, regulation.Unfailed now → (regulation.autonomy.rank ≤
          (evaluate settings regulation.regulator now).autonomy.rank ↔
        (regulation.regulator.recentChanges now).countP Change.inPlace < 5 ∨
          7 * (regulation.regulator.recentChanges now).countP Change.inPlace ≤
              10 * regulation.regulator.validatedCount now ∨
            regulation.autonomy.level = "restricted") := by
    intro now unfailed
    rw [rank_evaluate_iff regular.rung, resolvedCount_of_unfailed regular unfailed]
  constructor
  · intro well now evaluated unfailed
    have fair := well.fair now evaluated unfailed
    rw [evaluated] at fair
    exact (fair_iff now unfailed).mp fair
  · intro grounds
    constructor
    · exact bounded_of_onLadder regulated (regular.step move).rung
    · cases move with
      | recordChange change => exact AutonomyLevel.directed_of_same_rank rfl
      | setStatus changeId status => exact AutonomyLevel.directed_of_same_rank rfl
      | evaluate now => exact directed_evaluate regulated regular now
    · intro now evaluated unfailed
      rw [evaluated]
      exact (fair_iff now unfailed).mpr (grounds now evaluated unfailed)

end

/-- Every move of a run from a fresh start regulates well exactly when no week without a
failed change leaves grounds to restrict the level: fewer than five of its changes are in
place, seven tenths of them are validated, or the level is the lowest one. -/
theorem regulates_well_iff (settings : ObserverSettings) (regulated : settings.Regulated)
    (moves : List RegulationMove) :
    ((initial settings).autonomy.Bounded settings ∧
      ∀ earlier move later, moves = earlier ++ move :: later →
        (run (step settings) (initial settings) earlier).RegulatesWell settings move) ↔
      ∀ earlier move later, moves = earlier ++ move :: later →
        (run (step settings) (initial settings) earlier).HasNoGrounds move := by
  have bounded : (initial settings).autonomy.Bounded settings :=
    bounded_of_onLadder regulated .standard
  rw [and_iff_right bounded]
  have regular : ∀ earlier, (run (step settings) (initial settings) earlier).Regular settings :=
    run_always (step settings) (fun regulation => regulation.Regular settings)
      (fun _ move kept => kept.step move) regular_initial
  constructor
  · intro well earlier move later split
    exact (regulatesWell_iff regulated (regular earlier) move).mp
      (well earlier move later split)
  · intro grounds earlier move later split
    exact (regulatesWell_iff regulated (regular earlier) move).mpr
      (grounds earlier move later split)

def appliedChange : Change where
  id := "chg_1"
  changeType := .routing
  applyTier := .auto
  status := .applied
  proposedAt := 0

def quietWeek : List RegulationMove := List.replicate 4 (.recordChange appliedChange) ++
    [.recordChange { appliedChange with id := "chg_2" }, .setStatus "chg_2" .validated, .evaluate 0]

theorem regulated_default : ({} : ObserverSettings).Regulated :=
  ⟨by decide +kernel, by decide +kernel, by decide, by decide, by decide, by decide⟩

theorem regulates_well_iff_quietWeek : ((initial {}).autonomy.Bounded {} ∧
      ∀ earlier move later, quietWeek = earlier ++ move :: later →
        (run (step {}) (initial {}) earlier).RegulatesWell {} move) ↔
      ∀ earlier move later, quietWeek = earlier ++ move :: later →
        (run (step {}) (initial {}) earlier).HasNoGrounds move :=
  regulates_well_iff {} regulated_default quietWeek

/-- Within the default settings, five changes that are all in place, none of them rolled
back, lead from the standard level down to the restricted one. -/
theorem quiet_week_restricts : ({} : ObserverSettings).Regulated ∧
      ¬ ∀ earlier move later, quietWeek = earlier ++ move :: later →
        (run (step {}) (initial {}) earlier).RegulatesWell {} move := by
  constructor
  · exact regulated_default
  · intro every
    have well := every quietWeek.dropLast (.evaluate 0) [] rfl
    have unfailed : (run (step {}) (initial {}) quietWeek.dropLast).Unfailed 0 := by
      intro change recorded _
      exact (by decide : ∀ change ∈ (run (step {}) (initial {})
        quietWeek.dropLast).recorded, change.fellThrough = false) change recorded
    have higher := well.fair 0 rfl unfailed
    exact absurd higher (by decide +kernel)

end Regulation

end Onpremai.Observer
