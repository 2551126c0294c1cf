import Typeset.Command.Run
import Typeset.Proofs.Build.Severity

namespace Typeset

namespace BuildRequest

variable {request : BuildRequest} {context : CommandContext} {file : Path} {settings : Settings}
  {plan : Plan}

def prepare (request : BuildRequest) (context : CommandContext) (file : Path) :
    Except Failure (Settings × Plan) := do
  let path := absoluteFile context file
  let settings ← Settings.resolve context.workspace context.environment path
  let plan ← Plan.make context.workspace (request.override settings) path
  return (request.override settings, plan)

def delivery (context : CommandContext) (plan : Plan) : Delivery :=
  plan.invocation.deliver context.programs context.workspace

theorem run_cases (request : BuildRequest) (context : CommandContext) (file : Path) :
    (∃ failure noted, request.prepare context file = .error failure ∧
        request.run context file = .failed failure [] noted) ∨
      ∃ settings plan noted, request.prepare context file = .ok (settings, plan) ∧
        request.run context file = carryOut context settings plan noted := by
  unfold run prepare
  simp only [bind, Except.bind]
  cases Settings.resolve context.workspace context.environment (absoluteFile context file) with
  | error failure => exact .inl ⟨failure, _, rfl, rfl⟩
  | ok settings =>
      simp only
      cases Plan.make context.workspace (request.override settings) (absoluteFile context file) with
      | error failure => exact .inl ⟨failure, _, rfl, rfl⟩
      | ok plan => exact .inr ⟨_, plan, _, rfl, rfl⟩

theorem status_unprepared {failure : Failure}
    (fails : request.prepare context file = .error failure) :
    (request.run context file).status = 1 := by
  rcases request.run_cases context file with
    ⟨_, noted, -, ran⟩ | ⟨settings, plan, noted, prepared, -⟩
  · rw [ran]
    rfl
  · rw [fails] at prepared
    cases prepared

theorem status_prepared (prepared : request.prepare context file = .ok (settings, plan)) :
    (request.run context file).status =
      match (plan.carryOut settings context.workspace (delivery context plan)).outcome with
      | .error _ => 1
      | .ok outcome => statusOf outcome settings.warnLevel := by
  rcases request.run_cases context file with ⟨failure, noted, fails, -⟩ | ⟨_, _, noted, same, ran⟩
  · rw [prepared] at fails
    cases fails
  · rw [prepared, Except.ok.injEq, Prod.mk.injEq] at same
    obtain ⟨rfl, rfl⟩ := same
    rw [ran, carryOut, delivery]
    cases (plan.carryOut settings context.workspace
      (plan.invocation.deliver context.programs context.workspace)).outcome <;> rfl

theorem statusOf_eq (outcome : Outcome) (warnLevel : UInt8) :
    statusOf outcome warnLevel =
      if outcome.success then
        if outcome.summary.highest.level ≤ warnLevel.toNat then 0 else 2
      else 1 := by
  cases success : outcome.success with
  | false => simp [statusOf, success]
  | true =>
      by_cases within : outcome.summary.highest.level ≤ warnLevel.toNat
      · simp [statusOf, success, Outcome.disposition, Disposition.of, within]
      · simp [statusOf, success, Outcome.disposition, Disposition.of, within]

theorem status_cases (prepared : request.prepare context file = .ok (settings, plan))
    (lenient : settings.policy = .lenient) (hidden : settings.debug = false) :
    let delivery := delivery context plan
    let heard := (withoutBanner delivery.lines).map Message.severityOf
    let status := (request.run context file).status
    (delivery.ending ≠ .ok true ∧ status = 1) ∨
      (delivery.ending = .ok true ∧
        (∀ severity ∈ heard, severity.level ≤ settings.warnLevel.toNat) ∧ status = 0) ∨
      (delivery.ending = .ok true ∧
        (∃ severity ∈ heard, settings.warnLevel.toNat < severity.level) ∧ status = 2) := by
  intro delivery heard status
  have highest := plan.highest_session lenient hidden (BuildRequest.delivery context plan).lines
  have ended : status = _ := status_prepared prepared
  rw [Plan.carryOut] at ended
  cases ending : delivery.ending with
  | error failure =>
      rw [ending] at ended
      exact .inl ⟨by simp, ended⟩
  | ok success =>
      rw [ending] at ended
      cases success with
      | false => exact .inl ⟨by simp, ended⟩
      | true =>
          simp only [Except.map, statusOf_eq, Plan.outcomeOf, Feed.summary, highest, if_true]
            at ended
          by_cases within : (Severity.maximum heard).level ≤ settings.warnLevel.toNat
          · have none := (Severity.level_maximum_le_iff heard _).mp within
            exact .inr (.inl ⟨rfl, none, ended.trans (if_pos within)⟩)
          · have above := mt (Severity.level_maximum_le_iff heard _).mpr within
            push Not at above
            exact .inr (.inr ⟨rfl, above, ended.trans (if_neg within)⟩)

end BuildRequest

/-- Under the lenient policy, unless the output is shown as it is, the highest severity of a build
is that of the most serious of its lines besides the banner.  Rearranging these lines, or changing
anything else about the build but how the engine ends, changes neither it nor the disposition; the
lines may be moved anywhere as long as the same line remains the banner.  The command ends with 0 if
the engine succeeded and no such line is above the level, with 2 if it succeeded and one is, and
with 1 if it failed or could not be run. -/
theorem severity_is_told_by_lines :
    (∀ (plan : Plan) (settings : Settings) (before : Workspace) (delivery : Delivery)
          (warnLevel : UInt8),
        settings.policy = .lenient → settings.debug = false →
          let highest := Severity.maximum ((withoutBanner delivery.lines).map Message.severityOf)
          (plan.carryOut settings before delivery).outcome.map (fun outcome =>
              (outcome.summary.highest, outcome.disposition warnLevel)) =
            delivery.ending.map fun success => (highest, .of success highest warnLevel)) ∧
      (∀ (first second : Plan) (firstSettings secondSettings : Settings)
          (firstBefore secondBefore : Workspace) (firstDelivery secondDelivery : Delivery)
          (warnLevel : UInt8),
        firstSettings.policy = .lenient → firstSettings.debug = false →
          secondSettings.policy = .lenient → secondSettings.debug = false →
          firstDelivery.ending = secondDelivery.ending →
          (withoutBanner firstDelivery.lines).Perm (withoutBanner secondDelivery.lines) →
            (first.carryOut firstSettings firstBefore firstDelivery).outcome.map (fun outcome =>
                (outcome.summary.highest, outcome.disposition warnLevel)) =
              (second.carryOut secondSettings secondBefore secondDelivery).outcome.map
                fun outcome => (outcome.summary.highest, outcome.disposition warnLevel)) ∧
      (∀ lines others : List OutputLine, lines.Perm others → banner? lines = banner? others →
        (withoutBanner lines).Perm (withoutBanner others)) ∧
      ∀ (request : BuildRequest) (context : CommandContext) (file : Path),
        (∀ failure, request.prepare context file = .error failure →
          (request.run context file).status = 1) ∧
        ∀ (settings : Settings) (plan : Plan),
          request.prepare context file = .ok (settings, plan) →
            settings.policy = .lenient → settings.debug = false →
              let delivery := BuildRequest.delivery context plan
              let heard := (withoutBanner delivery.lines).map Message.severityOf
              let status := (request.run context file).status
              (status = 0 ↔ delivery.ending = .ok true ∧
                ∀ severity ∈ heard, severity.level ≤ settings.warnLevel.toNat) ∧
              (status = 2 ↔ delivery.ending = .ok true ∧
                ∃ severity ∈ heard, settings.warnLevel.toNat < severity.level) ∧
              (status = 1 ↔ delivery.ending ≠ .ok true) := by
  refine ⟨?_, ?_, ?_, ?_⟩
  · intro plan settings before delivery warnLevel lenient hidden
    exact plan.told_carryOut lenient hidden before delivery warnLevel
  · intro first second firstSettings secondSettings firstBefore secondBefore firstDelivery
      secondDelivery warnLevel firstLenient firstHidden secondLenient secondHidden ending rearranged
    rw [first.told_carryOut firstLenient firstHidden,
      second.told_carryOut secondLenient secondHidden, ending,
      Severity.maximum_perm (rearranged.map _)]
  · intro lines others
    exact withoutBanner_perm
  · intro request context file
    refine ⟨fun failure => BuildRequest.status_unprepared, ?_⟩
    intro settings plan prepared lenient hidden delivery heard status
    have differs {first second : Nat} (ended : status = first) (different : first ≠ second) :
        status ≠ second := ended ▸ different
    rcases BuildRequest.status_cases prepared lenient hidden with
      ⟨failed, ended⟩ | ⟨succeeded, within, ended⟩ | ⟨succeeded, above, ended⟩
    · exact ⟨iff_of_false (differs ended (by decide)) fun other => failed other.1,
        iff_of_false (differs ended (by decide)) fun other => failed other.1,
        iff_of_true ended failed⟩
    · refine ⟨iff_of_true ended ⟨succeeded, within⟩,
        iff_of_false (differs ended (by decide)) fun other => ?_,
        iff_of_false (differs ended (by decide)) fun failed => failed succeeded⟩
      obtain ⟨-, severity, member, above⟩ := other
      exact Nat.not_lt.mpr (within severity member) above
    · refine ⟨iff_of_false (differs ended (by decide)) fun other => ?_,
        iff_of_true ended ⟨succeeded, above⟩,
        iff_of_false (differs ended (by decide)) fun failed => failed succeeded⟩
      obtain ⟨severity, member, above⟩ := above
      exact Nat.not_lt.mpr (other.2 severity member) above

/-- A bad box is seen wherever it stands, and makes the command end with 2 at the lowest level. -/
theorem severity_is_told_by_bad_box :
    let plan : Plan := {
      document := "/a.tex", pdf := "/a.pdf"
      invocation := { engine := "e", args := [], workingDir := "/" } }
    let banner : OutputLine := { stream := .stdout, text := "This is pdfTeX" }
    let opening : OutputLine := { stream := .stdout, text := "(/b.tex" }
    let box : OutputLine := { stream := .stderr, text := "Overfull" }
    let delivery (lines : List OutputLine) : Delivery :=
      .ofChanges { home := [] } lines [] (.ok true)
    let context : CommandContext := {
      workspace := { home := [] }
      environment := []
      programs := fun _ => some {
        path := "e"
        run := fun workspace _ => { stderr := Text.encode "Overfull", workspace } } }
    let request : BuildRequest := { engine? := some "e".toList }
    let told (settings : Settings) (lines : List OutputLine) :=
      (plan.carryOut settings { home := [] } (delivery lines)).outcome.map fun outcome =>
        (outcome.summary.highest, outcome.disposition 1)
    told {} [banner, box, opening] = .ok (.badBox, .dismissed) ∧
      told { rule := .strict } [banner, opening, box] = told {} [box, banner, opening] ∧
      (withoutBanner [banner, opening, box]).Perm (withoutBanner [box, banner, opening]) ∧
      (request.run context "/a.tex").status = 2 ∧ (request.run context "/").status = 1 := by
  intro plan banner opening box delivery context request told
  obtain ⟨single, rearranged, moved, status⟩ := severity_is_told_by_lines
  have prepared : request.prepare context "/a.tex" =
      .ok ({ engine? := some "e" }, { plan with
        invocation.args := ["-interaction=nonstopmode", "a.tex"] }) := by
    decide +kernel
  have unprepared : request.prepare context "/" = .error (.noFileName "/") := by decide +kernel
  obtain ⟨-, attention, -⟩ := (status request context "/a.tex").2 _ _ prepared rfl rfl
  exact ⟨single plan {} _ (delivery [banner, box, opening]) 1 rfl rfl,
    rearranged plan plan { rule := .strict } {} _ _ _ _ 1 rfl rfl rfl rfl rfl (by decide),
    moved _ _ (by decide) (by decide),
    attention.mpr ⟨by decide +kernel, .badBox, by decide +kernel, by decide⟩,
    (status request context "/").1 _ unprepared⟩

end Typeset
