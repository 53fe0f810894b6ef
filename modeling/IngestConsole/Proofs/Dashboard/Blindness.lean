import IngestConsole.Proofs.Dashboard.Idle
import IngestConsole.Proofs.Service.Secrets

/-!
# Programs that do not see secrets

A program is blind if it cannot tell apart two dashboards, and two ways to answer its calls, that are
alike but for the secrets in the launch options: it comes to the same, makes the same calls, and
leaves dashboards that are alike again.  Operations of a dashboard are blind, and a program that is
built of blind ones is blind.
-/

set_option autoImplicit false

namespace IngestConsole

open Service Wire

namespace Dashboard

variable {α β : Type}

/-- A dashboard with the secrets in its launch options blanked. -/
def withoutSecrets (d : Dashboard) : Dashboard :=
  { d with launchOptions := d.launchOptions.map LaunchOptions.withoutSecrets }

/-- What can be seen of a dashboard without its secrets is the same of two that are alike. -/
theorem eq_of_public {f : Dashboard → α} (seen : ∀ d, f d.withoutSecrets = f d) {d d' : Dashboard}
    (same : d'.withoutSecrets = d.withoutSecrets) : f d' = f d := by
  rw [← seen d', same, seen d]

/-- Hiding the secrets before or after taking in a reply makes no difference, the launch options
apart. -/
theorem withoutSecrets_absorb_of_ne {e : Endpoint} (other : e ≠ .launchOptions) (result : e.Result)
    (d : Dashboard) :
    (d.absorb ⟨e, result⟩).withoutSecrets = d.withoutSecrets.absorb ⟨e, result⟩ := by
  cases result with
  | error f => cases e <;> rfl
  | ok answer =>
    cases e with
    | launchOptions => exact absurd rfl other
    | _ => rfl

/-- Dashboards alike but for secrets stay so when they take in answers alike but for secrets. -/
theorem withoutSecrets_absorb {answer answer' : (e : Endpoint) → e.Result}
    (alike : AnswersAlike answer answer') {d d' : Dashboard}
    (same : d'.withoutSecrets = d.withoutSecrets) (e : Endpoint) :
    (d'.absorb ⟨e, answer' e⟩).withoutSecrets = (d.absorb ⟨e, answer e⟩).withoutSecrets := by
  by_cases options : e = .launchOptions
  · subst options
    have read := alike.options
    cases first : answer .launchOptions with
    | error f =>
      cases second : answer' .launchOptions with
      | error f' => exact same
      | ok o' =>
        rw [first, second] at read
        cases read
    | ok o =>
      cases second : answer' .launchOptions with
      | error f' =>
        rw [first, second] at read
        cases read
      | ok o' =>
        rw [first, second] at read
        have blanked : o'.withoutSecrets = o.withoutSecrets := Option.some.inj read
        calc (d'.absorb ⟨.launchOptions, .ok o'⟩).withoutSecrets
            = { d'.withoutSecrets with launchOptions := some o'.withoutSecrets } := rfl
          _ = { d.withoutSecrets with launchOptions := some o.withoutSecrets } := by
              rw [same, blanked]
  · rw [alike.others e options, withoutSecrets_absorb_of_ne options,
      withoutSecrets_absorb_of_ne options, same]

namespace Program

/-- What two runs of a program have in common. -/
structure EndsAlike (ended ended' : α × Dashboard × List Endpoint) : Prop where
  result : ended'.1 = ended.1
  shown : ended'.2.1.withoutSecrets = ended.2.1.withoutSecrets
  calls : ended'.2.2 = ended.2.2

/-- A program does not see secrets. -/
def Blind (p : Program α) : Prop :=
  ∀ (answer answer' : (e : Endpoint) → e.Result) (d d' : Dashboard), AnswersAlike answer answer' →
    d'.withoutSecrets = d.withoutSecrets → EndsAlike (p.eval answer d) (p.eval answer' d')

/-- A program that returns at once is blind to secrets. -/
theorem blind_pure (a : α) : Blind (pure a : Program α) := by
  intro answer answer' d d' _ same
  exact ⟨rfl, same, rfl⟩

/-- Blind programs in sequence are blind. -/
theorem Blind.bind {p : Program α} {f : α → Program β} (first : p.Blind)
    (rest : ∀ a, (f a).Blind) : (p >>= f).Blind := by
  intro answer answer' d d' alike same
  obtain ⟨result, shown, calls⟩ := first answer answer' d d' alike same
  rw [eval_bind, eval_bind]
  obtain ⟨result', shown', calls'⟩ :=
    rest (p.eval answer d).1 answer answer' (p.eval answer d).2.1 (p.eval answer' d').2.1 alike shown
  refine ⟨?_, ?_, ?_⟩
  · show (eval answer' (f _) _).1 = _
    rw [result]
    exact result'
  · show (eval answer' (f _) _).2.1.withoutSecrets = _
    rw [result]
    exact shown'
  · show _ ++ (eval answer' (f _) _).2.2 = _
    rw [result, calls]
    exact congrArg _ calls'

/-- Looking at what a dashboard shows besides secrets. -/
theorem blind_look {next : Dashboard → Program α}
    (reads : ∀ d d' : Dashboard, d'.withoutSecrets = d.withoutSecrets → next d' = next d)
    (rest : ∀ d, (next d).Blind) : (dashboard >>= next).Blind := by
  intro answer answer' d d' alike same
  have first : (dashboard >>= next).eval answer d = (next d).eval answer d := rfl
  have second : (dashboard >>= next).eval answer' d' = (next d').eval answer' d' := rfl
  rw [first, second, reads d d' same]
  exact rest d answer answer' d d' alike same

/-- A change is blind if dashboards alike but for secrets stay so under it. -/
theorem blind_modify {f : Dashboard → Dashboard}
    (keeps : ∀ d d' : Dashboard, d'.withoutSecrets = d.withoutSecrets →
      (f d').withoutSecrets = (f d).withoutSecrets) : (modify f).Blind := by
  intro answer answer' d d' _ same
  exact ⟨rfl, keeps d d' same, rfl⟩

/-- Asking for anything but the launch options is blind. -/
theorem blind_ask {e : Endpoint} (other : e ≠ .launchOptions) : (ask e).Blind := by
  intro answer answer' d d' alike same
  exact ⟨alike.others e other, same, rfl⟩

/-- Of answers alike but for secrets, both succeed or both fail. -/
theorem isOk_of_alike {answer answer' : (e : Endpoint) → e.Result}
    (alike : AnswersAlike answer answer') (e : Endpoint) :
    Reply.isOk ⟨e, answer' e⟩ = Reply.isOk ⟨e, answer e⟩ := by
  rw [isOk_reply, isOk_reply]
  by_cases options : e = .launchOptions
  · subst options
    have read := alike.options
    cases first : answer .launchOptions <;> cases second : answer' .launchOptions <;>
      rw [first, second] at read <;> first | rfl | cases read
  · rw [alike.others e options]

/-- Taking in a list of answers alike but for secrets keeps dashboards alike but for secrets. -/
theorem withoutSecrets_foldl_absorb {answer answer' : (e : Endpoint) → e.Result}
    (alike : AnswersAlike answer answer') (made : List Endpoint) {d d' : Dashboard}
    (same : d'.withoutSecrets = d.withoutSecrets) :
    ((made.map fun e => (⟨e, answer' e⟩ : Reply)).foldl absorb d').withoutSecrets =
      ((made.map fun e => (⟨e, answer e⟩ : Reply)).foldl absorb d).withoutSecrets := by
  induction made generalizing d d' with
  | nil => exact same
  | cons e rest ih => exact ih (withoutSecrets_absorb alike same e)

/-- Fetching for a panel is blind, also where launch options are fetched. -/
theorem blind_fetch (panel : Panel) (made : List Endpoint) : (fetch panel made).Blind := by
  intro answer answer' d d' alike same
  let waited : Dashboard → Dashboard := fun d =>
    (d.setLoading panel true).setLoading panel false
  have waits : (waited d').withoutSecrets = (waited d).withoutSecrets := by
    calc (waited d').withoutSecrets = waited d'.withoutSecrets := rfl
      _ = waited d.withoutSecrets := by rw [same]
      _ = (waited d).withoutSecrets := rfl
  refine ⟨?_, withoutSecrets_foldl_absorb alike made waits, rfl⟩
  show (made.map fun e => (⟨e, answer' e⟩ : Reply)).all Reply.isOk =
    (made.map fun e => (⟨e, answer e⟩ : Reply)).all Reply.isOk
  rw [List.all_map, List.all_map]
  exact congrArg made.all (funext (isOk_of_alike alike))

/-! ## Operations -/

/-- Reloading the tasks is blind to secrets. -/
theorem blind_reloadTasks : reloadTasks.Blind := by
  refine (blind_ask Endpoint.noConfusion).bind fun result => ?_
  cases result with
  | error f => exact blind_pure _
  | ok answer => exact (blind_fetch _ _).bind fun _ => blind_pure _

/-- Reloading the configuration is blind to secrets. -/
theorem blind_reloadConfig : reloadConfig.Blind := by
  refine (blind_ask Endpoint.noConfusion).bind fun result => ?_
  cases result with
  | error f => exact blind_pure _
  | ok answer => exact (blind_fetch _ _).bind fun _ => blind_pure _

end Program

end Dashboard

end IngestConsole
