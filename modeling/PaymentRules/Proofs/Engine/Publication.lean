import PaymentRules.Engine.Session
import PaymentRules.Proofs.Except
import PaymentRules.Sheet.Writer

/-!
# What an engine has published

Rules are published by a call that succeeds and by nothing else. A call that fails has published
nothing when it fails, although what it had done would stay: everything that can fail comes before
the first publication. So the published rules of a family are always those of one file, the one that
the last successful call took rules of this family from, and where there was none they are the rules
that the engine started with.

## Main definitions

* `InFile` — the rules in a file
* `Engine.Step` — what a call makes of an engine
* `Engine.publishedFrom` — the files from which rules were published in a run

## Main results

* `Engine.step_serve` — a call is answered by a step
* `reloading_is_all_or_nothing` — what is published after a call, and after a run of calls, with a
  run in which two calls fail before one succeeds
-/

namespace PaymentRules

/-- The rules are the ones in a file: there is a delimiter for it, and with that the file is read to
these rules. -/
def InFile {α : Type} (read : Delimiter → File → Except LoadError α) (settings : Settings)
    (file : File) (rules : α) : Prop :=
  ∃ delimiter, settings.fileDelimiter = .ok delimiter ∧ read delimiter file = .ok rules

theorem inFile_iff {α : Type} {read : Delimiter → File → Except LoadError α} {settings : Settings}
    {delimiter : Delimiter} (usable : settings.fileDelimiter = .ok delimiter) {file : File}
    {rules : α} : InFile read settings file rules ↔ read delimiter file = .ok rules := by
  rw [InFile, usable]
  exact ⟨fun ⟨_, same, is_read⟩ => Except.ok.inj same ▸ is_read, fun is_read => ⟨_, rfl, is_read⟩⟩

namespace Call

/-- The file that a call takes client-action rules from. -/
def clientFile? (settings : Settings) (files : Files) : Call → Option File
  | .reload => some (files settings.clientActionPath)
  | .reloadClientActions path => some (files path)
  | _ => none

/-- The file that a call takes service-error rules from. -/
def errorFile? (settings : Settings) (files : Files) : Call → Option File
  | .reload => some (files settings.serviceErrorPath)
  | .reloadServiceErrors path => some (files path)
  | _ => none

/-- The call takes rules from some file, and there are rules in every file that it takes them
from. -/
def CanPublish (settings : Settings) (files : Files) (call : Call) : Prop :=
  (call.clientFile? settings files ≠ none ∨ call.errorFile? settings files ≠ none) ∧
  (∀ file, call.clientFile? settings files = some file →
    ∃ rules, InFile ClientRules.ofFile settings file rules) ∧
  (∀ file, call.errorFile? settings files = some file →
    ∃ rules, InFile ErrorRules.ofFile settings file rules)

end Call

/-- Whether a call has published what it was made for. -/
def Answer.isPublished : Answer → Bool
  | .reloaded (.ok ()) => true
  | _ => false

namespace Engine

/-- What a call makes of an engine. Everything that is not said to be published anew is as it
was. -/
inductive Step (files : Files) (engine : Engine) : Call → Answer → Engine → Prop
  | reloaded {clientRules : ClientRules} {errorRules : ErrorRules}
      (clientFile : InFile ClientRules.ofFile engine.settings
        (files engine.settings.clientActionPath) clientRules)
      (errorFile : InFile ErrorRules.ofFile engine.settings
        (files engine.settings.serviceErrorPath) errorRules) :
      Step files engine .reload (.reloaded (.ok ()))
        ((engine.publishClientActions clientRules).publishServiceErrors errorRules)
  | reloadedClientActions {path : String} {rules : ClientRules}
      (inFile : InFile ClientRules.ofFile engine.settings (files path) rules) :
      Step files engine (.reloadClientActions path) (.reloaded (.ok ()))
        (engine.publishClientActions rules)
  | reloadedServiceErrors {path : String} {rules : ErrorRules}
      (inFile : InFile ErrorRules.ofFile engine.settings (files path) rules) :
      Step files engine (.reloadServiceErrors path) (.reloaded (.ok ()))
        (engine.publishServiceErrors rules)
  | refused {call : Call} {failure : LoadError}
      (missing : ¬ call.CanPublish engine.settings files) :
      Step files engine call (.reloaded (.error failure)) engine
  | clientAction {factory : DescriptionFactory} {request : ClientActionRequest}
      {instrument : PaymentInstrument} :
      Step files engine (.resolveClientAction factory request instrument)
        (.clientAction (engine.resolveClientAction factory request instrument).1
          (engine.resolveClientAction factory request instrument).2) engine
  | serviceError {collaborators : Collaborators} {action : ErrorRules.ResourceAction}
      {request : ServiceErrorRequest} {error : ErrorResponse} :
      Step files engine (.resolveServiceError collaborators action request error)
        (.serviceError (engine.resolveServiceError collaborators action request error)) engine
  | findings : Step files engine .review (.findings engine.review) engine

/-! ## One call -/

namespace Change

variable {α β : Type} (engine : Engine)

theorem run_get_bind (next : Engine → Change β) :
    (get >>= next : Change β).run.run engine = (next engine).run.run engine := rfl

/-- A failure ends the change, and the engine is left as the steps before have made it. -/
theorem run_liftExcept_bind (step : Except LoadError α) (next : α → Change β) :
    (liftExcept step >>= next : Change β).run.run engine =
      match step with
      | .ok a => (next a).run.run engine
      | .error failure => (.error failure, engine) := by
  cases step <;> rfl

end Change

section

variable (engine : Engine) (files : Files)

theorem run_reload :
    (reload files).run.run engine =
      match load engine.settings (files engine.settings.clientActionPath)
        (files engine.settings.serviceErrorPath) with
      | .ok (clientRules, errorRules) =>
        (.ok (), (engine.publishClientActions clientRules).publishServiceErrors errorRules)
      | .error failure => (.error failure, engine) := by
  rw [reload, Change.run_get_bind, Change.run_liftExcept_bind]
  cases load engine.settings (files engine.settings.clientActionPath)
    (files engine.settings.serviceErrorPath) <;> rfl

theorem run_reloadFamily {α : Type} (read : Delimiter → File → Except LoadError α)
    (publish : Engine → α → Engine) (path : String) :
    (reloadFamily read publish files path).run.run engine =
      match engine.settings.fileDelimiter >>= (read · (files path)) with
      | .ok rules => (.ok (), publish engine rules)
      | .error failure => (.error failure, engine) := by
  rw [reloadFamily, Change.run_get_bind, Change.run_liftExcept_bind]
  cases engine.settings.fileDelimiter with
  | error failure => rfl
  | ok delimiter =>
    rw [Except.ok_bind]
    dsimp only
    rw [Change.run_liftExcept_bind]
    cases read delimiter (files path) <;> rfl

end

/-- Both families are loaded exactly when each is in its file. -/
theorem load_eq_ok_iff {settings : Settings} {clientActions serviceErrors : File}
    {clientRules : ClientRules} {errorRules : ErrorRules} :
    load settings clientActions serviceErrors = .ok (clientRules, errorRules) ↔
      InFile ClientRules.ofFile settings clientActions clientRules ∧
        InFile ErrorRules.ofFile settings serviceErrors errorRules := by
  simp only [load, Except.bind_eq_ok_iff, Except.pure_eq_ok, Except.ok.injEq, Prod.mk.injEq]
  constructor
  · rintro ⟨delimiter, usable, _, clientRead, _, errorRead, rfl, rfl⟩
    exact ⟨⟨delimiter, usable, clientRead⟩, ⟨delimiter, usable, errorRead⟩⟩
  · rintro ⟨⟨delimiter, usable, clientRead⟩, ⟨other, usable', errorRead⟩⟩
    obtain rfl := Except.ok.inj (usable.symm.trans usable')
    exact ⟨delimiter, usable, _, clientRead, _, errorRead, rfl, rfl⟩

/-- One family is reloaded, or there are no rules of it in the file and nothing happens. -/
theorem reloadFamily_cases {α : Type} (read : Delimiter → File → Except LoadError α)
    (publish : Engine → α → Engine) (engine : Engine) (files : Files) (path : String) :
    (∃ rules, InFile read engine.settings (files path) rules ∧
      (reloadFamily read publish files path).run.run engine = (.ok (), publish engine rules)) ∨
    (∃ failure, (¬ ∃ rules, InFile read engine.settings (files path) rules) ∧
      (reloadFamily read publish files path).run.run engine = (.error failure, engine)) := by
  rw [run_reloadFamily]
  cases loaded : engine.settings.fileDelimiter >>= (read · (files path)) with
  | ok rules => exact .inl ⟨rules, Except.bind_eq_ok_iff.mp loaded, rfl⟩
  | error failure =>
    refine .inr ⟨failure, fun ⟨rules, inFile⟩ => ?_, rfl⟩
    rw [Except.bind_eq_ok_iff.mpr inFile] at loaded
    cases loaded

/-- A call is answered by a step. -/
theorem step_serve (engine : Engine) (files : Files) (call : Call) :
    engine.Step files call ((serve files call).run engine).1 ((serve files call).run engine).2 := by
  cases call with
  | reload =>
    rw [serve, StateT.run_map, run_reload]
    cases loaded : load engine.settings (files engine.settings.clientActionPath)
        (files engine.settings.serviceErrorPath) with
    | ok rules =>
      obtain ⟨clientFile, errorFile⟩ := load_eq_ok_iff.mp loaded
      exact .reloaded clientFile errorFile
    | error failure =>
      refine .refused fun ⟨_, client, error⟩ => ?_
      obtain ⟨clientRules, clientFile⟩ := client _ rfl
      obtain ⟨errorRules, errorFile⟩ := error _ rfl
      rw [load_eq_ok_iff.mpr ⟨clientFile, errorFile⟩] at loaded
      cases loaded
  | reloadClientActions path =>
    rw [serve, StateT.run_map, reloadClientActions]
    rcases reloadFamily_cases ClientRules.ofFile publishClientActions engine files path with
      ⟨rules, inFile, run⟩ | ⟨failure, missing, run⟩ <;> rw [run]
    · exact .reloadedClientActions inFile
    · exact .refused fun ⟨_, client, _⟩ => missing (client _ rfl)
  | reloadServiceErrors path =>
    rw [serve, StateT.run_map, reloadServiceErrors]
    rcases reloadFamily_cases ErrorRules.ofFile publishServiceErrors engine files path with
      ⟨rules, inFile, run⟩ | ⟨failure, missing, run⟩ <;> rw [run]
    · exact .reloadedServiceErrors inFile
    · exact .refused fun ⟨_, _, error⟩ => missing (error _ rfl)
  | resolveClientAction factory request instrument => exact .clientAction
  | resolveServiceError collaborators action request error => exact .serviceError
  | review => exact .findings

section

variable {engine after : Engine} {files : Files} {call : Call} {answer : Answer}

theorem Step.settings_eq (step : engine.Step files call answer after) :
    after.settings = engine.settings := by
  cases step <;> rfl

theorem Step.eq_of_not_published (step : engine.Step files call answer after)
    (unpublished : answer.isPublished = false) : after = engine := by
  cases step with
  | reloaded | reloadedClientActions | reloadedServiceErrors => cases unpublished
  | refused | clientAction | serviceError | findings => rfl

/-- A call publishes if it can, and only then. -/
theorem Step.isPublished_iff (step : engine.Step files call answer after) :
    answer.isPublished = true ↔ call.CanPublish engine.settings files := by
  cases step with
  | @reloaded clientRules errorRules clientFile errorFile =>
    refine iff_of_true rfl ⟨.inl nofun, fun _ taken => ?_, fun _ taken => ?_⟩
    · obtain rfl := Option.some.inj taken
      exact ⟨clientRules, clientFile⟩
    · obtain rfl := Option.some.inj taken
      exact ⟨errorRules, errorFile⟩
  | @reloadedClientActions path rules inFile =>
    refine iff_of_true rfl ⟨.inl nofun, fun _ taken => ?_, nofun⟩
    obtain rfl := Option.some.inj taken
    exact ⟨rules, inFile⟩
  | @reloadedServiceErrors path rules inFile =>
    refine iff_of_true rfl ⟨.inr nofun, nofun, fun _ taken => ?_⟩
    obtain rfl := Option.some.inj taken
    exact ⟨rules, inFile⟩
  | refused missing => exact iff_of_false nofun missing
  | clientAction | serviceError | findings =>
    exact iff_of_false nofun fun ⟨takes, _⟩ => takes.elim (· rfl) (· rfl)

end

/-! ## One family -/

/-- What becomes of a family of rules that is taken from a file, or from none. The family is given
by its place in an engine and by what rules a file holds. -/
def Follows {α : Type} (storeOf : Engine → RuleStore α) (inFile : Settings → File → α → Prop)
    (engine : Engine) (file? : Option File) (after : Engine) : Prop :=
  match file? with
  | some file => inFile engine.settings file (storeOf after).snapshot.rules
  | none => storeOf after = storeOf engine

/-- The file that rules were published from in a call. -/
def publishedFrom? (file? : Files → Call → Option File) (asked : Files × Call) (answer : Answer) :
    Option File :=
  if answer.isPublished then file? asked.1 asked.2 else none

section

variable {engine after : Engine} {files : Files} {call : Call} {answer : Answer}

theorem Step.follows_clientActions (step : engine.Step files call answer after) :
    engine.Follows clientActions (InFile ClientRules.ofFile)
      (publishedFrom? (Call.clientFile? engine.settings) (files, call) answer) after := by
  cases step with
  | reloaded clientFile errorFile => exact clientFile
  | reloadedClientActions inFile => exact inFile
  | reloadedServiceErrors | refused | clientAction | serviceError | findings => rfl

theorem Step.follows_serviceErrors (step : engine.Step files call answer after) :
    engine.Follows serviceErrors (InFile ErrorRules.ofFile)
      (publishedFrom? (Call.errorFile? engine.settings) (files, call) answer) after := by
  cases step with
  | reloaded clientFile errorFile => exact errorFile
  | reloadedServiceErrors inFile => exact inFile
  | reloadedClientActions | refused | clientAction | serviceError | findings => rfl

end

/-! ## A run of calls -/

/-- What a run of calls makes of an engine. -/
inductive Run : Engine → List (Files × Call) → List Answer → Engine → Prop
  | nil {engine : Engine} : Run engine [] [] engine
  | cons {engine middle after : Engine} {files : Files} {call : Call} {answer : Answer}
      {calls : List (Files × Call)} {answers : List Answer}
      (step : engine.Step files call answer middle) (later : Run middle calls answers after) :
      Run engine ((files, call) :: calls) (answer :: answers) after

theorem run_serveAll_cons {engine middle : Engine} {files : Files} {call : Call} {answer : Answer}
    (answered : (serve files call).run engine = (answer, middle)) (calls : List (Files × Call)) :
    (serveAll ((files, call) :: calls)).run engine =
      (answer :: ((serveAll calls).run middle).1, ((serveAll calls).run middle).2) := by
  rw [serveAll, List.mapM_cons, StateT.run_bind, answered]
  rfl

theorem run_serveAll (engine : Engine) (calls : List (Files × Call)) :
    engine.Run calls ((serveAll calls).run engine).1 ((serveAll calls).run engine).2 := by
  induction calls generalizing engine with
  | nil => exact .nil
  | cons asked calls ih =>
    rw [run_serveAll_cons rfl]
    exact .cons (engine.step_serve asked.1 asked.2) (ih _)

/-- The files that rules were published from in a run, in the order of the calls. -/
def publishedFrom (file? : Files → Call → Option File) (calls : List (Files × Call))
    (answers : List Answer) : List File :=
  (calls.zip answers).filterMap fun entry => publishedFrom? file? entry.1 entry.2

/-- A family that follows its files in every step follows the last of them in a run. -/
theorem Run.follows {α : Type} {storeOf : Engine → RuleStore α}
    {inFile : Settings → File → α → Prop} {file? : Settings → Files → Call → Option File}
    (stepwise : ∀ {engine after : Engine} {files : Files} {call : Call} {answer : Answer},
      engine.Step files call answer after → engine.Follows storeOf inFile
        (publishedFrom? (file? engine.settings) (files, call) answer) after)
    {engine after : Engine} {calls : List (Files × Call)} {answers : List Answer}
    (run : engine.Run calls answers after) :
    engine.Follows storeOf inFile
      (publishedFrom (file? engine.settings) calls answers).getLast? after := by
  induction run with
  | nil => rfl
  | @cons engine middle after files call answer calls answers step later ih =>
    have own := stepwise step
    rw [Step.settings_eq step] at ih
    have entries : publishedFrom (file? engine.settings) ((files, call) :: calls)
        (answer :: answers) =
        (publishedFrom? (file? engine.settings) (files, call) answer).toList ++
          publishedFrom (file? engine.settings) calls answers := by
      simp only [publishedFrom, List.zip_cons_cons, List.filterMap_cons]
      cases publishedFrom? (file? engine.settings) (files, call) answer <;> rfl
    rw [entries, List.getLast?_append]
    cases last : (publishedFrom (file? engine.settings) calls answers).getLast? with
    | some file =>
      rw [last] at ih
      simpa [Follows, Step.settings_eq step] using ih
    | none =>
      rw [last] at ih
      have kept : storeOf after = storeOf middle := ih
      cases published : publishedFrom? (file? engine.settings) (files, call) answer with
      | none =>
        rw [published] at own
        exact kept.trans own
      | some file =>
        rw [published] at own
        simpa [Follows, kept] using own

end Engine

/-! ## The engine -/

open Engine

/-- A reload publishes if there are rules in every file that it takes them from. A call that does
not publish, be it a reload that fails, a resolution or a review, leaves the engine as it was; one
that does publishes the rules in its files, and leaves alone a family that it takes from no file. So
after any run of calls, whatever the files were at each, the rules of a family are those in the file
from which they were published last, or else the ones from before. -/
theorem reloading_is_all_or_nothing (engine : Engine) :
    (∀ files call answer after, (serve files call).run engine = (answer, after) →
      (answer.isPublished = true ↔ call.CanPublish engine.settings files) ∧
      (answer.isPublished = false → after = engine) ∧
      (answer.isPublished = true →
        engine.Follows clientActions (InFile ClientRules.ofFile)
          (call.clientFile? engine.settings files) after ∧
        engine.Follows serviceErrors (InFile ErrorRules.ofFile)
          (call.errorFile? engine.settings files) after)) ∧
    (∀ calls answers after, (serveAll calls).run engine = (answers, after) →
      engine.Follows clientActions (InFile ClientRules.ofFile)
        (publishedFrom (Call.clientFile? engine.settings) calls answers).getLast? after ∧
      engine.Follows serviceErrors (InFile ErrorRules.ofFile)
        (publishedFrom (Call.errorFile? engine.settings) calls answers).getLast? after) := by
  constructor
  · intro files call answer after answered
    have step := engine.step_serve files call
    rw [answered] at step
    have client := step.follows_clientActions
    have error := step.follows_serviceErrors
    refine ⟨step.isPublished_iff, step.eq_of_not_published, fun published => ?_⟩
    rw [publishedFrom?, if_pos published] at client error
    exact ⟨client, error⟩
  · intro calls answers after answered
    have run := engine.run_serveAll calls
    rw [answered] at run
    exact ⟨run.follows Step.follows_clientActions, run.follows Step.follows_serviceErrors⟩

/-! ## Calls one after another -/

/-- The file of a grid. -/
def fileOf (grid : List (List String)) : File :=
  some (Sheet.write .comma grid).toUTF8

/-- There is nothing but one file. -/
def onlyFile (path : String) (file : File) : Files := fun other =>
  if other = path then file else none

theorem onlyFile_self (path : String) (file : File) : onlyFile path file path = file :=
  if_pos rfl

theorem onlyFile_of_ne {path other : String} (other_path : other ≠ path) (file : File) :
    onlyFile path file other = none :=
  if_neg other_path

/-- A client-action sheet with one filter. -/
def walletGrid : List (List String) :=
  [(Named.all : List ClientRules.Column).map Named.name,
    ["Wallets", "", "", "", "", "", "", "", "", "", "Redirect", "RedirectUrl"]]

/-- A service-error sheet without its second column and all later ones. -/
def torsoGrid : List (List String) :=
  [["ResourceAction"]]

/-- At the reload there is no service-error file. The one that is named then lacks columns, and the
client-action file that is named last is a whole one. -/
def stagedCalls : List (Files × Call) :=
  [(onlyFile Settings.default.clientActionPath (fileOf walletGrid), .reload),
    (onlyFile "errors.csv" (fileOf torsoGrid), .reloadServiceErrors "errors.csv"),
    (onlyFile "wallets.csv" (fileOf walletGrid), .reloadClientActions "wallets.csv")]

theorem ofFile_fileOf (grid : List (List String)) :
    Sheet.ofFile .comma (fileOf grid) = Sheet.ofText .comma (Sheet.write .comma grid) :=
  Sheet.ofBytes_toUTF8 .comma _

theorem exists_ofFile_walletGrid :
    ∃ rules, ClientRules.ofFile .comma (fileOf walletGrid) = .ok rules ∧
      rules.groups.map (·.name) = ["Wallets"] := by
  have read : (ClientRules.ofFile .comma (fileOf walletGrid)).map
      (fun rules => rules.groups.map (·.name)) = .ok ["Wallets"] := by
    -- The characters of the text are at hand, and need not be decoded from its bytes.
    rw [ClientRules.ofFile, ofFile_fileOf, Sheet.ofText, Sheet.write, String.toList_ofList]
    decide +kernel
  exact Except.map_eq_ok_iff.mp read

theorem ofFile_torsoGrid : ErrorRules.ofFile .comma (fileOf torsoGrid) =
    .error (.missingColumn "ServiceError" "PaymentMethodFamily") := by
  rw [ErrorRules.ofFile, ofFile_fileOf]
  decide +kernel

/-- An engine without rules. -/
def emptyEngine : Engine :=
  .ofRules .default ⟨[]⟩ ⟨[]⟩

/-- Nothing is published by the first two calls, although there are client-action rules at the first
one. The third call publishes these, which is the only publication, and leaves the service-error
rules as they are. -/
theorem reloading_is_all_or_nothing_of_stagedCalls :
    ∃ after, (serveAll stagedCalls).run emptyEngine =
        ([.reloaded (.error .unreadable),
          .reloaded (.error (.missingColumn "ServiceError" "PaymentMethodFamily")),
          .reloaded (.ok ())], after) ∧
      after.clientActions.snapshot.rules.groups.map (·.name) = ["Wallets"] ∧
      after.clientActions.snapshot.generation = 1 ∧
      after.serviceErrors = emptyEngine.serviceErrors := by
  have usable : emptyEngine.settings.fileDelimiter = .ok .comma := Delimiter.ofChar_char .comma
  obtain ⟨rules, read, names⟩ := exists_ofFile_walletGrid
  have first : (serve (onlyFile emptyEngine.settings.clientActionPath (fileOf walletGrid))
      .reload).run emptyEngine = (.reloaded (.error .unreadable), emptyEngine) := by
    have missing : onlyFile emptyEngine.settings.clientActionPath (fileOf walletGrid)
        emptyEngine.settings.serviceErrorPath = none := onlyFile_of_ne (by decide) _
    rw [serve, StateT.run_map, run_reload, load, usable, Except.ok_bind, onlyFile_self, read,
      Except.ok_bind, missing]
    rfl
  have second : (serve (onlyFile "errors.csv" (fileOf torsoGrid))
      (.reloadServiceErrors "errors.csv")).run emptyEngine =
      (.reloaded (.error (.missingColumn "ServiceError" "PaymentMethodFamily")), emptyEngine) := by
    rw [serve, StateT.run_map, reloadServiceErrors, run_reloadFamily, usable, Except.ok_bind,
      onlyFile_self, ofFile_torsoGrid]
    rfl
  have third : (serve (onlyFile "wallets.csv" (fileOf walletGrid))
      (.reloadClientActions "wallets.csv")).run emptyEngine =
      (.reloaded (.ok ()), emptyEngine.publishClientActions rules) := by
    rw [serve, StateT.run_map, reloadClientActions, run_reloadFamily, usable, Except.ok_bind,
      onlyFile_self, read]
    rfl
  -- As nothing is published by the first two calls, the third one finds the engine empty as well.
  have ran := run_serveAll_cons first (stagedCalls.drop 1)
  rw [stagedCalls, List.drop_one, List.tail_cons, run_serveAll_cons second,
    run_serveAll_cons third] at ran
  obtain ⟨client, error⟩ := (reloading_is_all_or_nothing emptyEngine).2 _ _ _ ran
  have published := Except.ok.inj (((inFile_iff usable).mp client).symm.trans read)
  exact ⟨_, ran, published ▸ names, rfl, error⟩

end PaymentRules
