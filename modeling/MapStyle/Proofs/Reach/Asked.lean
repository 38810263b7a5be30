import MapStyle.Command.Run
import MapStyle.Proofs.Files.Ready
import MapStyle.Proofs.Reach.Collected
import MapStyle.Proofs.Style.Accepted
import MapStyle.Proofs.Style.Distinct

/-!
# Requests for the addresses of a style

Each address is asked for by its head, and then in full exactly if that is not allowed. Its outcome
follows from the answers to these requests alone, so that no address disturbs another one.
-/

namespace MapStyle.Reach

set_option autoImplicit false

variable {F : Type} {network : Network} {url : String}

/-! ### One address -/

/-- The requests for an address: one for its head, and one for all of it exactly if the head was
answered by 405. -/
def requests (network : Network) (url : String) : Calls :=
  (.head, url) :: if network .head url = .ok 405 then [(.get, url)] else []

/-- One of the requests failed in these words. -/
def FailedIn (network : Network) (made : Calls) (words : String) : Prop :=
  ∃ call ∈ made, network call.1 call.2 = .error words

/-- The answer to the last one of the requests. -/
def lastAnswer? (network : Network) (made : Calls) : Option (Except String Int) :=
  made.getLast?.map fun call => network call.1 call.2

/-- An outcome tells how the requests were answered. -/
structure UrlCheck.Tells (check : UrlCheck) (network : Network) (made : Calls) : Prop where
  ok_iff : check.ok = true ↔ (∀ words, ¬FailedIn network made words) ∧
    ∃ status, lastAnswer? network made = some (.ok status) ∧ ¬(400 ≤ status ∧ status < 600)
  status_eq_none_iff : check.status = none ↔ ∃ words, FailedIn network made words
  status_eq_some_iff (status : Int) : check.status = some status ↔
    (∀ words, ¬FailedIn network made words) ∧ lastAnswer? network made = some (.ok status)
  error_eq_some_iff (words : String) : check.error = some words ↔ FailedIn network made words

/-- The answer that counts: that to the request for all of an address if there is one. -/
def answer (network : Network) (url : String) : Except String Int :=
  if network .head url = .ok 405 then network .get url else network .head url

/-- What is told of an address. -/
def outcome (network : Network) (url : String) : UrlCheck :=
  match answer network url with
  | .ok status => ⟨url, isOk status, some status, none⟩
  | .error words => ⟨url, false, none, some words⟩

/-- A request is noted, whatever the answer is. -/
theorem run_ask (method : Method) (earlier : Calls) :
    (ask network method url).run earlier = (network method url, earlier ++ [(method, url)]) := by
  unfold ask
  cases network method url <;> rfl

theorem run_statusOf (earlier : Calls) :
    (statusOf network url).run earlier = (answer network url, earlier ++ requests network url) := by
  unfold statusOf answer requests notAllowed
  rw [run_bind, run_ask]
  cases head : network .head url with
  | error words => rfl
  | ok status =>
      by_cases isNotAllowed : status = 405
      · simp [isNotAllowed, run_ask]
      · simp only [isNotAllowed, if_false, Except.ok.injEq]
        rfl

/-- One step: the requests for an address follow the earlier ones, on which its outcome does not
depend. -/
theorem run_check (url : String) (earlier : Calls) :
    (check network url).run earlier =
      pure (outcome network url, earlier ++ requests network url) := by
  have answered : (statusOf network url).run.run earlier =
      pure (answer network url, earlier ++ requests network url) := run_statusOf earlier
  unfold check outcome
  rw [StateT.run_bind, answered, pure_bind]
  cases answer network url <;> rfl

/-- A whole run: the requests and outcomes of the addresses, one after the other. -/
theorem run_mapM_check (urls : List String) (earlier : Calls) :
    (urls.mapM (check network)).run earlier =
      pure (urls.map (outcome network), earlier ++ urls.flatMap (requests network)) := by
  induction urls generalizing earlier with
  | nil => rw [List.mapM_nil, List.map_nil, List.flatMap_nil, List.append_nil, StateT.run_pure]
  | cons url rest ih =>
      rw [List.mapM_cons, StateT.run_bind, run_check, pure_bind, StateT.run_bind, ih, pure_bind,
        StateT.run_pure, List.map_cons, List.flatMap_cons, List.append_assoc]

theorem checks_eq (style : Json F) : checks network style = (urls style).map (outcome network) :=
  congrArg Prod.fst (run_mapM_check (urls style) [])

theorem calls_eq (style : Json F) : calls network style = (urls style).flatMap (requests network) :=
  congrArg Prod.snd (run_mapM_check (urls style) [])

/-! ### What an outcome tells -/

/-- Some request failed exactly if the answer that counts is a failure, and in its words. -/
theorem failedIn_requests (words : String) :
    FailedIn network (requests network url) words ↔ answer network url = .error words := by
  unfold FailedIn requests answer
  split_ifs with notAllowed <;> simp [notAllowed]

theorem lastAnswer?_requests :
    lastAnswer? network (requests network url) = some (answer network url) := by
  unfold lastAnswer? requests answer
  split_ifs <;> rfl

theorem isOk_iff (status : Int) : isOk status = true ↔ ¬(400 ≤ status ∧ status < 600) := by
  rw [isOk, Bool.not_eq_true', ← Bool.not_eq_true, Bool.and_eq_true, decide_eq_true_iff,
    decide_eq_true_iff]

theorem tells_outcome (network : Network) (url : String) :
    (outcome network url).Tells network (requests network url) := by
  constructor
  all_goals
    simp only [failedIn_requests, lastAnswer?_requests, outcome]
    cases answer network url with
    | ok status => simp [isOk_iff]
    | error words => simp

theorem url_outcome (network : Network) (url : String) : (outcome network url).url = url := by
  unfold outcome
  split <;> rfl

/-! ### All addresses of a style -/

theorem map_url_checks (style : Json F) : (checks network style).map UrlCheck.url = urls style := by
  rw [checks_eq, List.map_map]
  exact List.map_id'' (url_outcome network) _

theorem tells_of_mem_checks {style : Json F} {check : UrlCheck}
    (member : check ∈ checks network style) :
    check.Tells network (requests network check.url) := by
  rw [checks_eq] at member
  obtain ⟨url, _, rfl⟩ := List.mem_map.mp member
  rw [url_outcome]
  exact tells_outcome network url

/-! ### The command -/

end MapStyle.Reach

namespace MapStyle.Command

open Work (Ends ends_bind ends_ofResult ends_pure ends_sayAll files_of_sayAll)

variable {F : Type} [Arithmetic F]

section Check

variable {urls : StyleUrls} {preset : String} {theme : Theme F} {style : StyleDocument F}

/-- The end of a check: it fails exactly if some outcome is bad. -/
def checkEnding (network : Reach.Network) (style : StyleDocument F) (timeout : Number F)
    (progress : Bool) : Ending F where
  code := if ∃ check ∈ Reach.checks network style.toJson, check.ok = false then 1 else 0
  aside := if progress then .progress else .nothing
  requests := (Reach.calls network style.toJson).map fun (method, url) => ⟨method, url, timeout⟩

/-- Once its style has compiled, a check ends, and leaves the files as they are. -/
theorem ends_checkStyle (isTheme : Preset.named preset = .ok theme)
    (compiled : StyleDocument.compile theme urls = .ok style) (network : Reach.Network)
    (timeout : Number F) (progress : Bool) (before : Session) : ∃ after,
      (checkStyle urls network preset timeout progress).Ends before
        (checkEnding network style timeout progress) after ∧ after.files = before.files := by
  let checks := Reach.checks network style.toJson
  obtain ⟨headed, saidHeading⟩ := ends_sayAll ("" :: heading "SOURCE CHECK") before
  obtain ⟨listed, saidChecks⟩ := ends_sayAll (checks.map checkLine) headed
  obtain ⟨after, saidCount⟩ :=
    ends_sayAll ["", s!"{checks.countP Reach.UrlCheck.ok}/{checks.length} URLs reachable"] listed
  refine ⟨after, ?_, ?_⟩
  · unfold checkStyle
    refine ends_bind.mpr ⟨theme, before, ends_ofResult.mpr ⟨isTheme, rfl⟩, ?_⟩
    refine ends_bind.mpr ⟨style, before, ends_ofResult.mpr ⟨compiled, rfl⟩, ?_⟩
    refine ends_bind.mpr ⟨(), headed, saidHeading, ?_⟩
    refine ends_bind.mpr ⟨(), listed, saidChecks, ?_⟩
    refine ends_bind.mpr ⟨(), after, saidCount, ?_⟩
    refine ends_pure.mpr ⟨?_, rfl⟩
    have allReached : checks.countP Reach.UrlCheck.ok = checks.length ↔
        ¬∃ check ∈ checks, check.ok = false := by
      simp [List.countP_eq_length]
    simp only [checkEnding, checks, allReached, ite_not]
  · rw [files_of_sayAll saidCount, files_of_sayAll saidChecks, files_of_sayAll saidHeading]

/-- What is reported of a command that ends. -/
theorem run_of_ends {surroundings : Surroundings} {invocation : Invocation F} {files : FileTree}
    {ending : Ending F} {after : Session}
    (ended : (perform surroundings invocation).Ends ⟨files, ""⟩ ending after) :
    run surroundings invocation files =
      (.ok ⟨ending.code, after.printed, "", ending.aside, ending.requests⟩, after.files) := by
  unfold run Work.runOn
  rw [show (perform surroundings invocation).run _ = _ from ended]

end Check

end MapStyle.Command

namespace MapStyle.Reach

variable {F : Type} [Arithmetic F]

/-- Every collected address has one outcome, in order. The requests are, address by address, one for
the head, and one for all of it exactly if the head was answered by 405. An outcome tells of the
answers to the requests for its own address. Once the style of a preset has compiled, the command
makes these requests and no others, ends with 1 exactly if some outcome is bad and with 0 otherwise,
and changes no file. -/
theorem protocol_followed (network : Network) :
    (∀ style : Json F, (urls style).Nodup ∧
      (checks network style).map UrlCheck.url = urls style ∧
      calls network style = (urls style).flatMap (requests network) ∧
      ∀ check ∈ checks network style, check.Tells network (requests network check.url)) ∧
    ∀ (environment : StyleUrls.Environment) (options : UrlOptions) (preset : String)
      (timeout : Number F) (progress verbose : Bool) (theme : Theme F) (style : StyleDocument F),
      Preset.named preset = .ok theme →
      StyleDocument.compile theme (Command.urlsOf environment options) = .ok style →
      ∀ files, ∃ report,
        Command.run ⟨environment, network⟩ ⟨verbose, .check preset timeout progress options⟩ files =
          (.ok report, files) ∧
        report.code = (if ∃ check ∈ checks network style.toJson, check.ok = false then 1 else 0) ∧
        report.requests = (calls network style.toJson).map fun (method, url) =>
          ⟨method, url, timeout⟩ := by
  refine ⟨fun style => ⟨nodup_urls style, map_url_checks style, calls_eq style,
    fun _ => tells_of_mem_checks⟩, ?_⟩
  intro environment options preset timeout progress verbose theme style isTheme compiled files
  obtain ⟨after, ended, sameFiles⟩ :=
    Command.ends_checkStyle isTheme compiled network timeout progress ⟨files, ""⟩
  have reported : Command.run ⟨environment, network⟩
      ⟨verbose, .check preset timeout progress options⟩ files = (.ok _, after.files) :=
    Command.run_of_ends ended
  rw [sameFiles] at reported
  exact ⟨_, reported, rfl, rfl⟩

/-- A network that allows no request for a head, and answers every other one. -/
def headless : Network
  | .head, _ => .ok 405
  | .get, _ => .ok 200

/-- There the addresses of a preset are each asked for twice, and all of them can be reached. -/
theorem monochrome_asked : ∃ (style : StyleDocument Rat) (report : Report Rat),
    StyleDocument.compile Preset.monochrome (Command.urlsOf {} ⟨none, none, none⟩) = .ok style ∧
      Command.run ⟨{}, headless⟩ ⟨false, .check "Monochrome" 10 true ⟨none, none, none⟩⟩ .empty =
        (.ok report, .empty) ∧
      report.code = 0 ∧
      report.requests = (urls style.toJson).flatMap fun url =>
        [⟨.head, url, 10⟩, ⟨.get, url, 10⟩] := by
  obtain ⟨layers, _, layersCompiled, _⟩ := Theme.monochrome_compiles
  have arranged : StyleDocument.layersOf Preset.monochrome
      (Command.urlsOf {} ⟨none, none, none⟩) = .ok layers :=
    bind_eq_ok.mpr ⟨layers, layersCompiled, rfl⟩
  obtain ⟨style, compiled, _⟩ :=
    StyleDocument.succeeds_compile_iff.mpr ⟨layers, arranged, trivial⟩
  have isTheme : Preset.named "Monochrome" = (.ok Preset.monochrome : Result Rat (Theme Rat)) := rfl
  obtain ⟨followed, commanded⟩ := protocol_followed (F := Rat) headless
  obtain ⟨_, _, calls, tells⟩ := followed style.toJson
  obtain ⟨report, reported, code, made⟩ := commanded {} ⟨none, none, none⟩ "Monochrome" 10 true
    false Preset.monochrome style isTheme compiled .empty
  refine ⟨style, report, compiled, reported, ?_, ?_⟩
  · rw [code, if_neg]
    rintro ⟨check, member, notOk⟩
    have reached := (tells check member).ok_iff.mpr ⟨?_, 200, rfl, by decide⟩
    · rw [notOk] at reached
      cases reached
    · rintro words ⟨⟨method, url⟩, _, failed⟩
      cases method <;> cases failed
  · rw [made, calls, List.map_flatMap]
    rfl

end MapStyle.Reach
