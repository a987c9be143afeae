import Zeeder.Deploy.FleetRoll
import Zeeder.Deploy.ImagePin
import Zeeder.Deploy.Reports

/-! # The script's command line

The arguments name one mode, and may limit it with `--only` and turn it into a dry run. This is the
whole script: what its arguments say, and which commands it can call then. The workflow that rolls the
fleet from CI builds its arguments from two inputs that a person types in.

* **`parseArgs_ok_iff`** — which arguments are accepted, and what they mean.
* **`main_changesVms`** — a VM is changed only if the arguments ask for it.
* **`main_dryRun_isLocal`** — a dry run calls nothing outside of the operator's machine.
* **`workflow_rolls_as_asked`** — what the workflow's two inputs can do. -/

namespace Zeeder.Deploy

open Foundation

/-! ## Arguments -/

/-- The modes of the script. -/
inductive ScriptMode where
  /-- `--roll`. -/
  | roll
  /-- `--create`. -/
  | create
  /-- `--status`. -/
  | status
  /-- `--audit`. -/
  | audit
  /-- `--dns`. -/
  | dns
  deriving DecidableEq

/-- The argument that names a mode. -/
def ScriptMode.word : ScriptMode → String
  | .roll => "--roll"
  | .create => "--create"
  | .status => "--status"
  | .audit => "--audit"
  | .dns => "--dns"

/-- The mode that an argument names. -/
def scriptMode? (word : String) : Option ScriptMode :=
  if word = "--roll" then some .roll
  else if word = "--create" then some .create
  else if word = "--status" then some .status
  else if word = "--audit" then some .audit
  else if word = "--dns" then some .dns
  else none

/-- The options seen so far. -/
structure ParsedArgs where
  /-- `MODE`, empty before it is named. -/
  mode : Option ScriptMode
  /-- `ONLY`. -/
  only : String
  /-- `DRY_RUN`. -/
  dryRun : Bool

/-- Before the first argument. -/
def ParsedArgs.start : ParsedArgs := ⟨none, "", false⟩

/-- One call of the script. -/
structure Invocation where
  /-- The mode. -/
  mode : ScriptMode
  /-- The `--only` filter, empty without one. -/
  only : String
  /-- Whether it is a dry run. -/
  dryRun : Bool
  deriving DecidableEq

/-- Why parsing ends the script. -/
inductive ParseExit where
  /-- The usage was asked for; the script exits successfully. -/
  | usage
  /-- `die`. -/
  | die (message : String)
  deriving DecidableEq

/-- `parse_args`. -/
def parseArgs (parsed : ParsedArgs) : List String → Except ParseExit Invocation
  | [] =>
      match parsed.mode with
      | some mode => .ok ⟨mode, parsed.only, parsed.dryRun⟩
      | none => .error (.die "no mode provided")
  | word :: words =>
      match scriptMode? word with
      | some mode =>
          if parsed.mode.isNone then parseArgs { parsed with mode := some mode } words
          else .error (.die "only one mode may be provided")
      | none =>
          if word = "--only" then
            match words with
            | [] => .error (.die "--only requires a value")
            | value :: words => parseArgs { parsed with only := value } words
          else if word = "--dry-run" then parseArgs { parsed with dryRun := true } words
          else if word = "-h" ∨ word = "--help" then .error .usage
          else .error (.die s!"unknown argument: {word}")

/-! ## What arguments mean -/

/-- An argument with its value. -/
inductive Argument where
  /-- A mode. -/
  | mode (named : ScriptMode)
  /-- `--only` with its value, whatever it looks like. -/
  | only (value : String)
  /-- `--dry-run`. -/
  | dryRun
  deriving DecidableEq

/-- The words of an argument. -/
def Argument.words : Argument → List String
  | .mode named => [named.word]
  | .only value => ["--only", value]
  | .dryRun => ["--dry-run"]

/-- The mode that an argument names. -/
def Argument.mode? : Argument → Option ScriptMode
  | .mode named => some named
  | _ => none

/-- The value of an `--only`. -/
def Argument.only? : Argument → Option String
  | .only value => some value
  | _ => none

/-- What arguments ask for: exactly one mode, the last `--only`, and a dry run if there is any
`--dry-run`. -/
structure Asks (arguments : List Argument) (invocation : Invocation) : Prop where
  /-- The mode is named once. -/
  mode : arguments.filterMap Argument.mode? = [invocation.mode]
  /-- The last filter counts. -/
  only : invocation.only = (arguments.filterMap Argument.only?).getLastD ""
  /-- Any `--dry-run` counts. -/
  dryRun : invocation.dryRun = true ↔ .dryRun ∈ arguments

/-- What one argument does to the options. -/
def ParsedArgs.apply (parsed : ParsedArgs) : Argument → ParsedArgs
  | .mode named => { parsed with mode := some named }
  | .only value => { parsed with only := value }
  | .dryRun => { parsed with dryRun := true }

/-- Only a second mode is refused. -/
def ParsedArgs.Admits (parsed : ParsedArgs) (argument : Argument) : Prop :=
  argument.mode?.isSome → parsed.mode = none

theorem scriptMode?_word (mode : ScriptMode) : scriptMode? mode.word = some mode := by
  cases mode <;> rfl

theorem eq_word_of_scriptMode? {word : String} {mode : ScriptMode}
    (h : scriptMode? word = some mode) : word = mode.word := by
  unfold scriptMode? at h
  split_ifs at h with hroll hcreate hstatus haudit hdns
  all_goals
    obtain rfl := Option.some.inj h
    assumption

section Parse

variable {parsed : ParsedArgs} {words : List String} {invocation : Invocation}

/-- **Reading one argument**: the words that are left are read with it applied. -/
theorem parseArgs_ok_words_iff (argument : Argument) :
    parseArgs parsed (argument.words ++ words) = .ok invocation ↔
      parsed.Admits argument ∧ parseArgs (parsed.apply argument) words = .ok invocation := by
  cases argument with
  | mode named =>
      show parseArgs parsed (named.word :: words) = .ok invocation ↔ _
      rw [parseArgs.eq_def]
      dsimp only
      rw [scriptMode?_word]
      cases hmode : parsed.mode with
      | none => simp [ParsedArgs.Admits, ParsedArgs.apply, hmode, Argument.mode?]
      | some other => simp [ParsedArgs.Admits, hmode, Argument.mode?]
  | only value =>
      show parseArgs parsed ("--only" :: value :: words) = .ok invocation ↔ _
      rw [parseArgs.eq_def]
      simp [show scriptMode? "--only" = none by decide, ParsedArgs.Admits, ParsedArgs.apply, Argument.mode?]
  | dryRun =>
      show parseArgs parsed ("--dry-run" :: words) = .ok invocation ↔ _
      rw [parseArgs.eq_def]
      simp [show scriptMode? "--dry-run" = none by decide, ParsedArgs.Admits, ParsedArgs.apply, Argument.mode?]

/-- **Words that are accepted are arguments.** Induction along the parser; `--only` takes two words. -/
theorem exists_arguments_of_parseArgs (h : parseArgs parsed words = .ok invocation) :
    ∃ arguments : List Argument, words = arguments.flatMap Argument.words := by
  fun_induction parseArgs parsed words with
  | case1 parsed mode hmode => exact ⟨[], rfl⟩
  | case2 parsed hmode => cases h
  | case3 parsed word words mode hmode hnone ih =>
      obtain ⟨arguments, rfl⟩ := ih h
      refine ⟨.mode mode :: arguments, ?_⟩
      rw [eq_word_of_scriptMode? hmode]
      rfl
  | case4 => cases h
  | case5 => cases h
  | case6 parsed value words hnone ih =>
      obtain ⟨arguments, rfl⟩ := ih h
      exact ⟨.only value :: arguments, rfl⟩
  | case7 parsed words hnone hdry ih =>
      obtain ⟨arguments, rfl⟩ := ih h
      exact ⟨.dryRun :: arguments, rfl⟩
  | case8 => cases h
  | case9 => cases h

/-- Reading the words of several arguments, one by one. -/
theorem parseArgs_flatMap_iff (arguments : List Argument) :
    parseArgs parsed (arguments.flatMap Argument.words) = .ok invocation ↔
      parsed.mode.toList ++ arguments.filterMap Argument.mode? = [invocation.mode] ∧
        invocation.only = (arguments.filterMap Argument.only?).getLastD parsed.only ∧
        (invocation.dryRun = true ↔ parsed.dryRun = true ∨ .dryRun ∈ arguments) := by
  induction arguments generalizing parsed with
  | nil =>
      obtain ⟨mode, only, dryRun⟩ := parsed
      obtain ⟨named, filter, dry⟩ := invocation
      cases mode with
      | none => simp [parseArgs]
      | some mode =>
          have hdry : (dry = true ↔ dryRun = true) ↔ dryRun = dry := by
            cases dry <;> cases dryRun <;> simp
          simp [parseArgs, hdry, eq_comm]
  | cons argument arguments ih =>
      rw [List.flatMap_cons, parseArgs_ok_words_iff, ih]
      cases argument with
      | mode named =>
          cases hmode : parsed.mode with
          | none =>
              simp [ParsedArgs.Admits, ParsedArgs.apply, hmode, Argument.mode?, Argument.only?]
          | some other => simp [ParsedArgs.Admits, hmode, Argument.mode?]
      | only value =>
          -- a later filter, if there is one, replaces this one
          have hlast (values : List String) :
              (value :: values).getLastD parsed.only = values.getLastD value := by
            cases values <;> rfl
          simp only [ParsedArgs.Admits, ParsedArgs.apply, Argument.mode?, Argument.only?,
            List.filterMap_cons, hlast]
          simp
      | dryRun =>
          simp only [ParsedArgs.Admits, ParsedArgs.apply, Argument.mode?, Argument.only?,
            List.filterMap_cons]
          simp

/-- A dry run, once asked for, stays one. -/
theorem dryRun_of_parseArgs (h : parseArgs parsed words = .ok invocation)
    (hdry : parsed.dryRun = true) : invocation.dryRun = true := by
  obtain ⟨arguments, rfl⟩ := exists_arguments_of_parseArgs h
  exact ((parseArgs_flatMap_iff arguments).mp h).2.2.mpr (.inl hdry)

/-- A `--dry-run` counts wherever it stands, whatever comes after it. -/
theorem dryRun_of_mem {arguments : List Argument} (hmem : .dryRun ∈ arguments)
    (h : parseArgs parsed (arguments.flatMap Argument.words ++ words) = .ok invocation) :
    invocation.dryRun = true := by
  induction arguments generalizing parsed with
  | nil => cases hmem
  | cons argument arguments ih =>
      rw [List.flatMap_cons, List.append_assoc, parseArgs_ok_words_iff] at h
      rcases List.mem_cons.mp hmem with rfl | hmem
      · exact dryRun_of_parseArgs h.2 rfl
      · exact ih hmem h.2

end Parse

/-- **Which arguments are accepted, and what they mean**: words are accepted if and only if they are
the words of arguments among which exactly one names a mode. -/
theorem parseArgs_ok_iff {words : List String} {invocation : Invocation} :
    parseArgs .start words = .ok invocation ↔
      ∃ arguments : List Argument, words = arguments.flatMap Argument.words ∧
        Asks arguments invocation := by
  constructor
  · intro h
    obtain ⟨arguments, rfl⟩ := exists_arguments_of_parseArgs h
    obtain ⟨hmode, honly, hdry⟩ := (parseArgs_flatMap_iff arguments).mp h
    exact ⟨arguments, rfl, ⟨hmode, honly, hdry.trans (by simp [ParsedArgs.start])⟩⟩
  · rintro ⟨arguments, rfl, hasks⟩
    exact (parseArgs_flatMap_iff arguments).mpr ⟨hasks.mode, hasks.only,
      hasks.dryRun.trans (by simp [ParsedArgs.start])⟩

/-! ## The whole script -/

namespace Fleet

variable (fleet : Fleet)

/-- The fleet as one call of the script sees it. -/
def invoked (invocation : Invocation) : Fleet :=
  { fleet with only := invocation.only, dryRun := invocation.dryRun }

/-- One mode of the script. -/
def runMode (settings : CreateSettings) : ScriptMode → Shell Unit
  | .roll => fleet.roll
  | .create => fleet.create settings
  | .status => do
      let _ ← fleet.status
      pure ()
  | .audit => fleet.audit
  | .dns => do
      let _ ← fleet.dns
      pure ()

/-- `main "$@"`. -/
def main (settings : CreateSettings) (words : List String) : Shell Unit :=
  match parseArgs .start words with
  | .error .usage => pure ()
  | .error (.die message) => die message
  | .ok invocation => (fleet.invoked invocation).runMode settings invocation.mode

/-- The arguments that the deploy workflow calls the script with, from its inputs `dry_run` and
`only`. -/
def workflowArgs (dryRunInput onlyInput : String) : List String :=
  (if dryRunInput = "true" then ["--dry-run"] else [])
    ++ (if onlyInput = "" then [] else ["--only", onlyInput]) ++ ["--roll"]

/-- The commands of a mode that changes VMs: in a dry run the local ones alone, and always for the
pinned image. -/
structure MayRun (cmd : ShellCommand) : Prop where
  /-- It is local, or this is no dry run. -/
  wet : cmd.isLocal = true ∨ fleet.dryRun = false
  /-- If it is about an image, then about the pinned one. -/
  image : ∀ image, cmd.image? = some image → image = fleet.imageRef

section Calls

open Script

variable {fleet}

/-- A command that is about no image. -/
theorem mayRun_of_image? {cmd : ShellCommand} (h : cmd.image? = none)
    (hwet : cmd.isLocal = true ∨ fleet.dryRun = false) : fleet.MayRun cmd where
  wet := hwet
  image _ himage := nomatch h.symm.trans himage

theorem MayRead.mayRun {cmd : ShellCommand} (h : fleet.MayRead cmd) : fleet.MayRun cmd := by
  rcases h with ⟨name, rfl⟩ | ⟨hwet, hquery⟩
  · exact mayRun_of_image? rfl (.inl rfl)
  · exact mayRun_of_image? (image?_of_isQuery hquery) (.inr hwet)

theorem calls_runCmd {action : Action} (h : (ShellCommand.act action).image? = none) :
    Calls fleet.MayRun (fleet.runCmd action) := by
  unfold runCmd
  cases hdry : fleet.dryRun with
  | true => exact trivial
  | false => exact calls_run (mayRun_of_image? h (.inr hdry))

theorem calls_act {action : Action} (h : (ShellCommand.act action).image? = none)
    (hlocal : (ShellCommand.act action).isLocal = true) : Calls fleet.MayRun (act action) :=
  calls_run (mayRun_of_image? h (.inl hlocal))

theorem calls_renderStartupScript : Calls fleet.MayRun fleet.renderStartupScript := by
  refine (calls_run (mayRun_of_image? rfl (.inl rfl))).bind fun rendered => ?_
  refine Calls.bind (calls_run ⟨.inl rfl, ?_⟩) fun _ => trivial
  rintro image ⟨⟩
  rfl

theorem calls_verifyImage : Calls fleet.MayRun fleet.verifyImage := by
  unfold verifyImage
  cases hdry : fleet.dryRun with
  | true => exact trivial
  | false =>
      refine (calls_requireCmd (mayRun_of_image? rfl (.inl rfl))).bind fun _ => ?_
      refine Calls.bind (calls_run ⟨.inr hdry, ?_⟩) fun _ => calls_errexit _
      rintro image ⟨⟩
      rfl

/-- A command of the gate: a probe, or a wait. -/
def Waits (fleet : Fleet) (cmd : ShellCommand) : Prop :=
  fleet.MayRead cmd ∨ ∃ time, cmd = .act (.sleep time)

theorem Waits.mayRun {cmd : ShellCommand} (h : fleet.Waits cmd) : fleet.MayRun cmd := by
  rcases h with hread | ⟨time, rfl⟩
  · exact hread.mayRun
  · exact mayRun_of_image? rfl (.inl rfl)

theorem calls_gateTry {ip : String} : Calls fleet.Waits (fleet.gateTry ip) := by
  have hcount {domain : String} {tcp : Bool} :
      Calls fleet.Waits (assign (fleet.digCount ip domain tcp)) :=
    calls_assign (calls_digCount.mono fun _ => .inl)
  refine hcount.bind fun _ => hcount.bind fun _ => hcount.bind fun _ => hcount.bind fun _ => ?_
  split
  · exact trivial
  · refine Calls.bind (calls_run (.inr ⟨_, rfl⟩)) fun _ => ?_
    exact (calls_errexit _).bind fun _ => trivial

/-- **The gate** probes and waits. -/
theorem calls_gate {ip : String} : Calls fleet.Waits (fleet.gate ip) := by
  unfold gate
  split
  · exact trivial
  · refine (calls_require _ _).bind fun _ => ?_
    refine (calls_retry (fun _ => calls_gateTry) _ _).bind fun result => ?_
    cases result with
    | inl passed => exact trivial
    | inr counts =>
        dsimp only
        split <;> exact trivial

theorem calls_rollVm {vm : Seeder} : Calls fleet.MayRun (fleet.rollVm vm) := by
  have haddr : Calls fleet.MayRun (assign (fleet.addr vm.name vm.region)) :=
    calls_assign (calls_addr.mono fun _ => MayRead.mayRun)
  refine (calls_assign calls_renderStartupScript).bind fun rendered => haddr.bind fun ip => ?_
  refine (calls_assign calls_digestShort).bind fun digest => ?_
  refine (calls_runCmd rfl).bind fun _ => (calls_errexit _).bind fun _ => (calls_runCmd rfl).bind fun _ => ?_
  refine (calls_runCmd rfl).bind fun _ => (calls_errexit _).bind fun _ => ?_
  refine (calls_act rfl rfl).bind fun _ => (calls_errexit _).bind fun _ => ?_
  refine (calls_gate.mono fun _ => Waits.mayRun).bind fun _ => ?_
  exact (calls_runCmd rfl).bind fun _ => calls_errexit _

theorem calls_createVm {settings : CreateSettings} {vm : Seeder} :
    Calls fleet.MayRun (fleet.createVm settings vm) := by
  have hread {α : Type} {body : Shell α} (h : Calls fleet.MayRead body) :
      Calls fleet.MayRun (assign body) := calls_assign (h.mono fun _ => MayRead.mayRun)
  refine (hread (calls_getCmd rfl)).bind fun status => ?_
  split
  · exact trivial
  · refine (hread calls_addr).bind fun ip => (calls_require _ _).bind fun _ => ?_
    refine (calls_assign calls_renderStartupScript).bind fun rendered => ?_
    refine (calls_substitute calls_digestShort).bind fun digest => (calls_runCmd rfl).bind fun _ => ?_
    exact (calls_errexit _).bind fun _ => (calls_act rfl rfl).bind fun _ => calls_errexit _

/-- **`--roll`**: a dry run calls local commands only. -/
theorem calls_roll : Calls fleet.MayRun fleet.roll := by
  refine calls_requireTools (fun _ => mayRun_of_image? rfl (.inl rfl)) ?_
  refine (calls_auditAll.mono fun _ => MayRead.mayRun).bind fun _ => calls_verifyImage.bind fun _ => ?_
  exact calls_eachSelected fun _ => calls_rollVm

/-- **`--create`**: a dry run calls local commands only. -/
theorem calls_create {settings : CreateSettings} : Calls fleet.MayRun (fleet.create settings) := by
  refine calls_requireTools (fun _ => mayRun_of_image? rfl (.inl rfl))
    (calls_verifyImage.bind fun _ => ?_)
  exact calls_eachSelected fun _ => calls_createVm

/-- Every mode: a dry run calls local commands only. -/
theorem calls_runMode {settings : CreateSettings} {mode : ScriptMode} :
    Calls fleet.MayRun (fleet.runMode settings mode) := by
  cases mode with
  | roll => exact calls_roll
  | create => exact calls_create
  | status => exact (calls_status.mono fun _ => MayRead.mayRun).bind fun _ => trivial
  | audit => exact calls_audit.mono fun _ => MayRead.mayRun
  | dns => exact (calls_dns.mono fun _ => MayRead.mayRun).bind fun _ => trivial

/-- The modes that report only read. -/
theorem calls_runMode_of_report {settings : CreateSettings} {mode : ScriptMode}
    (hroll : mode ≠ .roll) (hcreate : mode ≠ .create) :
    Calls fleet.MayRead (fleet.runMode settings mode) := by
  cases mode with
  | roll => exact absurd rfl hroll
  | create => exact absurd rfl hcreate
  | status => exact calls_status.bind fun _ => trivial
  | audit => exact calls_audit
  | dns => exact calls_dns.bind fun _ => trivial

/-- The whole script, when its arguments turn it into a dry run or into nothing. -/
theorem calls_main_of_dryRun {settings : CreateSettings} {words : List String}
    (hdry : ∀ invocation, parseArgs .start words = .ok invocation → invocation.dryRun = true) :
    Calls (fun cmd => cmd.isLocal = true) (fleet.main settings words) := by
  unfold main
  split
  · exact trivial
  · exact trivial
  · next invocation hparse =>
      refine calls_runMode.mono fun cmd h => h.wet.resolve_right fun hwet => ?_
      exact absurd ((hdry invocation hparse).symm.trans hwet) (by decide)

/-- **A dry run calls nothing.** For every inventory, whatever the arguments are among which there is
a `--dry-run` and whatever follows them: at every moment of the run no `gcloud`, no `cosign` and no
`dig` has been called, in any mode. -/
theorem main_dryRun_isLocal (fleet : Fleet) (settings : CreateSettings) {arguments : List Argument}
    (hmem : .dryRun ∈ arguments) (words : List String) {trace : List FleetEvent} {rest : Shell Unit}
    (hreaches :
      Reaches (fleet.main settings (arguments.flatMap Argument.words ++ words)) trace rest) :
    ∀ event ∈ trace, event.1.isLocal = true :=
  (calls_main_of_dryRun fun _ hparse => dryRun_of_mem hmem hparse).of_reaches hreaches

/-- **A VM is changed only if the arguments ask for it.** For every inventory and all words on the
command line: if at some moment of the run a command has created, reset or relabelled a VM or changed
its metadata, then the words are those of arguments that name one mode, `--roll` or `--create`, and
no dry run. -/
theorem main_changesVms (fleet : Fleet) (settings : CreateSettings) (words : List String)
    {trace : List FleetEvent} {rest : Shell Unit}
    (hreaches : Reaches (fleet.main settings words) trace rest) {event : FleetEvent}
    (hevent : event ∈ trace) (hmutates : event.1.mutatesVm = true) :
    ∃ arguments invocation, words = arguments.flatMap Argument.words ∧ Asks arguments invocation ∧
      (invocation.mode = .roll ∨ invocation.mode = .create) ∧ .dryRun ∉ arguments := by
  -- otherwise every command of the run only reads
  have hread {P : ShellCommand → Prop} (hcalls : Calls P (fleet.main settings words))
      (hP : ∀ cmd, P cmd → cmd.mutatesVm = false) : False := by
    have := hP _ (hcalls.of_reaches hreaches event hevent)
    exact absurd (hmutates.symm.trans this) (by decide)
  cases hparse : parseArgs .start words with
  | error early =>
      refine (hread (P := fun _ => False) ?_ fun _ h => h.elim).elim
      unfold main
      rw [hparse]
      cases early <;> exact trivial
  | ok invocation =>
      obtain ⟨arguments, hwords, hasks⟩ := parseArgs_ok_iff.mp hparse
      have hmain : fleet.main settings words
          = (fleet.invoked invocation).runMode settings invocation.mode := by
        unfold main
        rw [hparse]
      refine ⟨arguments, invocation, hwords, hasks, ?_, fun hdry => ?_⟩
      · by_contra hmode
        obtain ⟨hroll, hcreate⟩ := not_or.mp hmode
        refine hread (P := (fleet.invoked invocation).MayRead) ?_ fun _ => MayRead.mutatesVm
        rw [hmain]
        exact calls_runMode_of_report hroll hcreate
      · refine hread (calls_main_of_dryRun fun other hother => ?_) fun _ => mutatesVm_of_isLocal
        cases hparse.symm.trans hother
        exact hasks.dryRun.mpr hdry

/-- What the workflow's arguments say. -/
theorem parseArgs_workflowArgs (dryRunInput onlyInput : String) :
    parseArgs .start (workflowArgs dryRunInput onlyInput)
      = .ok ⟨.roll, onlyInput, decide (dryRunInput = "true")⟩ := by
  refine parseArgs_ok_iff.mpr ⟨(if dryRunInput = "true" then [.dryRun] else [])
    ++ (if onlyInput = "" then [] else [.only onlyInput]) ++ [.mode .roll], ?_, ?_⟩
  · by_cases hdry : dryRunInput = "true" <;> by_cases honly : onlyInput = "" <;>
      simp [workflowArgs, hdry, honly, Argument.words, ScriptMode.word]
  · refine ⟨by split_ifs <;> rfl, ?_, by split_ifs with hdry <;> simp [hdry]⟩
    by_cases honly : onlyInput = ""
    · rw [if_pos honly]
      split_ifs <;> exact honly
    · rw [if_neg honly]
      split_ifs <;> rfl

/-- The VMs that a call of the script selects. -/
theorem selectedSeeders_invoked (fleet : Fleet) (invocation : Invocation) :
    (fleet.invoked invocation).selectedSeeders = fleet.seeders.filter fun vm =>
      invocation.only = "" ∨ invocation.only = vm.name ∨ invocation.only = vm.ns := by
  refine List.filter_congr fun vm _ => ?_
  simp only [selected, invoked, beq_eq_decide, Bool.decide_or, Bool.or_assoc]

/-- **What the workflow's inputs can do.** For every inventory and everything that can be typed into
the two inputs, also text that looks like an option: the run is a roll, with the filter that was typed
in; with the input `dry_run` set it calls no `gcloud`, no `cosign` and no `dig`; without it the roll is
safe at every moment, and once it is over it has reset exactly the VMs whose name or nameserver is the
filter, or all of them if that is empty. -/
theorem workflow_rolls_as_asked (fleet : Fleet) (settings : CreateSettings)
    (dryRunInput onlyInput : String) {trace : List FleetEvent} {rest : Shell Unit}
    (hreaches :
      Reaches (fleet.main settings (workflowArgs dryRunInput onlyInput)) trace rest) :
    Reaches (fleet.invoked ⟨.roll, onlyInput, decide (dryRunInput = "true")⟩).roll trace rest ∧
      (dryRunInput = "true" → ∀ event ∈ trace, event.1.isLocal = true) ∧
      (dryRunInput ≠ "true" → (fleet.invoked ⟨.roll, onlyInput, false⟩).RollSafe trace ∧
        (rest = .done () → resets trace = (fleet.seeders.filter fun vm =>
          onlyInput = "" ∨ onlyInput = vm.name ∨ onlyInput = vm.ns).map Seeder.vmId)) := by
  have hparse := parseArgs_workflowArgs dryRunInput onlyInput
  have hroll : Reaches (fleet.invoked ⟨.roll, onlyInput, decide (dryRunInput = "true")⟩).roll trace
      rest := by
    unfold main at hreaches
    rwa [hparse] at hreaches
  refine ⟨hroll, fun hdry => ?_, fun hwet => ?_⟩
  · refine (calls_main_of_dryRun fun invocation hother => ?_).of_reaches hreaches
    cases hparse.symm.trans hother
    exact decide_eq_true hdry
  · rw [decide_eq_false hwet] at hroll
    refine ⟨AllAllowed.rollSafe fun _ _ _ htrace => allowed_of_reaches (wp_roll rfl) hroll htrace, ?_⟩
    rintro rfl
    rw [resets_of_done _ rfl hroll, selectedSeeders_invoked]

end Calls

/-! ## Calls of the script on the example's fleet -/

/-- A dry run calls something, and nothing outside. -/
theorem main_dryRun_isLocal_exampleFleet : ∃ trace rest,
    Script.Reaches (exampleFleet.main exampleSettings ["--dry-run", "--only", "ns2", "--create"])
      trace rest ∧ trace ≠ [] ∧ ∀ event ∈ trace, event.1.isLocal = true := by
  have hdry : Argument.dryRun ∈ [.dryRun, .only "ns2"] := by decide
  have hstart : Script.Reaches (exampleFleet.main exampleSettings
      ["--dry-run", "--only", "ns2", "--create"]) [] _ := .start
  have hreach := hstart.follow exampleAnswer 60
  exact ⟨_, _, hreach, by decide +kernel,
    main_dryRun_isLocal exampleFleet exampleSettings hdry ["--create"] hreach⟩

/-- A roll of one VM changes it, and was asked for. -/
theorem main_changesVms_exampleFleet :
    ∃ arguments invocation, ["--only", "ns2", "--roll"] = arguments.flatMap Argument.words ∧
      Asks arguments invocation ∧ (invocation.mode = .roll ∨ invocation.mode = .create) ∧
      .dryRun ∉ arguments := by
  have hchanged : ∃ event ∈ (Script.follow exampleAnswer 60 []
      (exampleFleet.main exampleSettings ["--only", "ns2", "--roll"])).1,
      event.1.mutatesVm = true := by decide +kernel
  obtain ⟨event, hevent, hmutates⟩ := hchanged
  exact main_changesVms exampleFleet exampleSettings ["--only", "ns2", "--roll"]
    (Script.Reaches.start.follow exampleAnswer 60) hevent hmutates

/-- Two runs of the workflow. A filter that looks like an option selects no VM, and the roll resets none;
one that names a nameserver selects its VM, and the roll is over when that was reset. -/
theorem workflow_rolls_as_asked_exampleFleet :
    (exampleFleet.invoked ⟨.roll, "--create", false⟩).RollSafe (Script.follow exampleAnswer 60 []
        (exampleFleet.main exampleSettings (workflowArgs "false" "--create"))).1 ∧
      ∃ trace, Script.Reaches (exampleFleet.invoked ⟨.roll, "ns2", false⟩).roll trace (.done ()) ∧
        resets trace = [("seeder-2", "us-east1-b")] := by
  have hcreate := workflow_rolls_as_asked exampleFleet exampleSettings "false" "--create"
    (Script.Reaches.start.follow exampleAnswer 60)
  have hstart : Script.Reaches (exampleFleet.main exampleSettings (workflowArgs "false" "ns2")) [] _ :=
    .start
  have hreach := hstart.follow exampleAnswer 60
  have hdone : (Script.follow exampleAnswer 60 []
      (exampleFleet.main exampleSettings (workflowArgs "false" "ns2"))).2 = .done () :=
    Script.eq_done_of_value? (by decide +kernel)
  rw [hdone] at hreach
  obtain ⟨hroll, -, hwet⟩ := workflow_rolls_as_asked exampleFleet exampleSettings "false" "ns2" hreach
  refine ⟨(hcreate.2.2 (by decide)).1, _, hroll, ?_⟩
  rw [(hwet (by decide)).2 rfl]
  decide +kernel

end Fleet

end Zeeder.Deploy
