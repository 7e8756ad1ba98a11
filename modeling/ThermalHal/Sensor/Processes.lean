import ThermalHal.Sensor.Shutdown

/-!
# The processes of a power-off

`requestSystemPoweroff` forks a launcher, the launcher forks once more and exits at once, and
its child becomes `systemctl`. The service waits for the launcher only. The three processes run
at the same time, and signals may end the two new ones at any point.

The service sees the launcher through its exit status alone. `requestSystemPoweroff`, which is
given that status by its environment, is what the service does in every interleaving
(`poweroff_refines`); and the flag is cleared only when no `systemctl` was or will be started
(`poweroff_processes`), so that a new attempt never adds a second one.

## Main definitions

* `PoweroffProcesses`, `processes` — the three processes as one machine.
* `PoweroffProcesses.Sound` — which positions occur together.
* `poweroff_processes`, `poweroff_refines`, `poweroff_returns` — over every run.
-/

namespace ThermalHal

open Lib

def kSystemctlPath : String := "/bin/systemctl"
def kSystemctlPoweroffArgument : String := "poweroff"
def kSystemctlNoBlockArgument : String := "--no-block"

/-! ## The machine -/

/-- Where the service is in `requestSystemPoweroff`. -/
inductive RequestPhase
  | checking
  | forking
  | waiting
  | returned
  deriving DecidableEq

/-- Where the launcher is: it forks, it exits with a code, and it is a zombie until it is
reaped. -/
inductive LauncherPhase
  | notStarted
  | forking
  | exiting (code : ℕ)
  | ended (status : LauncherStatus)
  | reaped (status : LauncherStatus)
  deriving DecidableEq

/-- Where the launcher's child is. A process that `execl` has replaced runs other code. -/
inductive SystemctlPhase
  | notStarted
  | launching
  | replaced
  | failing
  | ended
  deriving DecidableEq

/-- The processes, and the flag of the service. -/
structure PoweroffProcesses where
  parent : RequestPhase
  launcher : LauncherPhase
  systemctl : SystemctlPhase
  shutdownScheduled : Bool
  deriving DecidableEq

/-- One step of one process, with what the system answers; the last two are signals. -/
inductive ProcessStep
  | access (ok : Bool)
  | fork (result : ForkResult)
  | waitpidInterrupted
  | waitpidFailed
  | waitpid
  | launcherFork (ok : Bool)
  | launcherExit
  | execl (ok : Bool)
  | systemctlExit
  | killLauncher (signal : ℕ)
  | killSystemctl
  deriving DecidableEq

/-- A call of the service, or the `execl` of the launcher's child. -/
inductive ProcessEffect
  | parent (effect : Effect)
  | execl (path : String) (argv : List String) (ok : Bool)
  deriving DecidableEq

/-- The flag after the launcher is reaped. -/
def flagAfterReap (scheduled : Bool) : LauncherStatus → Bool
  | .exited 0 => scheduled
  | .exited _ => false
  | .signaled _ => scheduled
  | .other => scheduled

/-- The processes, each going through its part of the function. A step that is not the next one
of its process changes nothing, and `waitpid` blocks until the launcher has ended. -/
def processes : Machine PoweroffProcesses ProcessStep ProcessEffect where
  step p
    | .access ok =>
        match p.parent, ok with
        | .checking, true =>
            ({ p with parent := .forking },
              [.parent .requestSystemPoweroff, .parent (.access true)])
        | .checking, false =>
            ({ p with parent := .returned },
              [.parent .requestSystemPoweroff, .parent (.access false)])
        | _, _ => (p, [])
    | .fork result =>
        match p.parent, result with
        | .forking, .failed =>
            ({ p with parent := .returned, shutdownScheduled := false }, [.parent (.fork .failed)])
        | .forking, .child pid =>
            ({ p with parent := .waiting, launcher := .forking }, [.parent (.fork (.child pid))])
        | _, _ => (p, [])
    | .waitpidInterrupted =>
        match p.parent with
        | .waiting => (p, [.parent .waitpidInterrupted])
        | _ => (p, [])
    | .waitpidFailed =>
        match p.parent with
        | .waiting => ({ p with parent := .returned }, [.parent (.waitpid .failed)])
        | _ => (p, [])
    | .waitpid =>
        match p.parent, p.launcher with
        | .waiting, .ended status =>
            ({ p with
                parent := .returned
                launcher := .reaped status
                shutdownScheduled := flagAfterReap p.shutdownScheduled status },
              [.parent (.waitpid (.reaped status))])
        | _, _ => (p, [])
    | .launcherFork ok =>
        match p.launcher, ok with
        | .forking, true => ({ p with launcher := .exiting 0, systemctl := .launching }, [])
        | .forking, false => ({ p with launcher := .exiting 127 }, [])
        | _, _ => (p, [])
    | .launcherExit =>
        match p.launcher with
        | .exiting code => ({ p with launcher := .ended (.exited code) }, [])
        | _ => (p, [])
    | .execl ok =>
        match p.systemctl with
        | .launching =>
            ({ p with systemctl := if ok then .replaced else .failing },
              [.execl kSystemctlPath
                [kSystemctlPath, kSystemctlNoBlockArgument, kSystemctlPoweroffArgument] ok])
        | _ => (p, [])
    | .systemctlExit =>
        match p.systemctl with
        | .failing => ({ p with systemctl := .ended }, [])
        | _ => (p, [])
    | .killLauncher signal =>
        match p.launcher with
        | .forking => ({ p with launcher := .ended (.signaled signal) }, [])
        | .exiting _ => ({ p with launcher := .ended (.signaled signal) }, [])
        | _ => (p, [])
    | .killSystemctl =>
        match p.systemctl with
        | .notStarted => (p, [])
        | _ => ({ p with systemctl := .ended }, [])

/-- The request is made with the flag set. -/
def PoweroffProcesses.start : PoweroffProcesses := ⟨.checking, .notStarted, .notStarted, true⟩

/-! ## The moves -/

/-- **What one step can do.** -/
inductive ProcessMove : PoweroffProcesses → PoweroffProcesses → List ProcessEffect → Prop
  | stay {p} : ProcessMove p p []
  | accessible {p} (h : p.parent = .checking) :
      ProcessMove p { p with parent := .forking }
        [.parent .requestSystemPoweroff, .parent (.access true)]
  | inaccessible {p} (h : p.parent = .checking) :
      ProcessMove p { p with parent := .returned }
        [.parent .requestSystemPoweroff, .parent (.access false)]
  | forkFailed {p} (h : p.parent = .forking) :
      ProcessMove p { p with parent := .returned, shutdownScheduled := false }
        [.parent (.fork .failed)]
  | forked {p} (pid : ℕ) (h : p.parent = .forking) :
      ProcessMove p { p with parent := .waiting, launcher := .forking }
        [.parent (.fork (.child pid))]
  | interrupted {p} (h : p.parent = .waiting) :
      ProcessMove p p [.parent .waitpidInterrupted]
  | waitFailed {p} (h : p.parent = .waiting) :
      ProcessMove p { p with parent := .returned } [.parent (.waitpid .failed)]
  | reaped {p} (status : LauncherStatus) (h : p.parent = .waiting)
      (hlauncher : p.launcher = .ended status) :
      ProcessMove p
        { p with
          parent := .returned
          launcher := .reaped status
          shutdownScheduled := flagAfterReap p.shutdownScheduled status }
        [.parent (.waitpid (.reaped status))]
  | launched {p} (h : p.launcher = .forking) :
      ProcessMove p { p with launcher := .exiting 0, systemctl := .launching } []
  | notLaunched {p} (h : p.launcher = .forking) :
      ProcessMove p { p with launcher := .exiting 127 } []
  | exited {p} (code : ℕ) (h : p.launcher = .exiting code) :
      ProcessMove p { p with launcher := .ended (.exited code) } []
  | executed {p} (ok : Bool) (h : p.systemctl = .launching) :
      ProcessMove p { p with systemctl := if ok then .replaced else .failing }
        [.execl kSystemctlPath
          [kSystemctlPath, kSystemctlNoBlockArgument, kSystemctlPoweroffArgument] ok]
  | killedLauncher {p} (signal : ℕ)
      (h : p.launcher = .forking ∨ ∃ code, p.launcher = .exiting code) :
      ProcessMove p { p with launcher := .ended (.signaled signal) } []
  | endedSystemctl {p} (h : p.systemctl ≠ .notStarted) :
      ProcessMove p { p with systemctl := .ended } []

theorem processMove (p : PoweroffProcesses) (step : ProcessStep) :
    ProcessMove p (processes.next p step) (processes.emit p step) := by
  cases step with
  | access ok =>
    cases hp : p.parent <;> cases ok <;>
      simp only [Machine.next, Machine.emit, processes, hp] <;>
      first | exact .stay | exact .accessible hp | exact .inaccessible hp
  | fork result =>
    cases hp : p.parent <;> cases result <;>
      simp only [Machine.next, Machine.emit, processes, hp] <;>
      first | exact .stay | exact .forkFailed hp | exact .forked _ hp
  | waitpidInterrupted =>
    cases hp : p.parent <;> simp only [Machine.next, Machine.emit, processes, hp] <;>
      first | exact .stay | exact .interrupted hp
  | waitpidFailed =>
    cases hp : p.parent <;> simp only [Machine.next, Machine.emit, processes, hp] <;>
      first | exact .stay | exact .waitFailed hp
  | waitpid =>
    cases hp : p.parent <;> cases hl : p.launcher <;>
      simp only [Machine.next, Machine.emit, processes, hp, hl] <;>
      first | exact .stay | exact .reaped _ hp hl
  | launcherFork ok =>
    cases hl : p.launcher <;> cases ok <;>
      simp only [Machine.next, Machine.emit, processes, hl] <;>
      first | exact .stay | exact .launched hl | exact .notLaunched hl
  | launcherExit =>
    cases hl : p.launcher <;> simp only [Machine.next, Machine.emit, processes, hl] <;>
      first | exact .stay | exact .exited _ hl
  | execl ok =>
    cases hs : p.systemctl <;> simp only [Machine.next, Machine.emit, processes, hs] <;>
      first | exact .stay | exact .executed ok hs
  | systemctlExit =>
    cases hs : p.systemctl <;> simp only [Machine.next, Machine.emit, processes, hs] <;>
      first | exact .stay | exact .endedSystemctl (by simp [hs])
  | killLauncher signal =>
    cases hl : p.launcher <;> simp only [Machine.next, Machine.emit, processes, hl] <;>
      first
        | exact .stay
        | exact .killedLauncher signal (Or.inl hl)
        | exact .killedLauncher signal (Or.inr ⟨_, hl⟩)
  | killSystemctl =>
    cases hs : p.systemctl <;> simp only [Machine.next, Machine.emit, processes, hs] <;>
      first | exact .stay | exact .endedSystemctl (by simp [hs])

/-! ## Positions that occur together -/

/-- The second fork may have succeeded. -/
def LauncherPhase.MayHaveLaunched : LauncherPhase → Prop
  | .exiting code => code = 0
  | .ended (.exited code) => code = 0
  | .reaped (.exited code) => code = 0
  | .ended (.signaled _) => True
  | .reaped (.signaled _) => True
  | _ => False

/-- The ends the launcher comes to: exit code 0 or 127, or a signal. -/
inductive LauncherEnd : LauncherStatus → Prop
  | launched : LauncherEnd (.exited 0)
  | notLaunched : LauncherEnd (.exited 127)
  | signaled (signal : ℕ) : LauncherEnd (.signaled signal)

/-- The launcher has come or comes to one of them. -/
def LauncherPhase.Regular : LauncherPhase → Prop
  | .exiting code => code = 0 ∨ code = 127
  | .ended status => LauncherEnd status
  | .reaped status => LauncherEnd status
  | _ => True

namespace PoweroffProcesses

/-- The launcher belongs to the position of the service, and its child to the launcher; the
flag has been cleared only if no child was started. -/
structure Sound (p : PoweroffProcesses) : Prop where
  launched : p.systemctl ≠ .notStarted → p.launcher.MayHaveLaunched
  regular : p.launcher.Regular
  before : p.parent = .checking ∨ p.parent = .forking →
    p.launcher = .notStarted ∧ p.shutdownScheduled = true
  waiting : p.parent = .waiting → p.launcher ≠ .notStarted ∧
    (∀ status, p.launcher ≠ .reaped status) ∧ p.shutdownScheduled = true
  cleared : p.shutdownScheduled = false →
    p.launcher = .notStarted ∨ ∃ code, code ≠ 0 ∧ p.launcher = .reaped (.exited code)

variable {p : PoweroffProcesses}

theorem sound_start : Sound start where
  launched h := absurd rfl h
  regular := trivial
  before _ := ⟨rfl, rfl⟩
  waiting h := by cases h
  cleared h := by cases h

/-- Without a launcher that may have forked there is no child. -/
theorem Sound.systemctl_eq (h : p.Sound) (hlauncher : ¬ p.launcher.MayHaveLaunched) :
    p.systemctl = .notStarted := by
  by_contra hne
  exact hlauncher (h.launched hne)

/-- **Once the flag is cleared there is no child.** -/
theorem Sound.systemctl_of_cleared (h : p.Sound) (hflag : p.shutdownScheduled = false) :
    p.systemctl = .notStarted := by
  rcases h.cleared hflag with hnone | ⟨code, hcode, hreaped⟩
  · exact h.systemctl_eq (by simp [hnone, LauncherPhase.MayHaveLaunched])
  · exact h.systemctl_eq (by simp [hreaped, LauncherPhase.MayHaveLaunched, hcode])

/-- A launcher that is running has not been reaped, so the flag is set. -/
theorem Sound.flag_of_running (h : p.Sound) (hstarted : p.launcher ≠ .notStarted)
    (hreaped : ∀ status, p.launcher ≠ .reaped status) : p.shutdownScheduled = true := by
  by_contra hflag
  rcases h.cleared (by simpa using hflag) with hnone | ⟨code, -, hcode⟩
  · exact hstarted hnone
  · exact hreaped _ hcode

/-- A launcher that is running belongs to a service that has forked it. -/
theorem Sound.not_before (h : p.Sound) (hstarted : p.launcher ≠ .notStarted) :
    ¬ (p.parent = .checking ∨ p.parent = .forking) :=
  fun hbefore => hstarted (h.before hbefore).1

/-- **Every step keeps the positions together.** -/
theorem sound_next (h : p.Sound) (step : ProcessStep) : (processes.next p step).Sound := by
  have hmove := processMove p step
  generalize processes.next p step = p', processes.emit p step = effects at hmove ⊢
  cases hmove with
  | stay | interrupted => exact h
  | accessible hp =>
    exact ⟨h.launched, h.regular, fun _ => h.before (Or.inl hp), by simp, h.cleared⟩
  | inaccessible hp => exact ⟨h.launched, h.regular, by simp, by simp, h.cleared⟩
  | forkFailed hp =>
    exact ⟨h.launched, h.regular, by simp, by simp, fun _ => Or.inl (h.before (Or.inr hp)).1⟩
  | forked pid hp =>
    obtain ⟨hlauncher, hflag⟩ := h.before (Or.inr hp)
    have hnone := h.systemctl_eq (by simp [hlauncher, LauncherPhase.MayHaveLaunched])
    exact ⟨fun hne => absurd hnone hne, trivial, by simp, fun _ => ⟨by simp, by simp, hflag⟩,
      by simp [hflag]⟩
  | waitFailed hp => exact ⟨h.launched, h.regular, by simp, by simp, h.cleared⟩
  | reaped status hp hlauncher =>
    have hflag := (h.waiting hp).2.2
    have hend : LauncherEnd status := by simpa [hlauncher, LauncherPhase.Regular] using h.regular
    have hlaunched := h.launched
    rw [hlauncher] at hlaunched
    refine ⟨fun hne => ?_, hend, by simp, by simp, fun hcleared => ?_⟩
    · cases hend <;> exact hlaunched hne
    · cases hend with
      | launched => simp [flagAfterReap, hflag] at hcleared
      | notLaunched => exact Or.inr ⟨127, by omega, rfl⟩
      | signaled signal => simp [flagAfterReap, hflag] at hcleared
  | launched hl =>
    have hflag := h.flag_of_running (by simp [hl]) (by simp [hl])
    exact ⟨fun _ => rfl, Or.inl rfl, fun hb => absurd hb (h.not_before (by simp [hl])),
      fun _ => ⟨by simp, by simp, hflag⟩, by simp [hflag]⟩
  | notLaunched hl =>
    have hflag := h.flag_of_running (by simp [hl]) (by simp [hl])
    have hnone := h.systemctl_eq (by simp [hl, LauncherPhase.MayHaveLaunched])
    exact ⟨fun hne => absurd hnone hne, Or.inr rfl,
      fun hb => absurd hb (h.not_before (by simp [hl])), fun _ => ⟨by simp, by simp, hflag⟩,
      by simp [hflag]⟩
  | exited code hl =>
    have hflag := h.flag_of_running (by simp [hl]) (by simp [hl])
    have hcode : code = 0 ∨ code = 127 := by simpa [hl, LauncherPhase.Regular] using h.regular
    have hlaunched := h.launched
    rw [hl] at hlaunched
    refine ⟨hlaunched, ?_, fun hb => absurd hb (h.not_before (by simp [hl])),
      fun _ => ⟨by simp, by simp, hflag⟩, by simp [hflag]⟩
    rcases hcode with rfl | rfl
    · exact .launched
    · exact .notLaunched
  | executed ok hs =>
    exact ⟨fun _ => h.launched (by simp [hs]), h.regular, h.before, h.waiting, h.cleared⟩
  | killedLauncher signal hl =>
    have hrunning : p.launcher ≠ .notStarted ∧ ∀ status, p.launcher ≠ .reaped status := by
      rcases hl with hl | ⟨code, hl⟩ <;> simp [hl]
    have hflag := h.flag_of_running hrunning.1 hrunning.2
    exact ⟨fun _ => trivial, .signaled signal, fun hb => absurd hb (h.not_before hrunning.1),
      fun _ => ⟨by simp, by simp, hflag⟩, by simp [hflag]⟩
  | endedSystemctl hs => exact ⟨fun _ => h.launched hs, h.regular, h.before, h.waiting, h.cleared⟩

theorem sound_state (steps : List ProcessStep) : (processes.state start steps).Sound :=
  Machine.invariant (P := Sound) (fun _ step hp => sound_next hp step) sound_start steps

/-- The flag stays cleared. -/
theorem cleared_next (h : p.Sound) (hflag : p.shutdownScheduled = false) (step : ProcessStep) :
    (processes.next p step).shutdownScheduled = false := by
  have hmove := processMove p step
  generalize processes.next p step = p', processes.emit p step = effects at hmove ⊢
  cases hmove with
  | reaped status hp hlauncher =>
    rw [(h.waiting hp).2.2] at hflag
    contradiction
  | forkFailed => rfl
  | _ => exact hflag

end PoweroffProcesses

/-! ## `systemctl` -/

/-- The `execl` calls of a run. -/
def execls (log : List ProcessEffect) : List ProcessEffect :=
  log.filter fun
    | .execl _ _ _ => true
    | .parent _ => false

/-- The call the launcher's child makes. -/
def systemctlCall (ok : Bool) : ProcessEffect :=
  .execl kSystemctlPath
    [kSystemctlPath, kSystemctlNoBlockArgument, kSystemctlPoweroffArgument] ok

/-- How often `execl` may still be called. -/
def SystemctlPhase.ahead : SystemctlPhase → ℕ
  | .notStarted => 1
  | .launching => 1
  | _ => 0

theorem execls_emit (p : PoweroffProcesses) (step : ProcessStep) :
    execls (processes.emit p step) = [] ∨
      p.systemctl = .launching ∧ ∃ ok, execls (processes.emit p step) = [systemctlCall ok] := by
  have hmove := processMove p step
  generalize processes.next p step = p', processes.emit p step = effects at hmove ⊢
  cases hmove with
  | executed ok hs => exact Or.inr ⟨hs, ok, rfl⟩
  | _ => exact Or.inl rfl

/-- Each step uses up what may still be called. -/
theorem execls_next {p : PoweroffProcesses} (h : p.Sound) (step : ProcessStep) :
    (execls (processes.emit p step)).length + (processes.next p step).systemctl.ahead ≤
      p.systemctl.ahead := by
  have hmove := processMove p step
  generalize processes.next p step = p', processes.emit p step = effects at hmove ⊢
  cases hmove with
  | executed ok hs => cases ok <;> simp [hs, execls, SystemctlPhase.ahead]
  | launched hl =>
    have hnone := h.systemctl_eq (by simp [hl, LauncherPhase.MayHaveLaunched])
    simp [hnone, execls, SystemctlPhase.ahead]
  | endedSystemctl hs => simp [execls, SystemctlPhase.ahead]
  | _ => simp [execls]

/-- A child that has been started stays so. -/
theorem started_next {p : PoweroffProcesses} (h : p.systemctl ≠ .notStarted)
    (step : ProcessStep) : (processes.next p step).systemctl ≠ .notStarted := by
  have hmove := processMove p step
  generalize processes.next p step = p', processes.emit p step = effects at hmove ⊢
  cases hmove with
  | executed ok hs => cases ok <;> simp
  | launched | endedSystemctl => simp
  | _ => exact h

/-- The `execl` calls of a run: at most the one call, and only of a child. -/
structure Launches (log : List ProcessEffect) (p : PoweroffProcesses) : Prop where
  sound : p.Sound
  length_le : (execls log).length + p.systemctl.ahead ≤ 1
  calls : ∀ effect ∈ execls log, ∃ ok, effect = systemctlCall ok
  started : execls log ≠ [] → p.systemctl ≠ .notStarted

theorem launches_state (steps : List ProcessStep) :
    Launches (processes.trace .start steps) (processes.state .start steps) := by
  refine Machine.trace_induction (P := Launches) ?_ ?_ steps
  · exact ⟨PoweroffProcesses.sound_start,
      by simp [execls, SystemctlPhase.ahead, PoweroffProcesses.start],
      by simp [execls], by simp [execls]⟩
  · intro log p step h
    have hlength := execls_next h.sound step
    have hsound := PoweroffProcesses.sound_next h.sound step
    have happend : execls (log ++ processes.emit p step) =
        execls log ++ execls (processes.emit p step) := List.filter_append ..
    rcases execls_emit p step with hnone | ⟨hlaunching, ok, hcall⟩
    · rw [hnone, List.append_nil] at happend
      rw [hnone, List.length_nil, Nat.zero_add] at hlength
      have hle := h.length_le
      exact ⟨hsound, by rw [happend]; omega, by rw [happend]; exact h.calls,
        fun hne => started_next (h.started (happend ▸ hne)) step⟩
    · -- the child is about to make its call, so none has been made before
      have hle := h.length_le
      rw [hlaunching] at hle
      have hempty : execls log = [] := List.length_eq_zero_iff.mp (by
        simp only [SystemctlPhase.ahead] at hle
        omega)
      rw [hempty, List.nil_append, hcall] at happend
      rw [hcall, hlaunching] at hlength
      exact ⟨hsound, by rw [happend]; exact hlength,
        fun effect he => ⟨ok, by simpa [happend] using he⟩,
        fun _ => started_next (by simp [hlaunching]) step⟩

/-- **One `systemctl`.** In every interleaving `execl` is called at most once, and with the
fixed path and arguments. Once the flag has been cleared it has not been called, and is not
called in any continuation, so the attempt that the cleared flag allows is the only one. -/
theorem poweroff_processes (steps : List ProcessStep) :
    (execls (processes.trace .start steps) = [] ∨
        ∃ ok, execls (processes.trace .start steps) = [systemctlCall ok]) ∧
      ((processes.state .start steps).shutdownScheduled = false →
        ∀ more, execls (processes.trace .start (steps ++ more)) = []) := by
  constructor
  · have h := launches_state steps
    cases hlog : execls (processes.trace .start steps) with
    | nil => exact Or.inl rfl
    | cons call rest =>
      have hle := h.length_le
      rw [hlog, List.length_cons] at hle
      have hrest : rest = [] := List.length_eq_zero_iff.mp (by omega)
      obtain ⟨ok, hcall⟩ := h.calls call (by simp [hlog])
      exact Or.inr ⟨ok, by rw [hrest, hcall]⟩
  · intro hflag more
    have hcleared : (processes.state .start (steps ++ more)).Sound ∧
        (processes.state .start (steps ++ more)).shutdownScheduled = false := by
      rw [Machine.state_append]
      exact Machine.invariant
        (P := fun p : PoweroffProcesses => p.Sound ∧ p.shutdownScheduled = false)
        (fun p step hp => ⟨PoweroffProcesses.sound_next hp.1 step,
          PoweroffProcesses.cleared_next hp.1 hp.2 step⟩)
        ⟨PoweroffProcesses.sound_state steps, hflag⟩ more
    have h := launches_state (steps ++ more)
    by_contra hne
    exact h.started hne (hcleared.1.systemctl_of_cleared hcleared.2)

/-! ## What the service does -/

/-- The calls of the service. -/
def parentCalls (log : List ProcessEffect) : List Effect :=
  log.filterMap fun
    | .parent effect => some effect
    | .execl _ _ _ => none

theorem reapLauncher_eq (interrupts : ℕ) (reap : ReapResult) :
    reapLauncher interrupts reap =
      List.replicate interrupts .waitpidInterrupted ++ [.waitpid reap] := by
  induction interrupts with
  | zero => rfl
  | succ n ih => rw [reapLauncher, ih, List.replicate_succ, List.cons_append]

/-- What the environment tells the service is what has become of the launcher. -/
structure PoweroffEnvironment.Tells (env : PoweroffEnvironment) (p : PoweroffProcesses) :
    Prop where
  forked : p.launcher ≠ .notStarted → env.accessible = true ∧ ∃ pid, env.fork = .child pid
  reaped : env.accessible = true → (∃ pid, env.fork = .child pid) → ∀ status,
    env.reap = .reaped status → p.launcher = .reaped status

/-- The calls of the service so far, by its position. -/
inductive RequestLog (p : PoweroffProcesses) : List Effect → Prop
  | checking (h : p.parent = .checking) : RequestLog p []
  | forking (h : p.parent = .forking) : RequestLog p [.requestSystemPoweroff, .access true]
  | waiting (h : p.parent = .waiting) (pid interrupts : ℕ) :
      RequestLog p (.requestSystemPoweroff :: .access true :: .fork (.child pid) ::
        List.replicate interrupts .waitpidInterrupted)
  | returned (h : p.parent = .returned) (env : PoweroffEnvironment) (henv : env.Tells p)
      (calls : List Effect)
      (hcalls : ∀ s : ThermalSensor,
        requestSystemPoweroff env { s with shutdownScheduled := true } =
          ({ s with shutdownScheduled := p.shutdownScheduled }, calls)) : RequestLog p calls

theorem RequestLog.eq_of_checking {p : PoweroffProcesses} {calls : List Effect}
    (hlog : RequestLog p calls) (h : p.parent = .checking) : calls = [] := by
  cases hlog with
  | checking => rfl
  | forking hp | waiting hp | returned hp =>
    rw [h] at hp
    contradiction

theorem RequestLog.eq_of_forking {p : PoweroffProcesses} {calls : List Effect}
    (hlog : RequestLog p calls) (h : p.parent = .forking) :
    calls = [.requestSystemPoweroff, .access true] := by
  cases hlog with
  | forking => rfl
  | checking hp | waiting hp | returned hp =>
    rw [h] at hp
    contradiction

theorem RequestLog.exists_of_waiting {p : PoweroffProcesses} {calls : List Effect}
    (hlog : RequestLog p calls) (h : p.parent = .waiting) :
    ∃ pid interrupts, calls = .requestSystemPoweroff :: .access true :: .fork (.child pid) ::
      List.replicate interrupts .waitpidInterrupted := by
  cases hlog with
  | waiting _ pid interrupts => exact ⟨pid, interrupts, rfl⟩
  | checking hp | forking hp | returned hp =>
    rw [h] at hp
    contradiction

/-- The steps of the other processes leave the calls of the service as they are. -/
theorem RequestLog.of_others {p p' : PoweroffProcesses} {calls : List Effect}
    (hlog : RequestLog p calls) (hparent : p'.parent = p.parent)
    (hflag : p'.shutdownScheduled = p.shutdownScheduled)
    (hstarted : p'.launcher ≠ .notStarted → p.launcher ≠ .notStarted)
    (hreaped : ∀ status, p.launcher = .reaped status → p'.launcher = .reaped status) :
    RequestLog p' calls := by
  cases hlog with
  | checking h => exact .checking (hparent.trans h)
  | forking h => exact .forking (hparent.trans h)
  | waiting h pid interrupts => exact .waiting (hparent.trans h) pid interrupts
  | returned h env henv _ hcalls =>
    refine .returned (hparent.trans h) env ⟨fun hne => henv.forked (hstarted hne), ?_⟩ calls ?_
    · intro haccessible hfork status hreap
      exact hreaped status (henv.reaped haccessible hfork status hreap)
    · rw [hflag]
      exact hcalls

/-- What the service calls when it is told of a launcher. -/
theorem requestSystemPoweroff_forked (pid interrupts : ℕ) (reap : ReapResult)
    (s : ThermalSensor) :
    (requestSystemPoweroff ⟨true, .child pid, interrupts, reap⟩ s).2 =
      .requestSystemPoweroff :: .access true :: .fork (.child pid) ::
        (List.replicate interrupts .waitpidInterrupted ++ [.waitpid reap]) := by
  rw [← reapLauncher_eq]
  rcases reap with _ | (_ | status) | _ | _ <;> rfl

theorem requestLog_next {p : PoweroffProcesses} (h : p.Sound) {calls : List Effect}
    (hlog : RequestLog p calls) (step : ProcessStep) :
    RequestLog (processes.next p step) (calls ++ parentCalls (processes.emit p step)) := by
  have hmove := processMove p step
  generalize processes.next p step = p', processes.emit p step = effects at hmove ⊢
  have hquiet : parentCalls [] = [] := rfl
  cases hmove with
  | stay =>
    rw [hquiet, List.append_nil]
    exact hlog
  | accessible hp =>
    rw [hlog.eq_of_checking hp]
    exact .forking rfl
  | inaccessible hp =>
    have hnone := h.before (Or.inl hp)
    rw [hlog.eq_of_checking hp]
    refine .returned rfl ⟨false, .failed, 0, .failed⟩ ⟨fun hne => ?_, by simp⟩ _ fun s => ?_
    · exact absurd hnone.1 hne
    · rw [hnone.2]
      rfl
  | forkFailed hp =>
    have hnone := h.before (Or.inr hp)
    rw [hlog.eq_of_forking hp]
    refine .returned rfl ⟨true, .failed, 0, .failed⟩ ⟨fun hne => ?_, by simp⟩ _ fun s => rfl
    exact absurd hnone.1 hne
  | forked pid hp =>
    rw [hlog.eq_of_forking hp]
    exact .waiting rfl pid 0
  | interrupted hp =>
    obtain ⟨pid, interrupts, rfl⟩ := hlog.exists_of_waiting hp
    have hnext := RequestLog.waiting hp pid (interrupts + 1)
    simpa [parentCalls, List.replicate_succ'] using hnext
  | waitFailed hp =>
    obtain ⟨pid, interrupts, rfl⟩ := hlog.exists_of_waiting hp
    refine .returned rfl ⟨true, .child pid, interrupts, .failed⟩
      ⟨fun _ => ⟨rfl, pid, rfl⟩, by simp⟩ _ fun s => Prod.ext ?_ ?_
    · simp [requestSystemPoweroff, (h.waiting hp).2.2]
    · simp [requestSystemPoweroff_forked, parentCalls]
  | reaped status hp hlauncher =>
    obtain ⟨pid, interrupts, rfl⟩ := hlog.exists_of_waiting hp
    refine .returned rfl ⟨true, .child pid, interrupts, .reaped status⟩
      ⟨fun _ => ⟨rfl, pid, rfl⟩, by simp⟩ _ fun s => Prod.ext ?_ ?_
    · rcases status with (_ | code) | signal | _ <;>
        simp [requestSystemPoweroff, flagAfterReap, (h.waiting hp).2.2]
    · simp [requestSystemPoweroff_forked, parentCalls]
  | launched hl | notLaunched hl | exited code hl =>
    rw [hquiet, List.append_nil]
    exact hlog.of_others rfl rfl (by simp [hl]) (by simp [hl])
  | executed ok hs =>
    rw [show parentCalls [_] = [] from rfl, List.append_nil]
    exact hlog.of_others rfl rfl id (fun _ => id)
  | killedLauncher signal hl =>
    have hrunning : p.launcher ≠ .notStarted ∧ ∀ status, p.launcher ≠ .reaped status := by
      rcases hl with hl | ⟨code, hl⟩ <;> simp [hl]
    rw [hquiet, List.append_nil]
    exact hlog.of_others rfl rfl (fun _ => hrunning.1)
      (fun status heq => absurd heq (hrunning.2 status))
  | endedSystemctl hs =>
    rw [hquiet, List.append_nil]
    exact hlog.of_others rfl rfl id (fun _ => id)

theorem requestLog_state (steps : List ProcessStep) :
    RequestLog (processes.state .start steps)
      (parentCalls (processes.trace .start steps)) := by
  refine (Machine.trace_induction
    (P := fun log (p : PoweroffProcesses) => p.Sound ∧ RequestLog p (parentCalls log))
    ?_ ?_ steps).2
  · exact ⟨PoweroffProcesses.sound_start, .checking rfl⟩
  · intro log p step h
    have happend : parentCalls (log ++ processes.emit p step) =
        parentCalls log ++ parentCalls (processes.emit p step) := List.filterMap_append ..
    rw [happend]
    exact ⟨PoweroffProcesses.sound_next h.1 step, requestLog_next h.1 h.2 step⟩

/-- **The service sees no more than the model gives it.** In every interleaving in which the
service has returned, its calls and its flag are those of `requestSystemPoweroff` in an
environment that tells what has become of the launcher: it has been reaped unless `waitpid`
failed, and it has exited with 0 or 127 or was ended by a signal. -/
theorem poweroff_refines (steps : List ProcessStep)
    (hreturned : (processes.state .start steps).parent = .returned) :
    ∃ env : PoweroffEnvironment, env.Tells (processes.state .start steps) ∧
      (∀ status, (processes.state .start steps).launcher = .reaped status → LauncherEnd status) ∧
      ∀ s : ThermalSensor, requestSystemPoweroff env { s with shutdownScheduled := true } =
        ({ s with shutdownScheduled := (processes.state .start steps).shutdownScheduled },
          parentCalls (processes.trace .start steps)) := by
  have hregular : ∀ status, (processes.state .start steps).launcher = .reaped status →
      LauncherEnd status := by
    intro status hstatus
    have h := (PoweroffProcesses.sound_state steps).regular
    rw [hstatus] at h
    exact h
  have hlog := requestLog_state steps
  generalize parentCalls (processes.trace .start steps) = calls at hlog ⊢
  cases hlog with
  | returned _ env henv _ hcalls => exact ⟨env, henv, hregular, hcalls⟩
  | checking h | forking h | waiting h =>
    rw [hreturned] at h
    contradiction

/-- A launcher whose second fork fails. -/
theorem poweroff_refines_notLaunched :
    let steps : List ProcessStep :=
      [.access true, .fork (.child 7), .launcherFork false, .waitpidInterrupted, .launcherExit,
        .waitpid]
    ∃ env : PoweroffEnvironment, env.Tells (processes.state .start steps) ∧
      (∀ status, (processes.state .start steps).launcher = .reaped status → LauncherEnd status) ∧
      ∀ s : ThermalSensor, requestSystemPoweroff env { s with shutdownScheduled := true } =
        ({ s with shutdownScheduled := false },
          [.requestSystemPoweroff, .access true, .fork (.child 7), .waitpidInterrupted,
            .waitpid (.reaped (.exited 127))]) :=
  poweroff_refines _ (by decide)

/-! ## The service returns -/

/-- One step of the service and the launcher at each of their positions; `waitpid` gets the
launcher or fails. -/
def ownSteps (accessible : Bool) (fork : ForkResult) (launched waited : Bool) :
    List ProcessStep :=
  [.access accessible, .fork fork, .launcherFork launched, .launcherExit,
    if waited then .waitpid else .waitpidFailed]

/-- **The service never waits for `systemctl`.** After every run it returns by steps of its own
and of the launcher alone, whatever the system answers to them. -/
theorem poweroff_returns (steps : List ProcessStep) (accessible : Bool) (fork : ForkResult)
    (launched waited : Bool) :
    (processes.state .start (steps ++ ownSteps accessible fork launched waited)).parent =
      .returned := by
  rw [Machine.state_append]
  have h := PoweroffProcesses.sound_state steps
  generalize processes.state .start steps = p at h ⊢
  obtain ⟨parent, launcher, systemctl, flag⟩ := p
  cases parent with
  | checking =>
    obtain rfl : launcher = .notStarted := (h.before (Or.inl rfl)).1
    cases accessible <;> cases fork <;> cases launched <;> cases waited <;> rfl
  | forking =>
    obtain rfl : launcher = .notStarted := (h.before (Or.inr rfl)).1
    cases fork <;> cases launched <;> cases waited <;> rfl
  | waiting =>
    -- the launcher is running or a zombie, so `waitpid` gets it in the end
    have hwaiting := h.waiting rfl
    cases launcher with
    | notStarted => exact absurd rfl hwaiting.1
    | reaped status => exact absurd rfl (hwaiting.2.1 status)
    | forking => cases launched <;> cases waited <;> rfl
    | exiting code => cases waited <;> rfl
    | ended status => cases waited <;> rfl
  | returned => cases launcher <;> cases launched <;> cases waited <;> rfl

end ThermalHal
