import Tandem.Proofs.Path.Normal
import Tandem.Settings

set_option autoImplicit false

/-!
File names in settings. A name that stands for nothing, for a stream or for an absolute place
is kept, and any other becomes an absolute name in normal form; so a name that has been
resolved is kept from then on.
-/

namespace Tandem.Settings

open Tandem.Path

/-- Names that mean the same in every directory. -/
def IsFixed (name : Text) : Prop := name = [] ∨ name = stream ∨ isAbsolute name = true

instance (name : Text) : Decidable (IsFixed name) := inferInstanceAs (Decidable (_ ∨ _ ∨ _))

variable {s : Settings} {name : Text}

theorem resolve_of_isFixed (fixed : IsFixed name) : s.resolve name = name := by
  rw [resolve, if_pos]
  rcases fixed with nothing | streaming | absolute
  · exact .inl nothing
  · exact .inr (.inl streaming)
  · exact .inr (.inr (.inl absolute))

theorem resolve_eq_clean (absolute : isAbsolute s.directory = true) (relative : ¬ IsFixed name) :
    s.resolve name = clean (s.directory ++ slash :: name) := by
  have located : s.directory ≠ [] := by
    intro nowhere
    rw [nowhere] at absolute
    contradiction
  rw [resolve, if_neg]
  · rfl
  · rintro (nothing | streaming | absolute | nowhere)
    · exact relative (.inl nothing)
    · exact relative (.inr (.inl streaming))
    · exact relative (.inr (.inr absolute))
    · exact located nowhere

theorem isFixed_resolve (absolute : isAbsolute s.directory = true) (name : Text) :
    IsFixed (s.resolve name) := by
  by_cases fixed : IsFixed name
  · rwa [resolve_of_isFixed fixed]
  · rw [resolve_eq_clean absolute fixed]
    exact .inr (.inr (isNormal_clean (isAbsolute_append absolute _)).absolute)

/-- Settings from a file are in an absolute directory, however the file was named. -/
theorem isAbsolute_directoryOf {workingDirectory : Text}
    (absolute : isAbsolute workingDirectory = true) (path : Text) :
    isAbsolute (directoryOf workingDirectory path) = true := by
  simp only [directoryOf]
  split
  next already => exact already
  next => exact (isNormal_clean (isAbsolute_append absolute _)).absolute

/-- In settings with an absolute directory, a name is kept if it is empty, `-` or absolute. Any
other name becomes an absolute name in normal form, and its components are the only ones that those
of the directory and of the name can be reduced to. Resolving once more changes nothing, and so the
names that were resolved when the settings were loaded stay. -/
theorem names_resolve_for_good (s : Settings) (absolute : isAbsolute s.directory = true)
    (name : Text) :
    (IsFixed name → s.resolve name = name) ∧
      (¬ IsFixed name →
        IsNormal (s.resolve name) ∧
          ∀ cs, (Reduces (s.directory.splitOn slash ++ name.splitOn slash) cs ∧
            ∀ c ∈ cs, IsProper c) ↔ cs = parts (s.resolve name)) ∧
      s.resolve (s.resolve name) = s.resolve name ∧
      (let loaded := s.locate s.directory
        ∀ name ∈ [loaded.program, loaded.trace, loaded.report],
          loaded.resolve name = name) := by
  have again : ∀ name, s.resolve (s.resolve name) = s.resolve name :=
    fun name => resolve_of_isFixed (isFixed_resolve absolute name)
  refine ⟨resolve_of_isFixed, ?_, again name, ?_⟩
  · intro relative
    have below : isAbsolute (s.directory ++ slash :: name) = true := isAbsolute_append absolute _
    rw [resolve_eq_clean absolute relative]
    refine ⟨isNormal_clean below, ?_⟩
    intro cs
    rw [parts_clean below, components_join]
    exact reduces_proper_iff _ cs
  · simp only [List.forall_mem_cons]
    exact ⟨again s.program, again s.trace, again s.report, by simp⟩

/-- Settings from a file that was named with a detour. -/
def detour : Settings :=
  { directory := directoryOf "/home/duet" "runs/../../conf//duet.toml"
    program := "../../..//bin/./old/../echo.duet/"
    trace := "-"
    report := "..report" }

theorem names_resolve_for_good_detour :
    isAbsolute detour.directory = true ∧ IsFixed detour.trace ∧
      detour.resolve detour.trace = "-" ∧
      ¬ IsFixed detour.program ∧ detour.resolve detour.program = "/bin/echo.duet" ∧
      IsNormal "/bin/echo.duet" ∧
      Reduces (detour.directory.splitOn slash ++ detour.program.splitOn slash)
        [Text.ofString "bin", Text.ofString "echo.duet"] ∧
      detour.resolve "/bin/echo.duet" = "/bin/echo.duet" ∧
      (detour.locate detour.directory).resolve "/home/conf/..report" = "/home/conf/..report" := by
  have working : isAbsolute "/home/duet" = true := by decide +kernel
  have absolute : isAbsolute detour.directory = true :=
    isAbsolute_directoryOf working "runs/../../conf//duet.toml"
  have streaming : IsFixed detour.trace := by decide +kernel
  have relative : ¬ IsFixed detour.program := by decide +kernel
  have program : detour.resolve detour.program = "/bin/echo.duet" := by decide +kernel
  have report : (detour.locate detour.directory).report = "/home/conf/..report" := by decide +kernel
  obtain ⟨kept, _, _, _⟩ := names_resolve_for_good detour absolute detour.trace
  obtain ⟨_, resolved, again, loaded⟩ := names_resolve_for_good detour absolute detour.program
  obtain ⟨normal, reduced⟩ := resolved relative
  rw [program] at normal again reduced
  refine ⟨absolute, streaming, kept streaming, relative, program, normal, ?_, again, ?_⟩
  · exact ((reduced _).mpr (by decide +kernel)).1
  · have stays := loaded _ (List.mem_cons_of_mem _ (List.mem_cons_of_mem _ List.mem_cons_self))
    rwa [report] at stays

end Tandem.Settings
