import CompileTrace.Proofs.Compiler.Paths
import CompileTrace.Proofs.Workspace.Cache

set_option autoImplicit false

/-! # The keys of interpreted paths

Interpreting arguments and looking a library up both bring paths into normal form, each in its own
way. They agree: what was interpreted is left alone by both, so that two libraries have the same key
exactly if they were written down as the same path (`CompilerArguments.interpret_keys`), even by two
compilations in different directories. -/

namespace CompileTrace.CompilerArguments

variable {cwd directory : Text} {args : List Text} {a : CompilerArguments}

/-- A path in normal form is the same from every directory, and it is its own key. -/
theorem resolve_and_key_eq_self {path : Text} (h : Path.IsNormal path) :
    (∀ base, Path.resolve base path = path) ∧ ∀ cwd, ReferenceCache.key cwd path = path :=
  ⟨h.resolve_eq, fun cwd => ReferenceCache.key_eq_self cwd h⟩

theorem isNormal_of_mem_references (hcwd : Path.isAbsolute cwd = true)
    (h : interpret cwd directory args = .ok a) {path : Text} (hpath : path ∈ a.references) :
    Path.IsNormal path :=
  (isResolved_interpret hcwd h).inputs path (List.mem_append_right _ hpath)

/-- **All files of a compilation are at paths that have one spelling**: in normal form, the same
    from every directory and their own keys. The keys tell the references of two compilations apart
    as the paths do. -/
theorem interpret_keys (hcwd : Path.isAbsolute cwd = true)
    (h : interpret cwd directory args = .ok a) :
    (∀ path ∈ a.sources ++ a.references ++ a.outputPath?.toList,
        Path.IsNormal path ∧ (∀ base, Path.resolve base path = path)
          ∧ ∀ cwd, ReferenceCache.key cwd path = path)
      ∧ (a.outputPath? = none → a.outputDirectory? = none ∧ a.outputName? = none)
      ∧ ∀ cwd' directory' args' a', Path.isAbsolute cwd' = true →
        interpret cwd' directory' args' = .ok a' →
        ∀ path ∈ a.references, ∀ path' ∈ a'.references, ∀ cwd,
          ReferenceCache.key cwd path = ReferenceCache.key cwd path' ↔ path = path' := by
  obtain ⟨hinputs, path?, houtput, hnormal⟩ := isResolved_interpret hcwd h
  have hpath := houtput.outputPath?_eq hnormal
  refine ⟨?_, ?_, ?_⟩
  · intro path hmem
    rw [hpath, List.mem_append] at hmem
    rcases hmem with hmem | hmem
    · exact ⟨hinputs path hmem, resolve_and_key_eq_self (hinputs path hmem)⟩
    · have hpath := hnormal path (Option.mem_toList.1 hmem)
      exact ⟨hpath, resolve_and_key_eq_self hpath⟩
  · intro hnone
    rw [hpath] at hnone
    rw [houtput.1, houtput.2, hnone]
    exact ⟨rfl, rfl⟩
  · intro cwd' directory' args' a' hcwd' h' path hmem path' hmem' current
    rw [ReferenceCache.key_eq_self current (isNormal_of_mem_references hcwd h hmem),
      ReferenceCache.key_eq_self current (isNormal_of_mem_references hcwd' h' hmem')]

/-- A library that two compilations in different directories spell differently, and an output above
    the root. -/
theorem interpret_keys_spelled :
    let args : List Text := ["./a//b/../C.cs", "/r:lib/./X.dll,//Y.dll", "/out:../../../App.dll"]
    Path.isAbsolute "/src" = true ∧ ∃ a a', interpret "/src" "App/" args = .ok a
      ∧ interpret "/src" [] ["-r:App//lib/X.dll"] = .ok a'
      ∧ a.sources = ["/src/App/a/C.cs".toText]
      ∧ a.references = ["/src/App/lib/X.dll".toText, "//Y.dll".toText]
      ∧ a.outputPath? = some "/App.dll".toText
      ∧ (∀ path ∈ a.sources ++ a.references ++ a.outputPath?.toList, Path.IsNormal path
        ∧ (∀ base, Path.resolve base path = path) ∧ ∀ cwd, ReferenceCache.key cwd path = path)
      ∧ ∀ path ∈ a.references, ∀ path' ∈ a'.references, ∀ cwd,
        ReferenceCache.key cwd path = ReferenceCache.key cwd path' ↔ path = path' := by
  intro args
  have hcwd : Path.isAbsolute "/src" = true := rfl
  obtain ⟨hfixed, -, hkeys⟩ := @interpret_keys "/src" "App/" args _ hcwd rfl
  exact ⟨hcwd, _, _, rfl, rfl, by decide, by decide, by decide, hfixed,
    hkeys "/src" [] ["-r:App//lib/X.dll"] _ hcwd rfl⟩

end CompileTrace.CompilerArguments
