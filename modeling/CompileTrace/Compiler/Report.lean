import CompileTrace.Compiler.Options
import CompileTrace.Json.Basic

set_option autoImplicit false

/-! # Reports on compiler arguments

Compiler options and arguments as JSON values, for those who ask what a project was compiled
with. -/

namespace CompileTrace

/-- The compilation options as a JSON value. -/
def CompilationOptions.toJson (o : CompilationOptions) : Json :=
  .object
    [("outputKind", .text o.outputKind.name),
     ("moduleName", .ofText? o.moduleName?),
     ("mainTypeName", .ofText? o.mainType?),
     ("optimizationLevel", .text o.optimization.name),
     ("platform", .text o.platform),
     ("allowUnsafe", .bool o.allowUnsafe),
     ("checked", .bool o.checkOverflow),
     ("deterministic", .bool o.deterministic),
     ("nullable", .text o.nullability.name),
     ("warningLevel", .int o.warningLevel),
     ("treatWarningsAsErrors", .bool o.warningsAsErrors),
     ("specificDiagnosticOptions", .object (o.reporting.map (fun e => (e.1, .text e.2.name))))]

/-- The options for reading sources as a JSON value. -/
def ParseOptions.toJson (o : ParseOptions) : Json :=
  .object
    [("languageVersion", .text o.languageVersion),
     ("preprocessorSymbols", .ofTexts o.symbols),
     ("documentationMode", .text o.documentation.name)]

/-- The compiler arguments as a JSON value. -/
def CompilerArguments.toJson (a : CompilerArguments) : Json :=
  .object
    [("compilationOptions", a.compilation.toJson),
     ("parseOptions", a.parse.toJson),
     ("sourceFiles", .ofTexts a.sources),
     ("metadataReferences", .ofTexts a.references),
     ("baseDirectory", .text a.baseDirectory),
     ("outputFileName", .ofText? a.outputName?),
     ("outputDirectory", .ofText? a.outputDirectory?),
     ("unrecognized", .ofTexts a.unrecognized)]

end CompileTrace
