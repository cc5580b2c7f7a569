import ProjectScribe.Project.Configuration

/-!
# Flags of the compiler and the linker

The settings of a configuration as the flags that the tools of the family take, in a fixed order
and with the flags that a project states itself at the end.
-/
namespace ProjectScribe.Script

/-- The flag of a warning level. -/
def warningFlag : WarningLevel → String
  | .off => "/W0"
  | .level1 => "/W1"
  | .level2 => "/W2"
  | .level3 => "/W3"
  | .level4 => "/W4"
  | .all => "/Wall"

/-- The flag of a way to handle exceptions, if it has one. -/
def exceptionFlags : ExceptionHandling → List String
  | .disabled => []
  | .sync => ["/EHsc"]
  | .async => ["/EHa"]
  | .syncCThrow => ["/EHs"]

/-- The flag of an optimization. -/
def optimizationFlag : Optimization → String
  | .disabled => "/Od"
  | .minSpace => "/O1"
  | .maxSpeed => "/O2"
  | .full => "/Ox"

/-- The flags for the use of a precompiled header. Creating one concerns a single file and has no
flag here. -/
def headerFlags (precompiled : PrecompiledHeader) : List String :=
  if precompiled.mode = .use then
    ("/Yu" ++ precompiled.header.getD "") :: precompiled.binary.toList.map ("/Fp" ++ ·)
  else []

/-- The flags of compiler settings. -/
def compileFlags (compiler : CompilerSettings) (optimizesWhole : Bool) : List String :=
  [warningFlag compiler.warningLevel] ++
    (if compiler.warningsAsErrors then ["/WX"] else []) ++
    [if compiler.rtti then "/GR" else "/GR-"] ++
    exceptionFlags compiler.exceptionHandling ++
    [optimizationFlag compiler.optimization] ++
    (if optimizesWhole then ["/GL"] else []) ++
    headerFlags compiler.precompiled ++
    compiler.options.disabledWarnings.map ("/wd" ++ ·) ++
    compiler.options.flags

/-- The flags of linker settings. -/
def linkFlags (linker : LinkerSettings) (optimizesWhole : Bool) : List String :=
  [if linker.isIncremental then "/INCREMENTAL" else "/INCREMENTAL:NO"] ++
    (if linker.optimizesReferences then ["/OPT:REF"] else []) ++
    (if optimizesWhole then ["/LTCG"] else []) ++
    linker.moduleDefinition.toList.map ("/DEF:" ++ ·) ++
    linker.programDatabase.toList.map ("/PDB:" ++ ·) ++
    linker.options.flags

/-- The definitions that a character set brings with it. -/
def charsetDefines : CharacterSet → List String
  | .singleByte => []
  | .unicode => ["_UNICODE", "UNICODE"]
  | .multiByte => ["_MBCS"]

end ProjectScribe.Script
