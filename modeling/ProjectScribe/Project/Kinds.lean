/-!
# Closed choices in a project

Each choice that a project file leaves to its author is a type with one constructor for each
possibility. `label` is the name under which a possibility appears in the written state of a
project.
-/
namespace ProjectScribe

/-- The two file formats: settings in attributes, or settings in elements. -/
inductive Dialect where
  | vcproj
  | vcxproj
deriving DecidableEq, Repr

/-- What a project builds. -/
inductive TargetKind where
  | unknown
  | application
  | dynamicLibrary
  | staticLibrary
deriving DecidableEq, Repr, Inhabited

/-- How a project uses a class library. -/
inductive LibraryUsage where
  | notUsed
  | static
  | dynamic
deriving DecidableEq, Repr, Inhabited

/-- The characters of which a program's texts consist. -/
inductive CharacterSet where
  | singleByte
  | unicode
  | multiByte
deriving DecidableEq, Repr, Inhabited

/-- Which exceptions compiled code handles. -/
inductive ExceptionHandling where
  | disabled
  | sync
  | async
  | syncCThrow
deriving DecidableEq, Repr

/-- For what the compiler optimizes. -/
inductive Optimization where
  | disabled
  | minSpace
  | maxSpeed
  | full
deriving DecidableEq, Repr, Inhabited

/-- Which warnings the compiler gives. -/
inductive WarningLevel where
  | off
  | level1
  | level2
  | level3
  | level4
  | all
deriving DecidableEq, Repr

/-- What the compiler does with a precompiled header. -/
inductive HeaderMode where
  | notUsing
  | create
  | use
deriving DecidableEq, Repr, Inhabited

/-- The run-time library against which code is compiled. -/
inductive RuntimeLibrary where
  | multiThreaded
  | multiThreadedDebug
  | multiThreadedDll
  | multiThreadedDebugDll
deriving DecidableEq, Repr

/-- Exceptions are handled in step with calls unless a project says otherwise. -/
instance : Inhabited ExceptionHandling := ⟨.sync⟩

/-- The third level of warnings holds unless a project says otherwise. -/
instance : Inhabited WarningLevel := ⟨.level3⟩

/-- The shared run-time library is used unless a project says otherwise. -/
instance : Inhabited RuntimeLibrary := ⟨.multiThreadedDll⟩

/-- Whether a run-time library is one for debugging. -/
def RuntimeLibrary.isDebug : RuntimeLibrary → Bool
  | .multiThreadedDebug | .multiThreadedDebugDll => true
  | .multiThreaded | .multiThreadedDll => false

/-- The label of a file format. -/
def Dialect.label : Dialect → String
  | vcproj => "Vcproj"
  | vcxproj => "Vcxproj"

/-- The label of a kind of target. -/
def TargetKind.label : TargetKind → String
  | unknown => "Unknown"
  | application => "Application"
  | dynamicLibrary => "DynamicLibrary"
  | staticLibrary => "StaticLibrary"

/-- The label of a use of a class library. -/
def LibraryUsage.label : LibraryUsage → String
  | notUsed => "None"
  | static => "Static"
  | dynamic => "Dynamic"

/-- The label of a character set. -/
def CharacterSet.label : CharacterSet → String
  | singleByte => "Sbcs"
  | unicode => "Unicode"
  | multiByte => "Mbcs"

/-- The label of a way to handle exceptions. -/
def ExceptionHandling.label : ExceptionHandling → String
  | disabled => "Disabled"
  | sync => "Sync"
  | async => "Async"
  | syncCThrow => "SyncCThrow"

/-- The label of an optimization. -/
def Optimization.label : Optimization → String
  | disabled => "Disabled"
  | minSpace => "MinSpace"
  | maxSpeed => "MaxSpeed"
  | full => "Full"

/-- The label of a warning level. -/
def WarningLevel.label : WarningLevel → String
  | off => "Off"
  | level1 => "Level1"
  | level2 => "Level2"
  | level3 => "Level3"
  | level4 => "Level4"
  | all => "All"

/-- The label of a way to use precompiled headers. -/
def HeaderMode.label : HeaderMode → String
  | notUsing => "NotUsing"
  | create => "Create"
  | use => "Use"

/-- The label of a run-time library. -/
def RuntimeLibrary.label : RuntimeLibrary → String
  | multiThreaded => "MultiThreaded"
  | multiThreadedDebug => "MultiThreadedDebug"
  | multiThreadedDll => "MultiThreadedDll"
  | multiThreadedDebugDll => "MultiThreadedDebugDll"

end ProjectScribe
