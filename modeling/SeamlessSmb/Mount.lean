/-
# `Mount` — from a mount request to the options the driver gets

A drive is asked for in two ways: by the service, whose `DokanRunner` looks up a
stored `MountInfo`, and on the command line, which `wmain` parses.  Both fill a
`Globals` and a `DOKAN_OPTIONS` and hand them to `FileMount`, whose constructor
adjusts the options and whose `mount` passes them to `DokanCreateFileSystem`.

The constructor also makes a `Cache`, which prints through `otherPrint`.  `wmain`
does not give one.

| source | here |
| :-- | :-- |
| `DOKAN_OPTIONS` | `DokanOptions`; a null pointer is `none` |
| `FileMount::FileMount` up to the `.dat` file | `FileMount.make`; `none` where it crashes |
| `FileMount::mount` | `FileMount.mount` |
| `DokanRunner::MountInfoToGlobal` | `mountInfoToGlobal` |
| `wmain`, its option loop | `wmain`, `optionLoop` |

**Proved here:** which requests the driver gets as they were asked for
(`mount_honours_iff`): the constructor replaces the option word, so of the stored
ones only those that ask for no option the constructor does not set itself.  A
command line never gets that far.
-/
import SeamlessSmb.Globals

namespace SeamlessSmb

/-! ## The options -/

def DOKAN_OPTION_DEBUG : DWORD := 1
def DOKAN_OPTION_STDERR : DWORD := 1 <<< 1
def DOKAN_OPTION_ALT_STREAM : DWORD := 1 <<< 2
def DOKAN_OPTION_WRITE_PROTECT : DWORD := 1 <<< 3
def DOKAN_OPTION_NETWORK : DWORD := 1 <<< 4
def DOKAN_OPTION_REMOVABLE : DWORD := 1 <<< 5
def DOKAN_OPTION_MOUNT_MANAGER : DWORD := 1 <<< 6
def DOKAN_OPTION_CURRENT_SESSION : DWORD := 1 <<< 7
def DOKAN_OPTION_FILELOCK_USER_MODE : DWORD := 1 <<< 8
def DOKAN_OPTION_CASE_SENSITIVE : DWORD := 1 <<< 9
def DOKAN_OPTION_ENABLE_UNMOUNT_NETWORK_DRIVE : DWORD := 1 <<< 10
def DOKAN_OPTION_DISPATCH_DRIVER_LOGS : DWORD := 1 <<< 11
def DOKAN_OPTION_ALLOW_IPC_BATCHING : DWORD := 1 <<< 12

def DOKAN_VERSION : BitVec 16 := 206

/-- `DOKAN_OPTIONS`.  The defaults are what `ZeroMemory` leaves. -/
structure DokanOptions where
  version : BitVec 16 := 0
  singleThread : Bool := false
  options : DWORD := 0
  globalContext : BitVec 64 := 0
  mountPoint : Option WString := none
  uncName : Option WString := none
  timeout : DWORD := 0
  allocationUnitSize : DWORD := 0
  sectorSize : DWORD := 0
  deriving DecidableEq

/-! ## `FileMount` -/

def DOKAN_SUCCESS : Int := 0

/-- `DbgPrint`.  The loggers are derived from it, with `useStdErr` false. -/
structure DbgPrint where
  useStdErr : Bool
  debugMode : Bool

/-- `FileMount`: the settings of its context, and the options kept for the mount. -/
structure FileMount where
  globals : Globals
  dokanOptions : DokanOptions
  mounted : Bool := false

namespace FileMount

/-- What the constructor fills in.  `context` is the address of the new context. -/
def fill (context : BitVec 64) (globals : Globals) (dokanOptions : DokanOptions) : FileMount :=
  { globals := globals
    dokanOptions :=
      { dokanOptions with
        version := DOKAN_VERSION
        mountPoint := some globals.mountPoint
        uncName := some globals.uncName
        globalContext := context
        options := DOKAN_OPTION_ALLOW_IPC_BATCHING } }

/-- `FileMount::FileMount`, up to the `.dat` file.  `Cache::Cache` and its thread call `print` of
`otherPrint`, null or not. -/
def make (context : BitVec 64) (globals : Globals) (dokanOptions : DokanOptions)
    (otherPrint : Option DbgPrint) : Option FileMount :=
  otherPrint.map fun _ => fill context globals dokanOptions

/-- `FileMount::mount`: the options of the `DokanCreateFileSystem` call, if one is
made, the status, and the object afterwards. -/
def mount (m : FileMount) (dokanCreateFileSystem : DokanOptions → Int) :
    Option DokanOptions × Int × FileMount :=
  if m.mounted then (none, DOKAN_SUCCESS, m)
  else
    let status := dokanCreateFileSystem m.dokanOptions
    (some m.dokanOptions, status, if status = DOKAN_SUCCESS then { m with mounted := true } else m)

end FileMount

/-! ## The service: `DokanRunner` -/

/-- `MountInfo`. -/
structure MountInfo where
  rootDirectory : WString := []
  mountPoint : WString := []
  uncName : WString := []
  volname : WString := []
  caseSensitive : Bool := false
  impersonateCallerUser : Bool := false
  hasSeSecurityPrivilege : Bool := false
  uuid : BitVec 128 := 0
  enabled : Bool := false
  keepAlive : Bool := false
  debug : Bool := false
  cerr : Bool := false
  singlethreaded : Bool := false
  options : DWORD := 0

/-- `DokanRunner::MountInfoToGlobal`. -/
def mountInfoToGlobal (info : MountInfo) : Globals × DokanOptions :=
  let g : Globals :=
    { rootDirectory := info.rootDirectory
      mountPoint := info.mountPoint
      uncName := info.uncName
      caseSensitive := info.caseSensitive
      impersonateCallerUser := info.impersonateCallerUser
      volname := info.volname
      hasSeSecurityPrivilege := info.hasSeSecurityPrivilege }
  (g, { mountPoint := some g.mountPoint
        options := info.options
        singleThread := info.singlethreaded })

/-- `OtherLogger(savePath, true)`. -/
def otherlog : DbgPrint := ⟨false, true⟩

/-- The part of `DokanRunner::DokanRunner` that builds the mount: the first stored
entry with the uuid decides. -/
def dokanRunner (context : BitVec 64) (mountlist : List MountInfo) (id : BitVec 128) :
    Option FileMount :=
  (mountlist.find? fun info => info.uuid = id).bind fun info =>
    FileMount.make context (mountInfoToGlobal info).1 (mountInfoToGlobal info).2 otherlog

/-! ## The command line: `wmain` -/

/-- What the option loop fills. -/
structure CommandLine where
  globals : Globals := {}
  dokanOptions : DokanOptions := { version := DOKAN_VERSION }
  debugMode : Bool := false
  useStdErr : Bool := false

/-- The cases of the `switch`. -/
inductive Switch
  | rootDirectory | mountPoint | singleThread | debugMode | useStdErr
  | option (bit : DWORD)
  | caseSensitive | uncName | impersonateCallerUser | timeout | allocationUnitSize | sectorSize
  | volname
  deriving DecidableEq

/-- `switch (towlower(argv[command][1]))`. -/
def Switch.ofChar (c : WCHAR) : Option Switch :=
  [ (wchar 'r', .rootDirectory),
    (wchar 'l', .mountPoint),
    (wchar 't', .singleThread),
    (wchar 'd', .debugMode),
    (wchar 's', .useStdErr),
    (wchar 'n', .option DOKAN_OPTION_NETWORK),
    (wchar 'm', .option DOKAN_OPTION_REMOVABLE),
    (wchar 'w', .option DOKAN_OPTION_WRITE_PROTECT),
    (wchar 'o', .option DOKAN_OPTION_MOUNT_MANAGER),
    (wchar 'c', .option DOKAN_OPTION_CURRENT_SESSION),
    (wchar 'f', .option DOKAN_OPTION_FILELOCK_USER_MODE),
    (wchar 'x', .option DOKAN_OPTION_ENABLE_UNMOUNT_NETWORK_DRIVE),
    (wchar 'e', .option DOKAN_OPTION_DISPATCH_DRIVER_LOGS),
    (wchar 'b', .caseSensitive),
    (wchar 'u', .uncName),
    (wchar 'p', .impersonateCallerUser),
    (wchar 'i', .timeout),
    (wchar 'a', .allocationUnitSize),
    (wchar 'k', .sectorSize),
    (wchar 'v', .volname) ].lookup (towlower c)

/-- The cases that start with `CHECK_CMD_ARG`. -/
def Switch.takesArgument : Switch → Bool
  | .rootDirectory | .mountPoint | .uncName | .timeout | .allocationUnitSize | .sectorSize
  | .volname => true
  | _ => false

/-- The body of a case; `arg` is the argument of those that take one. -/
def Switch.apply (s : CommandLine) (arg : WString) : Switch → Except String CommandLine
  | .rootDirectory =>
      if arg.length = 0 then .error "Invalid RootDirectory"
      else .ok { s with globals := { s.globals with rootDirectory := arg } }
  | .mountPoint =>
      .ok { s with
        globals := { s.globals with mountPoint := arg }
        dokanOptions := { s.dokanOptions with mountPoint := some arg } }
  | .singleThread => .ok { s with dokanOptions := { s.dokanOptions with singleThread := true } }
  | .debugMode => .ok { s with debugMode := true }
  | .useStdErr => .ok { s with useStdErr := true }
  | .option bit =>
      .ok { s with dokanOptions := { s.dokanOptions with options := s.dokanOptions.options ||| bit } }
  | .caseSensitive =>
      .ok { s with
        globals := { s.globals with caseSensitive := true }
        dokanOptions :=
          { s.dokanOptions with options := s.dokanOptions.options ||| DOKAN_OPTION_CASE_SENSITIVE } }
  | .uncName =>
      .ok { s with
        globals := { s.globals with uncName := arg }
        dokanOptions := { s.dokanOptions with uncName := some arg } }
  | .impersonateCallerUser =>
      .ok { s with globals := { s.globals with impersonateCallerUser := true } }
  | .timeout => .ok { s with dokanOptions := { s.dokanOptions with timeout := wtol arg } }
  | .allocationUnitSize =>
      .ok { s with dokanOptions := { s.dokanOptions with allocationUnitSize := wtol arg } }
  | .sectorSize => .ok { s with dokanOptions := { s.dokanOptions with sectorSize := wtol arg } }
  | .volname => .ok { s with globals := { s.globals with volname := arg } }

/-- `argv[command][1]`, `none` for a NUL.  For an empty argument that is the
character behind its NUL, which depends on where the arguments after it lie. -/
def optionChar (behind : List WString → Option WCHAR) (arg : WString) (rest : List WString) :
    Option WCHAR :=
  match arg with
  | [] => behind rest
  | _ :: cs => cs.head?

/-- The `for` loop over the arguments; an error carries the text printed before
`EXIT_FAILURE`. -/
def optionLoop (behind : List WString → Option WCHAR) :
    List WString → CommandLine → Except String CommandLine
  | [], s => .ok s
  | arg :: rest, s =>
      match (optionChar behind arg rest).bind Switch.ofChar with
      | none => .error "unknown command: %ls\n"
      | some sw =>
          if sw.takesArgument then
            match rest with
            | [] => .error "Option is missing an argument.\n"
            | value :: rest =>
                match sw.apply s value with
                | .error e => .error e
                | .ok s => optionLoop behind rest s
          else
            match sw.apply s [] with
            | .error e => .error e
            | .ok s => optionLoop behind rest s

/-- `wmain` up to the construction of the `FileMount`: its arguments.  `privilege`
is what `AddSeSecurityNamePrivilege` returns. -/
def wmain (behind : List WString → Option WCHAR) (privilege : Bool) (argv : List WString) :
    Except String CommandLine :=
  if argv.length < 3 then .error "ShowUsage"
  else
    match optionLoop behind argv.tail {} with
    | .error e => .error e
    | .ok s =>
        let o := s.dokanOptions.options
        if o &&& DOKAN_OPTION_NETWORK ≠ 0 ∧ o &&& DOKAN_OPTION_MOUNT_MANAGER ≠ 0 then
          .error "Mount manager cannot be used on network drive.\n"
        else if ¬ o &&& DOKAN_OPTION_MOUNT_MANAGER ≠ 0 ∧ s.globals.mountPoint.length = 0 then
          .error "Mount Point required.\n"
        else if o &&& DOKAN_OPTION_MOUNT_MANAGER ≠ 0 ∧ o &&& DOKAN_OPTION_CURRENT_SESSION ≠ 0 then
          .error "Mount Manager always mount the drive for all user sessions.\n"
        else
          .ok { s with
            globals := { s.globals with hasSeSecurityPrivilege := privilege }
            dokanOptions :=
              { s.dokanOptions with
                options :=
                  o ||| (if s.debugMode then DOKAN_OPTION_DEBUG else 0)
                    ||| (if s.useStdErr then DOKAN_OPTION_STDERR else 0)
                    ||| DOKAN_OPTION_ALT_STREAM } }

/-- The `FileMount` that `wmain` then makes: `print` and `otherPrint` are left out. -/
def CommandLine.fileMount (context : BitVec 64) (s : CommandLine) : Option FileMount :=
  FileMount.make context s.globals s.dokanOptions none

/-! ## Requested and handed over -/

/-- The driver gets what was requested: every requested option bit, the requested
threading, timeout and sizes, and the names of the settings. -/
def Honours (globals : Globals) (requested handed : DokanOptions) : Prop :=
  requested.options &&& handed.options = requested.options ∧
  handed.singleThread = requested.singleThread ∧
  handed.timeout = requested.timeout ∧
  handed.allocationUnitSize = requested.allocationUnitSize ∧
  handed.sectorSize = requested.sectorSize ∧
  handed.mountPoint = some globals.mountPoint ∧
  handed.uncName = some globals.uncName

instance (g : Globals) (r h : DokanOptions) : Decidable (Honours g r h) :=
  inferInstanceAs (Decidable (_ ∧ _))

/-- Whatever options the object hands to `DokanCreateFileSystem` honour the
requested ones. -/
def MountHonours (m : FileMount) (requested : DokanOptions) : Prop :=
  ∀ dokanCreateFileSystem handed, (m.mount dokanCreateFileSystem).1 = some handed →
    Honours m.globals requested handed

/-- No option is requested besides batching. -/
def OnlyBatching (options : DWORD) : Prop := options &&& ~~~DOKAN_OPTION_ALLOW_IPC_BATCHING = 0

instance (options : DWORD) : Decidable (OnlyBatching options) := inferInstanceAs (Decidable (_ = _))

theorem subset_iff {a b : DWORD} : a &&& b = a ↔ a &&& ~~~b = 0 := by
  constructor
  · intro h
    rw [← h, BitVec.and_assoc]
    simp
  · intro h
    ext i hi
    have hbit := congrArg (fun w => w[i]) h
    simp only [BitVec.getElem_and, BitVec.getElem_not] at hbit
    rw [BitVec.getElem_and]
    cases ha : a[i] <;> cases hb : b[i] <;> simp_all

theorem or_and_self {a b : DWORD} : (a ||| b) &&& b = b := by
  ext i hi
  rw [BitVec.getElem_and, BitVec.getElem_or]
  cases a[i] <;> cases b[i] <;> rfl

/-- The constructor keeps everything but the option word. -/
theorem mountHonours_fill_iff {context : BitVec 64} {g : Globals} {o : DokanOptions} :
    MountHonours (FileMount.fill context g o) o ↔ OnlyBatching o.options := by
  constructor
  · intro h
    have hbits := (h (fun _ => DOKAN_SUCCESS) _ rfl).1
    exact subset_iff.mp hbits
  · intro h create handed hm
    have hh : (FileMount.fill context g o).dokanOptions = handed := Option.some.inj hm
    rw [← hh]
    exact ⟨subset_iff.mpr h, rfl, rfl, rfl, rfl, rfl, rfl⟩

/-- Whatever the arguments, a command line that is accepted asks for alternate
streams. -/
theorem wmain_altStream {behind : List WString → Option WCHAR} {privilege : Bool}
    {argv : List WString} {s : CommandLine} (h : wmain behind privilege argv = .ok s) :
    s.dokanOptions.options &&& DOKAN_OPTION_ALT_STREAM = DOKAN_OPTION_ALT_STREAM := by
  unfold wmain at h
  split at h
  · cases h
  · split at h
    · cases h
    · -- the three checks after the loop
      dsimp only at h
      split at h
      · cases h
      · split at h
        · cases h
        · split at h
          · cases h
          · cases h
            exact or_and_self

theorem not_onlyBatching_of_altStream {o : DWORD}
    (h : o &&& DOKAN_OPTION_ALT_STREAM = DOKAN_OPTION_ALT_STREAM) : ¬ OnlyBatching o := by
  intro hb
  have hsub := subset_iff.mpr hb
  have hbits : DOKAN_OPTION_ALLOW_IPC_BATCHING &&& DOKAN_OPTION_ALT_STREAM = 0#32 := by decide
  rw [← hsub, BitVec.and_assoc, hbits, BitVec.and_zero] at h
  exact absurd h (by decide)

/-- **What the driver gets.**  A stored mount reaches the driver as requested
exactly when it requests no option besides batching.  For a command line no mount
is made, and nothing handed over; what the constructor fills in first would not be
as requested, since a command line always requests alternate streams. -/
theorem mount_honours_iff (context : BitVec 64) :
    (∀ mountlist id info, (mountlist.find? fun i : MountInfo => i.uuid = id) = some info →
      ∃ m, dokanRunner context mountlist id = some m ∧
        m.globals = (mountInfoToGlobal info).1 ∧
        (MountHonours m (mountInfoToGlobal info).2 ↔ OnlyBatching info.options)) ∧
    (∀ behind privilege argv s, wmain behind privilege argv = .ok s →
      s.fileMount context = none ∧
        ¬ MountHonours (FileMount.fill context s.globals s.dokanOptions) s.dokanOptions) := by
  constructor
  · intro mountlist id info hinfo
    refine ⟨FileMount.fill context (mountInfoToGlobal info).1 (mountInfoToGlobal info).2,
      ?_, rfl, mountHonours_fill_iff⟩
    unfold dokanRunner
    rw [hinfo]
    rfl
  · intro behind privilege argv s hs
    refine ⟨rfl, fun hm => ?_⟩
    exact not_onlyBatching_of_altStream (wmain_altStream hs) (mountHonours_fill_iff.mp hm)

/-- A stored mount without options is handed over as requested. -/
theorem mount_honours_plain :
    ∃ m, dokanRunner 1 [{ uuid := 7, singlethreaded := true }] 7 = some m ∧
      MountHonours m (mountInfoToGlobal { uuid := 7, singlethreaded := true }).2 := by
  obtain ⟨m, hm, -, hiff⟩ :=
    (mount_honours_iff 1).1 [{ uuid := 7, singlethreaded := true }] 7 _ (by rfl)
  exact ⟨m, hm, hiff.mpr (by decide)⟩

/-- A stored write-protected mount reaches the driver writable. -/
theorem not_mount_honours :
    ¬ ∀ context mountlist id info m,
      (mountlist.find? fun i : MountInfo => i.uuid = id) = some info →
      dokanRunner context mountlist id = some m → MountHonours m (mountInfoToGlobal info).2 := by
  intro h
  have hm := h 1 [{ uuid := 7, options := DOKAN_OPTION_WRITE_PROTECT }] 7 _ _ (by rfl) (by rfl)
  have hbits := (hm (fun _ => DOKAN_SUCCESS) _ rfl).1
  exact absurd hbits (by decide)

end SeamlessSmb
