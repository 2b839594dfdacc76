import FuseMount.Config
import FuseMount.Run

/-!
# Capability flags of the init handshake

When a file system is mounted, the kernel and the file system agree on a set of capabilities, one
bit of a 32-bit word each. `Config.initFlags` gives the set that a configuration asks for,
`InitFlags.negotiate` what is left of it once the kernel has made its offer.
-/

namespace FuseMount

/-- A set of capability flags. -/
structure InitFlags where
  /-- The word whose bits are the flags. -/
  bits : UInt32
  deriving DecidableEq, Repr

namespace InitFlags

/-- The set without flags. -/
def empty : InitFlags := ⟨0⟩

instance : EmptyCollection InitFlags := ⟨empty⟩

instance : Inhabited InitFlags := ⟨∅⟩

instance : OrOp InitFlags := ⟨fun a b => ⟨a.bits ||| b.bits⟩⟩

instance : AndOp InitFlags := ⟨fun a b => ⟨a.bits &&& b.bits⟩⟩

/-- The set with one flag, given by the place of its bit. -/
def bit (n : UInt32) : InitFlags := ⟨1 <<< n⟩

def asyncRead : InitFlags := bit 0
def atomicTrunc : InitFlags := bit 3
def bigWrites : InitFlags := bit 5
def doReaddirplus : InitFlags := bit 13
def readdirplusAuto : InitFlags := bit 14
def writebackCache : InitFlags := bit 16
def noOpenSupport : InitFlags := bit 17
def parallelDirops : InitFlags := bit 18
def maxPages : InitFlags := bit 22
def cacheSymlinks : InitFlags := bit 23
def noOpendirSupport : InitFlags := bit 24

/-- The greatest number of pages per request, which goes with `maxPages`. -/
def maxPagesValue : Nat := 256

/-- The flags that have a name, from the lowest bit to the highest one. -/
def named : List (InitFlags × String) :=
  [(asyncRead, "async_read"),
    (atomicTrunc, "atomic_o_trunc"),
    (bigWrites, "big_writes"),
    (doReaddirplus, "do_readdirplus"),
    (readdirplusAuto, "readdirplus_auto"),
    (writebackCache, "writeback_cache"),
    (noOpenSupport, "no_open_support"),
    (parallelDirops, "parallel_dirops"),
    (maxPages, "max_pages"),
    (cacheSymlinks, "cache_symlinks"),
    (noOpendirSupport, "no_opendir_support")]

/-- Whether all flags of a second set are in a first one. -/
def contains (flags other : InitFlags) : Bool :=
  flags &&& other == other

/-- Whether no flag is set. -/
def isEmpty (flags : InitFlags) : Bool :=
  flags.bits == 0

/-- The flags of a first set that are not in a second one. -/
def diff (flags other : InitFlags) : InitFlags :=
  ⟨flags.bits &&& ~~~other.bits⟩

/-- The names of the flags that are set and have one. -/
def names (flags : InitFlags) : List String :=
  (named.filter fun f => flags.contains f.1).map Prod.snd

/-- The word in base 16, without leading zeros. -/
def hex (flags : InitFlags) : String :=
  Numeral.hex flags.bits.toNat

/-- The word in base 16 with all its eight digits. -/
def paddedHex (flags : InitFlags) : String :=
  "0x" ++ Numeral.paddedHex 8 flags.bits.toNat

/-- A wrong numeral for a set of flags. -/
structure BadNumeral where
  /-- The text that is no numeral. -/
  text : String
  /-- What is wrong about it. -/
  fault : Numeral.Fault
  deriving DecidableEq, Repr

/-- The wording for a wrong numeral. -/
def BadNumeral.message (e : BadNumeral) : String :=
  "invalid flags " ++ Text.quote e.text ++ ": " ++ e.fault.message

/-- The set whose word a text spells, in base 16 after `0x` and else in base 10. -/
def parse (s : String) : Except BadNumeral InitFlags :=
  let number := match s.toList with
    | '0' :: 'x' :: digits => Numeral.read 16 UInt32.size digits
    | digits => Numeral.read 10 UInt32.size digits
  match number with
  | .ok n => .ok ⟨UInt32.ofNat n⟩
  | .error fault => .error ⟨s, fault⟩

/-! ## Negotiation -/

/-- The event that reports flags which the kernel did not offer. -/
def droppedEvent (dropped : InitFlags) : Event where
  level := .debug
  target := "mountkit_mount::init"
  message := "the kernel did not offer the requested init flags"
  fields := [("dropped", .text (Text.bracketed (dropped.names.map Text.quote)))]

/-- The requested flags that the kernel offers. The others are reported, if there are any. -/
def negotiate (requested offered : InitFlags) : Run InitFlags := do
  let dropped := requested.diff offered
  unless dropped.isEmpty do
    Run.report (droppedEvent dropped)
  return requested &&& offered

end InitFlags

/-! ## The flags of a configuration -/

/-- A set of flags, if it is wanted. -/
def InitFlags.onlyIf (wanted : Bool) (flags : InitFlags) : InitFlags :=
  if wanted then flags else ∅

/-- The flags that a configuration asks for. Big writes and many pages per request are always asked
for; writeback caching is done on Linux alone. -/
def Config.initFlags (config : Config) (platform : Platform) : InitFlags :=
  .bigWrites ||| .maxPages |||
    .onlyIf config.enableAsyncReads .asyncRead |||
    .onlyIf (platform == .linux && !config.disableWritebackCaching) .writebackCache |||
    .onlyIf config.enableSymlinkCaching .cacheSymlinks |||
    .onlyIf config.enableNoOpenSupport .noOpenSupport |||
    .onlyIf config.enableNoOpendirSupport .noOpendirSupport |||
    .onlyIf config.enableParallelDirOps .parallelDirops |||
    .onlyIf config.enableAtomicTrunc .atomicTrunc |||
    .onlyIf config.enableReaddirplus
      (.doReaddirplus ||| .onlyIf config.enableAutoReaddirplus .readdirplusAuto)

end FuseMount
